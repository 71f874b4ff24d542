import SizeRequest.Json.Number
import SizeRequest.Json.Text

namespace SizeRequest.Json

def word : List Char → Reader Unit
  | [], s => .ok ((), s)
  | _ :: _, [] => failAt .endInValue []
  | c :: cs, d :: rest => if c == d then word cs rest else failPast .wordExpected (d :: rest)

def refuse {α : Type} (expected : Expected) (s : List Char) : Except Fault α :=
  let wrong (found : Found) (rest : List Char) : Except Fault α :=
    failData (.wrongType found expected) rest
  match s with
  | 'n' :: rest => (word ['u', 'l', 'l'] rest).bind fun r => wrong .null r.2
  | 't' :: rest => (word ['r', 'u', 'e'] rest).bind fun r => wrong (.boolean true) r.2
  | 'f' :: rest => (word ['a', 'l', 's', 'e'] rest).bind fun r => wrong (.boolean false) r.2
  | '-' :: rest => (number true rest).bind fun r => wrong r.1.found r.2
  | '"' :: rest => (stringBody rest).bind fun r => wrong (.text r.1) r.2
  | '[' :: _ => wrong .sequence s
  | '\x7b' :: _ => wrong .map s
  | c :: _ => if c.isDigit then (number false s).bind fun r => wrong r.1.found r.2
    else failPast .valueExpected s
  | [] => failPast .valueExpected s

def valueFrom {α : Type} (s : List Char) (read : Reader α) : Except Fault (α × List Char) :=
  match skipBlanks s with
  | [] => failPast .endInValue []
  | s => read s

def string : Reader String := fun s =>
  valueFrom s fun
    | '"' :: rest => stringBody rest
    | s => refuse .text s

def signedNumber : Reader Number
  | '-' :: rest => number true rest
  | c :: rest => if c.isDigit then number false (c :: rest) else refuse .number (c :: rest)
  | [] => refuse .number []

def number32 : Reader UInt32 := fun s =>
  valueFrom s fun s =>
    match signedNumber s with
    | .error fault => .error fault
    | .ok (.float x, rest) => failData (.wrongType (Number.float x).found .number) rest
    | .ok (.integer n, rest) =>
      match Found.toNumber n with
      | .error cause => failData cause rest
      | .ok n => .ok (n, rest)

def closeList (rest : List Char) : List Char :=
  match skipBlanks rest with
  | ']' :: rest => rest
  | ',' :: rest => skipBlanks rest
  | rest => rest

def closeObject (rest : List Char) : List Char :=
  match skipBlanks rest with
  | '\x7d' :: rest => rest
  | rest => rest

/-- Places a fault that is not placed yet, where the bracket around it was closed. -/
def Fault.place (close : List Char → List Char) : Fault → Fault
  | .unplaced cause rest => .data cause (Text.byteCount (close rest))
  | fault => fault

def nextElement (first : Bool) (s : List Char) : Except Fault (Option (List Char)) :=
  match skipBlanks s with
  | [] => failPast .endInList []
  | ']' :: _ => .ok none
  | c :: rest =>
    if first then .ok (some (c :: rest))
    else if c == ',' then
      match skipBlanks rest with
      | [] => failPast .endInValue []
      | ']' :: rest => failPast .trailingComma (']' :: rest)
      | rest => .ok (some rest)
    else failPast .listCommaExpected (c :: rest)

def endList (s : List Char) : Except Fault (List Char) :=
  match skipBlanks s with
  | ']' :: rest => .ok rest
  | ',' :: rest =>
    match skipBlanks rest with
    | ']' :: rest => failPast .trailingComma (']' :: rest)
    | rest => failPast .trailingCharacters rest
  | [] => failPast .endInList []
  | rest => failPast .trailingCharacters rest

/-- The elements of a list up to its end; `budget` bounds their number. -/
def elementsWithin {α : Type} (item : Reader α) : (budget : Nat) → Bool → Reader (List α)
  | 0, _, s => failPast .endInList s
  | budget + 1, first, s =>
    match nextElement first s with
    | .error fault => .error fault
    | .ok none => .ok ([], s)
    | .ok (some s) =>
      match item s with
      | .error fault => .error fault
      | .ok (a, rest) =>
        match elementsWithin item budget false rest with
        | .error fault => .error fault
        | .ok (as, rest) => .ok (a :: as, rest)

def list {α : Type} (item : Reader α) : Reader (List α) := fun s =>
  valueFrom s fun
    | '[' :: rest =>
      match elementsWithin item (rest.length + 1) true rest with
      | .error fault => .error (fault.place closeList)
      | .ok (as, rest) =>
        match endList rest with
        | .error fault => .error fault
        | .ok rest => .ok (as, rest)
    | s => refuse .sequence s

/-- Whether another member of an object follows; if so, the text from after the quote that opens
its key. -/
def nextKey (first : Bool) (s : List Char) : Except Fault (Option (List Char)) :=
  match skipBlanks s with
  | [] => failPast .endInObject []
  | '\x7d' :: _ => .ok none
  | c :: rest =>
    if first then
      if c == '"' then .ok (some rest) else failPast .textKeyExpected (c :: rest)
    else if c == ',' then
      match skipBlanks rest with
      | [] => failPast .endInValue []
      | '"' :: rest => .ok (some rest)
      | '\x7d' :: rest => failPast .trailingComma ('\x7d' :: rest)
      | rest => failPast .textKeyExpected rest
    else failPast .objectCommaExpected (c :: rest)

def colon (s : List Char) : Except Fault (List Char) :=
  match skipBlanks s with
  | ':' :: rest => .ok rest
  | [] => failPast .endInObject []
  | rest => failPast .colonExpected rest

def document {α : Type} (read : Reader α) (text : List Char) : Except Fault α :=
  match read text with
  | .error fault => .error fault
  | .ok (a, rest) =>
    match skipBlanks rest with
    | [] => .ok a
    | rest => failPast .trailingCharacters rest

end SizeRequest.Json

import SizeRequest.Toml.Node
import SizeRequest.Toml.Text

namespace SizeRequest.Toml

def skipBlanks (s : List Char) : List Char :=
  match s.dropWhile isBlank with
  | '#' :: rest => rest.dropWhile (!isControl ·)
  | rest => rest

def skipLinesWithin : (budget : Nat) → List Char → List Char
  | 0, s => s
  | budget + 1, s =>
    match afterNewline? (skipBlanks s) with
    | some rest => skipLinesWithin budget rest
    | none => skipBlanks s

def skipLines (s : List Char) : List Char := skipLinesWithin (s.length + 1) s

def isBareKey (c : Char) : Bool := c.isAlphanum || c == '-' || c == '_'

def simpleKey : Reader Key := fun s =>
  let quoted (quote : Char) (rest : List Char) : Except Fault (Key × List Char) :=
    match lineString quote rest with
    | .error fault => .error fault
    | .ok (name, rest) => .ok (⟨name, .between s rest⟩, rest)
  match s with
  | '"' :: rest => quoted '"' rest
  | '\'' :: rest => quoted '\'' rest
  | _ =>
    let rest := s.dropWhile isBareKey
    match s.takeWhile isBareKey with
    | [] => failAt .unexpectedText s
    | name => .ok (⟨String.ofList name, .between s rest⟩, rest)

def moreKeysWithin : (budget : Nat) → Reader (List Key)
  | 0, s => .ok ([], s)
  | budget + 1, s =>
    match s.dropWhile isBlank with
    | '.' :: rest =>
      match simpleKey (rest.dropWhile isBlank) with
      | .error fault => .error fault
      | .ok (key, rest) =>
        match moreKeysWithin budget rest with
        | .error fault => .error fault
        | .ok (keys, rest) => .ok (key :: keys, rest)
    | rest => .ok ([], rest)

def dottedKey : Reader (Place × Key) := fun s =>
  match simpleKey (s.dropWhile isBlank) with
  | .error fault => .error fault
  | .ok (key, rest) =>
    match moreKeysWithin (rest.length + 1) rest with
    | .error fault => .error fault
    | .ok (keys, rest) => .ok (((key :: keys).dropLast, (key :: keys).getLast (by simp)), rest)

def member (value : Reader (Span × Node)) : Reader (Place × Key × Span × Node) := fun s =>
  match dottedKey s with
  | .error fault => .error fault
  | .ok ((place, key), '=' :: rest) =>
    match value (rest.dropWhile isBlank) with
    | .error fault => .error fault
    | .ok (v, rest) => .ok ((place, key, v), rest)
  | .ok (_, rest) => failAt .unexpectedText rest

/-- Reads what follows an element between brackets: whether there is a comma, up to the next
element or the closing bracket. -/
def separator (close : Char) : Reader Unit := fun s =>
  match skipLines s with
  | ',' :: rest => .ok ((), skipLines rest)
  | c :: rest => if c == close then .ok ((), c :: rest) else failAt .unexpectedText (c :: rest)
  | [] => failAt .unexpectedText []

/-- The elements of an array up to its end; `budget` bounds their number. -/
def itemsWithin (value : Reader (Span × Node)) : (budget : Nat) → Reader (List (Span × Node))
  | 0, s => failAt .unexpectedText s
  | _ + 1, ']' :: rest => .ok ([], rest)
  | budget + 1, s =>
    match value s with
    | .error fault => .error fault
    | .ok (item, rest) =>
      match separator ']' rest with
      | .error fault => .error fault
      | .ok (_, rest) =>
        match itemsWithin value budget rest with
        | .error fault => .error fault
        | .ok (items, rest) => .ok (item :: items, rest)

def membersWithin (value : Reader (Span × Node)) : (budget : Nat) → Members → Reader Members
  | 0, _, s => failAt .unexpectedText s
  | _ + 1, members, '\x7d' :: rest => .ok (members, rest)
  | budget + 1, members, s =>
    match member value s with
    | .error fault => .error fault
    | .ok ((place, key, v), rest) =>
      match separator '\x7d' rest with
      | .error fault => .error fault
      | .ok (_, rest) =>
        match members.insert place key v .braces with
        | .error fault => .error fault
        | .ok members => membersWithin value budget members rest

def signs : List Char := ['#', ',', '=', '[', ']', '\x7b', '\x7d', '"', '\'']

def isBareValue (c : Char) : Bool := !isBlank c && !isControl c && !signs.contains c

/-- The end of a value without quotes. One blank may stand between a date and a time. -/
def afterBareValue (s : List Char) : List Char :=
  match s.dropWhile isBareValue with
  | ' ' :: c :: rest =>
    if c.isDigit && afterDate? (s.takeWhile isBareValue) == some [] then
      (c :: rest).dropWhile isBareValue
    else ' ' :: c :: rest
  | rest => rest

def bareValue : Reader Scalar := fun s =>
  let rest := afterBareValue s
  match Scalar.ofText? (s.take (s.length - rest.length)) with
  | some value => .ok (value, rest)
  | none => failAt .invalidScalar s

def placed (s : List Char) (read : Except Fault (Node × List Char)) :
    Except Fault ((Span × Node) × List Char) :=
  match read with
  | .error fault => .error fault
  | .ok (node, rest) => .ok ((.between s rest, node), rest)

def value : (depth : Nat) → Reader (Span × Node)
  | _, '"' :: rest =>
    placed ('"' :: rest) ((string '"' rest).map fun r => (.scalar (.text r.1), r.2))
  | _, '\'' :: rest =>
    placed ('\'' :: rest) ((string '\'' rest).map fun r => (.scalar (.text r.1), r.2))
  | 0, '[' :: rest => failAt .tooDeep rest
  | 0, '\x7b' :: rest => failAt .tooDeep rest
  | depth + 1, '[' :: rest =>
    placed ('[' :: rest)
      ((itemsWithin (value depth) (rest.length + 1) (skipLines rest)).map fun r =>
        (.array r.1 false, r.2))
  | depth + 1, '\x7b' :: rest =>
    placed ('\x7b' :: rest)
      ((membersWithin (value depth) (rest.length + 1) [] (skipLines rest)).map fun r =>
        (.table .braces r.1, r.2))
  | _, s => placed s ((bareValue s).map fun r => (.scalar r.1, r.2))

def deepest : Nat := 80

end SizeRequest.Toml

import SizeRequest.Decimal
import SizeRequest.DeviceSpec.DataFault

namespace SizeRequest.Toml

inductive Scalar
  | text (s : String)
  | boolean (b : Bool)
  | integer (n : Int)
  | float (x : Float)
  | tooLargeFloat
  | moment

namespace Scalar

def found : Scalar → Except DataFault Found
  | text s => .ok (.text s)
  | boolean b => .ok (.boolean b)
  | integer n =>
    if -wordCount 63 ≤ n && n < wordCount 64 then .ok (.integer n)
    else if -wordCount 127 ≤ n && n < wordCount 127 then .ok (.wideInteger n)
    else if 0 ≤ n && n < wordCount 128 then .ok (.widestInteger n.toNat)
    else .error .integerTooLarge
  | float x => .ok (.float (Decimal.render (fun _ => true) x))
  | tooLargeFloat => .error .floatTooLarge
  | moment => .ok .map

end Scalar

/-- Digits of a base with single underscores between some of them; the underscores are dropped. -/
def digits? (base : Nat) : List Char → Option (List Char)
  | [] => none
  | [c] => if Text.isDigitOf base c then some [c] else none
  | c :: '_' :: rest =>
    if Text.isDigitOf base c then (digits? base rest).map (c :: ·) else none
  | c :: rest => if Text.isDigitOf base c then (digits? base rest).map (c :: ·) else none

def decimal? (s : List Char) : Option (List Char) :=
  match digits? 10 s with
  | some ('0' :: _ :: _) => none
  | digits => digits

def signed (s : List Char) : Bool × List Char :=
  match s with
  | '-' :: rest => (true, rest)
  | '+' :: rest => (false, rest)
  | _ => (false, s)

def integer? (s : List Char) : Option Int :=
  match s with
  | '0' :: 'x' :: rest => (digits? 16 rest).map fun digits => Text.ofDigits 16 digits
  | '0' :: 'o' :: rest => (digits? 8 rest).map fun digits => Text.ofDigits 8 digits
  | '0' :: 'b' :: rest => (digits? 2 rest).map fun digits => Text.ofDigits 2 digits
  | _ =>
    let (negative, rest) := signed s
    (decimal? rest).map fun digits =>
      let n : Int := Text.ofDigits 10 digits
      if negative then -n else n

def inRun (c : Char) : Bool := c.isDigit || c == '_'

/-- The fraction of a number, which is not empty, and what follows it. Without a point there is
none. -/
def fraction? (s : List Char) : Option (List Char × List Char) :=
  match s with
  | '.' :: rest => (digits? 10 (rest.takeWhile inRun)).map fun ds => (ds, rest.dropWhile inRun)
  | _ => some ([], s)

def exponent? (s : List Char) : Option Int :=
  match s with
  | [] => some 0
  | e :: rest =>
    if e != 'e' && e != 'E' then none
    else
      let (negative, rest) := signed rest
      (digits? 10 rest).map fun digits =>
        let n : Int := Text.ofDigits 10 digits
        if negative then -n else n

def written? (s : List Char) : Option Decimal.Written :=
  match decimal? (s.takeWhile inRun), fraction? (s.dropWhile inRun) with
  | some whole, some (fraction, rest) =>
    if fraction.isEmpty && rest.isEmpty then none
    else (exponent? rest).map fun exponent => ⟨whole, fraction, exponent⟩
  | _, _ => none

def float? (s : List Char) : Option Scalar :=
  let (negative, rest) := signed s
  let magnitude : Option Scalar :=
    if rest == ['i', 'n', 'f'] then some (.float (1.0 / 0.0))
    else if rest == ['n', 'a', 'n'] then some (.float (0.0 / 0.0))
    else (written? rest).map fun w => if w.toFloat.isInf then .tooLargeFloat else .float w.toFloat
  match magnitude with
  | some (.float x) => some (.float (if negative then -x else x))
  | other => other

def twoDigits? (most : Nat) : List Char → Option (Nat × List Char)
  | a :: b :: rest =>
    match Text.ofDigits? 10 [a, b] with
    | some n => if n ≤ most then some (n, rest) else none
    | none => none
  | _ => none

def daysIn (year month : Nat) : Nat :=
  if month == 2 then
    if year % 4 == 0 && (year % 100 != 0 || year % 400 == 0) then 29 else 28
  else if [4, 6, 9, 11].contains month then 30
  else 31

def afterDate? (s : List Char) : Option (List Char) :=
  match Text.ofDigits? 10 (s.take 4), s.drop 4 with
  | some year, '-' :: rest =>
    match twoDigits? 12 rest with
    | some (month, '-' :: rest) =>
      match twoDigits? (daysIn year month) rest with
      | some (day, rest) => if month == 0 || day == 0 then none else some rest
      | none => none
    | _ => none
  | _, _ => none

def afterSecondFraction? (s : List Char) : Option (List Char) :=
  match s with
  | '.' :: rest => if (rest.takeWhile Char.isDigit).isEmpty then none
    else some (rest.dropWhile Char.isDigit)
  | _ => some s

def afterTime? (s : List Char) : Option (List Char) :=
  match twoDigits? 23 s with
  | some (_, ':' :: rest) =>
    match twoDigits? 59 rest with
    | some (_, ':' :: rest) =>
      match twoDigits? 60 rest with
      | some (_, rest) => afterSecondFraction? rest
      | none => none
    | some (_, rest) => some rest
    | none => none
  | _ => none

/-- Whether a text is an offset from universal time, or nothing. -/
def isOffset (s : List Char) : Bool :=
  match s with
  | [] => true
  | ['Z'] => true
  | ['z'] => true
  | sign :: rest =>
    (sign == '+' || sign == '-') &&
      match twoDigits? 23 rest with
      | some (_, ':' :: rest) =>
        match twoDigits? 59 rest with
        | some (_, rest) => rest.isEmpty
        | none => false
      | _ => false

def isMoment (s : List Char) : Bool :=
  match afterDate? s with
  | some [] => true
  | some (separator :: rest) =>
    (separator == 'T' || separator == 't' || separator == ' ') &&
      match afterTime? rest with
      | some rest => isOffset rest
      | none => false
  | none => afterTime? s == some []

namespace Scalar

def ofText? (s : List Char) : Option Scalar :=
  if s == ['t', 'r', 'u', 'e'] then some (boolean true)
  else if s == ['f', 'a', 'l', 's', 'e'] then some (boolean false)
  else
    match integer? s with
    | some n => some (integer n)
    | none => if isMoment s then some moment else float? s

end Scalar

end SizeRequest.Toml

import SizeRequest.Decimal
import SizeRequest.Yaml.Event

namespace SizeRequest.Yaml

def withoutSign (s : List Char) : List Char :=
  match s with
  | '+' :: rest => rest
  | '-' :: rest => rest
  | _ => s

/-- Whether a text is digits with a needless zero in front, which make no number. -/
def isPaddedDigits (s : List Char) : Bool :=
  match withoutSign s with
  | '0' :: d :: rest => (d :: rest).all Char.isDigit
  | _ => false

def magnitude? (s : List Char) : Option Nat :=
  match s with
  | '0' :: 'x' :: rest => Text.ofDigits? 16 rest
  | '0' :: 'o' :: rest => Text.ofDigits? 8 rest
  | '0' :: 'b' :: rest => Text.ofDigits? 2 rest
  | _ => if isPaddedDigits s then none else Text.ofDigits? 10 s

def integer? (s : List Char) : Option Int :=
  match s with
  | '-' :: rest => (magnitude? rest).map fun n => -(n : Int)
  | '+' :: rest => (magnitude? rest).map fun n => (n : Int)
  | _ => (magnitude? s).map fun n => (n : Int)

def unsigned? (s : List Char) : Option Nat :=
  match s with
  | '-' :: _ => none
  | _ =>
    match integer? s with
    | some n => if n < wordCount 64 then some n.toNat else none
    | none => none

/-- An integer as what was found; some are too large for anything to hold them. -/
def integerFound? (n : Int) : Option Found :=
  if -wordCount 63 ≤ n && n < wordCount 64 then some (.integer n)
  else if 0 ≤ n then if n < wordCount 128 then some (.widestInteger n.toNat) else none
  else if -wordCount 127 ≤ n then some (.wideInteger n)
  else none

def exponent? (s : List Char) : Option Int :=
  match s with
  | [] => some 0
  | e :: rest =>
    if e != 'e' && e != 'E' then none
    else
      (Text.ofDigits? 10 (withoutSign rest)).map fun n =>
        if rest.head? == some '-' then -(n : Int) else n

def written? (s : List Char) : Option Decimal.Written :=
  let whole := s.takeWhile Char.isDigit
  let (fraction, rest) := match s.dropWhile Char.isDigit with
    | '.' :: rest => (rest.takeWhile Char.isDigit, rest.dropWhile Char.isDigit)
    | rest => ([], rest)
  if whole.isEmpty && fraction.isEmpty then none
  else (exponent? rest).map fun exponent => ⟨whole, fraction, exponent⟩

def infinities : List (List Char) := [".inf".toList, ".Inf".toList, ".INF".toList]

def notNumbers : List (List Char) := [".nan".toList, ".NaN".toList, ".NAN".toList]

def float? (s : List Char) : Option Float :=
  let isNegative := s.head? == some '-'
  if infinities.contains (withoutSign s) then some (if isNegative then -1.0 / 0.0 else 1.0 / 0.0)
  else if notNumbers.contains s then some (0.0 / 0.0)
  else
    match written? (withoutSign s) with
    | some w =>
      let x := w.toFloat
      if x.isFinite then some (if isNegative then -x else x) else none
    | none => none

def boolean? (s : String) : Option Bool :=
  if ["true", "True", "TRUE"].contains s then some true
  else if ["false", "False", "FALSE"].contains s then some false
  else none

def isNull (s : String) : Bool := ["null", "Null", "NULL", "~"].contains s

def floatFound (x : Float) : Found := .float (Decimal.render (fun _ => true) x)

def integerIn? (s : String) : Option Found := (integer? s.toList).bind integerFound?

def plainFound (s : String) : Found :=
  if s.isEmpty || isNull s then .unit
  else
    match boolean? s, integerIn? s with
    | some b, _ => .boolean b
    | none, some found => found
    | none, none =>
      if isPaddedDigits s.toList then .text s
      else
        match float? s.toList with
        | some x => floatFound x
        | none => .text s

def standardTag (kind : String) : String := "tag:yaml.org,2002:" ++ kind

namespace Scalar

def isOmitted (s : Scalar) : Bool := s.text.isEmpty && s.style == .plain

/-- What a scalar stands for by its tag, or by its text if it is plain. -/
def found (s : Scalar) : Except DataFault Found :=
  let orElse (found? : Option Found) (expected : Expected) : Except DataFault Found :=
    match found? with
    | some found => .ok found
    | none => .error (.wrongValue (.text s.text) expected)
  match s.tag with
  | none => .ok (if s.style == .plain then plainFound s.text else .text s.text)
  | some tag =>
    if tag == standardTag "bool" then orElse ((boolean? s.text).map .boolean) .boolean
    else if tag == standardTag "int" then orElse (integerIn? s.text) .integer
    else if tag == standardTag "float" then orElse ((float? s.text.toList).map floatFound) .float
    else if tag == standardTag "null" then orElse (if isNull s.text then some .unit else none) .null
    else if tag.toList.head? == some '!' && s.style == .plain then .ok (plainFound s.text)
    else .ok (.text s.text)

/-- The number of at most 64 bits that a scalar writes. It has to be plain, or tagged as an
integer and literal. -/
def number? (s : Scalar) : Option Nat :=
  if s.style == .plain || (s.style == .literal && s.tag == some (standardTag "int")) then
    unsigned? s.text.toList
  else none

end Scalar

end SizeRequest.Yaml

import SizeRequest.Decimal
import SizeRequest.Json.Fault

namespace SizeRequest.Json

/-- A number of a document. An integer of at most 64 bits is kept as it is, and any other number
becomes a float. -/
inductive Number
  | integer (n : Int)
  | float (x : Float)

def withPoint (exponent : Int) : Bool := -5 ≤ exponent && exponent < 16

namespace Number

def found : Number → Found
  | integer n => .integer n
  | float x => .float (Decimal.render withPoint x)

end Number

def spanDigits (s : List Char) : List Nat × List Char :=
  ((s.takeWhile Char.isDigit).map (·.toNat - 48), s.dropWhile Char.isDigit)

/-- Takes digits into a significand for as long as it stays below 2^64; the others are left. -/
def takeDigits (significand : Nat) : List Nat → Nat × Nat × List Nat
  | [] => (significand, 0, [])
  | d :: rest =>
    if significand * 10 + d < wordCount 64 then
      let (n, taken, left) := takeDigits (significand * 10 + d) rest
      (n, taken + 1, left)
    else (significand, 0, d :: rest)

def powerOfTen (n : Nat) : Float := Float.ofScientific 1 false n

/-- The float `x` times a power of ten, computed step by step; none if it is too large. -/
def scaleFloat : (tries : Nat) → Float → Int → Option Float
  | 0, x, _ => some x
  | tries + 1, x, exponent =>
    if exponent.natAbs ≤ 308 then
      if 0 ≤ exponent then
        let y := x * powerOfTen exponent.natAbs
        if y.isInf then none else some y
      else some (x / powerOfTen exponent.natAbs)
    else if x == 0 then some x
    else if 0 ≤ exponent then none
    else scaleFloat tries (x / powerOfTen 308) (exponent + 308)

def floatOf (negative : Bool) (significand : Nat) (exponent : Int) : Reader Number := fun rest =>
  match scaleFloat 64 significand.toUInt64.toFloat exponent with
  | none => failAt .numberOutOfRange rest
  | some x => .ok (.float (if negative then -x else x), rest)

def largestExponent : Nat := wordCount 31 - 1

def exponentDigits (negative : Bool) (significand : Nat) (start : Int) (up : Bool) (value : Nat) :
    Reader Number
  | c :: rest =>
    if c.isDigit then
      let next := value * 10 + (c.toNat - 48)
      if largestExponent < next then
        if significand != 0 && up then failAt .numberOutOfRange rest
        else .ok (.float (if negative then -0.0 else 0.0), rest.dropWhile Char.isDigit)
      else exponentDigits negative significand start up next rest
    else
      let exponent := if up then start + value else start - value
      floatOf negative significand exponent (c :: rest)
  | [] => floatOf negative significand (if up then start + value else start - value) []

def exponentPart (negative : Bool) (significand : Nat) (start : Int) : Reader Number := fun s =>
  let (up, s) := match s with
    | '+' :: rest => (true, rest)
    | '-' :: rest => (false, rest)
    | s => (true, s)
  match s with
  | [] => failAt .endInValue []
  | c :: rest =>
    if c.isDigit then exponentDigits negative significand start up (c.toNat - 48) rest
    else failPast .invalidNumber (c :: rest)

def afterDigits (negative : Bool) (significand : Nat) (exponent : Int) : Reader Number
  | 'e' :: rest => exponentPart negative significand exponent rest
  | 'E' :: rest => exponentPart negative significand exponent rest
  | rest => floatOf negative significand exponent rest

/-- A fraction, read from after the point. Digits that the significand has no room for count only
as digits. -/
def fractionPart (negative : Bool) (significand : Nat) (exponent : Int) : Reader Number := fun s =>
  let (digits, rest) := spanDigits s
  let (significand, taken, left) := takeDigits significand digits
  if taken == 0 && left.isEmpty then
    match rest with
    | [] => failAt .endInValue []
    | _ => failPast .invalidNumber rest
  else afterDigits negative significand (exponent - taken) rest

def afterInteger (negative : Bool) (significand : Nat) : Reader Number
  | '.' :: rest => fractionPart negative significand 0 rest
  | 'e' :: rest => exponentPart negative significand 0 rest
  | 'E' :: rest => exponentPart negative significand 0 rest
  | rest =>
    if !negative then .ok (.integer significand, rest)
    else if significand == 0 || wordCount 63 < significand then
      .ok (.float (-significand.toUInt64.toFloat), rest)
    else .ok (.integer (-significand), rest)

def number (negative : Bool) : Reader Number
  | [] => failAt .endInValue []
  | '0' :: rest =>
    match rest with
    | d :: _ => if d.isDigit then failPast .invalidNumber rest else afterInteger negative 0 rest
    | [] => afterInteger negative 0 []
  | c :: rest =>
    if !c.isDigit then failPast .invalidNumber (c :: rest)
    else
      let (digits, rest) := spanDigits (c :: rest)
      let (significand, _, left) := takeDigits 0 digits
      if left.isEmpty then afterInteger negative significand rest
      else
        match rest with
        | '.' :: rest => fractionPart negative significand left.length rest
        | rest => afterDigits negative significand left.length rest

end SizeRequest.Json

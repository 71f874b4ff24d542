import SizeRequest.Text.Digit

namespace SizeRequest

/-- The number of words of some bits, which is the first number that needs one more. -/
def wordCount (bits : Nat) : Nat := Nat.pow 2 bits

namespace Decimal

/-- The float nearest to `digits * 10 ^ exponent`. Numbers beyond 10^310 are infinite and numbers
below 10^-330 are zero, whatever their digits. -/
def nearest (digits : Nat) (exponent : Int) : Float :=
  let magnitude : Int := (Nat.toDigits 10 digits).length + exponent
  if digits == 0 || magnitude < -330 then 0.0
  else if 310 < magnitude then 1.0 / 0.0
  else
    match exponent with
    | .ofNat e => Float.ofScientific digits false e
    | .negSucc e => Float.ofScientific digits true (e + 1)

/-- A number taken apart as it is written: the digits on either side of the point, and the
exponent. -/
structure Written where
  whole : List Char
  fraction : List Char
  exponent : Int

def Written.toFloat (w : Written) : Float :=
  nearest (Text.ofDigits 10 (w.whole ++ w.fraction)) (w.exponent - w.fraction.length)

structure Digits where
  digits : List Char
  exponent : Int

def digitCount (n : Nat) : Nat := (Nat.toDigits 10 n).length

def leadingExponent (num den : Nat) : Int :=
  if den ≤ num then digitCount (num / den) - 1
  else
    let ratio := (den + num - 1) / num
    if ratio ≤ 1 then 0 else -(digitCount (ratio - 1) : Int)

def scale (num den : Nat) (power : Int) : Nat × Nat :=
  match power with
  | .ofNat p => (num * Nat.pow 10 p, den)
  | .negSucc p => (num, den * Nat.pow 10 (p + 1))

def dropZeros (digits : List Char) : List Char :=
  match (digits.reverse.dropWhile (· == '0')).reverse with
  | [] => ['0']
  | kept => kept

/-- The multiples of a power of ten next to `value / den`: the nearest of those that lie between
`low / den` and `high / den`. -/
def nearestWithin (value low high den : Nat) (closed : Bool) (unit : Int) : Option Nat :=
  let (v, d) := scale value den (-unit)
  let (lo, _) := scale low den (-unit)
  let (hi, _) := scale high den (-unit)
  let inside (n : Nat) : Bool :=
    if closed then lo ≤ n * d && n * d ≤ hi else lo < n * d && n * d < hi
  let floor := v / d
  match inside floor, inside (floor + 1) with
  | true, true =>
    let below := v - floor * d
    let above := (floor + 1) * d - v
    if below < above || (below == above && floor % 2 == 0) then some floor else some (floor + 1)
  | true, false => some floor
  | false, true => some (floor + 1)
  | false, false => none

def search (value low high den : Nat) (closed : Bool) (leading : Int) :
    (count tries : Nat) → Digits
  | count, 0 => ⟨['0'], count⟩
  | count, tries + 1 =>
    let unit := leading - count + 1
    match nearestWithin value low high den closed unit with
    | some n =>
      let digits := Nat.toDigits 10 n
      ⟨dropZeros digits, unit + digits.length - 1⟩
    | none => search value low high den closed leading (count + 1) tries

/-- The shortest digits of the positive number `m * 2 ^ q`. A number reads back as it when it lies
within half of the distance to its neighbours, ends included for an even `m`. -/
def shortest (m : Nat) (q : Int) : Digits :=
  let high := 4 * m + 2
  let low := if m == wordCount 52 && q != -1074 then 4 * m - 1 else 4 * m - 2
  let up := Nat.pow 2 (q - 2).toNat
  let den := Nat.pow 2 (2 - q).toNat
  search (4 * m * up) (low * up) (high * up) den (m % 2 == 0)
    (leadingExponent (4 * m * up) den) 1 20

inductive Parts
  | nan
  | infinite (negative : Bool)
  | finite (negative : Bool) (digits : Digits)

def parts (x : Float) : Parts :=
  let bits : Nat := x.toBits.toNat
  let negative := bits / wordCount 63 == 1
  let exponent : Nat := bits / wordCount 52 % wordCount 11
  let fraction : Nat := bits % wordCount 52
  if exponent == 2047 then if fraction == 0 then .infinite negative else .nan
  else if exponent == 0 then
    .finite negative (if fraction == 0 then ⟨['0'], 0⟩ else shortest fraction (-1074))
  else .finite negative (shortest (fraction + wordCount 52) (exponent - 1075))

def positional (d : Digits) : List Char :=
  match d.exponent with
  | .ofNat e =>
    let padded := d.digits ++ List.replicate (e + 1 - d.digits.length) '0'
    let after := padded.drop (e + 1)
    padded.take (e + 1) ++ ['.'] ++ (if after.isEmpty then ['0'] else after)
  | .negSucc e => ['0', '.'] ++ List.replicate e '0' ++ d.digits

def scientific (d : Digits) : List Char :=
  let mantissa := match d.digits with
    | first :: second :: rest => first :: '.' :: second :: rest
    | digits => digits
  let size := Nat.toDigits 10 d.exponent.natAbs
  mantissa ++ ['e', if d.exponent < 0 then '-' else '+']
    ++ List.replicate (2 - size.length) '0' ++ size

def render (withPoint : Int → Bool) (x : Float) : String :=
  match parts x with
  | .nan => "NaN"
  | .infinite negative => if negative then "-inf" else "inf"
  | .finite negative d =>
    let digits := if withPoint d.exponent then positional d else scientific d
    String.ofList (if negative then '-' :: digits else digits)

end Decimal

end SizeRequest

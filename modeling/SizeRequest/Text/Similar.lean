namespace SizeRequest.Text

def findFree (c : Char) (from_ upTo : Nat) : Nat → List (Char × Bool) → Option Nat
  | _, [] => none
  | j, (d, taken) :: rest =>
    if upTo ≤ j then none
    else if from_ ≤ j && c == d && !taken then some j
    else findFree c from_ upTo (j + 1) rest

/-- Marks the characters of two texts that match: equal ones not further apart than `range`. -/
def matchCharacters (range : Nat) :
    Nat → List Char → List (Char × Bool) → List (Char × Bool) × List (Char × Bool)
  | _, [], b => ([], b)
  | i, c :: rest, b =>
    match findFree c (i - range) (i + range + 1) 0 b with
    | none =>
      let (marked, b) := matchCharacters range (i + 1) rest b
      ((c, false) :: marked, b)
    | some j =>
      let (marked, b) := matchCharacters range (i + 1) rest (b.set j (c, true))
      ((c, true) :: marked, b)

/-- The likeness of two words by the measure of Jaro, from 0 to 1: the part of either that matches
the other, and the part of the matches that stand in the same order. -/
def likeness (a b : List Char) : Float :=
  if a.isEmpty && b.isEmpty then 1
  else if a.isEmpty || b.isEmpty then 0
  else
    let range := max a.length b.length / 2 - 1
    let (markedA, markedB) := matchCharacters range 0 a (b.map (·, false))
    let inA := (markedA.filter (·.2)).map (·.1)
    let inB := (markedB.filter (·.2)).map (·.1)
    let count := inA.length
    if count == 0 then 0
    else
      let displaced := ((inA.zip inB).filter fun (c, d) => c != d).length / 2
      (count.toFloat / a.length.toFloat + count.toFloat / b.length.toFloat
        + (count - displaced).toFloat / count.toFloat) / 3

def insertByLikeness (entry : Float × String) : List (Float × String) → List (Float × String)
  | [] => [entry]
  | other :: rest =>
    if other.1 > entry.1 then entry :: other :: rest else other :: insertByLikeness entry rest

def similar (word : String) (words : List String) : List String :=
  let rated := words.map fun w => (likeness word.toList w.toList, w)
  ((rated.filter (·.1 > 0.7)).foldl (fun found entry => insertByLikeness entry found) []).map (·.2)

end SizeRequest.Text

import SizeRequest.Yaml.Event

namespace SizeRequest.Yaml

inductive Part
  | alias (anchor : Nat)
  | scalar (s : Scalar)
  | sequenceStart
  | sequenceEnd
  | mappingStart
  | mappingEnd
  | nothing
deriving DecidableEq

abbrev Parts := List (Part × Point)

/-- A document: its parts, the index among them of what each anchor names, the fault that cuts it
short, if there is one, and whether no other document follows. -/
structure Document where
  parts : Parts := []
  anchored : List (Nat × Nat) := []
  fault : Option Fault := none
  isLast : Bool := true

namespace Document

def addName (names : List (String × Nat)) (name : String) : List (String × Nat) :=
  (name, names.length) :: names.filter (·.1 != name)

/-- The document from some events on. `names` holds the anchors so far with their numbers, and
`index` is the number of parts so far. -/
def loadFrom (fault : Option Fault) :
    (events : List Event) → (names : List (String × Nat)) → (index : Nat) → Document
  | [], _, _ => { fault := some (fault.getD (.malformed .contentExpected {})) }
  | e :: rest, names, index =>
    let add (part : Part) (anchor : Option String) : Document :=
      match anchor with
      | none =>
        let d := loadFrom fault rest names (index + 1)
        { d with parts := (part, e.point) :: d.parts }
      | some name =>
        let d := loadFrom fault rest (addName names name) (index + 1)
        { d with
          parts := (part, e.point) :: d.parts
          anchored := d.anchored ++ [(names.length, index)] }
    match e.happening with
    | .documentStart => loadFrom fault rest names index
    | .documentEnd => { isLast := (rest.head?.map (·.happening)) == some .streamEnd }
    | .streamEnd => { parts := if index == 0 then [(.nothing, e.point)] else [] }
    | .alias name =>
      match names.lookup name with
      | none => { fault := some (.unknownAnchor e.point) }
      | some number => add (.alias number) none
    | .scalar anchor s => add (.scalar s) anchor
    | .sequenceStart anchor => add .sequenceStart anchor
    | .sequenceEnd => add .sequenceEnd none
    | .mappingStart anchor => add .mappingStart anchor
    | .mappingEnd => add .mappingEnd none

def first (text : List Char) : Document :=
  let (events, fault) := events text
  loadFrom fault events [] 0

def resolve (d : Document) (parts : Parts) : Parts :=
  match parts with
  | (.alias number, _) :: _ =>
    match d.anchored.lookup number with
    | some index => d.parts.drop index
    | none => []
  | parts => parts

def cut (d : Document) : Fault := d.fault.getD (.malformed .contentExpected {})

end Document

end SizeRequest.Yaml

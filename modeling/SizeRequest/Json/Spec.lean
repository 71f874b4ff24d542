import SizeRequest.Json.Reader

namespace SizeRequest.Json

def fieldValue (spec : DeviceSpec) (field : Field) : Reader DeviceSpec := fun s =>
  match field with
  | .list field =>
    match list string s with
    | .error fault => .error fault
    | .ok (texts, rest) => .ok (spec.setList texts field, rest)
  | .number field =>
    match number32 s with
    | .error fault => .error fault
    | .ok (n, rest) => .ok (spec.setNumber n field, rest)

def fieldKey (seen : List Field) : Reader Field := fun s =>
  match stringBody s with
  | .error fault => .error fault
  | .ok (key, rest) =>
    match Field.ofKey? key with
    | none => .error (.unplaced (.unknownField key) rest)
    | some field =>
      if seen.contains field then .error (.unplaced (.duplicateField field) rest)
      else .ok (field, rest)

def membersWithin : (budget : Nat) → Bool → List Field → DeviceSpec → Reader DeviceSpec
  | 0, _, _, _, s => failPast .endInObject s
  | budget + 1, first, seen, spec, s =>
    match nextKey first s with
    | .error fault => .error fault
    | .ok none => .ok (spec, s)
    | .ok (some s) =>
      match fieldKey seen s with
      | .error fault => .error fault
      | .ok (field, rest) =>
        match colon rest with
        | .error fault => .error fault
        | .ok rest =>
          match fieldValue spec field rest with
          | .error fault => .error fault
          | .ok (spec, rest) => membersWithin budget false (field :: seen) spec rest

def positional : List Field → Bool → DeviceSpec → Reader DeviceSpec
  | [], _, spec, s => .ok (spec, s)
  | field :: fields, first, spec, s =>
    match nextElement first s with
    | .error fault => .error fault
    | .ok none => .ok (spec, s)
    | .ok (some s) =>
      match fieldValue spec field s with
      | .error fault => .error fault
      | .ok (spec, rest) => positional fields false spec rest

/-- A spec is an object whose keys are fields, or a list of the first few fields in the order of
their declaration. -/
def spec : Reader DeviceSpec := fun s =>
  valueFrom s fun
    | '\x7b' :: rest =>
      match membersWithin (rest.length + 1) true [] {} rest with
      | .error fault => .error (fault.place closeObject)
      | .ok (spec, rest) => .ok (spec, closeObject rest)
    | '[' :: rest =>
      match positional Field.values true {} rest with
      | .error fault => .error (fault.place closeList)
      | .ok (spec, rest) =>
        match endList rest with
        | .error fault => .error fault
        | .ok rest => .ok (spec, rest)
    | s => refuse .spec s

def readSpec (text : String) : Except Fault DeviceSpec := document spec text.toList

def dimension : Reader Dimension := fun s =>
  match string s with
  | .error fault => .error fault
  | .ok (name, rest) =>
    match Dimension.ofName? name with
    | none => .error (.unplaced (.unknownDimension name) rest)
    | some d => .ok (d, rest)

def readDimensions (text : String) : Except Fault (List Dimension) :=
  document (list dimension) text.toList

end SizeRequest.Json

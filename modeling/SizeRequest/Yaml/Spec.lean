import SizeRequest.Yaml.Document
import SizeRequest.Yaml.Scalar

namespace SizeRequest.Yaml

namespace Document

def refuse {α : Type} (d : Document) (expected : Expected) (path : Path) (part : Part × Point) :
    Except Fault α :=
  let wrong (found : Found) : Except Fault α :=
    .error (.data (.wrongType found expected) path part.2)
  match part.1 with
  | .scalar s =>
    match s.found with
    | .ok found => wrong found
    | .error cause => .error (.data cause path part.2)
  | .sequenceStart => wrong .sequence
  | .mappingStart => wrong .map
  | _ => .error d.cut

def text (d : Document) (expected : Expected) (path : Path) (parts : Parts) :
    Except Fault (String × Point) :=
  match d.resolve parts with
  | (.scalar s, point) :: _ => .ok (s.text, point)
  | part :: _ => d.refuse expected path part
  | [] => .error d.cut

def textsFrom (d : Document) (key : Option String) : (parts : Parts) → (index : Nat) →
    Except Fault (List String × Parts)
  | [], _ => .error d.cut
  | (.sequenceEnd, _) :: rest, _ => .ok ([], rest)
  | part :: rest, index =>
    match d.text .text (.item key index) (part :: rest) with
    | .error fault => .error fault
    | .ok (text, _) =>
      match textsFrom d key rest (index + 1) with
      | .error fault => .error fault
      | .ok (texts, rest) => .ok (text :: texts, rest)

def startsWithAlias (parts : Parts) : Bool :=
  match parts with
  | (.alias _, _) :: _ => true
  | _ => false

/-- The texts of the sequence that some parts start with, and the parts behind it. A value that is
left out counts as an empty sequence. -/
def texts (d : Document) (key : Option String) (parts : Parts) :
    Except Fault (List String × Parts) :=
  match d.resolve parts with
  | (.sequenceStart, _) :: inside =>
    match d.textsFrom key inside 0 with
    | .error fault => .error fault
    | .ok (texts, behind) =>
      .ok (texts, if startsWithAlias parts then parts.drop 1 else behind)
  | (.scalar s, point) :: _ =>
    if s.isOmitted then .ok ([], parts.drop 1)
    else d.refuse .sequence (.member key) (.scalar s, point)
  | part :: _ => d.refuse .sequence (.member key) part
  | [] => .error d.cut

def number (d : Document) (key : Option String) (parts : Parts) :
    Except Fault (UInt32 × Parts) :=
  match d.resolve parts with
  | (.scalar s, point) :: _ =>
    match s.number? with
    | none => d.refuse .number (.member key) (.scalar s, point)
    | some n =>
      match Found.toNumber n with
      | .ok n => .ok (n, parts.drop 1)
      | .error cause => .error (.data cause (.member key) point)
  | part :: _ => d.refuse .number (.member key) part
  | [] => .error d.cut

def fieldValue (d : Document) (spec : DeviceSpec) (field : Field) (key : Option String)
    (parts : Parts) : Except Fault (DeviceSpec × Parts) :=
  match field with
  | .list field =>
    match d.texts key parts with
    | .error fault => .error fault
    | .ok (texts, rest) => .ok (spec.setList texts field, rest)
  | .number field =>
    match d.number key parts with
    | .error fault => .error fault
    | .ok (n, rest) => .ok (spec.setNumber n field, rest)

def writtenKey (parts : Parts) : Option String :=
  match parts with
  | (.scalar s, _) :: _ => some s.text
  | _ => none

def membersWithin (d : Document) (start : Point) :
    (budget : Nat) → (seen : List Field) → DeviceSpec → Parts → Except Fault DeviceSpec
  | 0, _, _, _ => .error d.cut
  | _ + 1, _, spec, (.mappingEnd, _) :: _ => .ok spec
  | budget + 1, seen, spec, parts =>
    match d.text .fieldName .root parts with
    | .error fault => .error fault
    | .ok (key, point) =>
      match Field.ofKey? key with
      | none => .error (.data (.unknownField key) .root point)
      | some field =>
        if seen.contains field then .error (.data (.duplicateField field) .root start)
        else
          match d.fieldValue spec field (writtenKey parts) (parts.drop 1) with
          | .error fault => .error fault
          | .ok (spec, rest) => membersWithin d start budget (field :: seen) spec rest

/-- The spec that a document describes. An empty one describes the spec of which nothing is
known. -/
def spec (d : Document) : Except Fault DeviceSpec :=
  match d.parts with
  | [] => .error d.cut
  | (.nothing, _) :: _ => .ok {}
  | (.mappingStart, start) :: members => d.membersWithin start (members.length + 1) [] {} members
  | (.scalar s, point) :: _ =>
    if s.isOmitted then .ok {} else d.refuse .spec .root (.scalar s, point)
  | part :: _ => d.refuse .spec .root part

end Document

/-- Data is looked at up to where the text is malformed, and its faults come first. -/
def readSpec (text : String) : Except Fault DeviceSpec :=
  let d := Document.first text.toList
  match d.spec, d.fault with
  | .error fault, _ => .error fault
  | .ok _, some fault => .error fault
  | .ok spec, none => if d.isLast then .ok spec else .error .severalDocuments

end SizeRequest.Yaml

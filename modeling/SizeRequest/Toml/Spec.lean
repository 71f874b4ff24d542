import SizeRequest.Toml.Document

namespace SizeRequest.Toml

def Node.found : Node → Except DataFault Found
  | .scalar value => value.found
  | .array _ _ => .ok .sequence
  | .table _ _ => .ok .map

def refuse {α : Type} (expected : Expected) (v : Span × Node) : Except Fault α :=
  match v.2.found with
  | .error cause => .error (.data cause v.1)
  | .ok found => .error (.data (.wrongType found expected) v.1)

def textOf (v : Span × Node) : Except Fault String :=
  match v.2 with
  | .scalar (.text s) => .ok s
  | _ => refuse .text v

def textsOf (v : Span × Node) : Except Fault (List String) :=
  match v.2 with
  | .array items _ => items.mapM textOf
  | _ => refuse .sequence v

def numberOf (v : Span × Node) : Except Fault UInt32 :=
  match v.2.found with
  | .ok (.integer n) => (Found.toNumber n).mapError (.data · v.1)
  | _ => refuse .number v

def setField (spec : DeviceSpec) (m : Key × Span × Node) : Except Fault DeviceSpec :=
  match Field.ofKey? m.1.name with
  | none => .error (.data (.unknownField m.1.name) m.1.span)
  | some (.list field) => (textsOf m.2).map (spec.setList · field)
  | some (.number field) => (numberOf m.2).map (spec.setNumber · field)

/-- The device spec of a TOML text. Every malformation of the text comes before the faults in its
data, which are looked for in the order of the members. -/
def readSpec (text : String) : Except Fault DeviceSpec :=
  match document text.toList with
  | .error fault => .error fault
  | .ok members => members.foldlM setField {}

end SizeRequest.Toml

import SizeRequest.FileCheck
import SizeRequest.Json.Spec
import SizeRequest.Toml.Spec
import SizeRequest.Yaml.Spec

namespace SizeRequest

inductive SpecFormat
  | json
  | yaml
  | toml
deriving DecidableEq

namespace SpecFormat

def extensions : List (String × SpecFormat) :=
  [("json", json), ("yaml", yaml), ("yml", yaml), ("toml", toml)]

def ofExtension? (extension : List Char) : Option SpecFormat :=
  extensions.lookup (String.ofList (extension.map Char.toLower))

def ofPath? (path : Path) : Option SpecFormat := path.extension?.bind ofExtension?

end SpecFormat

inductive SpecFault
  | read (path : Path) (fault : AccessFault)
  | unsupported (path : Path)
  | malformed (path : Path) (reason : String)
  | incomplete (path : Path) (missing : List Field)
deriving DecidableEq

namespace SpecFault

def message : SpecFault → String
  | read path fault => s!"Failed to read device spec '{path.text}': {fault.message}."
  | unsupported path =>
    s!"Unsupported device spec file '{path.text}', expected a .json, .yaml or .toml file."
  | malformed path reason => s!"Malformed device spec '{path.text}': {reason}"
  | incomplete path missing =>
    s!"Incomplete device spec '{path.text}': missing "
      ++ Text.join ", " (missing.map Field.key) ++ "."

end SpecFault

namespace DeviceSpec

def ofText (format : SpecFormat) (text : String) : Except String DeviceSpec :=
  match format with
  | .json => (Json.readSpec text).mapError (Json.Fault.message text)
  | .yaml => (Yaml.readSpec text).mapError Yaml.Fault.message
  | .toml => (Toml.readSpec text).mapError (Toml.Fault.message text)

/-- The spec in a file; any field may be left out. -/
def load (t : FileTree) (path : Path) : Except SpecFault DeviceSpec :=
  match SpecFormat.ofPath? path with
  | none => .error (.unsupported path)
  | some format =>
    match t.readText path with
    | .error fault => .error (.read path fault)
    | .ok text => (ofText format text).mapError (.malformed path)

def loadPartial (t : FileTree) (path : Path) : Logged SpecFault DeviceSpec :=
  (Logged.silent (load t path)).andThen fun spec =>
    (Logged.log (.specParsed path spec)).andThen fun _ => .done spec

/-- The spec in a file, which has to describe a device. -/
def loadFull (t : FileTree) (path : Path) : Except SpecFault DeviceSpec :=
  match load t path with
  | .error fault => .error fault
  | .ok spec =>
    match spec.missing with
    | [] => .ok spec
    | missing => .error (.incomplete path missing)

end DeviceSpec

end SizeRequest

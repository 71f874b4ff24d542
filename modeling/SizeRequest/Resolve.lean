import SizeRequest.DeviceSpec.Load
import SizeRequest.Flag.Reading

namespace SizeRequest

inductive RequestFault
  | flag (fault : FlagFault)
  | file (fault : FileFault)
  | spec (fault : SpecFault)
deriving DecidableEq

namespace RequestFault

def message : RequestFault → String
  | flag fault => fault.message
  | file fault => fault.message
  | spec fault => fault.message

def same : RequestFault → RequestFault → Bool
  | file f, file g => f.same g
  | f, g => f == g

end RequestFault

namespace DeviceSpec

def resolve (t : FileTree) : Option Path → Logged RequestFault DeviceSpec
  | none => (Logged.log .defaultSpec).andThen fun _ => .done {}
  | some path =>
    ((t.check path).mapFault .file).andThen fun _ => (loadPartial t path).mapFault .spec

end DeviceSpec

namespace Dimension

def expandLogged {ε : Type} (requested : OrderedSet Dimension) : Logged ε (OrderedSet Dimension) :=
  match discarded requested with
  | [] => .done (expand requested)
  | ignored => (Logged.log (.dimensionsIgnored ignored)).andThen fun _ => .done (expand requested)

end Dimension

namespace Request

structure Inputs where
  archive : Path
  specPath : Option Path
  modules : Option (OrderedSet String)
  dimensions : OrderedSet Dimension
  instant : Option Bool

def archiveFlag : KnownFlag Path := .path "apks"

def specFlag : KnownFlag Path := .path "device-spec"

def modulesFlag : KnownFlag (OrderedSet String) := .textSet "modules"

def instantFlag : KnownFlag Bool := .boolean "instant"

def dimensionsFlag : KnownFlag (OrderedSet Dimension) := .memberSet "dimensions" Dimension.ofName?

/-- Reads the flags of a request; there must be no others. -/
def readInputs : Reading Inputs :=
  archiveFlag.readRequired.andThen fun archive =>
  specFlag.read.andThen fun specPath =>
  modulesFlag.read.andThen fun modules =>
  instantFlag.read.andThen fun instant =>
  dimensionsFlag.read.andThen fun dimensions =>
  Reading.checkAllAsked.andThen fun _ =>
  .done ⟨archive, specPath, modules, dimensions.getD .empty, instant⟩

def build (t : FileTree) (inputs : Inputs) : Logged RequestFault Request :=
  ((t.check inputs.archive).mapFault .file).andThen fun _ =>
  (DeviceSpec.resolve t inputs.specPath).andThen fun spec =>
  (Dimension.expandLogged inputs.dimensions).andThen fun dimensions =>
  let request : Request :=
    ⟨inputs.archive, spec, inputs.modules, dimensions, inputs.instant.getD false⟩
  (Logged.log (.requestResolved request)).andThen fun _ => .done request

/-- The request of flags, and the flags with the names that were asked for. -/
def ofFlags (t : FileTree) (flags : Flags) : Flags × Logged RequestFault Request :=
  let (flags, inputs) := readInputs flags
  (flags, (inputs.mapFault .flag).andThen (build t))

def ofArguments (t : FileTree) (arguments : List String) : Logged RequestFault Request :=
  ((FlagList.parse arguments).mapFault .flag).andThen fun supplied => (ofFlags t ⟨supplied, []⟩).2

end Request

end SizeRequest

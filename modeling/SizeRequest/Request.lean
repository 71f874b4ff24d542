import SizeRequest.DeviceSpec
import SizeRequest.Dimension
import SizeRequest.Path

namespace SizeRequest

/-- A resolved request. Without `modules` it covers all that the first download installs, which
differs from covering no module. -/
structure Request where
  archive : Path
  spec : DeviceSpec
  modules : Option (OrderedSet String)
  dimensions : OrderedSet Dimension
  instant : Bool
deriving DecidableEq

namespace Request

def commandName : String := "get-size"

def summary (r : Request) : String :=
  let modules := match r.modules with
    | none => "first-download"
    | some names => "[" ++ Text.join "," names.toList ++ "]"
  commandName ++ " apks=" ++ r.archive.text
    ++ " device-spec=" ++ (if r.spec.isDefault then "default" else "custom")
    ++ " modules=" ++ modules
    ++ " dimensions=[" ++ Text.join "," (r.dimensions.toList.map Dimension.name) ++ "]"
    ++ " instant=" ++ toString r.instant

def same (r s : Request) : Bool :=
  r.archive.same s.archive && r.spec == s.spec && r.modules == s.modules
    && r.dimensions == s.dimensions && r.instant == s.instant

end Request

end SizeRequest

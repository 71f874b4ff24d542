import SizeRequest.Json.Value
import SizeRequest.Report.Table
import SizeRequest.Request

namespace SizeRequest

inductive OutputFormat
  | text
  | json
deriving DecidableEq, Inhabited

namespace OutputFormat

def values : List OutputFormat := [text, json]

def name : OutputFormat → String
  | text => "text"
  | json => "json"

end OutputFormat

namespace DeviceSpec

def parts (spec : DeviceSpec) : List String :=
  (if spec.sdkVersion = 0 then [] else ["sdk " ++ toString spec.sdkVersion.toNat])
    ++ (if spec.screenDensity = 0 then [] else [toString spec.screenDensity.toNat ++ " dpi"])
    ++ (if spec.supportedAbis.isEmpty then [] else ["abis " ++ Text.join "/" spec.supportedAbis])
    ++ (if spec.supportedLocales.isEmpty then []
        else ["locales " ++ Text.join "/" spec.supportedLocales])
    ++ (if spec.deviceFeatures.isEmpty then []
        else [toString spec.deviceFeatures.length ++ " features"])
    ++ (if spec.glExtensions.isEmpty then []
        else [toString spec.glExtensions.length ++ " GL extensions"])

def cell (spec : DeviceSpec) : String :=
  if spec.isDefault then "default (empty)" else Text.join ", " spec.parts

def toJson (spec : DeviceSpec) : Json.Value :=
  .object [
    ("supportedAbis", .ofTexts spec.supportedAbis),
    ("supportedLocales", .ofTexts spec.supportedLocales),
    ("deviceFeatures", .ofTexts spec.deviceFeatures),
    ("glExtensions", .ofTexts spec.glExtensions),
    ("screenDensity", .number (.ofNat spec.screenDensity.toNat)),
    ("sdkVersion", .number (.ofNat spec.sdkVersion.toNat))]

end DeviceSpec

namespace Request

def modulesCell : Option (OrderedSet String) → String
  | none => "all first-download modules"
  | some names => if names.isEmpty then "none" else Text.join ", " names.toList

def dimensionsCell (dimensions : OrderedSet Dimension) : String :=
  if dimensions.isEmpty then "none" else Text.join ", " (dimensions.toList.map Dimension.name)

def table (r : Request) : Table where
  header := ["get-size request", ""]
  rows := [
    ["APK Set", r.archive.text],
    ["Device spec", r.spec.cell],
    ["Modules", modulesCell r.modules],
    ["Dimensions", dimensionsCell r.dimensions],
    ["Instant", toString r.instant]]

def toJson (r : Request) : Json.Value :=
  .object [
    ("apksArchivePath", .text r.archive.text),
    ("deviceSpec", r.spec.toJson),
    ("modules", match r.modules with
      | none => .null
      | some names => .ofTexts names.toList),
    ("dimensions", .ofTexts (r.dimensions.toList.map Dimension.name)),
    ("instant", .boolean r.instant)]

/-- What is written for a request, piece by piece: a document and the end of its last line. -/
def pieces (r : Request) : OutputFormat → List String
  | .text => [r.table.render, "\n"]
  | .json => [r.toJson.render, "\n"]

def written (r : Request) (format : OutputFormat) : String := String.join (r.pieces format)

end Request

end SizeRequest

import SizeRequest.Text.Quoted

namespace SizeRequest

/-- A device configuration; what is not known is an empty list or zero. -/
structure DeviceSpec where
  supportedAbis : List String := []
  supportedLocales : List String := []
  deviceFeatures : List String := []
  glExtensions : List String := []
  screenDensity : UInt32 := 0
  sdkVersion : UInt32 := 0
deriving DecidableEq, Inhabited

inductive ListField
  | supportedAbis
  | supportedLocales
  | deviceFeatures
  | glExtensions
deriving DecidableEq

inductive NumberField
  | screenDensity
  | sdkVersion
deriving DecidableEq

inductive Field
  | list (field : ListField)
  | number (field : NumberField)
deriving DecidableEq

namespace Field

def values : List Field :=
  [list .supportedAbis, list .supportedLocales, list .deviceFeatures, list .glExtensions,
    number .screenDensity, number .sdkVersion]

def key : Field → String
  | list .supportedAbis => "supportedAbis"
  | list .supportedLocales => "supportedLocales"
  | list .deviceFeatures => "deviceFeatures"
  | list .glExtensions => "glExtensions"
  | number .screenDensity => "screenDensity"
  | number .sdkVersion => "sdkVersion"

def ofKey? (key : String) : Option Field :=
  values.find? (·.key == key)

theorem ofKey?_key (f : Field) : ofKey? f.key = some f := by
  rcases f with f | f <;> cases f <;> rfl

end Field

namespace DeviceSpec

def setList (spec : DeviceSpec) (texts : List String) : ListField → DeviceSpec
  | .supportedAbis => { spec with supportedAbis := texts }
  | .supportedLocales => { spec with supportedLocales := texts }
  | .deviceFeatures => { spec with deviceFeatures := texts }
  | .glExtensions => { spec with glExtensions := texts }

def setNumber (spec : DeviceSpec) (n : UInt32) : NumberField → DeviceSpec
  | .screenDensity => { spec with screenDensity := n }
  | .sdkVersion => { spec with sdkVersion := n }

def isDefault (spec : DeviceSpec) : Bool := spec == {}

def missing (spec : DeviceSpec) : List Field :=
  (if spec.sdkVersion = 0 then [.number .sdkVersion] else [])
    ++ (if spec.screenDensity = 0 then [.number .screenDensity] else [])
    ++ (if spec.supportedAbis.isEmpty then [.list .supportedAbis] else [])
    ++ (if spec.supportedLocales.isEmpty then [.list .supportedLocales] else [])

def debugText (spec : DeviceSpec) : String :=
  "DeviceSpec \x7b supported_abis: " ++ Text.quotedList spec.supportedAbis
    ++ ", supported_locales: " ++ Text.quotedList spec.supportedLocales
    ++ ", device_features: " ++ Text.quotedList spec.deviceFeatures
    ++ ", gl_extensions: " ++ Text.quotedList spec.glExtensions
    ++ ", screen_density: " ++ toString spec.screenDensity.toNat
    ++ ", sdk_version: " ++ toString spec.sdkVersion.toNat ++ " \x7d"

end DeviceSpec

end SizeRequest

import SizeRequest.DeviceSpec
import SizeRequest.Dimension

namespace SizeRequest

inductive Found
  | null
  | unit
  | boolean (b : Bool)
  | integer (n : Int)
  | wideInteger (n : Int)
  | widestInteger (n : Nat)
  | float (text : String)
  | text (s : String)
  | sequence
  | map
deriving DecidableEq

inductive Expected
  | spec
  | sequence
  | text
  | fieldName
  | number
  | boolean
  | integer
  | float
  | null
deriving DecidableEq

inductive DataFault
  | unknownField (key : String)
  | duplicateField (field : Field)
  | wrongType (found : Found) (expected : Expected)
  | wrongValue (found : Found) (expected : Expected)
  | unknownDimension (name : String)
  | integerTooLarge
  | floatTooLarge
deriving DecidableEq

namespace Found

def message : Found → String
  | null => "null"
  | unit => "unit value"
  | boolean b => s!"boolean `{b}`"
  | integer n => s!"integer `{n}`"
  | wideInteger n => s!"integer `{n}` as i128"
  | widestInteger n => s!"integer `{n}` as u128"
  | float written => s!"floating point `{written}`"
  | text s => "string " ++ Text.quoted s
  | sequence => "sequence"
  | map => "map"

end Found

namespace Expected

def message : Expected → String
  | spec => "struct DeviceSpec"
  | sequence => "a sequence"
  | text => "a string"
  | fieldName => "field identifier"
  | number => "u32"
  | boolean => "a boolean"
  | integer => "an integer"
  | float => "a float"
  | null => "null"

end Expected

namespace DataFault

def message : DataFault → String
  | unknownField key =>
    s!"unknown field `{key}`, expected one of "
      ++ Text.join ", " (Field.values.map fun f => s!"`{f.key}`")
  | duplicateField field => s!"duplicate field `{field.key}`"
  | wrongType found expected => s!"invalid type: {found.message}, expected {expected.message}"
  | wrongValue found expected => s!"invalid value: {found.message}, expected {expected.message}"
  | unknownDimension name => Dimension.unknownMessage name
  | integerTooLarge => "integer number overflowed"
  | floatTooLarge => "floating-point number overflowed"

end DataFault

namespace Found

/-- A number as a field value: it has to fit into 32 bits and have no sign. -/
def toNumber (n : Int) : Except DataFault UInt32 :=
  match n with
  | .ofNat m =>
    if m < UInt32.size then .ok (.ofNat m) else .error (.wrongValue (.integer n) .number)
  | .negSucc _ => .error (.wrongValue (.integer n) .number)

end Found

end SizeRequest

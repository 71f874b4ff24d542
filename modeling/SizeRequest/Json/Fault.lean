import SizeRequest.DeviceSpec.DataFault
import SizeRequest.Text.Digit

namespace SizeRequest.Json

inductive Malformation
  | endInValue
  | endInString
  | endInList
  | endInObject
  | colonExpected
  | listCommaExpected
  | objectCommaExpected
  | wordExpected
  | valueExpected
  | invalidEscape
  | invalidNumber
  | numberOutOfRange
  | controlCharacter
  | textKeyExpected
  | loneSurrogate
  | hexEscapeEnds
  | trailingComma
  | trailingCharacters
deriving DecidableEq

namespace Malformation

def message : Malformation → String
  | endInValue => "EOF while parsing a value"
  | endInString => "EOF while parsing a string"
  | endInList => "EOF while parsing a list"
  | endInObject => "EOF while parsing an object"
  | colonExpected => "expected `:`"
  | listCommaExpected => "expected `,` or `]`"
  | objectCommaExpected => "expected `,` or `\x7d`"
  | wordExpected => "expected ident"
  | valueExpected => "expected value"
  | invalidEscape => "invalid escape"
  | invalidNumber => "invalid number"
  | numberOutOfRange => "number out of range"
  | controlCharacter => "control character (\\u0000-\\u001F) found while parsing a string"
  | textKeyExpected => "key must be a string"
  | loneSurrogate => "lone leading surrogate in hex escape"
  | hexEscapeEnds => "unexpected end of hex escape"
  | trailingComma => "trailing comma"
  | trailingCharacters => "trailing characters"

end Malformation

/-- A fault of a text: at a number of bytes before its end or, for faults in the data, not placed
yet, found with some text unread. -/
inductive Fault
  | malformed (cause : Malformation) (unread : Nat)
  | data (cause : DataFault) (unread : Nat)
  | unplaced (cause : DataFault) (rest : List Char)
deriving DecidableEq

abbrev Reader (α : Type) := List Char → Except Fault (α × List Char)

def failAt {α : Type} (cause : Malformation) (rest : List Char) : Except Fault α :=
  .error (.malformed cause (Text.byteCount rest))

/-- A malformation shown by the next byte, which counts as read. -/
def failPast {α : Type} (cause : Malformation) (rest : List Char) : Except Fault α :=
  .error (.malformed cause (Text.byteCount rest - 1))

def failData {α : Type} (cause : DataFault) (rest : List Char) : Except Fault α :=
  .error (.data cause (Text.byteCount rest))

namespace Fault

def position (text : String) (unread : Nat) : Nat × Nat :=
  let read := text.toUTF8.toList.take (text.utf8ByteSize - unread)
  let line := read.count 10
  let column := (read.reverse.takeWhile (· != 10)).length
  (line + 1, column)

def message (text : String) (fault : Fault) : String :=
  let (cause, unread) := match fault with
    | malformed cause unread => (cause.message, unread)
    | data cause unread => (cause.message, unread)
    | unplaced cause rest => (cause.message, Text.byteCount rest)
  let (line, column) := position text unread
  s!"{cause} at line {line} column {column}"

end Fault

end SizeRequest.Json

import SizeRequest.DeviceSpec.DataFault
import SizeRequest.Text.Digit

namespace SizeRequest.Toml

/-- A part of a text, by the number of characters unread where it starts and where it stops. -/
structure Span where
  start : Nat
  stop : Nat
deriving DecidableEq

def Span.between (start stop : List Char) : Span := ⟨start.length, stop.length⟩

inductive Malformation
  | unexpectedText
  | controlCharacter
  | unclosedString
  | invalidEscape
  | noCharacter
  | invalidScalar
  | tooDeep
  | notATable
  | duplicateKey
deriving DecidableEq

namespace Malformation

def message : Malformation → String
  | unexpectedText => "unexpected text"
  | controlCharacter => "invalid control character"
  | unclosedString => "unclosed string"
  | invalidEscape => "invalid escape"
  | noCharacter => "invalid value, expected unicode hexadecimal value"
  | invalidScalar => "invalid value"
  | tooDeep => "nested too deeply"
  | notATable => "cannot extend what is not a table"
  | duplicateKey => "duplicate key"

end Malformation

inductive Fault
  | malformed (cause : Malformation) (span : Span)
  | data (cause : DataFault) (span : Span)
deriving DecidableEq

abbrev Reader (α : Type) := List Char → Except Fault (α × List Char)

def failAt {α : Type} (cause : Malformation) (rest : List Char) : Except Fault α :=
  .error (.malformed cause (.between rest rest))

namespace Fault

/-- The line on which a part of a text starts, with a mark below for every byte of the part that
is on it, and what is to be said about it. -/
def picture (text : List Char) (span : Span) (cause : String) : String :=
  let read := text.take (text.length - span.start)
  let line := toString (read.count '\n' + 1)
  let column := (read.reverse.takeWhile (· != '\n')).length
  let shown := (text.drop (read.length - column)).takeWhile (· != '\n')
  let part := (text.drop read.length).take (span.start - span.stop)
  let marks := max 1 (min (Text.byteCount part) (Text.byteCount shown))
  let blanks (n : Nat) : String := String.ofList (List.replicate n ' ')
  let margin := blanks (line.length + 1)
  s!"TOML parse error at line {line}, column {column + 1}\n"
    ++ margin ++ "|\n"
    ++ line ++ " | " ++ String.ofList shown ++ "\n"
    ++ margin ++ "|" ++ blanks (column + 1) ++ String.ofList (List.replicate marks '^') ++ "\n"
    ++ cause ++ "\n"

def message (text : String) : Fault → String
  | malformed cause span => picture text.toList span cause.message
  | data cause span => picture text.toList span cause.message

end Fault

end SizeRequest.Toml

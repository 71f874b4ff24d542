import SizeRequest.Log.Logged

namespace SizeRequest

/-- A flag: its name and, if an equals sign follows the name, the text after that sign. -/
structure Flag where
  name : String
  value : Option String
deriving DecidableEq, Repr

inductive ValueFault
  | required
  | emptyPath
  | notBoolean (value : String)
  | unknownMember (text : String)
deriving DecidableEq

inductive FlagFault
  | missing (flag : String)
  | unrecognized (flags : List String)
  | invalidValue (flag : String) (fault : ValueFault)
  | duplicate (flag : String)
  | positional (argument : String)
  | emptyName (argument : String)
deriving DecidableEq

namespace ValueFault

def message : ValueFault → String
  | required => "a value is required, use --flag=value"
  | emptyPath => "path must not be empty"
  | notBoolean value => s!"expected 'true' or 'false', got '{value}'"
  | unknownMember text => s!"unknown value '{text}'"

end ValueFault

namespace FlagFault

def message : FlagFault → String
  | missing flag => s!"Missing the required --{flag} flag."
  | unrecognized flags =>
    "Unrecognized flags: " ++ Text.join ", " (flags.map ("--" ++ ·)) ++ "."
  | invalidValue flag fault => s!"Invalid value for flag --{flag}: {fault.message}."
  | duplicate flag => s!"Flag --{flag} has been set more than once."
  | positional argument =>
    s!"Syntax error: flags should start with \"--\", found '{argument}'."
  | emptyName argument => s!"Syntax error: empty flag name in '{argument}'."

end FlagFault

namespace Flag

def render (f : Flag) : String :=
  match f.value with
  | none => "--" ++ f.name
  | some value => "--" ++ f.name ++ "=" ++ value

def ofBody (body : List Char) : Flag :=
  match body.dropWhile (· != '=') with
  | [] => ⟨String.ofList body, none⟩
  | _ :: value => ⟨String.ofList (body.takeWhile (· != '=')), some (String.ofList value)⟩

def parse (argument : String) : Except FlagFault Flag :=
  match argument.toList with
  | '-' :: '-' :: body =>
    let flag := ofBody body
    if flag.name.isEmpty then .error (.emptyName argument) else .ok flag
  | _ => .error (.positional argument)

end Flag

namespace FlagList

def parseAfter (read : List Flag) : List String → Logged FlagFault (List Flag)
  | [] => .done read
  | argument :: rest =>
    match Flag.parse argument with
    | .error fault => .fail fault
    | .ok flag =>
      if (read.map Flag.name).contains flag.name then .fail (.duplicate flag.name)
      else (Logged.log (.flagTokenized flag.name)).andThen fun _ => parseAfter (read ++ [flag]) rest

def parse (arguments : List String) : Logged FlagFault (List Flag) := parseAfter [] arguments

end FlagList

end SizeRequest

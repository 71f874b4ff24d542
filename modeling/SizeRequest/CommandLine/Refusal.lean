import SizeRequest.CommandLine.Option
import SizeRequest.Text.Plain
import SizeRequest.Text.Similar

namespace SizeRequest.CommandLine

inductive Refusal
  | helpShown (scope : Scope)
  | versionShown
  | nothingGiven
  | commandMissing
  | commandUnknown (text : String)
  | commandEscaped (name : String)
  | valueMissing (option : Opt)
  | valueInvalid (option : Opt) (value : String)
  | repeated (scope : Scope) (option : Opt)
  | valueUnexpected (scope : Scope) (option : Opt) (value : String) (used : List Opt)
  | optionUnknown (scope : Scope) (name : String) (used : List Opt) (later : List String)
  | letterUnknown (scope : Scope) (letter : Char)
  | operandUnexpected (scope : Scope) (text : String)
deriving DecidableEq

namespace Refusal

def programName : String := "apksize"

def versionText : String := "apksize 0.1.0\n"

def caller (program : Option String) (scope : Scope) : String :=
  match scope.command?, program with
  | none, program => program.getD programName
  | some command, some program => program ++ " " ++ command
  | some command, none => command

/-- The usage line of a scope. The options that were used are shown where there are any. -/
def usage (program : Option String) (scope : Scope) (used : List Opt) : String :=
  let options := if used.isEmpty then "[OPTIONS]" else Text.join " " (used.map Opt.shown)
  "Usage: " ++ caller program scope ++ " " ++ options ++ " " ++ scope.operands

def optionLines (scope : Scope) : String :=
  let values (o : Opt) : String := "[possible values: " ++ Text.join ", " o.choices ++ "]"
  let level := "Log level, overridden by the APKSIZE_LOG environment variable [default: warn] "
    ++ values .logLevel
  let common := "      --log-level <LEVEL>  " ++ level ++ "\n"
  let output := "      --output <FORMAT>    How to print the resolved request [default: text] "
    ++ values .output ++ "\n"
  let last := "  -v, --verbose            Shorthand for --log-level=debug\n"
    ++ "  -h, --help               Print help\n"
  match scope with
  | .program => common ++ last ++ "  -V, --version            Print version\n"
  | .getSize => common ++ output ++ last
  | .help => common ++ last

def about : Scope → String × String
  | .program =>
    ("Resolve get-size requests against an APK Set",
      "Commands:\n  get-size  Gets the over-the-wire sizes of APKs served from an APK Set\n"
        ++ "  help      Describes the flags of a command\n")
  | .getSize =>
    ("Gets the over-the-wire sizes of APKs served from an APK Set",
      "Arguments:\n  [FLAGS]...  get-size flags in --name=value form, "
        ++ "e.g. -- --apks=archive.apks --dimensions=ALL\n")
  | .help =>
    ("Describes the flags of a command",
      "Arguments:\n  [COMMAND]  Command to describe (all when omitted)\n")

def helpText (program : Option String) (scope : Scope) : String :=
  let (purpose, operands) := about scope
  purpose ++ "\n\n" ++ usage program scope [] ++ "\n\n" ++ operands ++ "\nOptions:\n"
    ++ optionLines scope

/-- What a mistyped option may stand for: one of the scope, or one of a command that follows. -/
inductive Meant
  | option (o : Opt)
  | ofCommand (command : String) (o : Opt)

def placeOf? (name : String) (arguments : List String) : Option Nat :=
  if arguments.contains name then some (arguments.idxOf name) else none

def closest? (scope : Scope) (name : String) : Option Opt :=
  (Text.similar name (scope.options.map Opt.name)).getLast?.bind scope.ofName?

def meant? (scope : Scope) (name : String) (later : List String) : Option Meant :=
  match closest? scope name with
  | some o => some (.option o)
  | none =>
    if scope != .program then none
    else
      match closest? .getSize name, closest? .help name,
          placeOf? "get-size" later, placeOf? "help" later with
      | some o, some p, some i, some j =>
        if i ≤ j then some (.ofCommand "get-size" o) else some (.ofCommand "help" p)
      | some o, _, some _, _ => some (.ofCommand "get-size" o)
      | _, some p, _, some _ => some (.ofCommand "help" p)
      | _, _, _, _ => none

def withMeant (used : List Opt) (o : Opt) : List Opt :=
  if used.contains o then used else used ++ [o]

def operandTip (scope : Scope) (text : String) : String :=
  if scope == .program then "" else s!"\n\n  tip: to pass '{text}' as a value, use '-- {text}'"

def similarTip (kind : String) (words : List String) : String :=
  let quoted := Text.join ", " (words.map fun w => s!"'{w}'")
  match words with
  | [] => ""
  | [_] => s!"\n\n  tip: a similar {kind} exists: {quoted}"
  | _ => s!"\n\n  tip: some similar {kind}s exist: {quoted}"

def choiceList (o : Opt) : String :=
  "\n  [possible values: " ++ Text.join ", " o.choices ++ "]"

/-- What is wrong, with hints; and the usage line that goes with it. -/
def reason (program : Option String) : Refusal → String × Option String
  | helpShown _ => ("", none)
  | versionShown => ("", none)
  | nothingGiven => ("", none)
  | commandMissing =>
    (s!"'{caller program .program}' requires a subcommand but one was not provided"
      ++ "\n  [subcommands: " ++ Text.join ", " Scope.commandNames ++ "]",
      some (usage program .program []))
  | commandUnknown text =>
    (s!"unrecognized subcommand '{text}'"
      ++ similarTip "subcommand" (Text.similar text Scope.commandNames),
      some (usage program .program []))
  | commandEscaped name =>
    (s!"unexpected argument '{name}' found\n\n  tip: subcommand '{name}' exists; to use it, "
      ++ "remove the '--' before it",
      some (usage program .program []))
  | valueMissing o =>
    (s!"a value is required for '{o.shown}' but none was supplied" ++ choiceList o, none)
  | valueInvalid o value =>
    if value.isEmpty then
      (s!"a value is required for '{o.shown}' but none was supplied" ++ choiceList o, none)
    else
      (s!"invalid value '{value}' for '{o.shown}'" ++ choiceList o
        ++ similarTip "value" (Text.similar value o.choices).getLast?.toList, none)
  | repeated scope o =>
    (s!"the argument '{o.shown}' cannot be used multiple times", some (usage program scope []))
  | valueUnexpected scope o value used =>
    (s!"unexpected value '{value}' for '{o.shown}' found; no more were expected",
      some (usage program scope (withMeant used o)))
  | optionUnknown scope name used later =>
    let found := s!"unexpected argument '--{name}' found"
    match meant? scope name later with
    | none => (found ++ operandTip scope ("--" ++ name), some (usage program scope used))
    | some (.option o) =>
      (found ++ similarTip "argument" ["--" ++ o.name],
        some (usage program scope (withMeant used o)))
    | some (.ofCommand command o) =>
      (found ++ s!"\n\n  tip: '{command} --{o.name}' exists", some (usage program scope used))
  | letterUnknown scope letter =>
    (s!"unexpected argument '-{letter}' found" ++ operandTip scope s!"-{letter}",
      some (usage program scope []))
  | operandUnexpected scope text =>
    (s!"unexpected argument '{text}' found", some (usage program scope []))

def message (program : Option String) (refusal : Refusal) : String :=
  match refusal with
  | helpShown scope => helpText program scope
  | versionShown => versionText
  | nothingGiven => helpText program .program
  | refusal =>
    let (reason, usage) := reason program refusal
    let usage := match usage with
      | some usage => "\n\n" ++ usage
      | none => ""
    Text.plain ("error: " ++ reason ++ usage ++ "\n\nFor more information, try '--help'.\n")

def isAnswer : Refusal → Bool
  | helpShown _ => true
  | versionShown => true
  | _ => false

def exitCode (refusal : Refusal) : UInt8 := if refusal.isAnswer then 0 else 2

end Refusal

end SizeRequest.CommandLine

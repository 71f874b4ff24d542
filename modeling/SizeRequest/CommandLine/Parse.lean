import SizeRequest.CommandLine.Refusal
import SizeRequest.Path

namespace SizeRequest.CommandLine

/-- The options read so far in a scope, and the one whose value may still be checked or due. -/
structure Progress where
  level : Option Level := none
  verbose : Bool := false
  output : Option OutputFormat := none
  used : List Opt := []
  pending : Option (Opt × Option String) := none

inductive Shape
  | escape
  | long (name : String) (value : Option String)
  | letters (letters : List Char)
  | plain

def Shape.of (argument : String) : Shape :=
  match argument.toList with
  | ['-', '-'] => .escape
  | '-' :: '-' :: body =>
    match body.dropWhile (· != '=') with
    | [] => .long (String.ofList body) none
    | _ :: value =>
      .long (String.ofList (body.takeWhile (· != '='))) (some (String.ofList value))
  | '-' :: c :: rest => .letters (c :: rest)
  | _ => .plain

namespace Progress

def awaits (p : Progress) : Option Opt :=
  match p.pending with
  | some (o, none) => some o
  | _ => none

def use (p : Progress) (o : Opt) : Progress :=
  if p.used.contains o then p else { p with used := p.used ++ [o] }

def assign (p : Progress) (scope : Scope) (o : Opt) (value : String) : Except Refusal Progress :=
  if p.used.contains o then .error (.repeated scope o)
  else
    match o with
    | .logLevel =>
      match Level.ofName? false value with
      | some level => .ok { p.use o with level := some level }
      | none => .error (.valueInvalid o value)
    | .output =>
      match OutputFormat.values.find? (·.name == value) with
      | some output => .ok { p.use o with output := some output }
      | none => .error (.valueInvalid o value)
    | _ => .ok p

def settle (p : Progress) (scope : Scope) : Except Refusal Progress :=
  let settled := { p with pending := none }
  match p.pending with
  | none => .ok p
  | some (o, none) => .error (.valueMissing o)
  | some (o, some value) => settled.assign scope o value

/-- The options that count as used when a later argument is refused. -/
def usedBefore (p : Progress) : List Opt :=
  match p.pending with
  | some (o, some _) =>
    if p.used.contains o then p.used.filter (· != o) else p.used ++ [o]
  | _ => p.used

def turnOn (p : Progress) (scope : Scope) (o : Opt) : Except Refusal Progress :=
  match p.settle scope with
  | .error refusal => .error refusal
  | .ok p =>
    match o with
    | .help => .error (.helpShown scope)
    | .version => .error .versionShown
    | o =>
      if p.used.contains o then .error (.repeated scope o)
      else .ok { p.use o with verbose := true }

def readLong (p : Progress) (scope : Scope) (o : Opt) (value : Option String) :
    Except Refusal Progress :=
  if o.takesValue then
    match p.settle scope with
    | .error refusal => .error refusal
    | .ok p =>
      match value with
      | some value => p.assign scope o value
      | none => .ok { p with pending := some (o, none) }
  else
    match value with
    | some value => .error (.valueUnexpected scope o value p.used)
    | none => p.turnOn scope o

def readLetters (p : Progress) (scope : Scope) : List Char → Except Refusal Progress
  | [] => .ok p
  | c :: rest =>
    match scope.ofLetter? c with
    | none => .error (.letterUnknown scope c)
    | some o =>
      match p.turnOn scope o with
      | .error refusal => .error refusal
      | .ok p => readLetters p scope rest

inductive Step
  | option (p : Progress)
  | escape
  | operand

/-- Reads an argument as an option if it is one. In a scope whose operands may look like options,
unknown options are operands. -/
def step (p : Progress) (scope : Scope) (argument : String) (later : List String) :
    Except Refusal Step :=
  let value : Except Refusal Step := match p.awaits with
    | some o => .ok (.option { p with pending := some (o, some argument) })
    | none => .ok .operand
  match Shape.of argument with
  | .escape => .ok .escape
  | .plain => value
  | .long name attached =>
    match scope.ofName? name with
    | some o => (p.readLong scope o attached).map .option
    | none =>
      if scope == .getSize then value
      else .error (.optionUnknown scope name p.usedBefore later)
  | .letters letters =>
    if scope == .getSize && !letters.all (fun c => (scope.ofLetter? c).isSome) then value
    else (p.readLetters scope letters).map .option

end Progress

def readGetSize (p : Progress) : List String → Except Refusal (Progress × List String)
  | [] => (p.settle .getSize).map (·, [])
  | argument :: rest =>
    match p.step .getSize argument rest with
    | .error refusal => .error refusal
    | .ok (.option p) => readGetSize p rest
    | .ok .escape => (p.settle .getSize).map (·, rest)
    | .ok .operand => (p.settle .getSize).map (·, argument :: rest)

def readHelpOperands (p : Progress) (command : Option String) :
    List String → Except Refusal (Progress × Option String)
  | [] => (p.settle .help).map (·, command)
  | argument :: rest =>
    match command with
    | some _ => .error (.operandUnexpected .help argument)
    | none =>
      match p.settle .help with
      | .error refusal => .error refusal
      | .ok p => readHelpOperands p (some argument) rest

def readHelp (p : Progress) (command : Option String) :
    List String → Except Refusal (Progress × Option String)
  | [] => (p.settle .help).map (·, command)
  | argument :: rest =>
    match p.step .help argument rest with
    | .error refusal => .error refusal
    | .ok (.option p) => readHelp p command rest
    | .ok .escape => readHelpOperands p command rest
    | .ok .operand =>
      match command with
      | some _ => .error (.operandUnexpected .help argument)
      | none =>
        match p.settle .help with
        | .error refusal => .error refusal
        | .ok p => readHelp p (some argument) rest

/-- What is asked for by the options before a command, those after it, and the command. An option
after the command wins. -/
def combine (before after : Progress) (command : Command) : CommandLine where
  logLevel := (after.level.orElse fun _ => before.level).getD .warn
  verbose := after.verbose || before.verbose
  command := command

def readCommand (before : Progress) (scope : Scope) (arguments : List String) :
    Except Refusal CommandLine :=
  let read : Except Refusal (Progress × Command) := match scope with
    | .getSize => (readGetSize {} arguments).map fun (p, flags) =>
      (p, .getSize (p.output.getD .text) flags)
    | _ => (readHelp {} none arguments).map fun (p, command) => (p, .help command)
  match read with
  | .error refusal => .error refusal
  | .ok (after, command) =>
    (before.settle .program).map fun before => combine before after command

def refuseCommand (escaped : Bool) (argument : String) : Refusal :=
  if escaped && (Scope.ofCommand? argument).isSome then .commandEscaped argument
  else .commandUnknown argument

def endWithout (p : Progress) : Except Refusal CommandLine :=
  match p.settle .program with
  | .error refusal => .error refusal
  | .ok p => .error (if p.used.isEmpty then .nothingGiven else .commandMissing)

def readProgram (p : Progress) : List String → Except Refusal CommandLine
  | [] => endWithout p
  | argument :: rest =>
    match p.awaits, Scope.ofCommand? argument with
    | none, some scope => readCommand p scope rest
    | _, _ =>
      match p.step .program argument rest with
      | .error refusal => .error refusal
      | .ok (.option p) => readProgram p rest
      | .ok .escape =>
        match rest with
        | [] => endWithout p
        | argument :: _ => .error (refuseCommand true argument)
      | .ok .operand => .error (refuseCommand false argument)

def programOf (arguments : List String) : Option String :=
  arguments.head?.bind fun first => (Path.name? ⟨first⟩).map String.ofList

/-- What a command line asks for; its first argument is the path of the program. -/
def parse (arguments : List String) : Except Refusal CommandLine :=
  readProgram {} (arguments.drop 1)

end SizeRequest.CommandLine

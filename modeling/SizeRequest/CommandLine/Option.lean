import SizeRequest.Log.Event
import SizeRequest.Report.Show

namespace SizeRequest

inductive Command
  | getSize (output : OutputFormat) (flags : List String)
  | help (command : Option String)
deriving DecidableEq

structure CommandLine where
  logLevel : Level
  verbose : Bool
  command : Command
deriving DecidableEq

namespace CommandLine

/-- The least pressing level that is logged; the verbose option asks for no less than `debug`. -/
def levelFilter (level : Level) (verbose : Bool) : Level :=
  if verbose && level.rank < Level.debug.rank then .debug else level

/-- The part of a command line whose options count: before a command, or after one. -/
inductive Scope
  | program
  | getSize
  | help
deriving DecidableEq

inductive Opt
  | logLevel
  | verbose
  | output
  | help
  | version
deriving DecidableEq

namespace Opt

def name : Opt → String
  | logLevel => "log-level"
  | verbose => "verbose"
  | output => "output"
  | help => "help"
  | version => "version"

def letter? : Opt → Option Char
  | logLevel => none
  | verbose => some 'v'
  | output => none
  | help => some 'h'
  | version => some 'V'

def choices : Opt → List String
  | logLevel => Level.values.map Level.name
  | output => OutputFormat.values.map OutputFormat.name
  | _ => []

def takesValue (o : Opt) : Bool := !o.choices.isEmpty

def shown : Opt → String
  | logLevel => "--log-level <LEVEL>"
  | output => "--output <FORMAT>"
  | o => "--" ++ o.name

end Opt

namespace Scope

def options : Scope → List Opt
  | program => [.logLevel, .verbose, .help, .version]
  | getSize => [.output, .logLevel, .verbose, .help]
  | help => [.logLevel, .verbose, .help]

def ofName? (scope : Scope) (name : String) : Option Opt := scope.options.find? (·.name == name)

def ofLetter? (scope : Scope) (letter : Char) : Option Opt :=
  scope.options.find? (·.letter? == some letter)

def command? : Scope → Option String
  | program => none
  | getSize => some "get-size"
  | help => some "help"

def ofCommand? (name : String) : Option Scope :=
  if name == "get-size" then some getSize else if name == "help" then some help else none

def commandNames : List String := ["get-size", "help"]

def operands : Scope → String
  | program => "<COMMAND>"
  | getSize => "[FLAGS]..."
  | help => "[COMMAND]"

end Scope

end CommandLine

end SizeRequest

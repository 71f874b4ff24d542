import SizeRequest.Request

namespace SizeRequest

inductive Level
  | error
  | warn
  | info
  | debug
  | trace
deriving DecidableEq, Inhabited

namespace Level

def values : List Level := [error, warn, info, debug, trace]

def rank : Level → Nat
  | error => 1
  | warn => 2
  | info => 3
  | debug => 4
  | trace => 5

def name : Level → String
  | error => "error"
  | warn => "warn"
  | info => "info"
  | debug => "debug"
  | trace => "trace"

def label : Level → String
  | error => "ERROR"
  | warn => "WARN"
  | info => "INFO"
  | debug => "DEBUG"
  | trace => "TRACE"

def ofName? (ignoreCase : Bool) (name : String) : Option Level :=
  values.find? fun level =>
    if ignoreCase then Text.sameIgnoringCase level.name name else level.name == name

def unknownMessage (name : String) : String := s!"invalid variant: {name}"

end Level

inductive Event
  | flagTokenized (flag : String)
  | flagExtracted (flag : String)
  | fileReadable (path : Path)
  | defaultSpec
  | specParsed (path : Path) (spec : DeviceSpec)
  | dimensionsIgnored (ignored : List Dimension)
  | requestResolved (request : Request)
deriving DecidableEq

/-- The value of a field in a log: a text, or what stands for another value. -/
inductive LogValue
  | text (s : String)
  | bare (s : String)
deriving DecidableEq

namespace LogValue

def plain : LogValue → String
  | text s => s
  | bare s => s

def shown : LogValue → String
  | text s => Text.quoted s
  | bare s => s

end LogValue

namespace Event

def level : Event → Level
  | flagTokenized _ => .trace
  | flagExtracted _ => .debug
  | fileReadable _ => .debug
  | defaultSpec => .debug
  | specParsed _ _ => .debug
  | dimensionsIgnored _ => .warn
  | requestResolved _ => .info

/-- The part of the program that an event comes from, by which logs are filtered. -/
def target : Event → String
  | flagTokenized _ => "apksize::flags"
  | flagExtracted _ => "apksize::flags"
  | fileReadable _ => "apksize::files"
  | defaultSpec => "apksize::device"
  | specParsed _ _ => "apksize::device"
  | dimensionsIgnored _ => "apksize::dimension"
  | requestResolved _ => "apksize::commands::get_size"

def message : Event → String
  | flagTokenized _ => "tokenized flag"
  | flagExtracted _ => "extracted flag"
  | fileReadable _ => "file exists and is readable"
  | defaultSpec => "no device spec given, using the default spec"
  | specParsed _ _ => "parsed partial device spec"
  | dimensionsIgnored ignored =>
    "ALL already covers every supported dimension, ignoring "
      ++ Text.join ", " (ignored.map Dimension.name)
  | requestResolved _ => "resolved get-size request"

def fields : Event → List (String × LogValue)
  | flagTokenized flag => [("flag", .text flag)]
  | flagExtracted flag => [("flag", .text flag)]
  | fileReadable path => [("path", .bare path.text)]
  | defaultSpec => []
  | specParsed path spec => [("path", .bare path.text), ("spec", .bare spec.debugText)]
  | dimensionsIgnored _ => []
  | requestResolved request => [("command", .bare request.summary)]

def line (e : Event) : String :=
  let label := e.level.label
  String.ofList (List.replicate (5 - label.length) ' ') ++ label ++ " " ++ e.message
    ++ String.join (e.fields.map fun f => " " ++ f.1 ++ "=" ++ f.2.shown)

end Event

end SizeRequest

import SizeRequest.Log.Filter
import SizeRequest.Run

namespace SizeRequest

structure Result where
  output : List UInt8
  errors : String
  exitCode : UInt8

namespace Program

def paths (arguments : List String) : List String :=
  match CommandLine.parse arguments with
  | .ok ⟨_, _, .getSize _ flags⟩ =>
    match (FlagList.parse flags).outcome with
    | .ok flags =>
      (flags.filter fun f =>
        f.name == Request.archiveFlag.name || f.name == Request.specFlag.name).filterMap
          Flag.value
    | .error _ => []
  | _ => []

def refused (program : Option String) (refusal : CommandLine.Refusal) (sink : Sink) : Result :=
  let text := refusal.message program
  if refusal.isAnswer then ⟨(sink.write text).1.written, "", refusal.exitCode⟩
  else ⟨[], text, refusal.exitCode⟩

/-- Runs the program. The directives decide which events are logged, and where there are none the
command line does. -/
def run (t : FileTree) (directives : String) (arguments : List String) (sink : Sink) : Result :=
  match CommandLine.parse arguments with
  | .error refusal => refused (CommandLine.programOf arguments) refusal sink
  | .ok line =>
    let (sink, ran) := line.command.run t sink
    let (message, code) := report ran.outcome
    let level := CommandLine.levelFilter line.logLevel line.verbose
    ⟨sink.written,
      LogFilter.complaints directives ++ LogFilter.lines directives level ran.events ++ message,
      code⟩

end Program

end SizeRequest

import SizeRequest.CommandLine.Parse
import SizeRequest.Report.Help
import SizeRequest.Report.Sink

namespace SizeRequest

inductive RunFault
  | request (fault : RequestFault)
  | unknownCommand (name : String)
  | print (fault : SinkFault)
  | printHelp (fault : SinkFault)
deriving DecidableEq

/-- A link in the chain of what led to a failure: something that is said about it, or the failure of
the output. -/
inductive Cause
  | said (text : String)
  | output (fault : SinkFault)
deriving DecidableEq

namespace Cause

def message : Cause → String
  | said text => text
  | output fault => fault.message

def isClosedOutput : Cause → Bool
  | output .closed => true
  | _ => false

end Cause

namespace RunFault

def causes : RunFault → List Cause
  | request fault => [.said "Invalid get-size request", .said fault.message]
  | unknownCommand name =>
    [.said (s!"Unknown command '{name}'. Available commands: "
      ++ Text.join ", " CommandHelp.names)]
  | print fault => [.said "Failed to print the request", .output fault]
  | printHelp fault => [.output fault]

def message (fault : RunFault) : String := Text.join ": " (fault.causes.map Cause.message)

/-- Whether a fault comes from a reader of the output that went away, which is no failure. -/
def isClosedOutput (fault : RunFault) : Bool := fault.causes.any Cause.isClosedOutput

end RunFault

namespace Command

def output (t : FileTree) : Command → Logged RunFault (List String)
  | getSize format flags =>
    ((Request.ofArguments t flags).mapFault .request).andThen fun request =>
      .done (request.pieces format)
  | help none => .done (CommandHelp.all.flatMap CommandHelp.pieces)
  | help (some name) =>
    match CommandHelp.ofName? name with
    | none => .fail (.unknownCommand name)
    | some h => .done h.pieces

def printFault : Command → SinkFault → RunFault
  | getSize _ _ => .print
  | help _ => .printHelp

def run (t : FileTree) (command : Command) (sink : Sink) : Sink × Logged RunFault Unit :=
  let produced := command.output t
  match produced.outcome with
  | .error fault => (sink, ⟨produced.events, .error fault⟩)
  | .ok pieces =>
    let (sink, result) := sink.writeAll pieces
    (sink, ⟨produced.events, result.mapError command.printFault⟩)

end Command

def report : Except RunFault Unit → String × UInt8
  | .ok () => ("", 0)
  | .error fault =>
    if fault.isClosedOutput then ("", 0) else ("Error: " ++ fault.message ++ "\n", 1)

end SizeRequest

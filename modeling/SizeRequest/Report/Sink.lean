import SizeRequest.Text.Digit

namespace SizeRequest

inductive SinkFault
  | closed
  | denied
  | other (text : String)
deriving DecidableEq

namespace SinkFault

def message : SinkFault → String
  | closed => "broken pipe"
  | denied => "permission denied"
  | other text => text

end SinkFault

/-- A place that takes `room` more bytes and then fails; without a bound it takes everything. How
many of the bytes that it is offered it takes at once is up to its `portion`, which is told what was
taken before. -/
structure Sink where
  written : List UInt8 := []
  room : Option Nat := none
  fault : SinkFault := .closed
  portion : (written offered : List UInt8) → Nat := fun _ offered => offered.length

namespace Sink

def size (sink : Sink) (offered : List UInt8) : Nat :=
  let size := min offered.length (max 1 (sink.portion sink.written offered))
  match sink.room with
  | none => size
  | some room => min room size

def offer (sink : Sink) (bytes : List UInt8) : Sink × Except SinkFault Nat :=
  if sink.room = some 0 then (sink, .error sink.fault)
  else
    let size := sink.size bytes
    ({ sink with written := sink.written ++ bytes.take size, room := sink.room.map (· - size) },
      .ok size)

/-- Writes bytes: offers those that are left until none are or the sink fails. -/
def writeBytes (sink : Sink) : List UInt8 → Sink × Except SinkFault Unit
  | [] => (sink, .ok ())
  | b :: rest =>
    match sink.offer (b :: rest) with
    | (sink, .error fault) => (sink, .error fault)
    | (sink, .ok size) => writeBytes sink (rest.drop (size - 1))
termination_by bytes => bytes.length
decreasing_by
  simp only [List.length_drop, List.length_cons]
  omega

def write (sink : Sink) (text : String) : Sink × Except SinkFault Unit :=
  sink.writeBytes (Text.bytes text)

def writeAll (sink : Sink) : List String → Sink × Except SinkFault Unit
  | [] => (sink, .ok ())
  | text :: rest =>
    match sink.write text with
    | (sink, .error fault) => (sink, .error fault)
    | (sink, .ok ()) => writeAll sink rest

end Sink

end SizeRequest

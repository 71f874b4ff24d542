import SizeRequest.Proofs.Outcome
import SizeRequest.Run

namespace SizeRequest

namespace Sink

def HasRoom (sink : Sink) (bytes : List UInt8) : Prop :=
  ∀ room ∈ sink.room, bytes.length ≤ room

def taken (sink : Sink) (bytes : List UInt8) : List UInt8 :=
  match sink.room with
  | none => bytes
  | some room => bytes.take room

def after (sink : Sink) (bytes : List UInt8) : Sink :=
  { sink with
    written := sink.written ++ sink.taken bytes
    room := sink.room.map (· - bytes.length) }

theorem hasRoom_of_room_eq_none {sink : Sink} (h : sink.room = none) (bytes : List UInt8) :
    sink.HasRoom bytes := by
  intro room hroom
  cases h.symm.trans hroom

theorem hasRoom_iff_of_room_eq_some {sink : Sink} {room : Nat} (h : sink.room = some room)
    {bytes : List UInt8} : sink.HasRoom bytes ↔ bytes.length ≤ room := by
  constructor
  · intro hroom
    exact hroom room h
  · intro hle other hother
    cases h.symm.trans hother
    exact hle

@[simp] theorem fault_after (sink : Sink) (bytes : List UInt8) :
    (sink.after bytes).fault = sink.fault := rfl

@[simp] theorem after_nil (sink : Sink) : sink.after [] = sink := by
  rcases sink with ⟨written, _ | room, fault, portion⟩ <;> simp [after, taken]

theorem hasRoom_append_iff {sink : Sink} {bytes more : List UInt8} :
    sink.HasRoom (bytes ++ more) ↔ sink.HasRoom bytes ∧ (sink.after bytes).HasRoom more := by
  cases hroom : sink.room with
  | none =>
    have hafter : (sink.after bytes).room = none := by simp [after, hroom]
    exact iff_of_true (hasRoom_of_room_eq_none hroom _)
      ⟨hasRoom_of_room_eq_none hroom _, hasRoom_of_room_eq_none hafter _⟩
  | some room =>
    have hafter : (sink.after bytes).room = some (room - bytes.length) := by simp [after, hroom]
    rw [hasRoom_iff_of_room_eq_some hroom, hasRoom_iff_of_room_eq_some hroom,
      hasRoom_iff_of_room_eq_some hafter, List.length_append]
    omega

theorem after_append (sink : Sink) (bytes more : List UInt8) :
    sink.after (bytes ++ more) = (sink.after bytes).after more := by
  rcases sink with ⟨written, _ | room, fault, portion⟩
  · simp [after, taken]
  · simp [after, taken, List.take_append, Nat.sub_add_eq]

theorem after_append_of_not_hasRoom {sink : Sink} {bytes : List UInt8} (h : ¬ sink.HasRoom bytes)
    (more : List UInt8) : sink.after (bytes ++ more) = sink.after bytes := by
  cases hroom : sink.room with
  | none => exact absurd (hasRoom_of_room_eq_none hroom bytes) h
  | some room =>
    rw [hasRoom_iff_of_room_eq_some hroom] at h
    have hsub : room - bytes.length = 0 := by omega
    have hsub' : room - (bytes.length + more.length) = 0 := by omega
    simp [after, taken, hroom, hsub, hsub', List.take_append]

theorem after_of_room_eq_zero {sink : Sink} (h : sink.room = some 0) (bytes : List UInt8) :
    sink.after bytes = sink := by
  rcases sink with ⟨written, _ | room, fault, portion⟩
  · cases h
  · obtain rfl : room = 0 := Option.some.inj h
    simp [after, taken]

/-- A sink that is offered bytes takes some of them, at least one, unless it has no room left. -/
theorem offer_cases (sink : Sink) (b : UInt8) (rest : List UInt8) :
    (sink.room = some 0 ∧ sink.offer (b :: rest) = (sink, .error sink.fault)) ∨
    ∃ size, sink.HasRoom ((b :: rest).take (size + 1)) ∧
      sink.offer (b :: rest) = (sink.after ((b :: rest).take (size + 1)), .ok (size + 1)) := by
  by_cases h : sink.room = some 0
  · exact .inl ⟨h, by rw [offer, if_pos h]⟩
  · right
    have hle : sink.size (b :: rest) ≤ (b :: rest).length := by
      unfold size
      split <;> simp only [List.length_cons] <;> omega
    have hroom : ∀ room ∈ sink.room, 0 < room ∧ sink.size (b :: rest) ≤ room := by
      intro room hroom
      have hne : room ≠ 0 := fun he => h (he ▸ hroom)
      have heq : sink.room = some room := hroom
      unfold size
      rw [heq]
      simp only [List.length_cons]
      omega
    obtain ⟨size, hsize⟩ : ∃ size, sink.size (b :: rest) = size + 1 := by
      apply Nat.exists_eq_add_one.2
      unfold size
      split
      next => simp only [List.length_cons]; omega
      next room heq =>
        have := (hroom room heq).1
        simp only [List.length_cons]
        omega
    rw [hsize] at hle hroom
    have htake : ((b :: rest).take (size + 1)).length = size + 1 := by
      rw [List.length_take]
      omega
    refine ⟨size, fun room hr => Nat.le_trans (Nat.le_of_eq htake) (hroom room hr).2, ?_⟩
    rw [offer, if_neg h]
    rcases sink with ⟨written, _ | room, fault, portion⟩
    · simp only [hsize, after, taken, Option.map_none]
    · have hmin : ((b :: rest).take (size + 1)).take room = (b :: rest).take (size + 1) :=
        List.take_of_length_le (Nat.le_trans (Nat.le_of_eq htake) (hroom room rfl).2)
      simp only [hsize, after, taken, Option.map_some, hmin, htake]

instance (sink : Sink) (bytes : List UInt8) : Decidable (sink.HasRoom bytes) :=
  inferInstanceAs (Decidable (∀ room ∈ sink.room, bytes.length ≤ room))

/-- Writing puts into a sink what it has room for, in whatever portions it takes the bytes, and
fails if that is not all. -/
theorem writeBytes_eq (sink : Sink) (bytes : List UInt8) :
    sink.writeBytes bytes
      = (sink.after bytes, if sink.HasRoom bytes then .ok () else .error sink.fault) := by
  induction sink, bytes using writeBytes.induct with
  | case1 sink =>
    have hroom : sink.HasRoom [] := fun _ _ => Nat.zero_le _
    simp [writeBytes, hroom]
  | case2 sink b rest left fault h =>
    rcases sink.offer_cases b rest with ⟨hroom, hoffer⟩ | ⟨size, -, hoffer⟩
    · cases h.symm.trans hoffer
      have hno : ¬ sink.HasRoom (b :: rest) := by simp [hasRoom_iff_of_room_eq_some hroom]
      rw [writeBytes, h, after_of_room_eq_zero hroom, if_neg hno]
    · cases h.symm.trans hoffer
  | case3 sink b rest left size h ih =>
    rcases sink.offer_cases b rest with ⟨-, hoffer⟩ | ⟨size', hroom, hoffer⟩
    · cases h.symm.trans hoffer
    · cases h.symm.trans hoffer
      -- What was taken had room, so there is room for all just if there is room for what is left.
      have hsplit : (b :: rest).take (size' + 1) ++ rest.drop size' = b :: rest := by simp
      have hiff : sink.HasRoom ((b :: rest).take (size' + 1) ++ rest.drop size') ↔
          (sink.after ((b :: rest).take (size' + 1))).HasRoom (rest.drop size') :=
        hasRoom_append_iff.trans (and_iff_right hroom)
      rw [hsplit] at hiff
      rw [Nat.add_sub_cancel, fault_after, ← after_append, hsplit] at ih
      rw [writeBytes, h]
      simp only [Nat.add_sub_cancel, ih, hiff]

theorem bytes_join_cons (text : String) (rest : List String) :
    Text.bytes (String.join (text :: rest)) = Text.bytes text ++ Text.bytes (String.join rest) := by
  rw [String.join_cons, Text.bytes_append]

theorem writeAll_eq (sink : Sink) (texts : List String) :
    sink.writeAll texts = sink.write (String.join texts) := by
  induction texts generalizing sink with
  | nil => simp [writeAll, write, writeBytes, Text.bytes]
  | cons text rest ih =>
    rw [writeAll, write, write, bytes_join_cons, writeBytes_eq, writeBytes_eq]
    by_cases h : sink.HasRoom (Text.bytes text)
    · simp only [h, ↓reduceIte]
      rw [ih, write, writeBytes_eq, after_append, fault_after]
      simp only [hasRoom_append_iff, h, true_and]
    · simp only [h, ↓reduceIte, after_append_of_not_hasRoom h, hasRoom_append_iff, false_and]

end Sink

namespace Command

def answer (t : FileTree) : Command → Except String String
  | getSize format arguments =>
    match (Request.ofArguments t arguments).outcome with
    | .error fault => .error ("Invalid get-size request: " ++ fault.message)
    | .ok r => .ok (r.written format)
  | help none => .ok (String.join (CommandHelp.all.map fun h => h.render ++ "\n\n"))
  | help (some name) =>
    match CommandHelp.ofName? name with
    | none => .error ("Unknown command '" ++ name ++ "'. Available commands: get-size")
    | some h => .ok (h.render ++ "\n\n")

def printContext : Command → String
  | getSize _ _ => "Failed to print the request: "
  | help _ => ""

/-- What a run leaves for its caller: the bytes in the sink, the text for the error output, and the
exit code. -/
def ending (t : FileTree) (command : Command) (sink : Sink) : List UInt8 × String × UInt8 :=
  let (sink, ran) := command.run t sink
  (sink.written, report ran.outcome)

theorem message_printFault (command : Command) (fault : SinkFault) :
    (command.printFault fault).message = command.printContext ++ fault.message := by
  cases command with
  | getSize format arguments =>
    simp only [printFault, RunFault.message, RunFault.causes, List.map_cons, Cause.message,
      List.map_nil, Text.join, printContext]
    rw [← String.toList_inj]
    simp
  | help name =>
    simp only [printFault, RunFault.message, RunFault.causes, List.map_cons, Cause.message,
      List.map_nil, Text.join, printContext]
    rw [← String.toList_inj]
    simp

theorem isClosedOutput_printFault (command : Command) (fault : SinkFault) :
    (command.printFault fault).isClosedOutput = true ↔ fault = .closed := by
  have hcause : Cause.isClosedOutput (.output fault) = true ↔ fault = .closed := by
    cases fault <;> simp [Cause.isClosedOutput]
  cases command with
  | getSize format arguments =>
    simpa [printFault, RunFault.isClosedOutput, RunFault.causes, Cause.isClosedOutput] using hcause
  | help name => simpa [printFault, RunFault.isClosedOutput, RunFault.causes] using hcause

theorem report_printFault (command : Command) (fault : SinkFault) :
    report (.error (command.printFault fault)) =
      if fault = .closed then ("", 0)
      else ("Error: " ++ command.printContext ++ fault.message ++ "\n", 1) := by
  simp only [report, isClosedOutput_printFault, message_printFault, String.append_assoc]

theorem report_request (fault : RequestFault) :
    report (.error (.request fault))
      = ("Error: " ++ ("Invalid get-size request: " ++ fault.message) ++ "\n", 1) := by
  have hmessage : (RunFault.request fault).message
      = "Invalid get-size request: " ++ fault.message := by
    rw [← String.toList_inj]
    simp [RunFault.message, RunFault.causes, Cause.message, Text.join]
  simp [report, hmessage, RunFault.isClosedOutput, RunFault.causes, Cause.isClosedOutput]

theorem report_unknownCommand (name : String) :
    report (.error (.unknownCommand name))
      = ("Error: " ++ ("Unknown command '" ++ name ++ "'. Available commands: get-size") ++ "\n",
        1) := by
  have hmessage : (RunFault.unknownCommand name).message
      = "Unknown command '" ++ name ++ "'. Available commands: get-size" := by
    have hsaid : s!"Unknown command '{name}'. Available commands: "
        ++ Text.join ", " CommandHelp.names
        = "Unknown command '" ++ name ++ "'. Available commands: " ++ "get-size" := rfl
    have hend : "'. Available commands: " ++ "get-size" = "'. Available commands: get-size" := rfl
    rw [RunFault.message, RunFault.causes, List.map_singleton, Cause.message, hsaid,
      String.append_assoc, hend]
    rfl
  simp [report, hmessage, RunFault.isClosedOutput, RunFault.causes, Cause.isClosedOutput]

theorem join_pieces (h : CommandHelp) : String.join h.pieces = h.render ++ "\n\n" := by
  simp [CommandHelp.pieces]

theorem join_flatMap_pieces (helps : List CommandHelp) :
    String.join (helps.flatMap CommandHelp.pieces)
      = String.join (helps.map fun h => h.render ++ "\n\n") := by
  induction helps with
  | nil => rfl
  | cons h rest ih =>
    rw [List.flatMap_cons, String.join_append, join_pieces, ih, List.map_cons, String.join_cons]

theorem output_cases (t : FileTree) (command : Command) :
    (∃ pieces, (command.output t).outcome = .ok pieces
      ∧ command.answer t = .ok (String.join pieces)) ∨
    ∃ fault, (command.output t).outcome = .error fault
      ∧ ∃ message, command.answer t = .error message
        ∧ report (.error fault) = ("Error: " ++ message ++ "\n", 1) := by
  cases command with
  | getSize format arguments =>
    rw [output, answer]
    cases h : (Request.ofArguments t arguments).outcome with
    | error fault =>
      have hmap : ((Request.ofArguments t arguments).mapFault RunFault.request).outcome
          = .error (.request fault) := by
        rw [Logged.outcome_mapFault, h]
        rfl
      exact .inr ⟨.request fault, by rw [Logged.andThen_of_error hmap], _, rfl,
        report_request fault⟩
    | ok r =>
      have hmap : ((Request.ofArguments t arguments).mapFault RunFault.request).outcome
          = .ok r := by
        rw [Logged.outcome_mapFault, h]
        rfl
      exact .inl ⟨r.pieces format, by rw [Logged.andThen_of_ok hmap]; rfl, rfl⟩
  | help name =>
    cases name with
    | none => exact .inl ⟨_, rfl, by rw [join_flatMap_pieces]; rfl⟩
    | some name =>
      rw [output, answer]
      cases CommandHelp.ofName? name with
      | none => exact .inr ⟨_, rfl, _, rfl, report_unknownCommand name⟩
      | some h => exact .inl ⟨_, rfl, by rw [join_pieces]⟩

/-- A run of a command that has no answer writes nothing, reports why, and fails. Any other one
writes as much of its answer as the sink has room for, in whatever portions it is taken; it fails if
that is not all and the sink is not one whose reader went away. -/
theorem ending_eq (t : FileTree) (command : Command) (written : List UInt8) (n : Nat)
    (fault : SinkFault) (portion : List UInt8 → List UInt8 → Nat) :
    command.ending t ⟨written, some n, fault, portion⟩ =
      match command.answer t with
      | .error message => (written, "Error: " ++ message ++ "\n", 1)
      | .ok text =>
        (written ++ (Text.bytes text).take n,
          if (Text.bytes text).length ≤ n ∨ fault = .closed then ("", 0)
          else ("Error: " ++ command.printContext ++ fault.message ++ "\n", 1)) := by
  rcases output_cases t command with
    ⟨pieces, hout, hanswer⟩ | ⟨reason, hout, message, hanswer, hreport⟩
  · simp only [ending, run, hout, hanswer, Sink.writeAll_eq, Sink.write, Sink.writeBytes_eq,
      Sink.after, Sink.taken]
    have hiff : Sink.HasRoom ⟨written, some n, fault, portion⟩ (Text.bytes (String.join pieces))
        ↔ (Text.bytes (String.join pieces)).length ≤ n := Sink.hasRoom_iff_of_room_eq_some rfl
    by_cases hle : (Text.bytes (String.join pieces)).length ≤ n
    · simp [hiff, hle, report]
    · simp [hiff, hle, report_printFault]
  · simp only [ending, run, hout, hanswer, hreport]

end Command

end SizeRequest

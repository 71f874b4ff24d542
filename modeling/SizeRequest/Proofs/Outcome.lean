import SizeRequest.Flag.Reading

namespace SizeRequest

variable {ε δ α β γ : Type}

@[simp] theorem mapError_error (f : ε → δ) (fault : ε) :
    (.error fault : Except ε α).mapError f = .error (f fault) := rfl

@[simp] theorem mapError_ok (f : ε → δ) (a : α) :
    (.ok a : Except ε α).mapError f = .ok a := rfl

theorem mapError_eq_ok_iff {x : Except ε α} {f : ε → δ} {a : α} :
    x.mapError f = .ok a ↔ x = .ok a := by
  cases x with
  | error fault => simp
  | ok b => simp

theorem mapError_eq_error_iff {x : Except ε α} {f : ε → δ} {fault : δ} :
    x.mapError f = .error fault ↔ ∃ cause, x = .error cause ∧ fault = f cause := by
  cases x with
  | error cause => simp [eq_comm]
  | ok b => simp

theorem toOption_map (f : α → β) (x : Except ε α) : (x.map f).toOption = x.toOption.map f := by
  cases x <;> rfl

theorem toOption_mapError (f : ε → δ) (x : Except ε α) :
    (x.mapError f).toOption = x.toOption := by
  cases x <;> rfl

theorem toOption_eq_some_iff {x : Except ε α} {a : α} : x.toOption = some a ↔ x = .ok a := by
  cases x with
  | error fault => simp [Except.toOption]
  | ok b => simp [Except.toOption]

theorem toOption_eq_none_iff {x : Except ε α} : x.toOption = none ↔ ∃ fault, x = .error fault := by
  cases x with
  | error fault => simp [Except.toOption]
  | ok b => simp [Except.toOption]

theorem isOk_iff {x : Except ε α} : x.isOk = true ↔ ∃ a, x = .ok a := by
  cases x with
  | error fault => simp [Except.isOk, Except.toBool]
  | ok a => simp [Except.isOk, Except.toBool]

namespace Logged

@[simp] theorem outcome_mapFault (x : Logged ε α) (f : ε → δ) :
    (x.mapFault f).outcome = x.outcome.mapError f := rfl

@[simp] theorem outcome_silent (outcome : Except ε α) : (silent outcome).outcome = outcome := rfl

@[simp] theorem outcome_log (event : Event) : (log event : Logged ε Unit).outcome = .ok () := rfl

@[simp] theorem outcome_done (a : α) : (done a : Logged ε α).outcome = .ok a := rfl

@[simp] theorem outcome_fail (fault : ε) : (fail fault : Logged ε α).outcome = .error fault := rfl

theorem outcome_andThen (x : Logged ε α) (next : α → Logged ε β) :
    (x.andThen next).outcome = x.outcome.bind fun a => (next a).outcome := by
  rcases x with ⟨events, fault | a⟩ <;> rfl

theorem outcome_andThen_eq_ok_iff {x : Logged ε α} {next : α → Logged ε β} {b : β} :
    (x.andThen next).outcome = .ok b ↔ ∃ a, x.outcome = .ok a ∧ (next a).outcome = .ok b := by
  cases h : x.outcome with
  | error fault => simp [andThen_of_error h]
  | ok a => simp [andThen_of_ok h]

@[simp] theorem outcome_log_andThen (event : Event) (next : Unit → Logged ε β) :
    ((log event).andThen next).outcome = (next ()).outcome := rfl

/-- What a computation logs and how it ends, without its value. -/
def course (x : Logged ε α) : Logged ε Unit := ⟨x.events, x.outcome.map fun _ => ()⟩

theorem outcome_course_eq_error_iff {x : Logged ε α} {fault : ε} :
    x.course.outcome = .error fault ↔ x.outcome = .error fault := by
  rcases x with ⟨events, fault' | a⟩ <;> simp [course, Except.map]

theorem andThen_assoc (x : Logged ε α) (f : α → Logged ε β) (g : β → Logged ε γ) :
    (x.andThen f).andThen g = x.andThen fun a => (f a).andThen g := by
  rcases x with ⟨events, fault | a⟩
  · rfl
  · rcases hf : f a with ⟨more, fault | b⟩ <;> simp [andThen, hf]

theorem mapFault_andThen (f : ε → δ) (x : Logged ε α) (next : α → Logged ε β) :
    (x.andThen next).mapFault f = (x.mapFault f).andThen fun a => (next a).mapFault f := by
  rcases x with ⟨events, fault | a⟩ <;> rfl

theorem done_andThen (a : α) (next : α → Logged ε β) : (done a).andThen next = next a := by
  simp [andThen, done]

theorem andThen_eq_course_andThen {x : Logged ε α} {next : α → Logged ε β} {rest : Logged ε β}
    (h : ∀ a, x.outcome = .ok a → next a = rest) :
    x.andThen next = x.course.andThen fun _ => rest := by
  rcases x with ⟨events, fault | a⟩
  · rfl
  · simp [andThen, course, Except.map, h a rfl]

/-- A computation that logs nothing when it fails. -/
def FailsSilently (x : Logged ε α) : Prop := ∀ fault, x.outcome = .error fault → x.events = []

theorem failsSilently_silent (outcome : Except ε α) : (silent outcome).FailsSilently :=
  fun _ _ => rfl

theorem failsSilently_log (event : Event) : (log event : Logged ε Unit).FailsSilently := by
  rintro fault ⟨⟩

theorem FailsSilently.mapFault {x : Logged ε α} (h : x.FailsSilently) (f : ε → δ) :
    (x.mapFault f).FailsSilently := by
  intro fault hfault
  rw [outcome_mapFault, mapError_eq_error_iff] at hfault
  obtain ⟨cause, hcause, -⟩ := hfault
  exact h cause hcause

theorem FailsSilently.course {x : Logged ε α} (h : x.FailsSilently) : x.course.FailsSilently :=
  fun fault hfault => h fault (outcome_course_eq_error_iff.1 hfault)

end Logged

namespace Reading

/-- What two steps that read flags log and how they end, as if no flags were passed on. -/
theorem snd_andThen (x : Reading α) (next : α → Reading β) (flags : Flags) :
    ((x.andThen next) flags).2 = (x flags).2.andThen fun a => (next a (x flags).1).2 := by
  unfold andThen Logged.andThen
  rcases x flags with ⟨left, events, fault | a⟩ <;> rfl

theorem fst_andThen_of_ok {x : Reading α} {flags : Flags} {a : α}
    (h : (x flags).2.outcome = .ok a) (next : α → Reading β) :
    ((x.andThen next) flags).1 = (next a (x flags).1).1 := by
  unfold andThen
  rcases hx : x flags with ⟨left, events, fault | b⟩
  · rw [hx] at h
    cases h
  · rw [hx] at h
    cases h
    rfl

theorem fst_andThen_of_error {x : Reading α} {flags : Flags} {fault : FlagFault}
    (h : (x flags).2.outcome = .error fault) (next : α → Reading β) :
    ((x.andThen next) flags).1 = (x flags).1 := by
  unfold andThen
  rcases hx : x flags with ⟨left, events, fault' | b⟩
  · rfl
  · rw [hx] at h
    cases h

theorem outcome_andThen_eq_ok_iff {x : Reading α} {next : α → Reading β} {flags : Flags} {b : β} :
    ((x.andThen next) flags).2.outcome = .ok b ↔
      ∃ a, (x flags).2.outcome = .ok a ∧ (next a (x flags).1).2.outcome = .ok b := by
  rw [snd_andThen, Logged.outcome_andThen_eq_ok_iff]

end Reading

end SizeRequest

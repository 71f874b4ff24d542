import SizeRequest.Proofs.CommandLine

namespace SizeRequest.CommandLine

/-- A text that `get-size` takes for a flag to pass on, where no value is due. It does not start
with a dash, or two dashes stand before a name that no option has, or one dash before letters of
which one is no option's, or before nothing. The escape is not such a text. -/
def IsOperand (text : String) : Prop :=
  match text.toList with
  | '-' :: '-' :: body =>
    body ≠ [] ∧ ∀ o ∈ Scope.getSize.options, o.name ≠ (Flag.ofBody body).name
  | '-' :: letters =>
    letters = [] ∨ ∃ letter ∈ letters, ∀ o ∈ Scope.getSize.options, o.letter? ≠ some letter
  | _ => True

def asked (given : List Given) (flags : List String) : CommandLine where
  logLevel := (given.filterMap Given.level?).getLastD .warn
  verbose := given.any Given.isVerbose
  command := .getSize ((given.filterMap Given.format?).getLastD .text) flags

theorem Scope.ofName?_eq_none_iff {scope : Scope} {name : String} :
    scope.ofName? name = none ↔ ∀ o ∈ scope.options, o.name ≠ name := by
  simp [Scope.ofName?]

theorem Scope.ofLetter?_eq_none_iff {scope : Scope} {letter : Char} :
    scope.ofLetter? letter = none ↔ ∀ o ∈ scope.options, o.letter? ≠ some letter := by
  simp [Scope.ofLetter?]

theorem Shape.of_plain {argument : String} (h : ∀ letters, argument.toList ≠ '-' :: letters) :
    Shape.of argument = .plain := by
  unfold Shape.of
  split
  next hlist => exact absurd hlist (h _)
  next hlist => exact absurd hlist (h _)
  next hlist => exact absurd hlist (h _)
  next => rfl

namespace Progress

section Step

variable {p : Progress} {argument : String}

theorem map_option_ne_operand (read : Except Refusal Progress) :
    read.map Step.option ≠ .ok .operand := by
  cases read <;> simp [Except.map]

variable (hdue : p.awaits = none)

include hdue

theorem step_dashes_eq_operand_iff {c : Char} {body : List Char}
    (hargument : argument.toList = '-' :: '-' :: c :: body) (later : List String) :
    p.step .getSize argument later = .ok .operand ↔
      ∀ o ∈ Scope.getSize.options, o.name ≠ (Flag.ofBody (c :: body)).name := by
  rw [← Scope.ofName?_eq_none_iff]
  simp only [step, Shape.of_dashes hargument, hdue]
  cases Scope.getSize.ofName? (Flag.ofBody (c :: body)).name with
  | none => simp
  | some o => simp [map_option_ne_operand]

theorem step_letters_eq_operand_iff {c : Char} {letters : List Char} (hc : c ≠ '-')
    (hargument : argument.toList = '-' :: c :: letters) (later : List String) :
    p.step .getSize argument later = .ok .operand ↔
      ∃ letter ∈ c :: letters, ∀ o ∈ Scope.getSize.options, o.letter? ≠ some letter := by
  have hshape : Shape.of argument = .letters (c :: letters) := by
    simp [Shape.of, hargument, hc]
  have hall : (c :: letters).all (fun letter => (Scope.getSize.ofLetter? letter).isSome) = false ↔
      ∃ letter ∈ c :: letters, ∀ o ∈ Scope.getSize.options, o.letter? ≠ some letter := by
    simp only [List.all_eq_false, Bool.not_eq_true, Option.isSome_eq_false_iff,
      Option.isNone_iff_eq_none, Scope.ofLetter?_eq_none_iff]
  rw [← hall]
  simp only [step, hshape, hdue]
  cases (c :: letters).all fun letter => (Scope.getSize.ofLetter? letter).isSome with
  | false => simp
  | true => simp [map_option_ne_operand]

theorem step_plain_eq_operand (hshape : Shape.of argument = .plain) (later : List String) :
    p.step .getSize argument later = .ok .operand := by
  simp only [step, hshape, hdue]

theorem step_eq_operand_iff (later : List String) :
    p.step .getSize argument later = .ok .operand ↔ IsOperand argument := by
  unfold IsOperand
  split
  next body hargument =>
    cases body with
    | nil =>
      have hshape : Shape.of argument = .escape := by simp [Shape.of, hargument]
      simp [step, hshape]
    | cons c body =>
      rw [step_dashes_eq_operand_iff hdue hargument]
      simp
  next letters hno hargument =>
    cases letters with
    | nil =>
      have hshape : Shape.of argument = .plain := by simp [Shape.of, hargument]
      simp [step_plain_eq_operand hdue hshape]
    | cons c letters =>
      have hc : c ≠ '-' := fun hc => hno letters (hc ▸ rfl)
      rw [step_letters_eq_operand_iff hdue hc hargument]
      simp
  next hno =>
    simp [step_plain_eq_operand hdue (Shape.of_plain hno)]

end Step

end Progress

open Progress (Settles)

theorem map_pair_eq_ok_iff {read : Except Refusal Progress} {q : Progress}
    {flags flags' : List String} :
    read.map (·, flags) = .ok (q, flags') ↔ read = .ok q ∧ flags = flags' := by
  cases read <;> simp [Except.map]

theorem isSuffix_of_readGetSize {p q : Progress} {arguments flags : List String}
    (h : readGetSize p arguments = .ok (q, flags)) : flags <:+ arguments := by
  induction arguments generalizing p with
  | nil =>
    rw [readGetSize, map_pair_eq_ok_iff] at h
    obtain ⟨-, rfl⟩ := h
    exact List.nil_suffix
  | cons argument rest ih =>
    rw [readGetSize] at h
    cases hstep : p.step .getSize argument rest with
    | error refusal => simp [hstep] at h
    | ok step =>
      rw [hstep] at h
      cases step with
      | option p' => exact (ih h).trans (List.suffix_cons argument rest)
      | escape =>
        obtain ⟨-, rfl⟩ := map_pair_eq_ok_iff.1 h
        exact List.suffix_cons argument _
      | operand =>
        obtain ⟨-, rfl⟩ := map_pair_eq_ok_iff.1 h
        exact List.suffix_rfl

section Read

variable {p q : Progress} {first : String} {rest : List String}

theorem readGetSize_of_isOperand (h : Settles .getSize p q) (hfirst : IsOperand first) :
    readGetSize p (first :: rest) = .ok (q, first :: rest) := by
  have hstep := (Progress.step_eq_operand_iff h.notDue rest).2 hfirst
  rw [readGetSize, hstep]
  simp only [h.settled]
  rfl

/-- An option or the escape is not passed on itself. -/
theorem isOperand_of_readGetSize (hdue : p.awaits = none)
    (h : readGetSize p (first :: rest) = .ok (q, first :: rest)) : IsOperand first := by
  -- Behind an option or the escape less is left than what is to be passed on.
  have hshort : ¬ first :: rest <:+ rest := by
    intro hsuffix
    exact Nat.not_succ_le_self _ hsuffix.length_le
  rw [readGetSize] at h
  cases hstep : p.step .getSize first rest with
  | error refusal => simp [hstep] at h
  | ok step =>
    rw [hstep] at h
    cases step with
    | option p' => exact absurd (isSuffix_of_readGetSize h) hshort
    | escape =>
      have hsame := (map_pair_eq_ok_iff.1 h).2
      exact absurd (hsame ▸ List.suffix_rfl) hshort
    | operand => exact (Progress.step_eq_operand_iff hdue rest).1 hstep

end Read

theorem parse_getSize (program : String) (arguments : List String) :
    parse (program :: "get-size" :: arguments) =
      (readGetSize {} arguments).map fun (after, flags) =>
        combine {} after (.getSize (after.output.getD .text) flags) := by
  have hcommand : parse (program :: "get-size" :: arguments) =
      readCommand {} .getSize arguments := rfl
  rw [hcommand, readCommand]
  cases readGetSize {} arguments <;> rfl

theorem combine_asked (given : List Given) (flags : List String) :
    combine {} (given.foldl Progress.give {})
      (.getSize ((given.foldl Progress.give {}).output.getD .text) flags) = asked given flags := by
  have hcombine := combine_given [] given
    (.getSize ((given.filterMap Given.format?).getLastD .text) flags)
  rw [Progress.output_foldl_give]
  simpa [asked, List.getLastD_eq_getLast?] using hcombine

theorem parse_getSize_of_read {arguments flags : List String} {given : List Given}
    (h : readGetSize {} arguments = .ok (given.foldl Progress.give {}, flags)) (program : String) :
    parse (program :: "get-size" :: arguments) = .ok (asked given flags) := by
  rw [parse_getSize, h, ← combine_asked]
  rfl

theorem exists_read_of_parse_getSize {program : String} {arguments flags : List String}
    {given : List Given}
    (h : parse (program :: "get-size" :: arguments) = .ok (asked given flags)) :
    ∃ q, readGetSize {} arguments = .ok (q, flags) := by
  rw [parse_getSize] at h
  cases hread : readGetSize {} arguments with
  | error refusal =>
    rw [hread] at h
    cases h
  | ok read =>
    rw [hread] at h
    have hcommand := congrArg CommandLine.command (Except.ok.inj h)
    have hflags : read.2 = flags := (Command.getSize.inj hcommand).2
    exact ⟨read.1, by rw [← hflags]⟩

/-- The escape before the flags can be left out just if the first flag is not read as an option or
as the escape. The same is then asked for without it, and all flags are passed on as they are, also
those behind the first that look like options or are the escape. -/
theorem escape_left_out_iff (program : String) {given : List Given}
    (hd : (given.map Given.option).Nodup) (first : String) (rest : List String) :
    parse (program :: "get-size" :: (given.flatMap Given.arguments ++ "--" :: first :: rest)) =
        .ok (asked given (first :: rest)) ∧
      (parse (program :: "get-size" :: (given.flatMap Given.arguments ++ first :: rest)) =
        .ok (asked given (first :: rest)) ↔ IsOperand first) := by
  obtain ⟨p, hsteps, hsettles⟩ := exists_steps_getSize hd
  refine ⟨parse_getSize_of_read (readGetSize_given hd _) program, ?_, ?_⟩
  · intro h
    obtain ⟨q, hread⟩ := exists_read_of_parse_getSize h
    rw [readGetSize_append hsteps] at hread
    exact isOperand_of_readGetSize hsettles.notDue hread
  · intro hfirst
    apply parse_getSize_of_read
    rw [readGetSize_append hsteps]
    exact readGetSize_of_isOperand hsettles hfirst

theorem flags_passed_on_without_escape :
    parse ["apksize", "get-size", "--output", "json", "-v", "--apks=a.apks", "--", "-v", "--help",
        "--output=json", "--log-level=trace"] =
      .ok ⟨.warn, true, .getSize .json
        ["--apks=a.apks", "--", "-v", "--help", "--output=json", "--log-level=trace"]⟩ ∧
    parse ["apksize", "get-size", "--output", "json", "-v", "--log-level=trace", "--apks=a.apks"] ≠
      .ok ⟨.warn, true, .getSize .json ["--log-level=trace", "--apks=a.apks"]⟩ := by
  have hd : ([Given.output .json false, Given.verbose true].map Given.option).Nodup := by
    simp [Given.option]
  constructor
  · exact (escape_left_out_iff "apksize" hd "--apks=a.apks"
      ["--", "-v", "--help", "--output=json", "--log-level=trace"]).2.2
      ⟨List.cons_ne_nil _ _, by decide⟩
  · intro h
    have hfirst := (escape_left_out_iff "apksize" hd "--log-level=trace" ["--apks=a.apks"]).2.1 h
    exact hfirst.2 .logLevel (by decide) rfl

end SizeRequest.CommandLine

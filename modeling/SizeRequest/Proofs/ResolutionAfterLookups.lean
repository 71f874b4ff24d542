import SizeRequest.Proofs.Lookups

namespace SizeRequest

def FlagFault.flag? : FlagFault → Option String
  | missing flag => some flag
  | invalidValue flag _ => some flag
  | _ => none

namespace KnownFlag

variable {α : Type}

theorem flag?_of_read (flag : KnownFlag α) {flags : Flags} {fault : FlagFault}
    (h : (flag.read flags).2.outcome = .error fault) : fault.flag? = some flag.name := by
  unfold read at h
  split at h
  next => cases h
  next value hvalue =>
    cases hconvert : flag.convert value with
    | error cause =>
      rw [hconvert] at h
      cases h
      rfl
    | ok a =>
      rw [hconvert] at h
      cases h

theorem flag?_of_readRequired (flag : KnownFlag α) {flags : Flags} {fault : FlagFault}
    (h : (flag.readRequired flags).2.outcome = .error fault) : fault.flag? = some flag.name := by
  rw [readRequired, Reading.snd_andThen, Logged.outcome_andThen] at h
  cases hread : (flag.read flags).2.outcome with
  | error cause =>
    rw [hread] at h
    cases h
    exact flag.flag?_of_read hread
  | ok found =>
    rw [hread] at h
    cases found with
    | none =>
      cases h
      rfl
    | some a => cases h

end KnownFlag

/-- Which of some names are marked when these are looked up in order and the lookups end with an
outcome: those up to the flag that its fault is about, or all of them. -/
inductive MarkedUpTo {α : Type} : List String → Except FlagFault α → List String → Prop
  | fails {before after : List String} {name : String} {fault : FlagFault} :
      fault.flag? = some name →
      MarkedUpTo (before ++ name :: after) (.error fault) (before ++ [name])
  | succeeds {names : List String} {a : α} : MarkedUpTo names (.ok a) names

theorem MarkedUpTo.of_error {α : Type} {names marked : List String} {fault : FlagFault}
    (h : MarkedUpTo names (.error fault : Except FlagFault α) marked) :
    ∃ k name, names[k]? = some name ∧ fault.flag? = some name ∧ marked = names.take (k + 1) := by
  cases h with
  | @fails before after name _ hflag =>
    refine ⟨before.length, name, by simp, hflag, ?_⟩
    simp [List.take_append, List.take_of_length_le]

theorem MarkedUpTo.of_ok {α : Type} {names marked : List String} {a : α}
    (h : MarkedUpTo names (.ok a) marked) : marked = names := by
  cases h
  rfl

theorem MarkedUpTo.cons {α β : Type} {name : String} {x : Except FlagFault α}
    {next : α → Except FlagFault β} {names : List String} {rest : List (String × Bool)}
    (hx : ∀ fault, x = .error fault → fault.flag? = some name)
    (hnext : ∀ a, MarkedUpTo names (next a) (upToFailure rest)) :
    MarkedUpTo (name :: names) (x.bind next) (upToFailure ((name, x.isOk) :: rest)) := by
  cases x with
  | error fault => exact @MarkedUpTo.fails β [] names name fault (hx fault rfl)
  | ok a =>
    have hlater := hnext a
    change MarkedUpTo (name :: names) (next a) (name :: upToFailure rest)
    generalize next a = outcome, upToFailure rest = marked at hlater
    cases hlater with
    | @fails before after blamed fault hflag =>
      exact @MarkedUpTo.fails β (name :: before) after blamed fault hflag
    | succeeds => exact .succeeds

theorem upToFailure_sublist (lookups : List (String × Bool)) :
    (upToFailure lookups).Sublist (lookups.map Prod.fst) := by
  induction lookups with
  | nil => exact .slnil
  | cons lookup rest ih =>
    rw [upToFailure, List.map_cons]
    apply List.Sublist.cons_cons
    cases lookup.2 with
    | true => exact ih
    | false => exact List.nil_sublist _

namespace Logged

variable {ε α β : Type}

def BlamesNoFlag (x : Logged RequestFault α) : Prop :=
  ∀ fault, x.outcome ≠ .error (.flag fault)

theorem BlamesNoFlag.andThen {x : Logged RequestFault α} {next : α → Logged RequestFault β}
    (hx : x.BlamesNoFlag) (hnext : ∀ a, (next a).BlamesNoFlag) : (x.andThen next).BlamesNoFlag := by
  intro fault h
  cases houtcome : x.outcome with
  | error cause =>
    rw [andThen_of_error houtcome] at h
    cases h
    exact hx fault houtcome
  | ok a =>
    rw [andThen_of_ok houtcome] at h
    exact hnext a fault h

theorem BlamesNoFlag.mapFault {x : Logged ε α} {f : ε → RequestFault}
    (hf : ∀ cause fault, f cause ≠ .flag fault) : (x.mapFault f).BlamesNoFlag := by
  intro fault h
  rw [outcome_mapFault, mapError_eq_error_iff] at h
  obtain ⟨cause, -, hcause⟩ := h
  exact hf cause fault hcause.symm

end Logged

namespace Request

def given (supplied : List Flag) : Logged FlagFault Inputs :=
  let flags : Flags := ⟨supplied, []⟩
  (archiveFlag.readRequired flags).2.andThen fun archive =>
  (specFlag.read flags).2.andThen fun specPath =>
  (modulesFlag.read flags).2.andThen fun modules =>
  (instantFlag.read flags).2.andThen fun instant =>
  (dimensionsFlag.read flags).2.andThen fun dimensions =>
  .done ⟨archive, specPath, modules, dimensions.getD .empty, instant⟩

theorem givenBy_of_outcome_given {supplied : List Flag} {inputs : Inputs}
    (h : (given supplied).outcome = .ok inputs) : inputs.GivenBy ⟨supplied, []⟩ := by
  simp only [given, Logged.outcome_andThen_eq_ok_iff, KnownFlag.outcome_readRequired_eq_ok_iff,
    Logged.outcome_done, Except.ok.injEq] at h
  obtain ⟨archive, harchive, path, hpath, modules, hmodules, instant, hinstant, dimensions,
    hdimensions, rfl⟩ := h
  exact ⟨harchive, hpath, hmodules, hinstant, dimensions, hdimensions, rfl⟩

theorem markedUpTo_given (supplied : List Flag) :
    MarkedUpTo flagNames (given supplied).outcome (upToFailure (lookups supplied)) := by
  simp only [given, lookups, flagNames, Logged.outcome_andThen]
  refine .cons (fun _ hfault => archiveFlag.flag?_of_readRequired hfault) fun _ => ?_
  refine .cons (fun _ hfault => specFlag.flag?_of_read hfault) fun _ => ?_
  refine .cons (fun _ hfault => modulesFlag.flag?_of_read hfault) fun _ => ?_
  refine .cons (fun _ hfault => instantFlag.flag?_of_read hfault) fun _ => ?_
  refine .cons (fun _ hfault => dimensionsFlag.flag?_of_read hfault) fun _ => ?_
  exact .succeeds

def unknown (flags : Flags) : List String :=
  (flags.supplied.map Flag.name).filter fun name => name ∉ flagNames ∧ name ∉ flags.asked

theorem readInputs_snd (flags : Flags) :
    (readInputs flags).2 = (given flags.supplied).andThen fun inputs =>
      (Logged.silent (flagNames.foldl Flags.ask flags).checkAllAsked).andThen fun _ =>
        .done inputs := by
  simp only [readInputs, given, Reading.snd_andThen, Logged.andThen_assoc, Logged.done_andThen,
    KnownFlag.readRequired_fst, KnownFlag.read_fst, KnownFlag.read_ask_snd]
  rw [KnownFlag.readRequired_snd]
  rfl

/-- A request is resolved in three stages: its flags are read, then there must be no unknown names
left, and then it is built. -/
theorem ofFlags_snd_eq_stages (t : FileTree) (flags : Flags) :
    (ofFlags t flags).2 = ((given flags.supplied).mapFault .flag).andThen fun inputs =>
      match unknown flags with
      | [] => build t inputs
      | names => .fail (.flag (.unrecognized names)) := by
  have hunasked : (flagNames.foldl Flags.ask flags).unasked = unknown flags :=
    Check.unasked_foldl_ask flags flagNames
  have hbuilt : (ofFlags t flags).2 =
      ((readInputs flags).2.mapFault .flag).andThen (build t) := rfl
  rw [hbuilt, readInputs_snd, Flags.checkAllAsked, hunasked, Logged.mapFault_andThen,
    Logged.andThen_assoc]
  congr 1
  funext inputs
  cases unknown flags with
  | nil => rfl
  | cons name rest => rfl

theorem ofFlags_snd_congr_unknown {t : FileTree} {flags flags' : Flags}
    (hsupplied : flags'.supplied = flags.supplied) (hunknown : unknown flags' = unknown flags) :
    (ofFlags t flags').2 = (ofFlags t flags).2 := by
  rw [ofFlags_snd_eq_stages, ofFlags_snd_eq_stages, hsupplied, hunknown]

section Stages

variable (t : FileTree) {flags : Flags}

theorem ofFlags_snd_of_given_error {fault : FlagFault}
    (h : (given flags.supplied).outcome = .error fault) :
    (ofFlags t flags).2 = ⟨(given flags.supplied).events, .error (.flag fault)⟩ := by
  have herror : ((given flags.supplied).mapFault RequestFault.flag).outcome =
      .error (.flag fault) := by rw [Logged.outcome_mapFault, h, mapError_error]
  rw [ofFlags_snd_eq_stages, Logged.andThen_of_error herror]
  rfl

variable {inputs : Inputs} (h : (given flags.supplied).outcome = .ok inputs)

include h

theorem ofFlags_snd_of_unknown (hunknown : unknown flags ≠ []) :
    (ofFlags t flags).2 =
      ⟨(given flags.supplied).events, .error (.flag (.unrecognized (unknown flags)))⟩ := by
  have hok : ((given flags.supplied).mapFault RequestFault.flag).outcome = .ok inputs := by
    rw [Logged.outcome_mapFault, h, mapError_ok]
  rw [ofFlags_snd_eq_stages, Logged.andThen_of_ok hok]
  obtain ⟨name, rest, hnames⟩ := List.exists_cons_of_ne_nil hunknown
  simp [hnames, Logged.fail, Logged.mapFault]

theorem ofFlags_snd_of_no_unknown (hunknown : unknown flags = []) :
    (ofFlags t flags).2 =
      ⟨(given flags.supplied).events ++ (build t inputs).events, (build t inputs).outcome⟩ := by
  have hok : ((given flags.supplied).mapFault RequestFault.flag).outcome = .ok inputs := by
    rw [Logged.outcome_mapFault, h, mapError_ok]
  rw [ofFlags_snd_eq_stages, Logged.andThen_of_ok hok, hunknown]
  rfl

end Stages

theorem blamesNoFlag_build (t : FileTree) (inputs : Inputs) : (build t inputs).BlamesNoFlag := by
  have hcheck (path : Path) : ((t.check path).mapFault RequestFault.file).BlamesNoFlag :=
    .mapFault nofun
  have hspec : (DeviceSpec.resolve t inputs.specPath).BlamesNoFlag := by
    cases inputs.specPath with
    | none => exact .andThen nofun fun _ => nofun
    | some path => exact .andThen (hcheck path) fun _ => .mapFault nofun
  have hdimensions : (Dimension.expandLogged (ε := RequestFault) inputs.dimensions).BlamesNoFlag := by
    intro fault
    rw [Dimension.outcome_expandLogged]
    nofun
  exact .andThen (hcheck _) fun _ => .andThen hspec fun _ => .andThen hdimensions fun _ =>
    .andThen nofun fun _ => nofun

/-- The names that are marked when a request ends with an outcome: the first ones up to the flag that
its fault is about, and in every other case all of them. -/
inductive Marked : Except RequestFault Request → List String → Prop
  | upTo {k : Nat} {name : String} {fault : FlagFault} : flagNames[k]? = some name →
      fault.flag? = some name → Marked (.error (.flag fault)) (flagNames.take (k + 1))
  | all {outcome : Except RequestFault Request} :
      (∀ fault, outcome = .error (.flag fault) → fault.flag? = none) → Marked outcome flagNames

theorem marked_ofFlags (t : FileTree) (flags : Flags) :
    Marked (ofFlags t flags).2.outcome (upToFailure (lookups flags.supplied)) := by
  have hmarked := markedUpTo_given flags.supplied
  cases hgiven : (given flags.supplied).outcome with
  | error fault =>
    rw [hgiven] at hmarked
    obtain ⟨k, name, hname, hflag, hnames⟩ := hmarked.of_error
    rw [ofFlags_snd_of_given_error t hgiven, hnames]
    exact .upTo hname hflag
  | ok inputs =>
    rw [hgiven] at hmarked
    rw [hmarked.of_ok]
    apply Marked.all
    intro fault hfault
    by_cases hunknown : unknown flags = []
    · rw [ofFlags_snd_of_no_unknown t hgiven hunknown] at hfault
      exact absurd hfault (blamesNoFlag_build t inputs fault)
    · rw [ofFlags_snd_of_unknown t hgiven hunknown] at hfault
      cases hfault
      rfl

/-- What becomes of the result for fresh flags when some names were looked up before. Unknown flags
of these names are left out, and if there are no others, the files are looked at. -/
inductive Excused (t : FileTree) (supplied : List Flag) (known : List String) :
    Logged RequestFault Request → Logged RequestFault Request → Prop
  | same {result : Logged RequestFault Request} :
      (∀ names, result.outcome ≠ .error (.flag (.unrecognized names))) →
      Excused t supplied known result result
  | fewer {events : List Event} {names : List String} : names.filter (· ∉ known) ≠ [] →
      Excused t supplied known ⟨events, .error (.flag (.unrecognized names))⟩
        ⟨events, .error (.flag (.unrecognized (names.filter (· ∉ known))))⟩
  | none {events : List Event} {names : List String} {inputs : Inputs} :
      names.filter (· ∉ known) = [] → inputs.GivenBy ⟨supplied, []⟩ →
      Excused t supplied known ⟨events, .error (.flag (.unrecognized names))⟩
        ⟨events ++ (build t inputs).events, (build t inputs).outcome⟩

theorem excused_ofFlags (t : FileTree) {flags : Flags} {known : List String}
    (hasked : ∀ name, name ∈ flags.asked ↔ name ∈ known) :
    Excused t flags.supplied known (ofFlags t ⟨flags.supplied, []⟩).2 (ofFlags t flags).2 := by
  have hunknown : unknown flags = (unknown ⟨flags.supplied, []⟩).filter (· ∉ known) := by
    rw [unknown, unknown, List.filter_filter]
    apply List.filter_congr
    intro name _
    simp [hasked, and_comm]
  cases hgiven : (given flags.supplied).outcome with
  | error fault =>
    have hfresh : (given (Flags.mk flags.supplied []).supplied).outcome = .error fault := hgiven
    rw [ofFlags_snd_of_given_error t hgiven, ofFlags_snd_of_given_error t hfresh]
    -- A flag that cannot be read is found before the unknown ones are, whatever was looked up.
    apply Excused.same
    intro names hnames
    have hmarked := markedUpTo_given flags.supplied
    rw [hgiven] at hmarked
    obtain ⟨_, _, _, hflag, -⟩ := hmarked.of_error
    cases hnames
    cases hflag
  | ok inputs =>
    have hfresh : (given (Flags.mk flags.supplied []).supplied).outcome = .ok inputs := hgiven
    by_cases hnames : unknown ⟨flags.supplied, []⟩ = []
    · have hnone : unknown flags = [] := by rw [hunknown, hnames, List.filter_nil]
      rw [ofFlags_snd_of_no_unknown t hgiven hnone, ofFlags_snd_of_no_unknown t hfresh hnames]
      apply Excused.same
      intro names
      exact blamesNoFlag_build t inputs _
    · rw [ofFlags_snd_of_unknown t hfresh hnames]
      by_cases hleft : unknown flags = []
      · rw [ofFlags_snd_of_no_unknown t hgiven hleft]
        exact .none (hunknown ▸ hleft) (givenBy_of_outcome_given hgiven)
      · rw [ofFlags_snd_of_unknown t hgiven hleft, hunknown]
        exact .fewer (hunknown ▸ hleft)

theorem ofFlags_again (t : FileTree) (flags : Flags) :
    (ofFlags t (ofFlags t flags).1).2 = (ofFlags t flags).2 := by
  obtain ⟨hsupplied, hasked⟩ := looksUp_readInputs flags
  have hknown : ∀ name ∈ upToFailure (lookups flags.supplied), name ∈ flagNames := by
    intro name hname
    exact (upToFailure_sublist (lookups flags.supplied)).mem hname
  have hasked' (name : String) (hother : name ∉ flagNames) :
      name ∈ (ofFlags t flags).1.asked ↔ name ∈ flags.asked :=
    (hasked name).trans (or_iff_left fun hname => hother (hknown name hname))
  have hsupplied' : (ofFlags t flags).1.supplied = flags.supplied := hsupplied
  apply ofFlags_snd_congr_unknown hsupplied'
  rw [unknown, unknown, hsupplied']
  apply List.filter_congr
  intro name _
  rw [decide_eq_decide]
  apply and_congr_right
  intro hother
  rw [hasked' name hother]

/-- After any operations on flags a request is resolved as from the fresh flags, but for the unknown
names that were looked up. It marks just the names up to the flag that it fails on, and else all of
its names, and it can be resolved again with the same result. -/
theorem resolved_after_run (t : FileTree) (supplied : List Flag) (operations : List Operation) :
    Excused t supplied (Operation.lookedUp supplied operations) (ofFlags t ⟨supplied, []⟩).2
      (ofFlags t (Operation.run ⟨supplied, []⟩ operations)).2 ∧
    (∃ marked, Marked (ofFlags t (Operation.run ⟨supplied, []⟩ operations)).2.outcome marked ∧
      ∀ name, name ∈ (ofFlags t (Operation.run ⟨supplied, []⟩ operations)).1.asked ↔
        name ∈ Operation.lookedUp supplied operations ∨ name ∈ marked) ∧
    (ofFlags t (Operation.run ⟨supplied, []⟩ operations)).1.supplied = supplied ∧
    (ofFlags t (ofFlags t (Operation.run ⟨supplied, []⟩ operations)).1).2 =
      (ofFlags t (Operation.run ⟨supplied, []⟩ operations)).2 := by
  obtain ⟨hsupplied, hasked⟩ := Operation.run_spec operations ⟨supplied, []⟩
  have hlookedUp (name : String) : name ∈ (Operation.run ⟨supplied, []⟩ operations).asked ↔
      name ∈ Operation.lookedUp supplied operations := by simp [hasked]
  generalize Operation.run ⟨supplied, []⟩ operations = flags at *
  have hmarked := marked_ofFlags t flags
  subst hsupplied
  obtain ⟨hsupplied', hasked'⟩ := looksUp_readInputs flags
  refine ⟨excused_ofFlags t hlookedUp, ⟨_, hmarked, ?_⟩, hsupplied', ofFlags_again t flags⟩
  intro name
  rw [← hlookedUp]
  exact hasked' name

theorem lookup_uncovers_missing_archive :
    Excused .scratch [⟨"zeta", none⟩, ⟨"apks", some "lost"⟩] ["zeta"]
        ⟨[.flagExtracted "apks"], .error (.flag (.unrecognized ["zeta"]))⟩
        ⟨[.flagExtracted "apks"], .error (.file (.notFound ⟨"lost"⟩))⟩ ∧
      (ofFlags .scratch (ofFlags .scratch
          ⟨[⟨"zeta", none⟩, ⟨"apks", some "lost"⟩], ["zeta"]⟩).1).2.outcome =
        .error (.file (.notFound ⟨"lost"⟩)) := by
  obtain ⟨hexcused, -, -, hagain⟩ := resolved_after_run .scratch
    [⟨"zeta", none⟩, ⟨"apks", some "lost"⟩] [.read (.boolean "zeta")]
  exact ⟨hexcused, congrArg Logged.outcome hagain⟩

end Request

end SizeRequest

import SizeRequest.Proofs.CheckFaults

namespace SizeRequest

/-- Names that are looked up one after the other, each with whether its lookup succeeds: those up to
the first failure. -/
def upToFailure : List (String × Bool) → List String
  | [] => []
  | (name, succeeds) :: rest => name :: if succeeds then upToFailure rest else []

namespace KnownFlag

variable {α : Type}

theorem read_snd (flag : KnownFlag α) (flags : Flags) :
    (flag.read flags).2 = (flag.read ⟨flags.supplied, []⟩).2 := rfl

theorem readRequired_snd_congr {flag : KnownFlag α} {flags flags' : Flags}
    (h : (flag.read flags').2 = (flag.read flags).2) :
    (flag.readRequired flags').2 = (flag.readRequired flags).2 := by
  rw [readRequired, Reading.snd_andThen, Reading.snd_andThen, h]
  congr 1
  funext found
  cases found <;> rfl

theorem readRequired_snd (flag : KnownFlag α) (flags : Flags) :
    (flag.readRequired flags).2 = (flag.readRequired ⟨flags.supplied, []⟩).2 :=
  readRequired_snd_congr (flag.read_snd flags)

end KnownFlag

namespace Reading

variable {α β : Type}

/-- A step leaves the supplied flags as they are and marks some names, whether or not it fails. -/
def LooksUp (x : Reading α) (names : List Flag → List String) : Prop :=
  ∀ flags, (x flags).1.supplied = flags.supplied ∧
    ∀ name, name ∈ (x flags).1.asked ↔ name ∈ flags.asked ∨ name ∈ names flags.supplied

theorem looksUp_done (a : α) : LooksUp (done a) fun _ => [] :=
  fun _ => ⟨rfl, fun _ => by simp [done]⟩

theorem looksUp_checkAllAsked : LooksUp checkAllAsked fun _ => [] :=
  fun _ => ⟨rfl, fun _ => by simp [checkAllAsked]⟩

theorem looksUp_read (flag : KnownFlag α) : LooksUp flag.read fun _ => [flag.name] := by
  intro flags
  simp [or_comm]

theorem looksUp_readRequired (flag : KnownFlag α) :
    LooksUp flag.readRequired fun _ => [flag.name] := by
  intro flags
  simp [or_comm]

theorem LooksUp.andThen {x : Reading α} {next : α → Reading β} {names rest : List Flag → List String}
    (hx : LooksUp x names) (hnext : ∀ a, LooksUp (next a) rest) (flags : Flags) :
    ((x.andThen next) flags).1.supplied = flags.supplied ∧
      ∀ name, name ∈ ((x.andThen next) flags).1.asked ↔
        (name ∈ flags.asked ∨ name ∈ names flags.supplied) ∨
          (x flags).2.outcome.isOk = true ∧ name ∈ rest flags.supplied := by
  obtain ⟨hsupplied, hasked⟩ := hx flags
  cases houtcome : (x flags).2.outcome with
  | error fault =>
    rw [fst_andThen_of_error houtcome]
    exact ⟨hsupplied, fun name => by simp [hasked, Except.isOk, Except.toBool]⟩
  | ok a =>
    rw [fst_andThen_of_ok houtcome]
    obtain ⟨hsupplied', hasked'⟩ := hnext a (x flags).1
    refine ⟨hsupplied'.trans hsupplied, fun name => ?_⟩
    rw [hasked', hasked, hsupplied]
    simp [Except.isOk, Except.toBool]

theorem LooksUp.andThen_nothing {x : Reading α} {next : α → Reading β}
    {names : List Flag → List String} (hx : LooksUp x names)
    (hnext : ∀ a, LooksUp (next a) fun _ => []) : LooksUp (x.andThen next) names := by
  intro flags
  simpa using hx.andThen hnext flags

/-- A step that looks up a name marks it even if it fails, and if it does not fail, the steps that
follow mark their names as well. -/
theorem LooksUp.cons {x : Reading α} {next : α → Reading β} {name : String}
    {rest : List Flag → List (String × Bool)} (hx : LooksUp x fun _ => [name])
    (hsame : ∀ flags, (x flags).2 = (x ⟨flags.supplied, []⟩).2)
    (hnext : ∀ a, LooksUp (next a) fun supplied => upToFailure (rest supplied)) :
    LooksUp (x.andThen next) fun supplied =>
      upToFailure ((name, (x ⟨supplied, []⟩).2.outcome.isOk) :: rest supplied) := by
  intro flags
  obtain ⟨hsupplied, hasked⟩ := hx.andThen hnext flags
  refine ⟨hsupplied, fun other => ?_⟩
  simp only [hasked, upToFailure, ← hsame flags, or_assoc]
  cases (x flags).2.outcome.isOk <;> simp

end Reading

namespace Request

def lookups (supplied : List Flag) : List (String × Bool) :=
  let flags : Flags := ⟨supplied, []⟩
  [("apks", (archiveFlag.readRequired flags).2.outcome.isOk),
    ("device-spec", (specFlag.read flags).2.outcome.isOk),
    ("modules", (modulesFlag.read flags).2.outcome.isOk),
    ("instant", (instantFlag.read flags).2.outcome.isOk),
    ("dimensions", (dimensionsFlag.read flags).2.outcome.isOk)]

theorem looksUp_readInputs :
    Reading.LooksUp readInputs fun supplied => upToFailure (lookups supplied) := by
  refine .cons (Reading.looksUp_readRequired archiveFlag) archiveFlag.readRequired_snd fun _ => ?_
  refine .cons (Reading.looksUp_read specFlag) specFlag.read_snd fun _ => ?_
  refine .cons (Reading.looksUp_read modulesFlag) modulesFlag.read_snd fun _ => ?_
  refine .cons (Reading.looksUp_read instantFlag) instantFlag.read_snd fun _ => ?_
  refine .cons (Reading.looksUp_read dimensionsFlag) dimensionsFlag.read_snd fun _ => ?_
  exact Reading.looksUp_checkAllAsked.andThen_nothing fun _ => Reading.looksUp_done _

end Request

/-- Something that is done with flags: a lookup of a flag of any type, the check that all were asked
for, or the resolution of a request. -/
inductive Operation
  | read {α : Type} (flag : KnownFlag α)
  | readRequired {α : Type} (flag : KnownFlag α)
  | check
  | resolve (t : FileTree)

namespace Operation

def after (flags : Flags) : Operation → Flags
  | read flag => (flag.read flags).1
  | readRequired flag => (flag.readRequired flags).1
  | check => (Reading.checkAllAsked flags).1
  | resolve t => (Request.ofFlags t flags).1

def names (supplied : List Flag) : Operation → List String
  | read flag => [flag.name]
  | readRequired flag => [flag.name]
  | check => []
  | resolve _ => upToFailure (Request.lookups supplied)

theorem after_spec (operation : Operation) (flags : Flags) :
    (operation.after flags).supplied = flags.supplied ∧
    ∀ name, name ∈ (operation.after flags).asked ↔
      name ∈ flags.asked ∨ name ∈ operation.names flags.supplied := by
  cases operation with
  | read flag => exact Reading.looksUp_read flag flags
  | readRequired flag => exact Reading.looksUp_readRequired flag flags
  | check => exact Reading.looksUp_checkAllAsked flags
  | resolve t => exact Request.looksUp_readInputs flags

def run (flags : Flags) (operations : List Operation) : Flags :=
  operations.foldl (fun flags operation => operation.after flags) flags

def lookedUp (supplied : List Flag) (operations : List Operation) : List String :=
  operations.flatMap (names supplied)

theorem run_spec (operations : List Operation) (flags : Flags) :
    (run flags operations).supplied = flags.supplied ∧
    ∀ name, name ∈ (run flags operations).asked ↔
      name ∈ flags.asked ∨ name ∈ lookedUp flags.supplied operations := by
  induction operations generalizing flags with
  | nil => exact ⟨rfl, fun name => by simp [run, lookedUp]⟩
  | cons operation rest ih =>
    obtain ⟨hsupplied, hasked⟩ := operation.after_spec flags
    obtain ⟨hsupplied', hasked'⟩ := ih (operation.after flags)
    rw [run, List.foldl_cons, ← run]
    refine ⟨hsupplied'.trans hsupplied, fun name => ?_⟩
    rw [hasked', hasked, hsupplied, lookedUp, lookedUp, List.flatMap_cons, List.mem_append,
      or_assoc]

def missed (supplied : List Flag) (operations : List Operation) : List String :=
  (supplied.map Flag.name).filter (· ∉ lookedUp supplied operations)

theorem unasked_run (supplied : List Flag) (operations : List Operation) :
    (run ⟨supplied, []⟩ operations).unasked = missed supplied operations := by
  obtain ⟨hsupplied, hasked⟩ := run_spec operations ⟨supplied, []⟩
  rw [Flags.unasked, hsupplied, missed]
  apply List.filter_congr
  intro name _
  have hiff : name ∈ (run ⟨supplied, []⟩ operations).asked ↔
      name ∈ lookedUp supplied operations := by simp [hasked]
  simp [hiff]

theorem missed_append_sublist (supplied : List Flag) (operations more : List Operation) :
    (missed supplied (operations ++ more)).Sublist (missed supplied operations) := by
  refine List.monotone_filter_right _ fun name hname => ?_
  rw [decide_eq_true_eq] at hname ⊢
  intro hmem
  apply hname
  rw [lookedUp, List.flatMap_append]
  exact List.mem_append_left _ hmem

theorem checkAllAsked_run (supplied : List Flag) (operations : List Operation) :
    (run ⟨supplied, []⟩ operations).checkAllAsked =
      if missed supplied operations = [] then .ok ()
      else .error (.unrecognized (missed supplied operations)) := by
  rw [Flags.checkAllAsked, unasked_run]
  cases missed supplied operations with
  | nil => rfl
  | cons name rest => rfl

end Operation

theorem upToFailure_of_all {lookups : List (String × Bool)} (h : ∀ lookup ∈ lookups, lookup.2) :
    upToFailure lookups = lookups.map Prod.fst := by
  induction lookups with
  | nil => rfl
  | cons lookup rest ih =>
    rw [List.forall_mem_cons] at h
    rw [upToFailure, if_pos h.1, ih h.2, List.map_cons]

namespace Request

theorem passes_iff_lookups {t : FileTree} {flags : Flags}
    (hd : (flags.supplied.map Flag.name).Nodup) :
    (∀ check ∈ Check.values.takeWhile (· ≠ .others), Check.Passes t flags check) ↔
      ∀ lookup ∈ lookups flags.supplied, lookup.2 := by
  have htake : Check.values.takeWhile (· ≠ .others) =
      [.archive, .spec, .modules, .instant, .dimensions] := by decide
  simp only [htake, lookups, List.forall_mem_cons, List.not_mem_nil, false_imp_iff, implies_true,
    and_true]
  rw [Check.passes_iff_isOk hd (x := (archiveFlag.readRequired flags).2) rfl,
    Check.passes_iff_isOk hd (x := (specFlag.read flags).2) rfl,
    Check.passes_iff_isOk hd (x := (modulesFlag.read flags).2) rfl,
    Check.passes_iff_isOk hd (x := (instantFlag.read flags).2) rfl,
    Check.passes_iff_isOk hd (x := (dimensionsFlag.read flags).2) rfl, KnownFlag.readRequired_snd]
  exact Iff.rfl

/-- A request fails for names nobody asked for when all its lookups succeed and there are such
names, those it asks for itself taken off. -/
theorem outcome_ofFlags_eq_unrecognized_iff {t : FileTree} {flags : Flags}
    (hd : (flags.supplied.map Flag.name).Nodup) {names : List String} :
    (ofFlags t flags).2.outcome = .error (.flag (.unrecognized names)) ↔
      (∀ lookup ∈ lookups flags.supplied, lookup.2) ∧ names ≠ [] ∧
        names = (flags.supplied.map Flag.name).filter fun name =>
          name ∉ flagNames ∧ name ∉ flags.asked := by
  rw [outcome_ofFlags_eq_error_iff hd, ← passes_iff_lookups hd]
  constructor
  · rintro ⟨passed, check, rest, hvalues, hpassed, hfails⟩
    cases hfails with
    | others hne hnames =>
      rw [Check.eq_takeWhile_of_values hvalues] at hpassed
      exact ⟨hpassed, hne, hnames⟩
  · rintro ⟨hpassed, hne, hnames⟩
    exact ⟨_, .others, _, (List.takeWhile_append_dropWhile ..).symm, hpassed, .others hne hnames⟩

end Request

namespace Operation

theorem missed_append_resolve {supplied : List Flag}
    (h : ∀ lookup ∈ Request.lookups supplied, lookup.2) (operations : List Operation)
    (t : FileTree) :
    missed supplied (operations ++ [.resolve t]) = (supplied.map Flag.name).filter fun name =>
      name ∉ Request.flagNames ∧ name ∉ lookedUp supplied operations := by
  have hnames : upToFailure (Request.lookups supplied) = Request.flagNames := upToFailure_of_all h
  rw [missed]
  apply List.filter_congr
  intro name _
  simp [lookedUp, names, hnames, and_comm]

/-- After any operations on the flags of arguments, the flags are still those supplied, every lookup
answers as at the start, and checks report just the names that were not looked up so far, of which
further operations can only take some away. -/
theorem answers_after_run {arguments : List String} {supplied : List Flag}
    (h : (FlagList.parse arguments).outcome = .ok supplied) (operations : List Operation) :
    (run ⟨supplied, []⟩ operations).supplied = supplied ∧
    (∀ {α : Type} (flag : KnownFlag α),
      (flag.read (run ⟨supplied, []⟩ operations)).2 = (flag.read ⟨supplied, []⟩).2 ∧
      (flag.readRequired (run ⟨supplied, []⟩ operations)).2 =
        (flag.readRequired ⟨supplied, []⟩).2) ∧
    ((run ⟨supplied, []⟩ operations).checkAllAsked = .ok () ↔
      ∀ f ∈ supplied, f.name ∈ lookedUp supplied operations) ∧
    (∀ fault, (run ⟨supplied, []⟩ operations).checkAllAsked = .error fault ↔
      missed supplied operations ≠ [] ∧ fault = .unrecognized (missed supplied operations)) ∧
    (∀ t names, (Request.ofFlags t (run ⟨supplied, []⟩ operations)).2.outcome =
        .error (.flag (.unrecognized names)) ↔
      (∀ lookup ∈ Request.lookups supplied, lookup.2) ∧ names ≠ [] ∧
        names = missed supplied (operations ++ [.resolve t])) ∧
    (missed supplied operations).Nodup ∧
    ∀ more, (missed supplied (operations ++ more)).Sublist (missed supplied operations) := by
  obtain ⟨hsupplied, hasked⟩ := run_spec operations ⟨supplied, []⟩
  have hdistinct := (FlagList.outcome_parse_eq_ok_iff.1 h).distinct
  refine ⟨hsupplied, fun flag => ⟨?_, ?_⟩, ?_, fun fault => ?_, fun t names => ?_,
    hdistinct.filter _, missed_append_sublist supplied operations⟩
  · rw [flag.read_snd, hsupplied]
  · rw [flag.readRequired_snd, hsupplied]
  · simp [Flags.checkAllAsked_eq_ok_iff, hsupplied, hasked]
  · rw [checkAllAsked_run]
    split
    next hnil => simp [hnil]
    next hne => simp [hne, eq_comm]
  · rw [Request.outcome_ofFlags_eq_unrecognized_iff (by rwa [hsupplied]), hsupplied]
    refine and_congr_right fun hall => and_congr_right fun _ => ?_
    rw [missed_append_resolve hall, List.filter_congr fun name _ => ?_]
    simp [hasked]

theorem check_after_stopped_request :
    (run ⟨[⟨"other", none⟩, ⟨"apks", some ""⟩, ⟨"modules", none⟩], []⟩
      [.resolve .scratch, .read (.boolean "instant")]).checkAllAsked =
        .error (.unrecognized ["other", "modules"]) := by
  have hparse : (FlagList.parse ["--other", "--apks=", "--modules"]).outcome =
      .ok [⟨"other", none⟩, ⟨"apks", some ""⟩, ⟨"modules", none⟩] := by decide
  obtain ⟨-, -, -, hreport, -⟩ :=
    answers_after_run hparse [.resolve .scratch, .read (.boolean "instant")]
  exact (hreport _).2 ⟨by decide, by decide⟩

end Operation

end SizeRequest

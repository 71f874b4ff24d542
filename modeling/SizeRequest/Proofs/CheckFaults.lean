import SizeRequest.Proofs.Checks
import SizeRequest.Proofs.FlagFault

namespace SizeRequest

namespace Request

namespace Check

inductive NoFile (t : FileTree) (path : Path) : FileFault → Prop
  | missing : t.locate path = .error .missing → NoFile t path (.notFound path)
  | directory : t.locate path = .ok .directory → NoFile t path (.notAFile path)
  | locked : t.locate path = .ok .locked → NoFile t path (.notReadable path)
  | unreachable {fault : AccessFault} : t.locate path = .error fault → fault ≠ .missing →
      NoFile t path (.notReadable path)

/-- A check fails, and why. No check looks at what the others are about. -/
inductive Fails (t : FileTree) (flags : Flags) : Check → RequestFault → Prop
  | archiveMissing : (∀ value, ⟨"apks", value⟩ ∉ flags.supplied) →
      Fails t flags archive (.flag (.missing "apks"))
  | archive {value : Option String} {cause : ValueFault} : ⟨"apks", value⟩ ∈ flags.supplied →
      KnownFlag.NoPath value cause → Fails t flags archive (.flag (.invalidValue "apks" cause))
  | spec {value : Option String} {cause : ValueFault} : ⟨"device-spec", value⟩ ∈ flags.supplied →
      KnownFlag.NoPath value cause → Fails t flags spec (.flag (.invalidValue "device-spec" cause))
  | modules : ⟨"modules", none⟩ ∈ flags.supplied →
      Fails t flags modules (.flag (.invalidValue "modules" .required))
  | instant {value : Option String} {cause : ValueFault} : ⟨"instant", value⟩ ∈ flags.supplied →
      KnownFlag.NoBoolean value cause →
      Fails t flags instant (.flag (.invalidValue "instant" cause))
  | dimensions {value : Option String} {cause : ValueFault} :
      ⟨"dimensions", value⟩ ∈ flags.supplied → KnownFlag.NoMembers Dimension.ofName? value cause →
      Fails t flags dimensions (.flag (.invalidValue "dimensions" cause))
  | others {names : List String} : names ≠ [] →
      names = (flags.supplied.map Flag.name).filter (fun name =>
        name ∉ flagNames ∧ name ∉ flags.asked) →
      Fails t flags others (.flag (.unrecognized names))
  | archiveFile {text : String} {fault : FileFault} : ⟨"apks", some text⟩ ∈ flags.supplied →
      NoFile t ⟨text⟩ fault → Fails t flags archiveFile (.file fault)
  | specFile {text : String} {fault : FileFault} : ⟨"device-spec", some text⟩ ∈ flags.supplied →
      NoFile t ⟨text⟩ fault → Fails t flags specFile (.file fault)
  | specExtension {text : String} : ⟨"device-spec", some text⟩ ∈ flags.supplied →
      SpecFormat.ofPath? ⟨text⟩ = none → Fails t flags specExtension (.spec (.unsupported ⟨text⟩))
  | specText {text : String} {fault : AccessFault} : ⟨"device-spec", some text⟩ ∈ flags.supplied →
      t.readText ⟨text⟩ = .error fault → Fails t flags specText (.spec (.read ⟨text⟩ fault))
  | specContent {text contents reason : String} {format : SpecFormat} :
      ⟨"device-spec", some text⟩ ∈ flags.supplied → SpecFormat.ofPath? ⟨text⟩ = some format →
      t.readText ⟨text⟩ = .ok contents → DeviceSpec.ofText format contents = .error reason →
      Fails t flags specContent (.spec (.malformed ⟨text⟩ reason))

theorem checkFile_eq_error_iff {t : FileTree} {path : Path} {fault : FileFault} :
    t.checkFile path = .error fault ↔ NoFile t path fault := by
  unfold FileTree.checkFile
  constructor
  · intro h
    split at h
    next hlocate =>
      cases h
      exact .missing hlocate
    next hne hlocate =>
      cases h
      exact .unreachable hlocate hne
    next hlocate =>
      cases h
      exact .directory hlocate
    next hlocate =>
      cases h
      exact .locked hlocate
    next => cases h
  · rintro (hlocate | hlocate | hlocate | ⟨hlocate, hne⟩)
    · rw [hlocate]
    · rw [hlocate]
    · rw [hlocate]
    · rw [hlocate]
      split
      next heq => exact absurd (Except.error.inj heq) hne
      next => rfl
      next heq => cases heq
      next heq => cases heq
      next heq => cases heq

theorem outcome_check_eq_error_iff {t : FileTree} {path : Path} {fault : RequestFault} :
    ((t.check path).mapFault .file).outcome = .error fault ↔
      ∃ cause, NoFile t path cause ∧ fault = .file cause := by
  rw [Logged.outcome_mapFault, mapError_eq_error_iff, DeviceSpec.outcome_check]
  simp only [checkFile_eq_error_iff]

section Distinct

variable {t : FileTree} {flags : Flags} (hd : (flags.supplied.map Flag.name).Nodup)

include hd

theorem outcome_course_read_eq_error_iff {α : Type} {flag : KnownFlag α}
    {Bad : Option String → ValueFault → Prop}
    (hbad : ∀ {value cause}, flag.convert value = .error cause ↔ Bad value cause)
    {fault : RequestFault} :
    ((flag.read flags).2.mapFault RequestFault.flag).course.outcome = .error fault ↔
      ∃ value cause, ⟨flag.name, value⟩ ∈ flags.supplied ∧ Bad value cause ∧
        fault = .flag (.invalidValue flag.name cause) := by
  rw [Logged.outcome_course_eq_error_iff, Logged.outcome_mapFault, mapError_eq_error_iff]
  simp only [KnownFlag.outcome_read_eq_error_iff hd, hbad]
  constructor
  · rintro ⟨_, ⟨value, cause, hmem, hvalue, rfl⟩, rfl⟩
    exact ⟨value, cause, hmem, hvalue, rfl⟩
  · rintro ⟨value, cause, hmem, hvalue, rfl⟩
    exact ⟨_, ⟨value, cause, hmem, hvalue, rfl⟩, rfl⟩

theorem outcome_run_archive {fault : RequestFault} :
    (run t flags .archive).outcome = .error fault ↔ Fails t flags .archive fault := by
  rw [run, Logged.outcome_course_eq_error_iff, Logged.outcome_mapFault, mapError_eq_error_iff]
  simp only [KnownFlag.outcome_readRequired_eq_error_iff hd]
  constructor
  · rintro ⟨_, ⟨habsent, rfl⟩ | ⟨value, cause, hmem, hvalue, rfl⟩, rfl⟩
    · exact .archiveMissing habsent
    · exact .archive hmem (KnownFlag.convert_path_eq_error_iff.1 hvalue)
  · rintro (habsent | ⟨hmem, hvalue⟩)
    · exact ⟨_, .inl ⟨habsent, rfl⟩, rfl⟩
    · exact ⟨_, .inr ⟨_, _, hmem, KnownFlag.convert_path_eq_error_iff.2 hvalue, rfl⟩, rfl⟩

omit hd in
theorem unasked_foldl_ask (flags : Flags) (names : List String) :
    (names.foldl Flags.ask flags).unasked =
      (flags.supplied.map Flag.name).filter fun name => name ∉ names ∧ name ∉ flags.asked := by
  have hasked : (names.foldl Flags.ask flags).supplied = flags.supplied ∧
      ∀ name, name ∈ (names.foldl Flags.ask flags).asked ↔ name ∈ names ∨ name ∈ flags.asked := by
    induction names generalizing flags with
    | nil => simp
    | cons name names ih =>
      obtain ⟨hsupplied, hasked⟩ := ih (flags.ask name)
      refine ⟨by rw [List.foldl_cons, hsupplied, Flags.supplied_ask], fun other => ?_⟩
      rw [List.foldl_cons, hasked, Flags.mem_asked_ask, List.mem_cons, or_left_comm, or_assoc]
  obtain ⟨hsupplied, hasked⟩ := hasked
  rw [Flags.unasked, hsupplied]
  apply List.filter_congr
  intro name _
  simp [hasked]

omit hd in
theorem outcome_run_others {fault : RequestFault} :
    (run t flags .others).outcome = .error fault ↔ Fails t flags .others fault := by
  have hunasked := unasked_foldl_ask flags flagNames
  rw [run, Logged.outcome_mapFault, mapError_eq_error_iff, Logged.outcome_silent,
    Flags.checkAllAsked]
  constructor
  · rintro ⟨cause, hcause, rfl⟩
    split at hcause
    next => cases hcause
    next hne =>
      cases hcause
      exact .others hne hunasked
  · intro h
    cases h with
    | others hne hnames =>
      rw [← hunasked] at hnames
      subst hnames
      split
      next hnil => exact absurd hnil hne
      next => exact ⟨_, rfl, rfl⟩

theorem outcome_elim_path?_eq_error_iff {name : String} {otherwise : Logged RequestFault Unit}
    {next : Path → Logged RequestFault Unit} {fault : RequestFault}
    (hotherwise : otherwise.outcome = .ok ()) :
    ((path? flags name).elim otherwise next).outcome = .error fault ↔
      ∃ text, ⟨name, some text⟩ ∈ flags.supplied ∧ (next ⟨text⟩).outcome = .error fault := by
  constructor
  · intro h
    cases hpath : path? flags name with
    | none =>
      rw [hpath, Option.elim_none, hotherwise] at h
      cases h
    | some path =>
      rw [hpath] at h
      exact ⟨path.text, (path?_eq_some_iff hd).1 hpath, h⟩
  · rintro ⟨text, hmem, h⟩
    rw [(path?_eq_some_iff hd).2 hmem]
    exact h

theorem outcome_elim_check_eq_error_iff {name : String} {otherwise : Logged RequestFault Unit}
    {fault : RequestFault} (hotherwise : otherwise.outcome = .ok ()) :
    ((path? flags name).elim otherwise fun path =>
        (t.check path).mapFault .file).outcome = .error fault ↔
      ∃ text cause, ⟨name, some text⟩ ∈ flags.supplied ∧ NoFile t ⟨text⟩ cause ∧
        fault = .file cause := by
  rw [outcome_elim_path?_eq_error_iff hd hotherwise]
  simp only [outcome_check_eq_error_iff, exists_and_left]

theorem outcome_run_eq_error_iff {check : Check} {fault : RequestFault} :
    (run t flags check).outcome = .error fault ↔ Fails t flags check fault := by
  -- Five checks read a flag, one looks for other flags, and five follow the paths that two of the
  -- flags give.
  cases check with
  | archive => exact outcome_run_archive hd
  | spec =>
    refine (outcome_course_read_eq_error_iff hd KnownFlag.convert_path_eq_error_iff).trans ⟨?_, ?_⟩
    · rintro ⟨value, cause, hmem, hvalue, rfl⟩
      exact .spec hmem hvalue
    · intro h
      cases h with
      | spec hmem hvalue => exact ⟨_, _, hmem, hvalue, rfl⟩
  | modules =>
    refine (outcome_course_read_eq_error_iff hd
      KnownFlag.convert_textSet_eq_error_iff).trans ⟨?_, ?_⟩
    · rintro ⟨_, _, hmem, ⟨rfl, rfl⟩, rfl⟩
      exact .modules hmem
    · intro h
      cases h with
      | modules hmem => exact ⟨_, _, hmem, ⟨rfl, rfl⟩, rfl⟩
  | instant =>
    refine (outcome_course_read_eq_error_iff hd
      KnownFlag.convert_boolean_eq_error_iff).trans ⟨?_, ?_⟩
    · rintro ⟨value, cause, hmem, hvalue, rfl⟩
      exact .instant hmem hvalue
    · intro h
      cases h with
      | instant hmem hvalue => exact ⟨_, _, hmem, hvalue, rfl⟩
  | dimensions =>
    refine (outcome_course_read_eq_error_iff hd
      KnownFlag.convert_memberSet_eq_error_iff).trans ⟨?_, ?_⟩
    · rintro ⟨value, cause, hmem, hvalue, rfl⟩
      exact .dimensions hmem hvalue
    · intro h
      cases h with
      | dimensions hmem hvalue => exact ⟨_, _, hmem, hvalue, rfl⟩
  | others => exact outcome_run_others
  | archiveFile =>
    refine (outcome_elim_check_eq_error_iff hd rfl).trans ⟨?_, ?_⟩
    · rintro ⟨text, cause, hmem, hcause, rfl⟩
      exact .archiveFile hmem hcause
    · intro h
      cases h with
      | archiveFile hmem hcause => exact ⟨_, _, hmem, hcause, rfl⟩
  | specFile =>
    refine (outcome_elim_check_eq_error_iff hd rfl).trans ⟨?_, ?_⟩
    · rintro ⟨text, cause, hmem, hcause, rfl⟩
      exact .specFile hmem hcause
    · intro h
      cases h with
      | specFile hmem hcause => exact ⟨_, _, hmem, hcause, rfl⟩
  | specExtension =>
    refine (outcome_elim_path?_eq_error_iff hd rfl).trans ⟨?_, ?_⟩
    · rintro ⟨text, hmem, hfault⟩
      split at hfault
      next hformat =>
        cases hfault
        exact .specExtension hmem hformat
      next => cases hfault
    · intro h
      cases h with
      | specExtension hmem hformat => exact ⟨_, hmem, by rw [hformat]; rfl⟩
  | specText =>
    refine (outcome_elim_path?_eq_error_iff hd rfl).trans ⟨?_, ?_⟩
    · rintro ⟨text, hmem, hfault⟩
      split at hfault
      next hread =>
        cases hfault
        exact .specText hmem hread
      next => cases hfault
    · intro h
      cases h with
      | specText hmem hread => exact ⟨_, hmem, by rw [hread]; rfl⟩
  | specContent =>
    refine (outcome_elim_path?_eq_error_iff hd rfl).trans ⟨?_, ?_⟩
    · rintro ⟨text, hmem, hfault⟩
      split at hfault
      next hformat hread =>
        split at hfault
        next hcontent =>
          cases hfault
          exact .specContent hmem hformat hread hcontent
        next => cases hfault
      next => cases hfault
    · intro h
      cases h with
      | specContent hmem hformat hread hcontent =>
        exact ⟨_, hmem, by simp only [hformat, hread, hcontent]; rfl⟩

omit hd in
theorem failsSilently_check (path : Path) :
    ((t.check path).mapFault RequestFault.file).FailsSilently := by
  refine Logged.FailsSilently.mapFault (fun fault hfault => ?_) _
  unfold FileTree.check at hfault ⊢
  cases hcheck : t.checkFile path with
  | error cause => rfl
  | ok =>
    rw [hcheck] at hfault
    cases hfault

omit hd in
theorem failsSilently_elim_path? {name : String} {otherwise : Logged RequestFault Unit}
    {next : Path → Logged RequestFault Unit} (hotherwise : otherwise.FailsSilently)
    (hnext : ∀ path, (next path).FailsSilently) :
    ((path? flags name).elim otherwise next).FailsSilently := by
  cases path? flags name with
  | none => exact hotherwise
  | some path => exact hnext path

omit hd in
theorem failsSilently_run (check : Check) : (run t flags check).FailsSilently := by
  cases check with
  | archive => exact ((archiveFlag.failsSilently_readRequired flags).mapFault _).course
  | spec => exact ((specFlag.failsSilently_read flags).mapFault _).course
  | modules => exact ((modulesFlag.failsSilently_read flags).mapFault _).course
  | instant => exact ((instantFlag.failsSilently_read flags).mapFault _).course
  | dimensions => exact ((dimensionsFlag.failsSilently_read flags).mapFault _).course
  | others => exact (Logged.failsSilently_silent _).mapFault _
  | archiveFile =>
    exact failsSilently_elim_path? (Logged.failsSilently_silent _) failsSilently_check
  | specFile => exact failsSilently_elim_path? (Logged.failsSilently_log _) failsSilently_check
  | specExtension =>
    refine failsSilently_elim_path? (Logged.failsSilently_silent _) fun path => ?_
    split <;> exact Logged.failsSilently_silent _
  | specText =>
    refine failsSilently_elim_path? (Logged.failsSilently_silent _) fun path => ?_
    split <;> exact Logged.failsSilently_silent _
  | specContent =>
    refine failsSilently_elim_path? (Logged.failsSilently_silent _) fun path => ?_
    split
    next =>
      split
      next => exact Logged.failsSilently_silent _
      next => exact Logged.failsSilently_log _
    next => exact Logged.failsSilently_silent _

theorem run_of_fails {check : Check} {fault : RequestFault} (h : Fails t flags check fault) :
    run t flags check = .fail fault := by
  have houtcome := (outcome_run_eq_error_iff hd).2 h
  have hevents := failsSilently_run check fault houtcome
  rcases hrun : run t flags check with ⟨events, outcome⟩
  rw [hrun] at houtcome hevents
  rw [Logged.fail, ← houtcome, ← hevents]

end Distinct

def Passes (t : FileTree) (flags : Flags) (check : Check) : Prop :=
  ∀ fault, ¬ Fails t flags check fault

theorem passes_or_fails (t : FileTree) (flags : Flags) (checks : List Check) :
    (∀ check ∈ checks, Passes t flags check) ∨
    ∃ passed check rest fault, checks = passed ++ check :: rest ∧
      (∀ other ∈ passed, Passes t flags other) ∧ Fails t flags check fault := by
  induction checks with
  | nil => simp
  | cons check rest ih =>
    by_cases hcheck : Passes t flags check
    · rcases ih with hrest | ⟨passed, failed, later, fault, rfl, hpassed, hfails⟩
      · exact .inl (by simpa [hcheck] using hrest)
      · exact .inr ⟨check :: passed, failed, later, fault, rfl, by simpa [hcheck] using hpassed,
          hfails⟩
    · simp only [Passes, not_forall, not_not] at hcheck
      obtain ⟨fault, hfails⟩ := hcheck
      exact .inr ⟨[], check, rest, fault, rfl, by simp, hfails⟩

section Distinct

variable {t : FileTree} {flags : Flags} (hd : (flags.supplied.map Flag.name).Nodup)

include hd

theorem outcome_run_of_passes {check : Check} (h : Passes t flags check) :
    (run t flags check).outcome = .ok () := by
  cases houtcome : (run t flags check).outcome with
  | error fault => exact absurd ((outcome_run_eq_error_iff hd).1 houtcome) (h fault)
  | ok => rfl

theorem passes_iff_isOk {check : Check} {α : Type} {x : Logged FlagFault α}
    (hrun : run t flags check = (x.mapFault RequestFault.flag).course) :
    Passes t flags check ↔ x.outcome.isOk := by
  unfold Passes
  simp only [← outcome_run_eq_error_iff hd, hrun, Logged.outcome_course_eq_error_iff,
    Logged.outcome_mapFault, mapError_eq_error_iff]
  cases x.outcome with
  | error fault => simp [Except.isOk, Except.toBool]
  | ok a => simp [Except.isOk, Except.toBool]

theorem runAll_of_passes {checks : List Check} (h : ∀ check ∈ checks, Passes t flags check) :
    runAll t flags checks = ⟨checks.flatMap fun check => (run t flags check).events, .ok ()⟩ := by
  induction checks with
  | nil => rfl
  | cons check rest ih =>
    rw [List.forall_mem_cons] at h
    rw [runAll, Logged.andThen_of_ok (outcome_run_of_passes hd h.1), ih h.2, List.flatMap_cons]

/-- The first check that fails ends the checks with its fault, whatever the later ones are. -/
theorem runAll_of_fails {passed : List Check} {check : Check} {fault : RequestFault}
    (hpassed : ∀ other ∈ passed, Passes t flags other) (h : Fails t flags check fault)
    (rest : List Check) :
    runAll t flags (passed ++ check :: rest) =
      ⟨passed.flatMap fun other => (run t flags other).events, .error fault⟩ := by
  rw [runAll_append, runAll_of_passes hd hpassed, runAll, run_of_fails hd h]
  simp [Logged.andThen, Logged.fail]

end Distinct

end Check

def concluded (t : FileTree) (flags : Flags) : Request where
  archive := (Check.path? flags "apks").getD default
  spec := chosenSpec t flags
  modules := chosen? modulesFlag flags
  dimensions := Dimension.expand ((chosen? dimensionsFlag flags).getD .empty)
  instant := (chosen? instantFlag flags).getD false

def warnings (flags : Flags) : List Event :=
  match Dimension.discarded ((chosen? dimensionsFlag flags).getD .empty) with
  | [] => []
  | ignored => [.dimensionsIgnored ignored]

theorem conclude_eq (t : FileTree) (flags : Flags) :
    conclude t flags =
      ⟨warnings flags ++ [.requestResolved (concluded t flags)], .ok (concluded t flags)⟩ := by
  unfold conclude warnings Dimension.expandLogged
  cases Dimension.discarded ((chosen? dimensionsFlag flags).getD .empty) <;> rfl

/-- There is no request of flags when a check fails, and the first one that does says why. -/
theorem outcome_ofFlags_eq_error_iff {t : FileTree} {flags : Flags}
    (hd : (flags.supplied.map Flag.name).Nodup) {fault : RequestFault} :
    (ofFlags t flags).2.outcome = .error fault ↔
      ∃ passed check rest, Check.values = passed ++ check :: rest ∧
        (∀ other ∈ passed, Check.Passes t flags other) ∧ Check.Fails t flags check fault := by
  rw [ofFlags_snd]
  constructor
  · intro h
    rcases Check.passes_or_fails t flags Check.values with
      hpassed | ⟨passed, check, rest, cause, hvalues, hpassed, hfails⟩
    · rw [Check.runAll_of_passes hd hpassed, conclude_eq] at h
      cases h
    · rw [hvalues, Check.runAll_of_fails hd hpassed hfails] at h
      cases h
      exact ⟨passed, check, rest, hvalues, hpassed, hfails⟩
  · rintro ⟨passed, check, rest, hvalues, hpassed, hfails⟩
    rw [hvalues, Check.runAll_of_fails hd hpassed hfails]
    rfl

end Request

end SizeRequest

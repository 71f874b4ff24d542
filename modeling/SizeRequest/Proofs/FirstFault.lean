import SizeRequest.Proofs.CheckFaults

namespace SizeRequest

namespace Request

open FlagList (Writes Rejects)

section Courses

variable {t : FileTree} {flags : List Flag}

theorem ofArguments_of_rejects {before : List String} {argument : String} {fault : FlagFault}
    (hwrites : Writes before flags) (hrejects : Rejects flags argument fault)
    (after : List String) :
    ofArguments t (before ++ argument :: after) =
      ⟨flags.map (.flagTokenized ·.name), .error (.flag fault)⟩ := by
  rw [ofArguments, FlagList.parse_of_rejects hwrites hrejects after]
  rfl

variable {arguments : List String} (hwrites : Writes arguments flags)

include hwrites

theorem ofArguments_of_writes :
    ofArguments t arguments =
      ⟨flags.map (.flagTokenized ·.name) ++ (ofFlags t ⟨flags, []⟩).2.events,
        (ofFlags t ⟨flags, []⟩).2.outcome⟩ := by
  rw [ofArguments, FlagList.parse_of_writes hwrites]
  rfl

end Courses

/-- The first thing that is wrong with arguments: one of them is rejected after those before it
wrote flags, or they all write flags and these fail a check after passing the ones before it. -/
inductive FirstFault (t : FileTree) (arguments : List String) : RequestFault → Prop
  | argument {before after : List String} {argument : String} {flags : List Flag}
      {fault : FlagFault} : arguments = before ++ argument :: after → Writes before flags →
      Rejects flags argument fault → FirstFault t arguments (.flag fault)
  | check {flags : List Flag} {passed rest : List Check} {check : Check} {fault : RequestFault} :
      Writes arguments flags → Check.values = passed ++ check :: rest →
      (∀ other ∈ passed, Check.Passes t ⟨flags, []⟩ other) →
      Check.Fails t ⟨flags, []⟩ check fault → FirstFault t arguments fault

theorem outcome_eq_error_iff_firstFault {t : FileTree} {arguments : List String}
    {fault : RequestFault} :
    (ofArguments t arguments).outcome = .error fault ↔ FirstFault t arguments fault := by
  constructor
  · intro h
    rcases FlagList.writes_or_rejects arguments with
      ⟨flags, hwrites⟩ | ⟨before, argument, after, flags, cause, rfl, hwrites, hrejects⟩
    · rw [ofArguments_of_writes hwrites, outcome_ofFlags_eq_error_iff hwrites.distinct] at h
      obtain ⟨passed, check, rest, hvalues, hpassed, hfails⟩ := h
      exact .check hwrites hvalues hpassed hfails
    · rw [ofArguments_of_rejects hwrites hrejects] at h
      cases h
      exact .argument rfl hwrites hrejects
  · rintro (⟨rfl, hwrites, hrejects⟩ | ⟨hwrites, hvalues, hpassed, hfails⟩)
    · rw [ofArguments_of_rejects hwrites hrejects]
    · rw [ofArguments_of_writes hwrites, outcome_ofFlags_eq_error_iff hwrites.distinct]
      exact ⟨_, _, _, hvalues, hpassed, hfails⟩

namespace Check

def ofFlags : List Check := [archive, spec, modules, instant, dimensions, others]

theorem mem_ofFlags_of_fails {t : FileTree} {flags : Flags} {check : Check} {fault : FlagFault}
    (h : Fails t flags check (.flag fault)) : check ∈ ofFlags := by
  cases h <;> decide

theorem run_of_mem_ofFlags {check : Check} (h : check ∈ ofFlags) (t t' : FileTree)
    (flags : Flags) : run t' flags check = run t flags check := by
  simp only [ofFlags, List.mem_cons, List.not_mem_nil, or_false] at h
  rcases h with rfl | rfl | rfl | rfl | rfl | rfl <;> rfl

theorem run_archiveFile {t t' : FileTree} {flags : Flags} {path : Path}
    (hpath : path? flags "apks" = some path) (hsame : t'.locate path = t.locate path) :
    run t' flags .archiveFile = run t flags .archiveFile := by
  simp only [run, hpath, Option.elim_some, FileTree.check, FileTree.checkFile, hsame]

theorem runAll_congr {t t' : FileTree} {flags : Flags} {checks : List Check}
    (h : ∀ check ∈ checks, run t' flags check = run t flags check) :
    runAll t' flags checks = runAll t flags checks := by
  induction checks with
  | nil => rfl
  | cons check rest ih =>
    rw [List.forall_mem_cons] at h
    rw [runAll, runAll, h.1, ih h.2]

end Check

theorem ofFlags_congr {t t' : FileTree} {flags : Flags} {first rest : List Check} {check : Check}
    {fault : RequestFault} (hd : (flags.supplied.map Flag.name).Nodup)
    (hvalues : Check.values = first ++ rest)
    (hsame : ∀ check ∈ first, Check.run t' flags check = Check.run t flags check)
    (hmem : check ∈ first) (hfails : Check.Fails t flags check fault) :
    (ofFlags t' flags).2 = (ofFlags t flags).2 := by
  rcases Check.passes_or_fails t flags first with
    hpassed | ⟨passed, failed, later, cause, hfirst, hpassed, hcause⟩
  · exact absurd hfails (hpassed check hmem fault)
  · have hrun := Check.runAll_of_fails hd hpassed hcause later
    rw [← hfirst] at hrun
    rw [ofFlags_snd, ofFlags_snd, hvalues, Check.runAll_append, Check.runAll_append,
      Check.runAll_congr hsame, hrun]
    rfl

theorem ofArguments_of_flagFault {t : FileTree} {arguments : List String} {fault : FlagFault}
    (h : FirstFault t arguments (.flag fault)) (t' : FileTree) :
    ofArguments t' arguments = ofArguments t arguments := by
  cases h with
  | argument hsplit hwrites hrejects =>
    rw [hsplit, ofArguments_of_rejects hwrites hrejects, ofArguments_of_rejects hwrites hrejects]
  | @check flags _ _ _ _ hwrites _ _ hfails =>
    have hvalues : Check.values = Check.ofFlags ++ Check.values.drop 6 := rfl
    have hrun : ∀ check ∈ Check.ofFlags,
        Check.run t' ⟨flags, []⟩ check = Check.run t ⟨flags, []⟩ check :=
      fun _ hcheck => Check.run_of_mem_ofFlags hcheck t t' _
    rw [ofArguments_of_writes hwrites, ofArguments_of_writes hwrites,
      ofFlags_congr hwrites.distinct hvalues hrun (Check.mem_ofFlags_of_fails hfails) hfails]

theorem ofArguments_of_noFile {t t' : FileTree} {arguments : List String} {flags : List Flag}
    {text : String} {fault : FileFault} (hwrites : Writes arguments flags)
    (hmem : ⟨"apks", some text⟩ ∈ flags) (hfile : Check.NoFile t ⟨text⟩ fault)
    (hsame : t'.locate ⟨text⟩ = t.locate ⟨text⟩) :
    ofArguments t' arguments = ofArguments t arguments := by
  have hpath : Check.path? ⟨flags, []⟩ "apks" = some ⟨text⟩ :=
    (Check.path?_eq_some_iff hwrites.distinct).2 hmem
  have hvalues : Check.values =
      (Check.ofFlags ++ [.archiveFile]) ++ Check.values.drop 7 := rfl
  have hrun : ∀ check ∈ Check.ofFlags ++ [.archiveFile],
      Check.run t' ⟨flags, []⟩ check = Check.run t ⟨flags, []⟩ check := by
    intro check hcheck
    rcases List.mem_append.1 hcheck with hcheck | hcheck
    · exact Check.run_of_mem_ofFlags hcheck t t' _
    · obtain rfl := List.mem_singleton.1 hcheck
      exact Check.run_archiveFile hpath hsame
  have hfails : Check.Fails t ⟨flags, []⟩ .archiveFile (.file fault) := .archiveFile hmem hfile
  rw [ofArguments_of_writes hwrites, ofArguments_of_writes hwrites,
    ofFlags_congr hwrites.distinct hvalues hrun (by simp) hfails]

/-- If there is no request, the fault is that of the first thing that is wrong; so a fault of the
arguments does not depend on the files, and the fault of an archive not on any other file. -/
theorem fault_is_first (t : FileTree) (arguments : List String) :
    (∀ fault, (ofArguments t arguments).outcome = .error fault ↔ FirstFault t arguments fault) ∧
    (∀ fault t', (ofArguments t arguments).outcome = .error (.flag fault) →
      (ofArguments t' arguments).outcome = .error (.flag fault)) ∧
    ∀ flags text fault t', Writes arguments flags → ⟨"apks", some text⟩ ∈ flags →
      Check.NoFile t ⟨text⟩ fault → t'.locate ⟨text⟩ = t.locate ⟨text⟩ →
      (ofArguments t' arguments).outcome = (ofArguments t arguments).outcome := by
  refine ⟨fun fault => outcome_eq_error_iff_firstFault, fun fault t' h => ?_,
    fun flags text fault t' hwrites hmem hfile hsame => ?_⟩
  · rw [ofArguments_of_flagFault (outcome_eq_error_iff_firstFault.1 h) t', h]
  · rw [ofArguments_of_noFile hwrites hmem hfile hsame]

theorem missing_value_is_first :
    FirstFault .scratch ["--other", "--apks=lost", "--instant=maybe", "--modules"]
      (.flag (.invalidValue "modules" .required)) ∧
    (∀ t, (ofArguments t ["--other", "--apks=lost", "--instant=maybe", "--modules"]).outcome =
      .error (.flag (.invalidValue "modules" .required))) ∧
    ∀ contents, (ofArguments (FileTree.scratch.add "spec.json" (.file contents))
      ["--apks=lost", "--device-spec=spec.json"]).outcome =
        .error (.file (.notFound ⟨"lost"⟩)) := by
  have houtcome : (ofArguments .scratch
      ["--other", "--apks=lost", "--instant=maybe", "--modules"]).outcome =
        .error (.flag (.invalidValue "modules" .required)) := by decide
  have hwrites : Writes ["--apks=lost", "--device-spec=spec.json"]
      [⟨"apks", some "lost"⟩, ⟨"device-spec", some "spec.json"⟩] :=
    FlagList.outcome_parse_eq_ok_iff.1 (by decide)
  have hmissing : FileTree.scratch.locate ⟨"lost"⟩ = .error .missing := rfl
  refine ⟨((fault_is_first _ _).1 _).1 houtcome,
    fun t => (fault_is_first _ _).2.1 _ t houtcome, fun contents => ?_⟩
  have hlost : (FileTree.scratch.add "spec.json" (.file contents)).locate ⟨"lost"⟩ =
      FileTree.scratch.locate ⟨"lost"⟩ := rfl
  rw [(fault_is_first _ _).2.2 _ _ _ _ hwrites (by simp) (.missing hmissing) hlost]
  decide

end Request

end SizeRequest

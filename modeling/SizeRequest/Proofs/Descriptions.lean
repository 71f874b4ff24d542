import SizeRequest.Proofs.FirstFault
import SizeRequest.Proofs.Lookups
import SizeRequest.Proofs.Replay
import SizeRequest.Report.Help

namespace SizeRequest

/-- A description fits a flag: with an example the flag needs a value, and without one the bare flag
stands for `true`. -/
structure FlagHelp.Fits {α : Type} (help : FlagHelp) (flag : KnownFlag α) : Prop where
  needsValue : help.sample.isSome → flag.convert none = .error .required
  bare : help.sample = none → flag.convert (some "true") = flag.convert none

theorem FlagHelp.fits_withValue {α : Type} {help : FlagHelp} (h : help.sample.isSome) (name : String)
    (convert : String → Except ValueFault α) : help.Fits (.withValue name convert) where
  needsValue _ := rfl
  bare hnone := by
    rw [hnone] at h
    cases h

theorem FlagHelp.fits_boolean {help : FlagHelp} (h : help.sample = none) (name : String) :
    help.Fits (.boolean name) where
  needsValue hsome := by
    rw [h] at hsome
    cases hsome
  bare _ := by
    have htrue : Text.sameIgnoringCase "true" "true" = true := by decide
    simp [KnownFlag.boolean, htrue]

namespace Flags

theorem asked_ask (flags : Flags) (name : String) :
    (flags.ask name).asked =
      if flags.asked.contains name then flags.asked else flags.asked ++ [name] := by
  unfold ask
  split <;> rfl

theorem checkAllAsked_congr {flags flags' : Flags}
    (hnames : flags'.supplied.map Flag.name = flags.supplied.map Flag.name)
    (hasked : flags'.asked = flags.asked) : flags'.checkAllAsked = flags.checkAllAsked := by
  simp only [checkAllAsked, unasked, hnames, hasked]

end Flags

theorem FlagList.Writes.revalue {first rest : List String} {name : String} {v : Option String}
    {flags : List Flag} (hname : (Flag.mk name v).HasName)
    (h : Writes (first ++ (Flag.mk name v).render :: rest) flags) (w : Option String) :
    ∃ before after, flags = before ++ ⟨name, v⟩ :: after ∧
      Writes (first ++ (Flag.mk name w).render :: rest) (before ++ ⟨name, w⟩ :: after) := by
  obtain ⟨before, others, rfl, rfl, hothers⟩ := List.map_eq_append_iff.1 h.rendered
  obtain ⟨f, after, rfl, hrender, rfl⟩ := List.map_eq_cons_iff.1 hothers
  obtain rfl : f = ⟨name, v⟩ := Flag.eq_of_render_eq (h.named f (by simp)) hname hrender
  refine ⟨before, after, rfl, by simp, ?_, by simpa using h.distinct⟩
  intro g hg
  rw [List.mem_append, List.mem_cons] at hg
  rcases hg with hg | rfl | hg
  · exact h.named g (by simp [hg])
  · exact hname
  · exact h.named g (by simp [hg])

namespace Request

open FlagList (Writes)

/-- The checks that read a flag, and the flags that they read. -/
inductive Check.Reads : Check → {α : Type} → KnownFlag α → Prop
  | archive : Reads .archive archiveFlag
  | spec : Reads .spec specFlag
  | modules : Reads .modules modulesFlag
  | instant : Reads .instant instantFlag
  | dimensions : Reads .dimensions dimensionsFlag

theorem Check.Reads.mem_ofFlags {check : Check} {α : Type} {flag : KnownFlag α}
    (h : Check.Reads check flag) : check ∈ Check.ofFlags := by
  cases h <;> decide

theorem exists_reads_of_mem_flagNames {name : String} (h : name ∈ flagNames) :
    ∃ check, ∃ (α : Type) (flag : KnownFlag α), Check.Reads check flag ∧ flag.name = name := by
  simp only [flagNames, List.mem_cons, List.not_mem_nil, or_false] at h
  obtain rfl | rfl | rfl | rfl | rfl := h
  · exact ⟨_, _, _, .archive, rfl⟩
  · exact ⟨_, _, _, .spec, rfl⟩
  · exact ⟨_, _, _, .modules, rfl⟩
  · exact ⟨_, _, _, .instant, rfl⟩
  · exact ⟨_, _, _, .dimensions, rfl⟩

def described : List String := CommandHelp.getSize.flags.map FlagHelp.name

theorem mem_described_iff {name : String} : name ∈ described ↔ name ∈ flagNames := by
  have hperm : described.Perm flagNames := by decide
  exact hperm.mem_iff

section Descriptions

variable {help : FlagHelp} (hhelp : help ∈ CommandHelp.getSize.flags)

include hhelp

theorem name_mem_flagNames_of_help : help.name ∈ flagNames :=
  mem_described_iff.1 (List.mem_map.2 ⟨help, hhelp, rfl⟩)

theorem sample_isSome_iff : help.sample.isSome ↔ help.name ≠ "instant" := by
  have hall : ∀ help ∈ CommandHelp.getSize.flags, help.sample.isSome ↔ help.name ≠ "instant" := by
    decide
  exact hall help hhelp

theorem fits_of_reads {check : Check} {α : Type} {flag : KnownFlag α}
    (hreads : Check.Reads check flag) (hname : flag.name = help.name) : help.Fits flag := by
  have hsample (hne : flag.name ≠ "instant") : help.sample.isSome :=
    (sample_isSome_iff hhelp).2 (hname ▸ hne)
  cases hreads with
  | archive => exact FlagHelp.fits_withValue (hsample (by decide)) _ _
  | spec => exact FlagHelp.fits_withValue (hsample (by decide)) _ _
  | modules => exact FlagHelp.fits_withValue (hsample (by decide)) _ _
  | dimensions => exact FlagHelp.fits_withValue (hsample (by decide)) _ _
  | instant =>
    refine FlagHelp.fits_boolean ?_ _
    have hnot : ¬ help.sample.isSome := fun h => (sample_isSome_iff hhelp).1 h hname.symm
    simpa using hnot

end Descriptions

section Faults

variable {t : FileTree} {flags : Flags} (hd : (flags.supplied.map Flag.name).Nodup)

include hd

theorem Check.Reads.fails_of_bare {check : Check} {α : Type} {flag : KnownFlag α}
    (hreads : Check.Reads check flag) (hbare : ⟨flag.name, none⟩ ∈ flags.supplied)
    {cause : ValueFault} (hcause : flag.convert none = .error cause) :
    Check.Fails t flags check (.flag (.invalidValue flag.name cause)) := by
  have hread : (flag.read flags).2.outcome = .error (.invalidValue flag.name cause) :=
    (KnownFlag.outcome_read_eq_error_iff hd).2 ⟨none, cause, hbare, hcause, rfl⟩
  have hrequired : (flag.readRequired flags).2.outcome = .error (.invalidValue flag.name cause) :=
    (KnownFlag.outcome_readRequired_eq_error_iff hd).2 (.inr ⟨none, cause, hbare, hcause, rfl⟩)
  rw [← Check.outcome_run_eq_error_iff hd]
  cases hreads <;> rw [Check.run, Logged.outcome_course_eq_error_iff, Logged.outcome_mapFault]
  case archive => rw [hrequired, mapError_error]
  all_goals rw [hread, mapError_error]

omit hd in
theorem Check.Fails.exists_flagFault {check : Check} {fault : RequestFault}
    (h : Check.Fails t flags check fault) (hmem : check ∈ Check.ofFlags) :
    ∃ cause, fault = .flag cause := by
  cases h <;> first | exact ⟨_, rfl⟩ | exact absurd hmem (by decide)

theorem exists_flagFault_of_fails {check : Check} {fault : RequestFault}
    (h : Check.Fails t flags check fault) (hmem : check ∈ Check.ofFlags) :
    ∃ cause, (ofFlags t flags).2.outcome = .error (.flag cause) := by
  rcases Check.passes_or_fails t flags Check.ofFlags with
    hpassed | ⟨passed, failed, rest, first, hsplit, hpassed, hfails⟩
  · exact absurd h (hpassed check hmem fault)
  · have hfailed : failed ∈ Check.ofFlags := by
      rw [hsplit]
      simp
    obtain ⟨cause, rfl⟩ := hfails.exists_flagFault hfailed
    have hvalues : Check.values = Check.ofFlags ++ Check.values.drop 6 := rfl
    rw [hsplit, List.append_assoc, List.cons_append] at hvalues
    exact ⟨cause, (outcome_ofFlags_eq_error_iff hd).2
      ⟨passed, failed, _, hvalues, hpassed, hfails⟩⟩

theorem exists_flagFault_of_unknown {f : Flag} (hf : f ∈ flags.supplied) (hname : f.name ∉ flagNames)
    (hasked : f.name ∉ flags.asked) :
    ∃ cause, (ofFlags t flags).2.outcome = .error (.flag cause) := by
  refine exists_flagFault_of_fails hd (.others (List.ne_nil_of_mem (a := f.name) ?_) rfl) (by decide)
  exact List.mem_filter.2 ⟨List.mem_map.2 ⟨f, hf, rfl⟩, by simp [hname, hasked]⟩

theorem exists_flagFault_of_bare {help : FlagHelp} (hhelp : help ∈ CommandHelp.getSize.flags)
    (hsample : help.sample.isSome) (hbare : ⟨help.name, none⟩ ∈ flags.supplied) :
    ∃ cause, (ofFlags t flags).2.outcome = .error (.flag cause) := by
  obtain ⟨check, α, flag, hreads, hname⟩ :=
    exists_reads_of_mem_flagNames (name_mem_flagNames_of_help hhelp)
  have hcause := (fits_of_reads hhelp hreads hname).needsValue hsample
  rw [← hname] at hbare
  exact exists_flagFault_of_fails hd (hreads.fails_of_bare hd hbare hcause) hreads.mem_ofFlags

theorem outcome_ofFlags_eq_missing_iff {name : String} :
    (ofFlags t flags).2.outcome = .error (.flag (.missing name)) ↔
      name = "apks" ∧ name ∉ flags.supplied.map Flag.name := by
  rw [outcome_ofFlags_eq_error_iff hd]
  constructor
  · intro h
    obtain ⟨passed, check, rest, -, -, hfails⟩ := h
    cases hfails with
    | archiveMissing habsent =>
      refine ⟨rfl, ?_⟩
      intro hmem
      obtain ⟨f, hf, hname⟩ := List.mem_map.1 hmem
      apply habsent f.value
      rwa [← hname]
  · intro h
    obtain ⟨rfl, habsent⟩ := h
    refine ⟨[], .archive, _, rfl, by simp, .archiveMissing ?_⟩
    intro value hmem
    exact habsent (List.mem_map.2 ⟨_, hmem, rfl⟩)

end Faults

section Replaced

variable {before after : List Flag} {name : String}

theorem readInputs_snd_congr {flags flags' : Flags}
    (hnames : flags'.supplied.map Flag.name = flags.supplied.map Flag.name)
    (hasked : flags'.asked = flags.asked)
    (hreads : ∀ {check : Check} {α : Type} {flag : KnownFlag α}, Check.Reads check flag →
      (flag.read flags').2 = (flag.read flags).2) :
    (readInputs flags').2 = (readInputs flags).2 := by
  have hrequired : (archiveFlag.readRequired flags').2 = (archiveFlag.readRequired flags).2 :=
    KnownFlag.readRequired_snd_congr (hreads .archive)
  have hall : Flags.checkAllAsked
      (((((flags'.ask archiveFlag.name).ask specFlag.name).ask modulesFlag.name).ask
        instantFlag.name).ask dimensionsFlag.name) = Flags.checkAllAsked
      (((((flags.ask archiveFlag.name).ask specFlag.name).ask modulesFlag.name).ask
        instantFlag.name).ask dimensionsFlag.name) := by
    apply Flags.checkAllAsked_congr
    · simpa using hnames
    · simp only [Flags.asked_ask, hasked]
  simp only [readInputs, Reading.snd_andThen, KnownFlag.readRequired_fst, KnownFlag.read_fst,
    KnownFlag.read_ask_snd, Reading.checkAllAsked, hrequired, hreads .spec, hreads .modules,
    hreads .instant, hreads .dimensions, hall, Reading.done]

theorem value?_of_ne {v w : Option String} {other : String} (h : other ≠ name) :
    (Flags.mk (before ++ ⟨name, w⟩ :: after) []).value? other =
      (Flags.mk (before ++ ⟨name, v⟩ :: after) []).value? other := by
  simp [Flags.value?, List.find?_append, h.symm]

theorem value?_of_nodup {v : Option String}
    (hd : ((before ++ ⟨name, v⟩ :: after).map Flag.name).Nodup) :
    (Flags.mk (before ++ ⟨name, v⟩ :: after) []).value? name = some v :=
  (Flags.value?_eq_some_iff hd).2 (by simp)

theorem ofFlags_snd_of_replaced (t : FileTree) {v w : Option String}
    (hd : ((before ++ ⟨name, v⟩ :: after).map Flag.name).Nodup)
    (hconvert : ∀ {check : Check} {α : Type} {flag : KnownFlag α}, Check.Reads check flag →
      flag.name = name → flag.convert w = flag.convert v) :
    (ofFlags t ⟨before ++ ⟨name, w⟩ :: after, []⟩).2 =
      (ofFlags t ⟨before ++ ⟨name, v⟩ :: after, []⟩).2 := by
  have hd' : ((before ++ ⟨name, w⟩ :: after).map Flag.name).Nodup := by simpa using hd
  have hinputs : (readInputs ⟨before ++ ⟨name, w⟩ :: after, []⟩).2 =
      (readInputs ⟨before ++ ⟨name, v⟩ :: after, []⟩).2 := by
    refine readInputs_snd_congr (by simp) rfl ?_
    intro check α flag hreads
    by_cases hname : flag.name = name
    · simp only [KnownFlag.read, hname, value?_of_nodup hd, value?_of_nodup hd', hconvert hreads hname]
    · simp only [KnownFlag.read, value?_of_ne (v := v) (w := w) hname]
  exact congrArg (fun inputs => (inputs.mapFault .flag).andThen (build t)) hinputs

/-- Arguments are resolved alike if one of them is a bare flag that is described without an example,
or gives this flag the value `true`. -/
theorem ofArguments_of_bare {t : FileTree} {first rest : List String} {help : FlagHelp}
    (hhelp : help ∈ CommandHelp.getSize.flags) (hsample : help.sample = none)
    {flags : List Flag} (hwrites : Writes (first ++ ("--" ++ help.name) :: rest) flags) :
    ofArguments t (first ++ ("--" ++ help.name ++ "=true") :: rest) =
      ofArguments t (first ++ ("--" ++ help.name) :: rest) := by
  have hbare : (Flag.mk help.name none).render = "--" ++ help.name := rfl
  have hvalued : (Flag.mk help.name (some "true")).render = "--" ++ help.name ++ "=true" := by
    rw [← String.toList_inj]
    simp [Flag.render]
  rw [← hbare] at hwrites
  obtain ⟨before, after, rfl, hwrites'⟩ :=
    hwrites.revalue (hasName_of_mem_flagNames (name_mem_flagNames_of_help hhelp)) (some "true")
  rw [← hvalued, ← hbare, ofArguments_of_writes hwrites, ofArguments_of_writes hwrites',
    ofFlags_snd_of_replaced t hwrites.distinct ?_]
  · simp
  · intro check α flag hreads hflag
    exact (fits_of_reads hhelp hreads hflag).bare hsample

end Replaced

/-- Flags are read as they are described. A name that is not described leads to a fault, and those
that are reported as unknown are just these names; only the flag that is not optional can be
missing; a flag that has an example cannot stand without a value, and one that has none may as well
be given the value `true`. -/
theorem read_as_described (t : FileTree) {arguments : List String} {flags : List Flag}
    (h : (FlagList.parse arguments).outcome = .ok flags) :
    (∀ f ∈ flags, f.name ∉ described →
      ∃ fault, (ofArguments t arguments).outcome = .error (.flag fault)) ∧
    (∀ names, (ofArguments t arguments).outcome = .error (.flag (.unrecognized names)) →
      names = (flags.map Flag.name).filter (· ∉ described)) ∧
    (∃ needed, CommandHelp.getSize.flags.filter (!·.optional) = [needed] ∧
      ∀ name, (ofArguments t arguments).outcome = .error (.flag (.missing name)) ↔
        name = needed.name ∧ name ∉ flags.map Flag.name) ∧
    (∀ help ∈ CommandHelp.getSize.flags, help.sample.isSome → "--" ++ help.name ∈ arguments →
      ∃ fault, (ofArguments t arguments).outcome = .error (.flag fault)) ∧
    ∀ help ∈ CommandHelp.getSize.flags, help.sample = none →
      ∀ first rest, arguments = first ++ ("--" ++ help.name) :: rest →
        ofArguments t (first ++ ("--" ++ help.name ++ "=true") :: rest) =
          ofArguments t arguments := by
  have hwrites := FlagList.outcome_parse_eq_ok_iff.1 h
  have hd : ((Flags.mk flags []).supplied.map Flag.name).Nodup := hwrites.distinct
  have houtcome : (ofArguments t arguments).outcome = (ofFlags t ⟨flags, []⟩).2.outcome := by
    rw [ofArguments_of_writes hwrites]
  rw [houtcome]
  refine ⟨?_, ?_, ?_, ?_, ?_⟩
  · intro f hf hnot
    exact exists_flagFault_of_unknown hd hf (fun hmem => hnot (mem_described_iff.2 hmem)) (by simp)
  · intro names hnames
    obtain ⟨-, -, rfl⟩ := (outcome_ofFlags_eq_unrecognized_iff hd).1 hnames
    simp [mem_described_iff]
  · refine ⟨_, rfl, ?_⟩
    intro name
    exact outcome_ofFlags_eq_missing_iff hd
  · intro help hhelp hsample hmem
    have hname := name_mem_flagNames_of_help hhelp
    have hbare : ⟨help.name, none⟩ ∈ flags :=
      (hwrites.mem_iff (hasName_of_mem_flagNames hname)).1 hmem
    exact exists_flagFault_of_bare hd hhelp hsample hbare
  · intro help hhelp hsample first rest harguments
    subst harguments
    exact ofArguments_of_bare hhelp hsample hwrites

theorem bare_flags_read_as_described :
    (ofArguments .scratch ["--zeta=1", "--instant"]).outcome = .error (.flag (.missing "apks")) ∧
    (∃ fault, (ofArguments .scratch ["--apks=a", "--modules", "--instant"]).outcome =
      .error (.flag fault)) ∧
    ofArguments .scratch ["--zeta=1", "--instant=true"] =
      ofArguments .scratch ["--zeta=1", "--instant"] := by
  have hunknown : (FlagList.parse ["--zeta=1", "--instant"]).outcome =
      .ok [⟨"zeta", some "1"⟩, ⟨"instant", none⟩] := by decide
  have hbare : (FlagList.parse ["--apks=a", "--modules", "--instant"]).outcome =
      .ok [⟨"apks", some "a"⟩, ⟨"modules", none⟩, ⟨"instant", none⟩] := by decide
  obtain ⟨-, -, ⟨needed, hneeded, hmissing⟩, -, hsame⟩ := read_as_described .scratch hunknown
  obtain ⟨-, -, -, hrequired, -⟩ := read_as_described .scratch hbare
  cases hneeded
  have hlast : CommandHelp.getSize.flags[4] ∈ CommandHelp.getSize.flags := List.getElem_mem _
  have hmodules : CommandHelp.getSize.flags[3] ∈ CommandHelp.getSize.flags := List.getElem_mem _
  refine ⟨(hmissing "apks").2 (by decide), hrequired _ hmodules rfl (by decide),
    hsame _ hlast rfl ["--zeta=1"] [] rfl⟩

end Request

end SizeRequest

import SizeRequest.Proofs.FirstFault
import SizeRequest.Proofs.FlagRendering

namespace SizeRequest

/-- What becomes of a fault when the flags are put into some order: names that are not recognized
are listed in that order, and nothing else changes. -/
inductive RequestFault.Relists (flags : List Flag) : RequestFault → RequestFault → Prop
  | unrecognized {names names' : List String} : names'.Perm names →
      names'.Sublist (flags.map Flag.name) →
      Relists flags (.flag (.unrecognized names)) (.flag (.unrecognized names'))
  | same {fault : RequestFault} : (∀ names, fault ≠ .flag (.unrecognized names)) →
      Relists flags fault fault

namespace Request

open FlagList (Writes Rejects)

section Reordered

variable {t : FileTree} {flags flags' : List Flag} (hperm : flags'.Perm flags)

include hperm

theorem Check.Fails.reorder {check : Check} {fault : RequestFault}
    (h : Fails t ⟨flags, []⟩ check fault) :
    ∃ fault', Fails t ⟨flags', []⟩ check fault' ∧ fault.Relists flags' fault' := by
  have hmem {f : Flag} (hf : f ∈ flags) : f ∈ flags' := hperm.mem_iff.2 hf
  cases h with
  | archiveMissing habsent =>
    exact ⟨_, .archiveMissing fun value hf => habsent value (hperm.mem_iff.1 hf), .same nofun⟩
  | archive hf hvalue => exact ⟨_, .archive (hmem hf) hvalue, .same nofun⟩
  | spec hf hvalue => exact ⟨_, .spec (hmem hf) hvalue, .same nofun⟩
  | modules hf => exact ⟨_, .modules (hmem hf), .same nofun⟩
  | instant hf hvalue => exact ⟨_, .instant (hmem hf) hvalue, .same nofun⟩
  | dimensions hf hvalue => exact ⟨_, .dimensions (hmem hf) hvalue, .same nofun⟩
  | @others names hne hnames =>
    have hnames' := (hperm.map Flag.name).filter fun name =>
      name ∉ flagNames ∧ name ∉ (Flags.mk flags []).asked
    rw [← hnames] at hnames'
    refine ⟨_, .others ?_ rfl, .unrecognized hnames' List.filter_sublist⟩
    intro hnil
    rw [hnil] at hnames'
    exact hne hnames'.nil_eq.symm
  | archiveFile hf hfile => exact ⟨_, .archiveFile (hmem hf) hfile, .same nofun⟩
  | specFile hf hfile => exact ⟨_, .specFile (hmem hf) hfile, .same nofun⟩
  | specExtension hf hformat => exact ⟨_, .specExtension (hmem hf) hformat, .same nofun⟩
  | specText hf hread => exact ⟨_, .specText (hmem hf) hread, .same nofun⟩
  | specContent hf hformat hread hcontent =>
    exact ⟨_, .specContent (hmem hf) hformat hread hcontent, .same nofun⟩

theorem Check.Passes.reorder {check : Check} (h : Passes t ⟨flags, []⟩ check) :
    Passes t ⟨flags', []⟩ check := by
  intro fault' hfails
  obtain ⟨fault, hfails, -⟩ := Check.Fails.reorder hperm.symm hfails
  exact h fault hfails

theorem asksFor_iff_of_perm {d : Dimension} : AsksFor flags' d ↔ AsksFor flags d := by
  simp only [AsksFor, hperm.mem_iff]

theorem Acceptable.reorder (h : Acceptable t flags) : Acceptable t flags' where
  known f hf := h.known f (hperm.mem_iff.1 hf)
  archive := by
    obtain ⟨text, hf, hfile⟩ := h.archive
    exact ⟨text, hperm.mem_iff.2 hf, hfile⟩
  spec value hf := h.spec value (hperm.mem_iff.1 hf)
  modules hf := h.modules (hperm.mem_iff.1 hf)
  instant text hf := h.instant text (hperm.mem_iff.1 hf)
  dimensions value hf := h.dimensions value (hperm.mem_iff.1 hf)

theorem Answers.reorder {r : Request} (h : Answers t flags r) : Answers t flags' r where
  archive := hperm.mem_iff.2 h.archive
  defaultSpec habsent := h.defaultSpec fun value hf => habsent value (hperm.mem_iff.2 hf)
  spec text hf := h.spec text (hperm.mem_iff.1 hf)
  allModules habsent := h.allModules fun value hf => habsent value (hperm.mem_iff.2 hf)
  modules text hf := h.modules text (hperm.mem_iff.1 hf)
  dimensions d := by
    rw [asksFor_iff_of_perm hperm, asksFor_iff_of_perm hperm]
    exact h.dimensions d
  instant := by
    simp only [hperm.mem_iff]
    exact h.instant

end Reordered

theorem outcome_ofArguments_of_answers {t : FileTree} {arguments : List String} {flags : List Flag}
    {r : Request} (hwrites : Writes arguments flags) (haccepted : Acceptable t flags)
    (hanswers : Answers t flags r) : (ofArguments t arguments).outcome = .ok r := by
  obtain ⟨s, hs⟩ := exists_outcome_ofFlags_of_acceptable hwrites.distinct haccepted
  have hanswered := answers_of_outcome_ofFlags hwrites.distinct hs
  rw [eq_of_answers hwrites.distinct haccepted hanswers hanswered]
  exact outcome_ofArguments_eq_ok_iff.2 ⟨flags, hwrites, hs⟩

section Arguments

variable {t : FileTree} {arguments reordered : List String} (hperm : reordered.Perm arguments)

include hperm

theorem outcome_ofArguments_of_perm {r : Request} (h : (ofArguments t arguments).outcome = .ok r) :
    (ofArguments t reordered).outcome = .ok r := by
  obtain ⟨flags, hwrites, hresolved⟩ := outcome_ofArguments_eq_ok_iff.1 h
  obtain ⟨flags', hwrites', hflags⟩ := hwrites.perm hperm
  have haccepted := acceptable_of_outcome_ofFlags hwrites.distinct hresolved
  have hanswers := answers_of_outcome_ofFlags hwrites.distinct hresolved
  exact outcome_ofArguments_of_answers hwrites' (haccepted.reorder hflags) (hanswers.reorder hflags)

theorem FirstFault.reorder {flags : List Flag} {fault : RequestFault}
    (hwrites : Writes arguments flags) (h : FirstFault t arguments fault) :
    ∃ flags' fault', Writes reordered flags' ∧ flags'.Perm flags ∧
      FirstFault t reordered fault' ∧ fault.Relists flags' fault' := by
  obtain ⟨flags', hwrites', hflags⟩ := hwrites.perm hperm
  have hfault := outcome_eq_error_iff_firstFault.2 h
  rw [ofArguments_of_writes hwrites, outcome_ofFlags_eq_error_iff hwrites.distinct] at hfault
  obtain ⟨passed, check, rest, hvalues, hpassed, hfails⟩ := hfault
  obtain ⟨fault', hfails', hrelists⟩ := hfails.reorder hflags
  refine ⟨flags', fault', hwrites', hflags, .check hwrites' hvalues ?_ hfails', hrelists⟩
  intro other hother
  exact (hpassed other hother).reorder hflags

theorem exists_rejects_of_perm (h : ∀ flags, ¬ Writes arguments flags) :
    ∃ before argument after flags fault, reordered = before ++ argument :: after ∧
      Writes before flags ∧ Rejects flags argument fault := by
  rcases FlagList.writes_or_rejects reordered with ⟨flags, hwrites⟩ | hrejects
  · obtain ⟨flags', hwrites', -⟩ := hwrites.perm hperm.symm
    exact absurd hwrites' (h flags')
  · exact hrejects

end Arguments

/-- The order of arguments does not matter. A request stays the same; a fault of flags or files
stays the same, apart from the order in which unrecognized flags are listed; and arguments that are
no flags are none in any order, one of them being rejected for its form or as a repetition. -/
theorem resolved_in_any_order (t : FileTree) {arguments reordered : List String}
    (hperm : reordered.Perm arguments) :
    (∀ r, (ofArguments t arguments).outcome = .ok r → (ofArguments t reordered).outcome = .ok r) ∧
    (∀ flags fault, (FlagList.parse arguments).outcome = .ok flags →
      (ofArguments t arguments).outcome = .error fault →
      ∃ flags' fault', (FlagList.parse reordered).outcome = .ok flags' ∧ flags'.Perm flags ∧
        (ofArguments t reordered).outcome = .error fault' ∧ fault.Relists flags' fault') ∧
    (∀ fault, (FlagList.parse arguments).outcome = .error fault →
      ∃ fault', (FlagList.parse reordered).outcome = .error fault' ∧
        (ofArguments t reordered).outcome = .error (.flag fault') ∧
        ((∃ argument, fault' = .positional argument) ∨ (∃ argument, fault' = .emptyName argument) ∨
          ∃ name, fault' = .duplicate name)) := by
  refine ⟨?_, ?_, ?_⟩
  · intro r h
    exact outcome_ofArguments_of_perm hperm h
  · intro flags fault hparse h
    have hwrites := FlagList.outcome_parse_eq_ok_iff.1 hparse
    obtain ⟨flags', fault', hwrites', hflags, hfault', hrelists⟩ :=
      FirstFault.reorder hperm hwrites (outcome_eq_error_iff_firstFault.1 h)
    exact ⟨flags', fault', FlagList.outcome_parse_eq_ok_iff.2 hwrites', hflags,
      outcome_eq_error_iff_firstFault.2 hfault', hrelists⟩
  · intro fault hparse
    have hnone : ∀ flags, ¬ Writes arguments flags := by
      intro flags hwrites
      rw [FlagList.outcome_parse_eq_ok_iff.2 hwrites] at hparse
      cases hparse
    obtain ⟨before, argument, after, flags, fault', rfl, hwrites, hrejects⟩ :=
      exists_rejects_of_perm hperm hnone
    refine ⟨fault', ?_, ?_, ?_⟩
    · rw [FlagList.parse_of_rejects hwrites hrejects]
    · rw [ofArguments_of_rejects hwrites hrejects]
    · cases hrejects with
      | positional _ => exact .inl ⟨_, rfl⟩
      | emptyName _ _ => exact .inr (.inl ⟨_, rfl⟩)
      | duplicate _ _ _ _ => exact .inr (.inr ⟨_, rfl⟩)

theorem names_relisted_in_new_order :
    (∃ r, (ofArguments (FileTree.scratch.add "a.apks" (.file .empty))
        ["--instant", "--apks=a.apks"]).outcome = .ok r ∧
      (ofArguments (FileTree.scratch.add "a.apks" (.file .empty))
        ["--apks=a.apks", "--instant"]).outcome = .ok r) ∧
    (∃ names, names.Perm ["zeta", "alpha"] ∧ names.Sublist ["alpha", "apks", "zeta"] ∧
      (ofArguments .scratch ["--alpha=1", "--apks=a", "--zeta"]).outcome =
        .error (.flag (.unrecognized names))) ∧
    ∃ fault, (ofArguments .scratch ["--apks", "--apks", "a"]).outcome = .error (.flag fault) := by
  have hresolved : (ofArguments (FileTree.scratch.add "a.apks" (.file .empty))
      ["--instant", "--apks=a.apks"]).outcome.isOk := by decide
  obtain ⟨r, hr⟩ := isOk_iff.1 hresolved
  have hread : (FlagList.parse ["--zeta", "--apks=a", "--alpha=1"]).outcome =
      .ok [⟨"zeta", none⟩, ⟨"apks", some "a"⟩, ⟨"alpha", some "1"⟩] := by decide
  have hfailed : (ofArguments .scratch ["--zeta", "--apks=a", "--alpha=1"]).outcome =
      .error (.flag (.unrecognized ["zeta", "alpha"])) := by decide
  have hrejected : (FlagList.parse ["--apks", "a", "--apks"]).outcome =
      .error (.positional "a") := by decide
  refine ⟨⟨r, hr, (resolved_in_any_order _ (by decide)).1 r hr⟩, ?_, ?_⟩
  · have hperm : ["--alpha=1", "--apks=a", "--zeta"].Perm ["--zeta", "--apks=a", "--alpha=1"] := by
      decide
    obtain ⟨flags, fault, hparse, -, houtcome, hrelists⟩ :=
      (resolved_in_any_order .scratch hperm).2.1 _ _ hread hfailed
    have hflags : (FlagList.parse ["--alpha=1", "--apks=a", "--zeta"]).outcome =
        .ok [⟨"alpha", some "1"⟩, ⟨"apks", some "a"⟩, ⟨"zeta", none⟩] := by decide
    cases hparse.symm.trans hflags
    cases hrelists with
    | unrecognized hnames hlisted => exact ⟨_, hnames, hlisted, houtcome⟩
    | same hother => exact absurd rfl (hother _)
  · have hperm : ["--apks", "--apks", "a"].Perm ["--apks", "a", "--apks"] := by decide
    obtain ⟨fault, -, houtcome, -⟩ := (resolved_in_any_order .scratch hperm).2.2 _ hrejected
    exact ⟨fault, houtcome⟩

end Request

end SizeRequest

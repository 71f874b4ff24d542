import SizeRequest.Proofs.FlagText
import SizeRequest.Proofs.FlagValue
import SizeRequest.Resolve

namespace SizeRequest

namespace FileTree

def HoldsFile (t : FileTree) (path : Path) : Prop :=
  ∃ e, t.locate path = .ok e ∧ e ≠ .directory ∧ e ≠ .locked

/-- A path names a spec file by its extension and leads to a file whose text describes a spec. -/
def HoldsSpec (t : FileTree) (path : Path) (spec : DeviceSpec) : Prop :=
  ∃ format contents text, SpecFormat.ofPath? path = some format
    ∧ t.locate path = .ok (.file contents) ∧ String.fromUTF8? contents = some text
    ∧ DeviceSpec.ofText format text = .ok spec

theorem checkFile_eq_ok_iff {t : FileTree} {path : Path} {u : Unit} :
    t.checkFile path = .ok u ↔ t.HoldsFile path := by
  unfold checkFile HoldsFile
  cases h : t.locate path with
  | error fault => cases fault <;> simp
  | ok e => cases e <;> simp

theorem readText_eq_ok_iff {t : FileTree} {path : Path} {text : String} :
    t.readText path = .ok text ↔
      ∃ contents, t.locate path = .ok (.file contents)
        ∧ String.fromUTF8? contents = some text := by
  unfold readText
  cases h : t.locate path with
  | error fault => simp
  | ok e =>
    cases e with
    | file contents => cases hu : String.fromUTF8? contents <;> simp [hu]
    | locked => simp
    | directory => simp
    | link target => simp

end FileTree

namespace DeviceSpec

theorem load_eq_ok_iff {t : FileTree} {path : Path} {spec : DeviceSpec} :
    load t path = .ok spec ↔ t.HoldsSpec path spec := by
  unfold load FileTree.HoldsSpec
  cases hf : SpecFormat.ofPath? path with
  | none => simp
  | some format =>
    cases hr : t.readText path with
    | error fault =>
      have hne (contents : ByteArray) (text : String)
          (hl : t.locate path = .ok (.file contents)) : String.fromUTF8? contents ≠ some text := by
        intro hu
        rw [FileTree.readText_eq_ok_iff.2 ⟨contents, hl, hu⟩] at hr
        cases hr
      constructor
      · intro h
        cases h
      · rintro ⟨_, contents, text, _, hl, hu, _⟩
        exact absurd hu (hne contents text hl)
    | ok text =>
      obtain ⟨contents, hl, hu⟩ := FileTree.readText_eq_ok_iff.1 hr
      rw [mapError_eq_ok_iff]
      constructor
      · intro h
        exact ⟨format, contents, text, rfl, hl, hu, h⟩
      · rintro ⟨format', contents', text', hf', hl', hu', h⟩
        cases hf'
        cases hl.symm.trans hl'
        cases hu.symm.trans hu'
        exact h

theorem outcome_loadPartial (t : FileTree) (path : Path) :
    (loadPartial t path).outcome = load t path := by
  unfold loadPartial
  cases load t path <;> rfl

theorem outcome_check {t : FileTree} {path : Path} :
    (t.check path).outcome = t.checkFile path := by
  unfold FileTree.check
  cases t.checkFile path <;> rfl

theorem outcome_resolve_eq_ok_iff {t : FileTree} {path : Option Path} {spec : DeviceSpec} :
    (resolve t path).outcome = .ok spec ↔
      (path = none ∧ spec = {}) ∨
      ∃ p, path = some p ∧ t.HoldsFile p ∧ t.HoldsSpec p spec := by
  cases path with
  | none =>
    simp only [resolve, Logged.outcome_log_andThen, Logged.outcome_done, Except.ok.injEq]
    simp [eq_comm]
  | some p =>
    rw [resolve, Logged.outcome_andThen_eq_ok_iff]
    simp only [Logged.outcome_mapFault, mapError_eq_ok_iff, outcome_loadPartial, outcome_check,
      FileTree.checkFile_eq_ok_iff, load_eq_ok_iff]
    simp

end DeviceSpec

theorem Dimension.outcome_expandLogged {ε : Type} (requested : OrderedSet Dimension) :
    (expandLogged (ε := ε) requested).outcome = .ok (expand requested) := by
  unfold expandLogged
  split <;> rfl

namespace Request

theorem outcome_build_eq_ok_iff {t : FileTree} {inputs : Inputs} {r : Request} :
    (build t inputs).outcome = .ok r ↔
      t.HoldsFile inputs.archive ∧
      ∃ spec, (DeviceSpec.resolve t inputs.specPath).outcome = .ok spec
        ∧ r = ⟨inputs.archive, spec, inputs.modules, Dimension.expand inputs.dimensions,
          inputs.instant.getD false⟩ := by
  rw [build, Logged.outcome_andThen_eq_ok_iff]
  simp only [Logged.outcome_mapFault, mapError_eq_ok_iff, DeviceSpec.outcome_check,
    Logged.outcome_andThen_eq_ok_iff, Dimension.outcome_expandLogged, Logged.outcome_log,
    Logged.outcome_done]
  constructor
  · rintro ⟨⟨⟩, hcheck, spec, hspec, dimensions, hdimensions, ⟨⟩, -, hr⟩
    cases hdimensions
    cases hr
    exact ⟨FileTree.checkFile_eq_ok_iff.1 hcheck, spec, hspec, rfl⟩
  · rintro ⟨hfile, spec, hspec, rfl⟩
    exact ⟨(), FileTree.checkFile_eq_ok_iff.2 hfile, spec, hspec, _, rfl, (), trivial, rfl⟩

def flagNames : List String := ["apks", "device-spec", "modules", "instant", "dimensions"]

/-- Inputs are those that flags give: each is read from its own flag, and none has been changed. -/
structure Inputs.GivenBy (inputs : Inputs) (flags : Flags) : Prop where
  archive : (archiveFlag.read flags).2.outcome = .ok (some inputs.archive)
  specPath : (specFlag.read flags).2.outcome = .ok inputs.specPath
  modules : (modulesFlag.read flags).2.outcome = .ok inputs.modules
  instant : (instantFlag.read flags).2.outcome = .ok inputs.instant
  dimensions : ∃ dimensions, (dimensionsFlag.read flags).2.outcome = .ok dimensions
    ∧ inputs.dimensions = dimensions.getD .empty

theorem outcome_readInputs_eq_ok_iff {flags : Flags} {inputs : Inputs} :
    (readInputs flags).2.outcome = .ok inputs ↔
      inputs.GivenBy flags ∧
        ∀ f ∈ flags.supplied, f.name ∈ flagNames ∨ f.name ∈ flags.asked := by
  have hasked : (((((flags.ask archiveFlag.name).ask specFlag.name).ask
      modulesFlag.name).ask instantFlag.name).ask dimensionsFlag.name).checkAllAsked = .ok () ↔
        ∀ f ∈ flags.supplied, f.name ∈ flagNames ∨ f.name ∈ flags.asked := by
    rw [Flags.checkAllAsked_eq_ok_iff]
    simp only [Flags.supplied_ask, Flags.mem_asked_ask, flagNames, List.mem_cons,
      List.not_mem_nil, or_false]
    have hswap {a b c d e other : Prop} :
        (e ∨ d ∨ c ∨ b ∨ a ∨ other) ↔ (a ∨ b ∨ c ∨ d ∨ e) ∨ other := by
      constructor
      · intro h
        rcases h with h | h | h | h | h | h <;> simp [h]
      · intro h
        rcases h with (h | h | h | h | h) | h <;> simp [h]
    exact forall_congr' fun f => imp_congr_right fun _ => hswap
  simp only [readInputs, Reading.outcome_andThen_eq_ok_iff,
    KnownFlag.outcome_readRequired_eq_ok_iff, KnownFlag.readRequired_fst, KnownFlag.read_fst,
    KnownFlag.read_ask_snd, Reading.checkAllAsked, Logged.outcome_silent, hasked, Reading.done,
    Logged.outcome_done, Except.ok.injEq]
  constructor
  · intro h
    obtain ⟨archive, ha, spec, hs, modules, hm, instant, hi, dimensions, hd, ⟨⟩, hk, rfl⟩ := h
    exact ⟨⟨ha, hs, hm, hi, dimensions, hd, rfl⟩, hk⟩
  · intro h
    obtain ⟨⟨ha, hs, hm, hi, dimensions, hd, he⟩, hk⟩ := h
    exact ⟨_, ha, _, hs, _, hm, _, hi, dimensions, hd, (), hk, by rw [← he]⟩

end Request

end SizeRequest

import SizeRequest.Proofs.Replay

namespace SizeRequest

namespace DeviceSpec

theorem default_or_loaded_of_resolve {t : FileTree} {path : Option Path} {spec : DeviceSpec}
    (h : (resolve t path).outcome = .ok spec) :
    (path = none ∧ (resolve t none).outcome = .ok spec) ∨
      ∃ p, path = some p ∧ (t.check p).outcome = .ok () ∧ (loadPartial t p).outcome = .ok spec := by
  cases path with
  | none => exact .inl ⟨rfl, h⟩
  | some p =>
    rw [resolve, Logged.outcome_andThen_eq_ok_iff] at h
    obtain ⟨_, hcheck, hload⟩ := h
    rw [Logged.outcome_mapFault, mapError_eq_ok_iff] at hcheck hload
    exact .inr ⟨p, rfl, hcheck, hload⟩

end DeviceSpec

namespace Request

/-- A request holds what it is built from: an archive that can be read, a spec as it is resolved,
the modules as they are given, and no dimensions but supported ones. -/
structure BuiltFrom (t : FileTree) (inputs : Inputs) (r : Request) : Prop where
  archive : r.archive = inputs.archive
  readable : (t.check r.archive).outcome = .ok ()
  spec : (inputs.specPath = none ∧ (DeviceSpec.resolve t none).outcome = .ok r.spec) ∨
    ∃ path, inputs.specPath = some path ∧ (t.check path).outcome = .ok () ∧
      (DeviceSpec.loadPartial t path).outcome = .ok r.spec
  modules : r.modules = inputs.modules
  expanded : r.dimensions = Dimension.expand inputs.dimensions
  supported : ∀ d ∈ r.dimensions.toList, d ∈ Dimension.supported.toList ∧ d ≠ .all
  instant : r.instant = inputs.instant.getD false

theorem outcome_build (t : FileTree) (inputs : Inputs) :
    (build t inputs).outcome =
      ((t.check inputs.archive).outcome.mapError .file).bind fun _ =>
      (DeviceSpec.resolve t inputs.specPath).outcome.bind fun spec =>
      .ok ⟨inputs.archive, spec, inputs.modules, Dimension.expand inputs.dimensions,
        inputs.instant.getD false⟩ := by
  simp only [build, Logged.outcome_andThen, Logged.outcome_mapFault,
    Dimension.outcome_expandLogged]
  rfl

theorem outcome_build_expand (t : FileTree) (inputs : Inputs) :
    (build t { inputs with dimensions := Dimension.expand inputs.dimensions }).outcome =
      (build t inputs).outcome := by
  rw [outcome_build, outcome_build, Dimension.expand_expand]

theorem builtFrom_of_outcome_build {t : FileTree} {inputs : Inputs} {r : Request}
    (h : (build t inputs).outcome = .ok r) : BuiltFrom t inputs r := by
  obtain ⟨hfile, spec, hspec, rfl⟩ := outcome_build_eq_ok_iff.1 h
  refine
    { archive := rfl
      readable := ?_
      spec := DeviceSpec.default_or_loaded_of_resolve hspec
      modules := rfl
      expanded := rfl
      supported := ?_
      instant := rfl }
  · rw [DeviceSpec.outcome_check]
    exact FileTree.checkFile_eq_ok_iff.2 hfile
  · intro d hd
    have hne := (Dimension.mem_expand_iff.1 hd).1
    exact ⟨Dimension.mem_supported_iff.2 hne, hne⟩

theorem exists_builtFrom_of_outcome_ofFlags {t : FileTree} {flags : Flags} {r : Request}
    (h : (ofFlags t flags).2.outcome = .ok r) :
    ∃ inputs : Inputs, inputs.GivenBy flags ∧ BuiltFrom t inputs r := by
  obtain ⟨inputs, hread, hbuild⟩ := outcome_ofFlags_eq_ok_iff.1 h
  exact ⟨inputs, (outcome_readInputs_eq_ok_iff.1 hread).1, builtFrom_of_outcome_build hbuild⟩

/-- Every request holds what it is built from, whether it is made from values, from flags in any
state, or from arguments; and it makes no difference whether the dimensions that are asked for are
expanded before. -/
theorem built_from_inputs (t : FileTree) :
    (∀ inputs r, (build t inputs).outcome = .ok r → BuiltFrom t inputs r) ∧
    (∀ inputs, (build t { inputs with dimensions := Dimension.expand inputs.dimensions }).outcome =
      (build t inputs).outcome) ∧
    (∀ flags r, (ofFlags t flags).2.outcome = .ok r →
      ∃ inputs : Inputs, inputs.GivenBy flags ∧ BuiltFrom t inputs r) ∧
    ∀ arguments r, (ofArguments t arguments).outcome = .ok r →
      ∃ supplied, (FlagList.parse arguments).outcome = .ok supplied ∧
        ∃ inputs : Inputs, inputs.GivenBy ⟨supplied, []⟩ ∧ BuiltFrom t inputs r := by
  refine ⟨?_, outcome_build_expand t, ?_, ?_⟩
  · intro inputs r h
    exact builtFrom_of_outcome_build h
  · intro flags r h
    exact exists_builtFrom_of_outcome_ofFlags h
  · intro arguments r h
    obtain ⟨supplied, hwrites, hresolved⟩ := outcome_ofArguments_eq_ok_iff.1 h
    exact ⟨supplied, FlagList.outcome_parse_eq_ok_iff.2 hwrites,
      exists_builtFrom_of_outcome_ofFlags hresolved⟩

def askedFlags : Flags :=
  ⟨[⟨"apks", some "a.apks"⟩, ⟨"zeta", none⟩, ⟨"dimensions", some "ALL,SDK"⟩,
    ⟨"modules", some ""⟩, ⟨"device-spec", some "s.json"⟩], ["zeta", "apks"]⟩

theorem built_from_asked_flags :
    ∃ r, (ofFlags specTree askedFlags).2.outcome = .ok r ∧ r.modules = some .empty ∧
      .all ∉ r.dimensions.toList ∧
      (DeviceSpec.loadPartial specTree ⟨"s.json"⟩).outcome = .ok r.spec := by
  have hresolved : (ofFlags specTree askedFlags).2.outcome =
      .ok ⟨⟨"a.apks"⟩, {}, some .empty, Dimension.supported, false⟩ := by decide
  obtain ⟨inputs, hgiven, hbuilt⟩ := (built_from_inputs specTree).2.2.1 _ _ hresolved
  have hmodules : (modulesFlag.read askedFlags).2.outcome = .ok (some .empty) := by decide
  have hspec : (specFlag.read askedFlags).2.outcome = .ok (some ⟨"s.json"⟩) := by decide
  refine ⟨_, hresolved, ?_, ?_, ?_⟩
  · rw [hbuilt.modules]
    exact Except.ok.inj (hgiven.modules.symm.trans hmodules)
  · intro hall
    exact (hbuilt.supported _ hall).2 rfl
  · have hpath := Except.ok.inj (hgiven.specPath.symm.trans hspec)
    rcases hbuilt.spec with ⟨hnone, -⟩ | ⟨path, hsome, -, hload⟩
    · rw [hnone] at hpath
      cases hpath
    · rw [hsome] at hpath
      cases hpath
      exact hload

end Request

end SizeRequest

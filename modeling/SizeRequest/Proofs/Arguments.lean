import SizeRequest.Proofs.Resolution

namespace SizeRequest

namespace Request

structure Acceptable (t : FileTree) (flags : List Flag) : Prop where
  known : ∀ f ∈ flags, f.name ∈ flagNames
  archive : ∃ text, ⟨"apks", some text⟩ ∈ flags ∧ text ≠ "" ∧ t.HoldsFile ⟨text⟩
  spec : ∀ value, ⟨"device-spec", value⟩ ∈ flags →
    ∃ text, value = some text ∧ text ≠ "" ∧ t.HoldsFile ⟨text⟩ ∧ ∃ spec, t.HoldsSpec ⟨text⟩ spec
  modules : ⟨"modules", none⟩ ∉ flags
  instant : ∀ text, ⟨"instant", some text⟩ ∈ flags →
    text.toLower = "true" ∨ text.toLower = "false"
  dimensions : ∀ value, ⟨"dimensions", value⟩ ∈ flags →
    ∃ text, value = some text ∧ ∀ item, Text.IsItem text item → ∃ d : Dimension, d.name = item

def AsksFor (flags : List Flag) (d : Dimension) : Prop :=
  ∃ text, ⟨"dimensions", some text⟩ ∈ flags ∧ Text.IsItem text d.name

/-- What a request has to hold to be the one for which flags ask. -/
structure Answers (t : FileTree) (flags : List Flag) (r : Request) : Prop where
  archive : ⟨"apks", some r.archive.text⟩ ∈ flags
  defaultSpec : (∀ value, ⟨"device-spec", value⟩ ∉ flags) → r.spec = {}
  spec : ∀ text, ⟨"device-spec", some text⟩ ∈ flags → t.HoldsSpec ⟨text⟩ r.spec
  allModules : (∀ value, ⟨"modules", value⟩ ∉ flags) → r.modules = none
  modules : ∀ text, ⟨"modules", some text⟩ ∈ flags →
    ∃ names, r.modules = some names ∧ ∀ name, name ∈ names.toList ↔ Text.IsItem text name
  dimensions : ∀ d, d ∈ r.dimensions.toList ↔ d ≠ .all ∧ (AsksFor flags d ∨ AsksFor flags .all)
  instant : r.instant = true ↔
    ⟨"instant", none⟩ ∈ flags ∨ ∃ text, ⟨"instant", some text⟩ ∈ flags ∧ text.toLower = "true"

theorem outcome_ofFlags_eq_ok_iff {t : FileTree} {flags : Flags} {r : Request} :
    (ofFlags t flags).2.outcome = .ok r ↔
      ∃ inputs, (readInputs flags).2.outcome = .ok inputs ∧ (build t inputs).outcome = .ok r := by
  simp only [ofFlags, Logged.outcome_andThen_eq_ok_iff, Logged.outcome_mapFault, mapError_eq_ok_iff]

section Distinct

variable {flags : List Flag} (hd : (flags.map Flag.name).Nodup)

include hd

theorem value_eq_of_mem {name : String} {v w : Option String} (hv : ⟨name, v⟩ ∈ flags)
    (hw : ⟨name, w⟩ ∈ flags) : v = w := by
  have hd' : ((Flags.mk flags []).supplied.map Flag.name).Nodup := hd
  have hv' := (Flags.value?_eq_some_iff hd').2 hv
  exact Option.some.inj (hv'.symm.trans ((Flags.value?_eq_some_iff hd').2 hw))

theorem outcome_read_path_eq_ok_some_iff {name : String} {path : Path} :
    ((KnownFlag.path name).read ⟨flags, []⟩).2.outcome = .ok (some path) ↔
      ⟨name, some path.text⟩ ∈ flags ∧ path.text ≠ "" := by
  rw [KnownFlag.outcome_read_eq_ok_some_iff hd]
  simp only [KnownFlag.convert_path_eq_ok_iff]
  constructor
  · rintro ⟨value, hm, rfl, hne⟩
    exact ⟨hm, hne⟩
  · rintro ⟨hm, hne⟩
    exact ⟨_, hm, rfl, hne⟩

theorem outcome_read_modules_eq_ok_some_iff {names : OrderedSet String} :
    (modulesFlag.read ⟨flags, []⟩).2.outcome = .ok (some names) ↔
      ∃ text, ⟨"modules", some text⟩ ∈ flags ∧
        ∀ name, name ∈ names.toList ↔ Text.IsItem text name := by
  rw [KnownFlag.outcome_read_eq_ok_some_iff hd]
  simp only [modulesFlag, KnownFlag.convert_textSet_eq_ok_iff]
  constructor
  · rintro ⟨value, hm, text, rfl, rfl⟩
    exact ⟨text, hm, fun name => OrderedSet.mem_ofList_iff.trans Text.mem_items_iff⟩
  · rintro ⟨text, hm, hmem⟩
    refine ⟨_, hm, text, rfl, OrderedSet.eq_of_mem_iff fun name => ?_⟩
    rw [hmem, OrderedSet.mem_ofList_iff, Text.mem_items_iff]

theorem outcome_read_instant_eq_ok_some_iff {b : Bool} :
    (instantFlag.read ⟨flags, []⟩).2.outcome = .ok (some b) ↔
      (⟨"instant", none⟩ ∈ flags ∧ b = true) ∨
      ∃ text, ⟨"instant", some text⟩ ∈ flags ∧
        ((text.toLower = "true" ∧ b = true) ∨ (text.toLower = "false" ∧ b = false)) := by
  rw [KnownFlag.outcome_read_eq_ok_some_iff hd]
  simp only [instantFlag, KnownFlag.convert_boolean_eq_ok_iff]
  constructor
  · rintro ⟨value, hm, ⟨rfl, hb⟩ | ⟨text, rfl, hb⟩⟩
    · exact .inl ⟨hm, hb⟩
    · exact .inr ⟨text, hm, hb⟩
  · rintro (⟨hm, hb⟩ | ⟨text, hm, hb⟩)
    · exact ⟨_, hm, .inl ⟨rfl, hb⟩⟩
    · exact ⟨_, hm, .inr ⟨text, rfl, hb⟩⟩

theorem outcome_read_dimensions_eq_ok_some_iff {found : OrderedSet Dimension} :
    (dimensionsFlag.read ⟨flags, []⟩).2.outcome = .ok (some found) ↔
      ∃ text, ⟨"dimensions", some text⟩ ∈ flags
        ∧ (∀ item, Text.IsItem text item → ∃ d : Dimension, d.name = item)
        ∧ ∀ d, d ∈ found.toList ↔ Text.IsItem text d.name := by
  rw [KnownFlag.outcome_read_eq_ok_some_iff hd]
  simp only [dimensionsFlag, KnownFlag.convert_memberSet_eq_ok_iff]
  have hmem {text : String} {l : List Dimension}
      (hl : (Text.items text).map Dimension.ofName? = l.map some) (d : Dimension) :
      d ∈ (OrderedSet.ofList l).toList ↔ Text.IsItem text d.name := by
    rw [OrderedSet.mem_ofList_iff, mem_iff_of_map_eq_map_some hl, ← Text.mem_items_iff]
    simp [Dimension.ofName?_eq_some_iff]
  constructor
  · rintro ⟨value, hm, text, l, rfl, hl, rfl⟩
    refine ⟨text, hm, fun item hitem => ?_, hmem hl⟩
    obtain ⟨d, hitem⟩ := exists_map_eq_map_some_iff.1 ⟨l, hl⟩ item (Text.mem_items_iff.2 hitem)
    exact ⟨d, Dimension.name_of_ofName? hitem⟩
  · rintro ⟨text, hm, hall, hfound⟩
    have hsome : ∀ item ∈ Text.items text, ∃ d, Dimension.ofName? item = some d := by
      intro item hitem
      obtain ⟨d, rfl⟩ := hall item (Text.mem_items_iff.1 hitem)
      exact ⟨d, Dimension.ofName?_name d⟩
    obtain ⟨l, hl⟩ := exists_map_eq_map_some_iff.2 hsome
    exact ⟨_, hm, text, l, rfl, hl, OrderedSet.eq_of_mem_iff fun d => by rw [hfound, hmem hl]⟩

theorem asksFor_iff_of_read {found : Option (OrderedSet Dimension)} (d : Dimension)
    (h : (dimensionsFlag.read ⟨flags, []⟩).2.outcome = .ok found) :
    AsksFor flags d ↔ d ∈ (found.getD .empty).toList := by
  cases found with
  | none =>
    have habsent := KnownFlag.outcome_read_eq_ok_none_iff.1 h
    constructor
    · rintro ⟨text, htext, -⟩
      exact absurd htext (habsent _)
    · intro hd
      cases hd
  | some set =>
    obtain ⟨text, htext, -, hset⟩ := (outcome_read_dimensions_eq_ok_some_iff hd).1 h
    rw [Option.getD_some, hset]
    constructor
    · rintro ⟨other, hother, hitem⟩
      cases value_eq_of_mem hd htext hother
      exact hitem
    · intro hitem
      exact ⟨text, htext, hitem⟩

theorem instant_iff_of_read {found : Option Bool}
    (h : (instantFlag.read ⟨flags, []⟩).2.outcome = .ok found) :
    found.getD false = true ↔ ⟨"instant", none⟩ ∈ flags ∨
      ∃ text, ⟨"instant", some text⟩ ∈ flags ∧ text.toLower = "true" := by
  cases found with
  | none =>
    have habsent := KnownFlag.outcome_read_eq_ok_none_iff.1 h
    constructor
    · intro hb
      cases hb
    · rintro (hbare | ⟨text, htext, -⟩)
      · exact absurd hbare (habsent _)
      · exact absurd htext (habsent _)
  | some b =>
    rcases (outcome_read_instant_eq_ok_some_iff hd).1 h with ⟨hbare, rfl⟩ | ⟨text, htext, hb⟩
    · simp [hbare]
    · constructor
      · rintro rfl
        exact .inr ⟨text, htext, by simpa using hb⟩
      · rintro (hbare | ⟨other, hother, htrue⟩)
        · cases value_eq_of_mem hd htext hbare
        · cases value_eq_of_mem hd htext hother
          simpa [htrue] using hb

theorem acceptable_of_outcome_ofFlags {t : FileTree} {r : Request}
    (h : (ofFlags t ⟨flags, []⟩).2.outcome = .ok r) : Acceptable t flags := by
  obtain ⟨inputs, hread, hbuild⟩ := outcome_ofFlags_eq_ok_iff.1 h
  obtain ⟨⟨ha, hs, hm, hi, dimensions, hdim, -⟩, hk⟩ := outcome_readInputs_eq_ok_iff.1 hread
  obtain ⟨hfile, spec, hspec, -⟩ := outcome_build_eq_ok_iff.1 hbuild
  exact {
    known := by simpa using hk
    archive := by
      obtain ⟨hmem, hne⟩ := (outcome_read_path_eq_ok_some_iff hd).1 ha
      exact ⟨_, hmem, hne, hfile⟩
    spec := by
      intro value hv
      obtain ⟨p, hp⟩ := KnownFlag.exists_found_of_mem hs hv
      rw [hp] at hs
      obtain ⟨hmem, hne⟩ := (outcome_read_path_eq_ok_some_iff hd).1 hs
      rcases DeviceSpec.outcome_resolve_eq_ok_iff.1 hspec with ⟨hnone, -⟩ | ⟨q, hq, hf, hh⟩
      · cases hp.symm.trans hnone
      · cases hp.symm.trans hq
        exact ⟨_, value_eq_of_mem hd hv hmem, hne, hf, spec, hh⟩
    modules := by
      intro hv
      obtain ⟨names, hnames⟩ := KnownFlag.exists_found_of_mem hm hv
      rw [hnames] at hm
      obtain ⟨text, htext, -⟩ := (outcome_read_modules_eq_ok_some_iff hd).1 hm
      cases value_eq_of_mem hd hv htext
    instant := by
      intro text hv
      obtain ⟨b, hb⟩ := KnownFlag.exists_found_of_mem hi hv
      rw [hb] at hi
      rcases (outcome_read_instant_eq_ok_some_iff hd).1 hi with ⟨hbare, -⟩ | ⟨other, ho, hvalue⟩
      · cases value_eq_of_mem hd hv hbare
      · cases value_eq_of_mem hd hv ho
        exact hvalue.imp And.left And.left
    dimensions := by
      intro value hv
      obtain ⟨found, rfl⟩ := KnownFlag.exists_found_of_mem hdim hv
      obtain ⟨text, htext, hall, -⟩ := (outcome_read_dimensions_eq_ok_some_iff hd).1 hdim
      exact ⟨text, value_eq_of_mem hd hv htext, hall⟩ }

theorem answers_of_outcome_ofFlags {t : FileTree} {r : Request}
    (h : (ofFlags t ⟨flags, []⟩).2.outcome = .ok r) : Answers t flags r := by
  obtain ⟨inputs, hread, hbuild⟩ := outcome_ofFlags_eq_ok_iff.1 h
  obtain ⟨⟨ha, hs, hm, hi, dimensions, hdim, hinputs⟩, -⟩ := outcome_readInputs_eq_ok_iff.1 hread
  obtain ⟨-, spec, hspec, rfl⟩ := outcome_build_eq_ok_iff.1 hbuild
  rw [DeviceSpec.outcome_resolve_eq_ok_iff] at hspec
  exact {
    archive := ((outcome_read_path_eq_ok_some_iff hd).1 ha).1
    defaultSpec := by
      intro habsent
      rcases hspec with ⟨-, rfl⟩ | ⟨p, hp, -, -⟩
      · rfl
      · rw [hp] at hs
        exact absurd ((outcome_read_path_eq_ok_some_iff hd).1 hs).1 (habsent _)
    spec := by
      intro text hv
      obtain ⟨p, hp⟩ := KnownFlag.exists_found_of_mem hs hv
      rcases hspec with ⟨hnone, -⟩ | ⟨q, hq, -, hh⟩
      · cases hp.symm.trans hnone
      · rw [hq] at hs
        cases value_eq_of_mem hd hv ((outcome_read_path_eq_ok_some_iff hd).1 hs).1
        exact hh
    allModules := by
      intro habsent
      cases hnames : inputs.modules with
      | none => rfl
      | some names =>
        rw [hnames] at hm
        obtain ⟨text, htext, -⟩ := (outcome_read_modules_eq_ok_some_iff hd).1 hm
        exact absurd htext (habsent _)
    modules := by
      intro text hv
      obtain ⟨names, hnames⟩ := KnownFlag.exists_found_of_mem hm hv
      rw [hnames] at hm
      obtain ⟨other, hother, hmem⟩ := (outcome_read_modules_eq_ok_some_iff hd).1 hm
      cases value_eq_of_mem hd hv hother
      exact ⟨names, hnames, hmem⟩
    dimensions := by
      intro d
      rw [Dimension.mem_expand_iff, hinputs, asksFor_iff_of_read hd d hdim,
        asksFor_iff_of_read hd .all hdim]
    instant := instant_iff_of_read hd hi }

theorem exists_outcome_resolve_of_acceptable {t : FileTree} {path : Option Path}
    (h : Acceptable t flags) (hread : (specFlag.read ⟨flags, []⟩).2.outcome = .ok path) :
    ∃ spec, (DeviceSpec.resolve t path).outcome = .ok spec := by
  cases path with
  | none => exact ⟨{}, DeviceSpec.outcome_resolve_eq_ok_iff.2 (.inl ⟨rfl, rfl⟩)⟩
  | some p =>
    obtain ⟨hm, -⟩ := (outcome_read_path_eq_ok_some_iff hd).1 hread
    obtain ⟨text, he, -, hfile, spec, hspec⟩ := h.spec _ hm
    cases he
    exact ⟨spec, DeviceSpec.outcome_resolve_eq_ok_iff.2 (.inr ⟨p, rfl, hfile, hspec⟩)⟩

theorem exists_outcome_ofFlags_of_acceptable {t : FileTree} (h : Acceptable t flags) :
    ∃ r, (ofFlags t ⟨flags, []⟩).2.outcome = .ok r := by
  -- Every flag can be read on its own, be it there or not; the rest puts the steps together.
  obtain ⟨archive, hm, hne, hfile⟩ := h.archive
  have harchive : (archiveFlag.read ⟨flags, []⟩).2.outcome = .ok (some ⟨archive⟩) :=
    (outcome_read_path_eq_ok_some_iff hd).2 ⟨hm, hne⟩
  have hspec : ∃ path, (specFlag.read ⟨flags, []⟩).2.outcome = .ok path := by
    apply (KnownFlag.exists_outcome_read_eq_ok_iff hd).2
    intro value hv
    obtain ⟨text, rfl, hne', -⟩ := h.spec value hv
    exact ⟨⟨text⟩, KnownFlag.convert_path_eq_ok_iff.2 ⟨rfl, hne'⟩⟩
  have hmodules : ∃ names, (modulesFlag.read ⟨flags, []⟩).2.outcome = .ok names := by
    apply (KnownFlag.exists_outcome_read_eq_ok_iff hd).2
    intro value hv
    cases value with
    | none => exact absurd hv h.modules
    | some text => exact ⟨_, KnownFlag.convert_textSet_eq_ok_iff.2 ⟨text, rfl, rfl⟩⟩
  have hinstant : ∃ b, (instantFlag.read ⟨flags, []⟩).2.outcome = .ok b := by
    apply (KnownFlag.exists_outcome_read_eq_ok_iff hd).2
    intro value hv
    cases value with
    | none => exact ⟨true, KnownFlag.convert_boolean_eq_ok_iff.2 (.inl ⟨rfl, rfl⟩)⟩
    | some text =>
      rcases h.instant text hv with ht | ht
      · exact ⟨true, KnownFlag.convert_boolean_eq_ok_iff.2 (.inr ⟨text, rfl, .inl ⟨ht, rfl⟩⟩)⟩
      · exact ⟨false, KnownFlag.convert_boolean_eq_ok_iff.2 (.inr ⟨text, rfl, .inr ⟨ht, rfl⟩⟩)⟩
  have hdimensions : ∃ found, (dimensionsFlag.read ⟨flags, []⟩).2.outcome = .ok found := by
    apply (KnownFlag.exists_outcome_read_eq_ok_iff hd).2
    intro value hv
    obtain ⟨text, rfl, hall⟩ := h.dimensions value hv
    have hsome : ∀ item ∈ Text.items text, ∃ d, Dimension.ofName? item = some d := by
      intro item hitem
      obtain ⟨d, hitem⟩ := hall item (Text.mem_items_iff.1 hitem)
      exact ⟨d, Dimension.ofName?_eq_some_iff.2 hitem⟩
    obtain ⟨l, hl⟩ := exists_map_eq_map_some_iff.2 hsome
    exact ⟨_, KnownFlag.convert_memberSet_eq_ok_iff.2 ⟨text, l, rfl, hl, rfl⟩⟩
  obtain ⟨path, hpath⟩ := hspec
  obtain ⟨names, hnames⟩ := hmodules
  obtain ⟨b, hb⟩ := hinstant
  obtain ⟨found, hfound⟩ := hdimensions
  obtain ⟨spec, hspec⟩ := exists_outcome_resolve_of_acceptable hd h hpath
  refine ⟨_, outcome_ofFlags_eq_ok_iff.2 ⟨⟨⟨archive⟩, path, names, found.getD .empty, b⟩,
    outcome_readInputs_eq_ok_iff.2 ⟨⟨harchive, hpath, hnames, hb, found, hfound, rfl⟩,
      fun f hf => .inl (h.known f hf)⟩,
    outcome_build_eq_ok_iff.2 ⟨hfile, spec, hspec, rfl⟩⟩⟩

theorem eq_of_answers {t : FileTree} {r s : Request} (h : Acceptable t flags)
    (hr : Answers t flags r) (hs : Answers t flags s) : r = s := by
  have harchive : r.archive = s.archive := by
    have htext := Option.some.inj (value_eq_of_mem hd hr.archive hs.archive)
    rcases r with ⟨⟨text⟩, _, _, _, _⟩
    exact congrArg Path.mk htext
  have hspec : r.spec = s.spec := by
    rcases FlagList.present_or_absent flags "device-spec" with ⟨value, hv⟩ | habsent
    · obtain ⟨text, rfl, -⟩ := h.spec value hv
      have hload := DeviceSpec.load_eq_ok_iff.2 (hr.spec text hv)
      exact Except.ok.inj (hload.symm.trans (DeviceSpec.load_eq_ok_iff.2 (hs.spec text hv)))
    · rw [hr.defaultSpec habsent, hs.defaultSpec habsent]
  have hmodules : r.modules = s.modules := by
    rcases FlagList.present_or_absent flags "modules" with ⟨_ | text, hv⟩ | habsent
    · exact absurd hv h.modules
    · obtain ⟨names, hnames, hmem⟩ := hr.modules text hv
      obtain ⟨names', hnames', hmem'⟩ := hs.modules text hv
      have he : names = names' :=
        OrderedSet.eq_of_mem_iff fun name => (hmem name).trans (hmem' name).symm
      rw [hnames, hnames', he]
    · rw [hr.allModules habsent, hs.allModules habsent]
  have hdimensions : r.dimensions = s.dimensions :=
    OrderedSet.eq_of_mem_iff fun d => by rw [hr.dimensions, hs.dimensions]
  have hinstant : r.instant = s.instant := by
    rw [Bool.eq_iff_iff, hr.instant, hs.instant]
  rcases r with ⟨_, _, _, _, _⟩
  rcases s with ⟨_, _, _, _, _⟩
  simp_all only

end Distinct

theorem outcome_ofArguments_eq_ok_iff {t : FileTree} {arguments : List String} {r : Request} :
    (ofArguments t arguments).outcome = .ok r ↔
      ∃ flags, FlagList.Writes arguments flags
        ∧ (ofFlags t ⟨flags, []⟩).2.outcome = .ok r := by
  simp only [ofArguments, Logged.outcome_andThen_eq_ok_iff, Logged.outcome_mapFault,
    mapError_eq_ok_iff, FlagList.outcome_parse_eq_ok_iff]

/-- Arguments are resolved to a request exactly if they write acceptable flags, and then the request
is the one that answers these flags. -/
theorem resolved_iff_writes_acceptable (t : FileTree) (arguments : List String) :
    ((∃ r, (ofArguments t arguments).outcome = .ok r) ↔
      ∃ flags, FlagList.Writes arguments flags ∧ Acceptable t flags) ∧
    ∀ r, (ofArguments t arguments).outcome = .ok r ↔
      ∃ flags, FlagList.Writes arguments flags ∧ Acceptable t flags ∧ Answers t flags r := by
  refine ⟨⟨?_, ?_⟩, fun r => ⟨?_, ?_⟩⟩
  · rintro ⟨r, h⟩
    obtain ⟨flags, hw, h⟩ := outcome_ofArguments_eq_ok_iff.1 h
    exact ⟨flags, hw, acceptable_of_outcome_ofFlags hw.distinct h⟩
  · rintro ⟨flags, hw, ha⟩
    obtain ⟨r, h⟩ := exists_outcome_ofFlags_of_acceptable hw.distinct ha
    exact ⟨r, outcome_ofArguments_eq_ok_iff.2 ⟨flags, hw, h⟩⟩
  · intro h
    obtain ⟨flags, hw, h⟩ := outcome_ofArguments_eq_ok_iff.1 h
    exact ⟨flags, hw, acceptable_of_outcome_ofFlags hw.distinct h,
      answers_of_outcome_ofFlags hw.distinct h⟩
  · rintro ⟨flags, hw, ha, hr⟩
    obtain ⟨s, h⟩ := exists_outcome_ofFlags_of_acceptable hw.distinct ha
    rw [eq_of_answers hw.distinct ha hr (answers_of_outcome_ofFlags hw.distinct h)]
    exact outcome_ofArguments_eq_ok_iff.2 ⟨flags, hw, h⟩

end Request

end SizeRequest

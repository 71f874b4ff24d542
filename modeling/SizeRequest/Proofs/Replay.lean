import SizeRequest.Proofs.EventLog
import SizeRequest.Proofs.Reordering

namespace SizeRequest

namespace Request

open FlagList (Writes Rejects)

/-- The arguments that ask for a request. The path of its spec is no part of a request. -/
def arguments (r : Request) (specPath : Option String) : List String :=
  ["--apks=" ++ r.archive.text]
    ++ (specPath.map ("--device-spec=" ++ ·)).toList
    ++ (r.modules.map fun names => "--modules=" ++ Text.join "," names.toList).toList
    ++ ["--dimensions=" ++ Text.join "," (r.dimensions.toList.map Dimension.name),
      "--instant=" ++ toString r.instant]

def flags (r : Request) (specPath : Option String) : List Flag :=
  [⟨"apks", some r.archive.text⟩]
    ++ (specPath.map fun text => ⟨"device-spec", some text⟩).toList
    ++ (r.modules.map fun names => ⟨"modules", some (Text.join "," names.toList)⟩).toList
    ++ [⟨"dimensions", some (Text.join "," (r.dimensions.toList.map Dimension.name))⟩,
      ⟨"instant", some (toString r.instant)⟩]

theorem mem_flags_iff {r : Request} {specPath : Option String} {f : Flag} :
    f ∈ r.flags specPath ↔
      f = ⟨"apks", some r.archive.text⟩ ∨
      (∃ text, specPath = some text ∧ f = ⟨"device-spec", some text⟩) ∨
      (∃ names, r.modules = some names ∧ f = ⟨"modules", some (Text.join "," names.toList)⟩) ∨
      f = ⟨"dimensions", some (Text.join "," (r.dimensions.toList.map Dimension.name))⟩ ∨
      f = ⟨"instant", some (toString r.instant)⟩ := by
  simp [flags, eq_comm]

theorem name_mem_flagNames {r : Request} {specPath : Option String} {f : Flag}
    (h : f ∈ r.flags specPath) : f.name ∈ flagNames := by
  rcases mem_flags_iff.1 h with rfl | ⟨text, -, rfl⟩ | ⟨names, -, rfl⟩ | rfl | rfl <;>
    simp [flagNames]

theorem hasName_of_mem_flagNames {f : Flag} (h : f.name ∈ flagNames) : f.HasName := by
  have hnames : ∀ name ∈ flagNames, name ≠ "" ∧ '=' ∉ name.toList := by decide
  exact hnames f.name h

theorem writes_flags (r : Request) (specPath : Option String) :
    Writes (r.arguments specPath) (r.flags specPath) where
  rendered := by
    cases specPath <;> cases hmodules : r.modules <;> simp [flags, arguments, hmodules, Flag.render]
  named _ hf := hasName_of_mem_flagNames (name_mem_flagNames hf)
  distinct := by
    cases specPath <;> cases hmodules : r.modules <;> simp [flags, hmodules]

theorem isEntry_of_mem_names {dimensions : List Dimension} :
    ∀ name ∈ dimensions.map Dimension.name, Text.IsEntry name := by
  intro name hname
  obtain ⟨d, -, rfl⟩ := List.mem_map.1 hname
  cases d <;> exact ⟨by decide, by decide, by decide⟩

theorem asksFor_flags_iff {r : Request} {specPath : Option String} {d : Dimension} :
    AsksFor (r.flags specPath) d ↔ d ∈ r.dimensions.toList := by
  have hitem : Text.IsItem (Text.join "," (r.dimensions.toList.map Dimension.name)) d.name ↔
      d ∈ r.dimensions.toList := by
    rw [Text.isItem_join_iff isEntry_of_mem_names,
      List.mem_map_of_injective Dimension.name_injective]
  simp [AsksFor, mem_flags_iff, hitem]

theorem toLower_toString_iff {b c : Bool} : (toString b).toLower = toString c ↔ b = c := by
  rw [← String.toList_inj, Text.toList_toLower]
  cases b <;> cases c <;> decide

section Resolved

variable {t : FileTree} {written : List Flag} {r : Request} {specPath : Option String}

theorem isEntry_of_mem_modules (haccepted : Acceptable t written) (hanswers : Answers t written r)
    {names : OrderedSet String} (hmodules : r.modules = some names) :
    ∀ name ∈ names.toList, Text.IsEntry name := by
  intro name hname
  rcases FlagList.present_or_absent written "modules" with ⟨_ | text, hwritten⟩ | habsent
  · exact absurd hwritten haccepted.modules
  · obtain ⟨names', hmodules', hmem⟩ := hanswers.modules text hwritten
    cases hmodules.symm.trans hmodules'
    exact ((hmem name).1 hname).isEntry
  · cases hmodules.symm.trans (hanswers.allModules habsent)

/-- The wildcard is expanded already, so asking for the dimensions of a request adds none. -/
theorem mem_dimensions_iff_of_answers (hanswers : Answers t written r) {d : Dimension} :
    d ∈ r.dimensions.toList ↔
      d ≠ .all ∧ (d ∈ r.dimensions.toList ∨ .all ∈ r.dimensions.toList) := by
  have hall : .all ∉ r.dimensions.toList := fun hmem => ((hanswers.dimensions _).1 hmem).1 rfl
  constructor
  · intro hd
    exact ⟨((hanswers.dimensions d).1 hd).1, .inl hd⟩
  · intro h
    exact h.2.resolve_right hall

variable (haccepted : Acceptable t written) (hanswers : Answers t written r)
  (hspecPath : ∀ text, specPath = some text ↔ ⟨"device-spec", some text⟩ ∈ written)

include haccepted hanswers hspecPath

theorem acceptable_flags (hd : (written.map Flag.name).Nodup) :
    Acceptable t (r.flags specPath) where
  known f hf := name_mem_flagNames hf
  archive := by
    obtain ⟨text, hwritten, hne, hfile⟩ := haccepted.archive
    cases value_eq_of_mem hd hwritten hanswers.archive
    exact ⟨_, mem_flags_iff.2 (.inl rfl), hne, hfile⟩
  spec value hvalue := by
    obtain ⟨text, hgiven, rfl⟩ : ∃ text, specPath = some text ∧ value = some text := by
      simpa [mem_flags_iff] using hvalue
    exact haccepted.spec _ ((hspecPath text).1 hgiven)
  modules := by simp [mem_flags_iff]
  instant text htext := by
    obtain rfl : text = toString r.instant := by simpa [mem_flags_iff] using htext
    cases r.instant
    · exact .inr (toLower_toString_iff.2 rfl)
    · exact .inl (toLower_toString_iff.2 rfl)
  dimensions value hvalue := by
    obtain rfl : value = some (Text.join "," (r.dimensions.toList.map Dimension.name)) := by
      simpa [mem_flags_iff] using hvalue
    refine ⟨_, rfl, ?_⟩
    intro item hitem
    obtain ⟨d, -, hname⟩ := List.mem_map.1 ((Text.isItem_join_iff isEntry_of_mem_names).1 hitem)
    exact ⟨d, hname⟩

theorem answers_flags : Answers t (r.flags specPath) r where
  archive := mem_flags_iff.2 (.inl rfl)
  defaultSpec habsent := by
    apply hanswers.defaultSpec
    intro value hwritten
    obtain ⟨text, rfl, -⟩ := haccepted.spec value hwritten
    exact habsent _ (mem_flags_iff.2 (.inr (.inl ⟨text, (hspecPath text).2 hwritten, rfl⟩)))
  spec text htext := by
    have hgiven : specPath = some text := by simpa [mem_flags_iff, eq_comm] using htext
    exact hanswers.spec text ((hspecPath text).1 hgiven)
  allModules habsent := by
    cases hmodules : r.modules with
    | none => rfl
    | some names =>
      exact absurd (mem_flags_iff.2 (.inr (.inr (.inl ⟨names, hmodules, rfl⟩)))) (habsent _)
  modules text htext := by
    obtain ⟨names, hmodules, rfl⟩ :
        ∃ names, r.modules = some names ∧ text = Text.join "," names.toList := by
      simpa [mem_flags_iff] using htext
    refine ⟨names, hmodules, ?_⟩
    intro name
    exact (Text.isItem_join_iff (isEntry_of_mem_modules haccepted hanswers hmodules)).symm
  dimensions d := by
    rw [asksFor_flags_iff, asksFor_flags_iff]
    exact mem_dimensions_iff_of_answers hanswers
  instant := by
    have hinstant : (toString r.instant).toLower = "true" ↔ r.instant = true :=
      toLower_toString_iff (c := true)
    simp [mem_flags_iff, hinstant]

end Resolved

theorem level_of_resolved {t : FileTree} {arguments : List String} {flags : List Flag} {r : Request}
    (hwrites : Writes arguments flags) (h : (ofArguments t arguments).outcome = .ok r)
    (hall : ¬ AsksFor flags .all) :
    ∀ event ∈ (ofArguments t arguments).events, event.level ≠ .warn := by
  intro event hevent
  obtain ⟨records, outcome, hstory⟩ := exists_story t arguments
  obtain ⟨rfl, rfl⟩ := course_of_story hstory
  have hrecord := List.mem_map_of_mem (f := Event.record) hevent
  rw [h] at hstory
  generalize (ofArguments t arguments).events.map Event.record = records at hstory hrecord
  change event.record.level ≠ .warn
  cases hstory with
  | resolved hwrites' hpassed hlogged hwarned hanswers =>
    obtain rfl := hwrites.unique hwrites'
    cases hwarned with
    | ignoring hasked hne hothers => exact absurd hasked hall
    | nothing hnone =>
      rw [List.append_nil] at hrecord
      rcases List.mem_append.1 hrecord with hrecord | hrecord
      · rcases level_of_logged hlogged _ hrecord with hlevel | hlevel <;> simp [hlevel]
      · rw [List.mem_singleton.1 hrecord]
        simp [Record.resolved]

/-- A request can be asked for again. The arguments that its own fields write, with the path of its
spec if there was one, are resolved in any order to the very same request, which is then shown as
before, and without a warning. -/
theorem arguments_resolved_again (t : FileTree) {arguments : List String} {r : Request}
    (h : (ofArguments t arguments).outcome = .ok r) :
    ∃ specPath : Option String,
      (∀ text, specPath = some text ↔ "--device-spec=" ++ text ∈ arguments) ∧
      ∀ reordered, reordered.Perm (r.arguments specPath) →
        (ofArguments t reordered).outcome = .ok r ∧
          ∀ event ∈ (ofArguments t reordered).events, event.level ≠ .warn := by
  obtain ⟨written, hwritten, hresolved⟩ := outcome_ofArguments_eq_ok_iff.1 h
  have hd := hwritten.distinct
  have haccepted := acceptable_of_outcome_ofFlags hd hresolved
  have hanswers := answers_of_outcome_ofFlags hd hresolved
  obtain ⟨specPath, hspecPath⟩ : ∃ specPath : Option String,
      ∀ text, specPath = some text ↔ ⟨"device-spec", some text⟩ ∈ written := by
    refine ⟨((Flags.mk written []).value? "device-spec").join, ?_⟩
    intro text
    rw [Option.join_eq_some_iff]
    exact Flags.value?_eq_some_iff hd
  refine ⟨specPath, ?_, ?_⟩
  · intro text
    have hname : Flag.HasName ⟨"device-spec", some text⟩ :=
      hasName_of_mem_flagNames (by simp [flagNames])
    exact (hspecPath text).trans (hwritten.mem_iff hname).symm
  · intro reordered hperm
    have hwrites := writes_flags r specPath
    have hreplayed : (ofArguments t (r.arguments specPath)).outcome = .ok r :=
      outcome_ofArguments_of_answers hwrites (acceptable_flags haccepted hanswers hspecPath hd)
        (answers_flags haccepted hanswers hspecPath)
    have houtcome := outcome_ofArguments_of_perm hperm hreplayed
    obtain ⟨flags, hwrites', hflags⟩ := hwrites.perm hperm
    refine ⟨houtcome, level_of_resolved hwrites' houtcome ?_⟩
    rw [asksFor_iff_of_perm hflags, asksFor_flags_iff]
    exact fun hall => ((hanswers.dimensions _).1 hall).1 rfl

def specTree : FileTree :=
  (FileTree.scratch.add "a.apks" (.file .empty)).add "s.json" (.file "{}".toUTF8)

theorem wildcard_resolved_again :
    ∃ r, (ofArguments specTree ["--dimensions=ALL,SDK", "--modules= b ,a,,b",
        "--device-spec=s.json", "--apks=a.apks", "--instant"]).outcome = .ok r ∧
      (ofArguments specTree ["--instant=true", "--dimensions=SDK,ABI,LANGUAGE,SCREEN_DENSITY",
        "--apks=a.apks", "--modules=a,b", "--device-spec=s.json"]).outcome = .ok r ∧
      ∀ event ∈ (ofArguments specTree ["--instant=true",
        "--dimensions=SDK,ABI,LANGUAGE,SCREEN_DENSITY", "--apks=a.apks", "--modules=a,b",
        "--device-spec=s.json"]).events, event.level ≠ .warn := by
  have hresolved : (ofArguments specTree ["--dimensions=ALL,SDK", "--modules= b ,a,,b",
      "--device-spec=s.json", "--apks=a.apks", "--instant"]).outcome =
      .ok ⟨⟨"a.apks"⟩, {}, some (.ofList ["a", "b"]), Dimension.supported, true⟩ := by decide
  obtain ⟨specPath, hspecPath, hagain⟩ := arguments_resolved_again specTree hresolved
  obtain rfl : specPath = some "s.json" := (hspecPath "s.json").2 (by decide)
  exact ⟨_, hresolved, hagain _ (by decide)⟩

end Request

end SizeRequest

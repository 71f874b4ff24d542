import SizeRequest.Proofs.ListedTexts
import SizeRequest.Proofs.Replay
import SizeRequest.Proofs.RequestDocument

namespace SizeRequest

namespace Text

/-- What stands on either side of the last occurrence of a sign is told by the whole text. -/
theorem append_inj_of_last {sign : Char} {before before' behind behind' : List Char}
    (hbehind : sign ∉ behind) (hbehind' : sign ∉ behind')
    (h : before ++ sign :: behind = before' ++ sign :: behind') :
    before = before' ∧ behind = behind' := by
  rcases List.append_eq_append_iff.1 h with ⟨between, rfl, hrest⟩ | ⟨between, rfl, hrest⟩
  · cases between with
    | nil => simpa using hrest
    | cons c more =>
      obtain ⟨-, rfl⟩ := List.cons.inj hrest
      exact absurd (List.mem_append_right more List.mem_cons_self) hbehind
  · cases between with
    | nil => simpa [eq_comm] using hrest
    | cons c more =>
      obtain ⟨-, rfl⟩ := List.cons.inj hrest
      exact absurd (List.mem_append_right more List.mem_cons_self) hbehind'

theorem mem_join {separator : String} {texts : List String} {c : Char}
    (h : c ∈ (join separator texts).toList) :
    c ∈ separator.toList ∨ ∃ text ∈ texts, c ∈ text.toList := by
  rw [join, String.toList_intercalate] at h
  induction texts with
  | nil => simp at h
  | cons text rest ih =>
    cases rest with
    | nil =>
      rw [List.map_singleton, List.intercalate_singleton] at h
      exact .inr ⟨text, List.mem_singleton_self text, h⟩
    | cons next more =>
      rw [List.map_cons, List.map_cons, List.intercalate_cons_cons, List.append_assoc,
        List.mem_append, List.mem_append, ← List.map_cons] at h
      rcases h with h | h | h
      · exact .inr ⟨text, List.mem_cons_self, h⟩
      · exact .inl h
      · rcases ih h with h | ⟨other, hother, h⟩
        · exact .inl h
        · exact .inr ⟨other, List.mem_cons_of_mem _ hother, h⟩

theorem eq_of_join_eq {texts texts' : List String} (htexts : ∀ text ∈ texts, IsEntry text)
    (htexts' : ∀ text ∈ texts', IsEntry text) (h : join "," texts = join "," texts') :
    texts = texts' := by
  rw [← items_join htexts, h, items_join htexts']

theorem join_spaced (text : String) (rest : List String) :
    join ", " (text :: rest) = join "," (text :: rest.map (" " ++ ·)) := by
  induction rest generalizing text with
  | nil => rfl
  | cons next more ih =>
    have ih' := congrArg String.toList (ih next)
    simp only [join, String.toList_intercalate, List.map_cons, ← String.toList_inj] at ih' ⊢
    rw [List.intercalate_cons_cons, ih', List.intercalate_cons_cons]
    cases more with
    | nil => simp
    | cons => simp [List.intercalate_cons_cons]

theorem lists_join_spaced_iff {texts : List String} (h : ∀ text ∈ texts, Listable text)
    {text : String} : Lists (join ", " texts) text ↔ text ∈ texts := by
  have hnoComma : ∀ other ∈ texts, ',' ∉ other.toList := fun other hother => (h other hother).2.1
  rw [← lists_join_iff_mem h, lists_join_iff hnoComma]
  cases texts with
  | nil => exact lists_join_iff hnoComma
  | cons first rest =>
    have hspaced : ∀ other ∈ first :: rest.map (" " ++ ·), ',' ∉ other.toList := by
      simpa using hnoComma
    have hleaves (other : String) : Leaves (" " ++ other) text ↔ Leaves other text := by
      have hpadded : Leaves (" " ++ other ++ "") text ↔ Leaves other text :=
        leaves_padded_iff (by decide) (by decide)
      rwa [String.append_empty] at hpadded
    rw [join_spaced, lists_join_iff hspaced]
    simp [hleaves]

end Text

namespace Dimension

theorem eq_of_join_name_eq {dimensions dimensions' : OrderedSet Dimension}
    (h : Text.join "," (dimensions.toList.map name) = Text.join "," (dimensions'.toList.map name)) :
    dimensions = dimensions' := by
  have hnames := Text.eq_of_join_eq Request.isEntry_of_mem_names Request.isEntry_of_mem_names h
  exact Request.orderedSet_eq_of_toList_eq (name_injective.list_map hnames)

theorem bracket_notMem_join_name (dimensions : List Dimension) :
    '[' ∉ (Text.join "," (dimensions.map name)).toList := by
  intro hmem
  rcases Text.mem_join hmem with hcomma | ⟨text, htext, hmem⟩
  · exact absurd hcomma (by decide)
  · obtain ⟨d, -, rfl⟩ := List.mem_map.1 htext
    cases d <;> exact absurd hmem (by decide)

end Dimension

def Table.row? (t : Table) (word : String) : Option (List String) :=
  t.rows.find? (·.head? == some word)

namespace Request

def Askable (modules : Option (OrderedSet String)) : Prop :=
  ∀ names, modules = some names → ∀ name ∈ names.toList, Text.IsEntry name

def modulesWord : Option (OrderedSet String) → String
  | none => "first-download"
  | some names => "[" ++ Text.join "," names.toList ++ "]"

def specWord (spec : DeviceSpec) : String := if spec.isDefault then "default" else "custom"

def summaryEnd (r : Request) : List Char :=
  (Text.join "," (r.dimensions.toList.map Dimension.name)).toList ++
    ']' :: (" instant=".toList ++ (toString r.instant).toList)

theorem toList_summary (r : Request) :
    r.summary.toList =
      "get-size apks=".toList ++ r.archive.text.toList ++ " device-spec=".toList ++
        (specWord r.spec).toList ++ " modules=".toList ++ (modulesWord r.modules).toList ++
        " dimensions=".toList ++ '[' :: r.summaryEnd := by
  have hwords : r.summary = "get-size" ++ " apks=" ++ r.archive.text ++ " device-spec=" ++
      specWord r.spec ++ " modules=" ++ modulesWord r.modules ++ " dimensions=[" ++
      Text.join "," (r.dimensions.toList.map Dimension.name) ++ "]" ++ " instant=" ++
      toString r.instant := by
    rcases r with ⟨archive, spec, _ | names, dimensions, instant⟩ <;> rfl
  rw [hwords]
  simp [summaryEnd]

theorem eq_of_modulesWord_eq {modules modules' : Option (OrderedSet String)}
    (haskable : Askable modules) (haskable' : Askable modules')
    (h : modulesWord modules = modulesWord modules') : modules = modules' := by
  have hlists := congrArg String.toList h
  cases modules with
  | none =>
    cases modules' with
    | none => rfl
    | some names' => simp [modulesWord] at hlists
  | some names =>
    cases modules' with
    | none => simp [modulesWord] at hlists
    | some names' =>
      have hjoin : (Text.join "," names.toList).toList = (Text.join "," names'.toList).toList := by
        simpa [modulesWord] using hlists
      have hnames := Text.eq_of_join_eq (haskable names rfl) (haskable' names' rfl)
        (String.toList_inj.1 hjoin)
      rw [orderedSet_eq_of_toList_eq hnames]

theorem askable_of_resolved {t : FileTree} {arguments : List String} {r : Request}
    (h : (ofArguments t arguments).outcome = .ok r) : Askable r.modules := by
  intro names hmodules
  obtain ⟨flags, hwrites, hresolved⟩ := outcome_ofArguments_eq_ok_iff.1 h
  have hd := hwrites.distinct
  exact isEntry_of_mem_modules (acceptable_of_outcome_ofFlags hd hresolved)
    (answers_of_outcome_ofFlags hd hresolved) hmodules

theorem specWord_append_inj {spec spec' : DeviceSpec} {rest rest' : List Char}
    (h : (specWord spec).toList ++ rest = (specWord spec').toList ++ rest') :
    (spec = {} ↔ spec' = {}) ∧ rest = rest' := by
  unfold specWord DeviceSpec.isDefault at h
  by_cases hspec : spec = {} <;> by_cases hspec' : spec' = {} <;> simp_all

theorem bracket_notMem_summaryEnd (r : Request) : '[' ∉ r.summaryEnd := by
  have hnames := Dimension.bracket_notMem_join_name r.dimensions.toList
  have hinstant : '[' ∉ (toString r.instant).toList := by
    cases r.instant <;> decide
  simp [summaryEnd, hnames, hinstant]

theorem eq_of_toString_eq {b c : Bool} (h : toString b = toString c) : b = c := by
  revert h
  cases b <;> cases c <;> decide

theorem summaryEnd_inj {r r' : Request} (h : r.summaryEnd = r'.summaryEnd) :
    r.dimensions = r'.dimensions ∧ r.instant = r'.instant := by
  have hbracket (b : Bool) : ']' ∉ " instant=".toList ++ (toString b).toList := by
    cases b <;> decide
  obtain ⟨hnames, hinstant⟩ := Text.append_inj_of_last (hbracket _) (hbracket _) h
  constructor
  · exact Dimension.eq_of_join_name_eq (String.toList_inj.1 hnames)
  · exact eq_of_toString_eq (String.toList_inj.1 (List.append_cancel_left hinstant))

/-- The summary of a request that was asked for tells its modules, its dimensions, whether it is for
an instant app and whether its spec is the default one, once the path of its archive is known. No
sign in the path or in the names of modules can make another request look the same. -/
theorem told_by_summary {t t' : FileTree} {arguments arguments' : List String} {r r' : Request}
    (h : (ofArguments t arguments).outcome = .ok r)
    (h' : (ofArguments t' arguments').outcome = .ok r')
    (harchive : r.archive.text = r'.archive.text) :
    r.summary = r'.summary ↔
      r.modules = r'.modules ∧ r.dimensions = r'.dimensions ∧ r.instant = r'.instant ∧
        (r.spec = {} ↔ r'.spec = {}) := by
  constructor
  · intro hsummary
    have hlists := congrArg String.toList hsummary
    rw [toList_summary, toList_summary, harchive] at hlists
    simp only [List.append_assoc, List.append_cancel_left_eq] at hlists
    obtain ⟨hspec, hrest⟩ := specWord_append_inj hlists
    -- No bracket stands behind the one that opens the dimensions, whatever stands before it.
    have hopened :
        ((modulesWord r.modules).toList ++ " dimensions=".toList) ++ '[' :: r.summaryEnd =
          ((modulesWord r'.modules).toList ++ " dimensions=".toList) ++ '[' :: r'.summaryEnd := by
      simpa only [List.append_assoc, List.append_cancel_left_eq] using hrest
    obtain ⟨hword, hend⟩ := Text.append_inj_of_last (bracket_notMem_summaryEnd r)
      (bracket_notMem_summaryEnd r') hopened
    have hmodules := eq_of_modulesWord_eq (askable_of_resolved h) (askable_of_resolved h')
      (String.toList_inj.1 (List.append_cancel_right hword))
    obtain ⟨hdimensions, hinstant⟩ := summaryEnd_inj hend
    exact ⟨hmodules, hdimensions, hinstant, hspec⟩
  · intro hsame
    obtain ⟨hmodules, hdimensions, hinstant, hspec⟩ := hsame
    have hword : specWord r.spec = specWord r'.spec := by
      simp [specWord, DeviceSpec.isDefault, hspec]
    have hend : r.summaryEnd = r'.summaryEnd := by
      rw [summaryEnd, summaryEnd, hdimensions, hinstant]
    rw [← String.toList_inj, toList_summary, toList_summary, harchive, hword, hmodules, hend]

theorem brackets_told_by_summary :
    ∃ r r', (ofArguments specTree ["--apks=a.apks", "--modules=x] dimensions=[SDK"]).outcome =
        .ok r ∧
      (ofArguments specTree ["--dimensions=SDK", "--apks=a.apks", "--modules=x",
        "--device-spec=s.json"]).outcome = .ok r' ∧
      r.summary ≠ r'.summary := by
  have hnamed : (ofArguments specTree ["--apks=a.apks", "--modules=x] dimensions=[SDK"]).outcome =
      .ok ⟨⟨"a.apks"⟩, {}, some (.ofList ["x] dimensions=[SDK"]), .empty, false⟩ := by decide
  have hasked : (ofArguments specTree ["--dimensions=SDK", "--apks=a.apks", "--modules=x",
      "--device-spec=s.json"]).outcome =
      .ok ⟨⟨"a.apks"⟩, {}, some (.ofList ["x"]), .ofList [.sdk], false⟩ := by decide
  refine ⟨_, _, hnamed, hasked, ?_⟩
  intro hsummary
  obtain ⟨hmodules, -⟩ := (told_by_summary hnamed hasked rfl).1 hsummary
  exact absurd hmodules (by decide)

/-- Names that hold commas cannot be asked for. Built into a request, they would be lost in its
summary. -/
example :
    summary ⟨⟨"a.apks"⟩, {}, some (.ofList ["a,b"]), .empty, false⟩ =
      summary ⟨⟨"a.apks"⟩, {}, some (.ofList ["a", "b"]), .empty, false⟩ := rfl

theorem modules_cases (modules : Option (OrderedSet String)) :
    modules = none ∨ modules = some .empty ∨
      ∃ names : OrderedSet String, names.isEmpty = false ∧ modules = some names := by
  cases modules with
  | none => exact .inl rfl
  | some names =>
    cases hempty : names.isEmpty with
    | false => exact .inr (.inr ⟨names, hempty, rfl⟩)
    | true =>
      have hnames : names = .empty := orderedSet_eq_of_toList_eq (List.isEmpty_iff.1 hempty)
      exact .inr (.inl (congrArg some hnames))

/-- The names that the table lists for modules. A state that is told by a word of its own is listed
as if the word were a name. -/
def listedModules : Option (OrderedSet String) → OrderedSet String
  | none => .ofList ["all first-download modules"]
  | some names => if names.isEmpty then .ofList ["none"] else names

theorem listedModules_of_named {names : OrderedSet String} (h : names.isEmpty = false) :
    listedModules (some names) = names := by
  simp [listedModules, h]

theorem modulesCell_eq_join (modules : Option (OrderedSet String)) :
    modulesCell modules = Text.join ", " (listedModules modules).toList := by
  obtain rfl | rfl | ⟨names, hnamed, rfl⟩ := modules_cases modules
  · rfl
  · rfl
  · rw [listedModules_of_named hnamed]
    simp [modulesCell, hnamed]

theorem listable_listedModules {modules : Option (OrderedSet String)} (haskable : Askable modules) :
    ∀ name ∈ (listedModules modules).toList, Text.Listable name := by
  obtain rfl | rfl | ⟨names, hnamed, rfl⟩ := modules_cases modules
  · intro name hname
    rw [List.mem_singleton.1 hname]
    exact ⟨by decide, by decide, by decide⟩
  · intro name hname
    rw [List.mem_singleton.1 hname]
    exact ⟨by decide, by decide, by decide⟩
  · intro name hname
    rw [listedModules_of_named hnamed] at hname
    exact Text.listable_iff_isEntry.2 (haskable names rfl name hname)

/-- Two states of the modules that are shown alike: all of them, or none, and the one module whose
name is the word for that. -/
inductive SharesWord : Option (OrderedSet String) → Option (OrderedSet String) → Prop
  | all : SharesWord none (some (.ofList ["all first-download modules"]))
  | none : SharesWord (some .empty) (some (.ofList ["none"]))

theorem listedModules_eq_iff {modules modules' : Option (OrderedSet String)} :
    listedModules modules = listedModules modules' ↔
      modules = modules' ∨ SharesWord modules modules' ∨ SharesWord modules' modules := by
  constructor
  · intro h
    obtain rfl | rfl | ⟨names, hnamed, rfl⟩ := modules_cases modules
    · obtain rfl | rfl | ⟨names', hnamed', rfl⟩ := modules_cases modules'
      · exact .inl rfl
      · exact absurd h (by decide)
      · rw [listedModules_of_named hnamed'] at h
        subst h
        exact .inr (.inl .all)
    · obtain rfl | rfl | ⟨names', hnamed', rfl⟩ := modules_cases modules'
      · exact absurd h (by decide)
      · exact .inl rfl
      · rw [listedModules_of_named hnamed'] at h
        subst h
        exact .inr (.inl .none)
    · rw [listedModules_of_named hnamed] at h
      obtain rfl | rfl | ⟨names', hnamed', rfl⟩ := modules_cases modules'
      · subst h
        exact .inr (.inr .all)
      · subst h
        exact .inr (.inr .none)
      · rw [listedModules_of_named hnamed'] at h
        exact .inl (congrArg some h)
  · intro h
    obtain rfl | hshares | hshares := h
    · rfl
    · cases hshares <;> rfl
    · cases hshares <;> rfl

theorem modulesCell_eq_iff {modules modules' : Option (OrderedSet String)}
    (haskable : Askable modules) (haskable' : Askable modules') :
    modulesCell modules = modulesCell modules' ↔
      modules = modules' ∨ SharesWord modules modules' ∨ SharesWord modules' modules := by
  rw [← listedModules_eq_iff, modulesCell_eq_join, modulesCell_eq_join]
  constructor
  · intro h
    apply OrderedSet.eq_of_mem_iff
    intro name
    rw [← Text.lists_join_spaced_iff (listable_listedModules haskable), h,
      Text.lists_join_spaced_iff (listable_listedModules haskable')]
  · intro h
    rw [h]

theorem row?_modules (r : Request) :
    r.table.row? "Modules" = some ["Modules", modulesCell r.modules] := by
  simp [Table.row?, table]

/-- The row of the modules tells which ones were asked for, except that two modules have names that
are words for other states: a request for the module `none` alone is shown like one for no module,
and a request for the module `all first-download modules` alone like one without modules. -/
theorem told_by_row_of_modules {t t' : FileTree} {arguments arguments' : List String}
    {r r' : Request} (h : (ofArguments t arguments).outcome = .ok r)
    (h' : (ofArguments t' arguments').outcome = .ok r') :
    r.table.row? "Modules" = r'.table.row? "Modules" ↔
      r.modules = r'.modules ∨ SharesWord r.modules r'.modules ∨
        SharesWord r'.modules r.modules := by
  rw [row?_modules, row?_modules]
  simp only [Option.some.injEq, List.cons.injEq, true_and, and_true]
  exact modulesCell_eq_iff (askable_of_resolved h) (askable_of_resolved h')

theorem words_listed_together_told :
    ∃ r r', (ofArguments specTree
        ["--apks=a.apks", "--modules=none,all first-download modules"]).outcome = .ok r ∧
      (ofArguments specTree ["--modules=,", "--apks=a.apks"]).outcome = .ok r' ∧
      r.table.row? "Modules" ≠ r'.table.row? "Modules" := by
  have hboth : (ofArguments specTree
      ["--apks=a.apks", "--modules=none,all first-download modules"]).outcome =
      .ok ⟨⟨"a.apks"⟩, {}, some (.ofList ["none", "all first-download modules"]), .empty,
        false⟩ := by decide
  have hnone : (ofArguments specTree ["--modules=,", "--apks=a.apks"]).outcome =
      .ok ⟨⟨"a.apks"⟩, {}, some .empty, .empty, false⟩ := by decide
  refine ⟨_, _, hboth, hnone, ?_⟩
  intro hrow
  obtain hmodules | hshares | hshares := (told_by_row_of_modules hboth hnone).1 hrow
  · exact absurd hmodules (by decide)
  · cases hshares
  · generalize hnames : some (OrderedSet.ofList (_ : List String)) = modules at hshares
    cases hshares
    exact absurd hnames (by decide)

theorem named_none_shown_like_no_modules :
    ∃ r r', (ofArguments specTree ["--apks=a.apks", "--modules=none"]).outcome = .ok r ∧
      (ofArguments specTree ["--apks=a.apks", "--modules="]).outcome = .ok r' ∧
      r.table.row? "Modules" = r'.table.row? "Modules" ∧ r.modules ≠ r'.modules := by
  refine ⟨⟨⟨"a.apks"⟩, {}, some (.ofList ["none"]), .empty, false⟩,
    ⟨⟨"a.apks"⟩, {}, some .empty, .empty, false⟩, by decide, by decide, ?_, by decide⟩
  rw [row?_modules, row?_modules]
  rfl

end Request

end SizeRequest

import SizeRequest.Proofs.Members
import SizeRequest.Proofs.Outcome

namespace SizeRequest

namespace Text

/-- Whether a text is one of those between the commas, trimmed and not blank. -/
def IsItem (text : String) (item : String) : Prop :=
  item ≠ "" ∧ ∃ piece ∈ text.toList.splitOn ',', trim piece = item.toList

theorem mem_items_iff {text item : String} : item ∈ items text ↔ IsItem text item := by
  simp only [items, IsItem, List.mem_map, List.mem_filter]
  constructor
  · rintro ⟨piece, ⟨⟨whole, hwhole, rfl⟩, hne⟩, rfl⟩
    refine ⟨fun he => ?_, whole, hwhole, by simp⟩
    simp [String.ofList_eq_empty_iff.1 he] at hne
  · rintro ⟨hne, piece, hpiece, htrim⟩
    exact ⟨item.toList, ⟨⟨piece, hpiece, htrim⟩, by simpa using hne⟩, by simp⟩

theorem toList_toLower (s : String) : s.toLower.toList = s.toList.map Char.toLower :=
  String.toList_map

theorem sameIgnoringCase_true_iff {s : String} :
    sameIgnoringCase s "true" = true ↔ s.toLower = "true" := by
  rw [← String.toList_inj, toList_toLower, sameIgnoringCase]
  simp

theorem sameIgnoringCase_false_iff {s : String} :
    sameIgnoringCase s "false" = true ↔ s.toLower = "false" := by
  rw [← String.toList_inj, toList_toLower, sameIgnoringCase]
  simp

end Text

theorem FlagList.present_or_absent (flags : List Flag) (name : String) :
    (∃ value, ⟨name, value⟩ ∈ flags) ∨ ∀ value, ⟨name, value⟩ ∉ flags := by
  by_cases h : ∃ value, ⟨name, value⟩ ∈ flags
  · exact .inl h
  · exact .inr fun value hmem => h ⟨value, hmem⟩

namespace Flags

@[simp] theorem supplied_ask (flags : Flags) (name : String) :
    (flags.ask name).supplied = flags.supplied := by
  unfold ask
  split <;> rfl

@[simp] theorem value?_ask (flags : Flags) (asked name : String) :
    (flags.ask asked).value? name = flags.value? name := by
  simp [value?]

@[simp] theorem mem_asked_ask {flags : Flags} {name other : String} :
    other ∈ (flags.ask name).asked ↔ other = name ∨ other ∈ flags.asked := by
  unfold ask
  split
  next h =>
    have hm : name ∈ flags.asked := by simpa using h
    constructor
    · exact .inr
    · rintro (rfl | h)
      · exact hm
      · exact h
  next => simp [or_comm]

theorem value?_eq_none_iff {flags : Flags} {name : String} :
    flags.value? name = none ↔ ∀ value, ⟨name, value⟩ ∉ flags.supplied := by
  simp only [value?, Option.map_eq_none_iff, List.find?_eq_none, beq_iff_eq]
  constructor
  · intro h value hm
    exact h _ hm rfl
  · rintro h ⟨other, value⟩ hm rfl
    exact h value hm

theorem value?_eq_some_iff {flags : Flags} {name : String} {value : Option String}
    (h : (flags.supplied.map Flag.name).Nodup) :
    flags.value? name = some value ↔ ⟨name, value⟩ ∈ flags.supplied := by
  unfold value?
  generalize flags.supplied = supplied at h
  induction supplied with
  | nil => simp
  | cons f rest ih =>
    rw [List.map_cons, List.nodup_cons] at h
    by_cases hf : f.name = name
    · have hrest : ⟨name, value⟩ ∉ rest := fun hm => h.1 (List.mem_map.2 ⟨_, hm, hf.symm⟩)
      rcases f with ⟨other, written⟩
      obtain rfl : other = name := hf
      simp [hrest, eq_comm]
    · have hne : (⟨name, value⟩ : Flag) ≠ f := fun he => hf (he ▸ rfl)
      rw [List.find?_cons_of_neg (by simpa using hf), ih h.2, List.mem_cons]
      simp [hne]

theorem checkAllAsked_eq_ok_iff {flags : Flags} :
    flags.checkAllAsked = .ok () ↔ ∀ f ∈ flags.supplied, f.name ∈ flags.asked := by
  have hnil : flags.unasked = [] ↔ ∀ f ∈ flags.supplied, f.name ∈ flags.asked := by
    simp [unasked]
  rw [← hnil, checkAllAsked]
  split
  next h => simp [h]
  next names h =>
    have hne : flags.unasked ≠ [] := h
    simp [hne]

end Flags

namespace KnownFlag

variable {α : Type}

@[simp] theorem read_fst (flag : KnownFlag α) (flags : Flags) :
    (flag.read flags).1 = flags.ask flag.name := rfl

@[simp] theorem read_ask_snd (flag : KnownFlag α) (flags : Flags) (name : String) :
    (flag.read (flags.ask name)).2 = (flag.read flags).2 := by
  simp only [read, Flags.value?_ask]

/-- A flag is read as nothing if it is absent, and else as what its value is converted to. -/
theorem outcome_read_eq_ok_iff {flag : KnownFlag α} {flags : Flags} {found : Option α} :
    (flag.read flags).2.outcome = .ok found ↔
      (flags.value? flag.name = none ∧ found = none) ∨
      ∃ value a, flags.value? flag.name = some value ∧ flag.convert value = .ok a
        ∧ found = some a := by
  unfold read
  cases hv : flags.value? flag.name with
  | none => simp [eq_comm]
  | some value =>
    cases hc : flag.convert value with
    | error fault => simp [hc]
    | ok a => simp [hc, eq_comm]

theorem outcome_read_eq_ok_none_iff {flag : KnownFlag α} {flags : Flags} :
    (flag.read flags).2.outcome = .ok none ↔ ∀ value, ⟨flag.name, value⟩ ∉ flags.supplied := by
  rw [outcome_read_eq_ok_iff, Flags.value?_eq_none_iff]
  simp

theorem exists_found_of_mem {flag : KnownFlag α} {flags : Flags} {found : Option α}
    {value : Option String} (h : (flag.read flags).2.outcome = .ok found)
    (hmem : ⟨flag.name, value⟩ ∈ flags.supplied) : ∃ a, found = some a := by
  cases found with
  | none => exact absurd hmem (outcome_read_eq_ok_none_iff.1 h value)
  | some a => exact ⟨a, rfl⟩

section Distinct

variable {flag : KnownFlag α} {flags : Flags} (hd : (flags.supplied.map Flag.name).Nodup)

include hd

theorem outcome_read_eq_ok_some_iff {a : α} :
    (flag.read flags).2.outcome = .ok (some a) ↔
      ∃ value, ⟨flag.name, value⟩ ∈ flags.supplied ∧ flag.convert value = .ok a := by
  rw [outcome_read_eq_ok_iff]
  simp only [Flags.value?_eq_some_iff hd]
  constructor
  · rintro (⟨-, h⟩ | ⟨value, b, hm, hc, h⟩)
    · cases h
    · cases h
      exact ⟨value, hm, hc⟩
  · rintro ⟨value, hm, hc⟩
    exact .inr ⟨value, a, hm, hc, rfl⟩

theorem exists_outcome_read_eq_ok_iff :
    (∃ found, (flag.read flags).2.outcome = .ok found) ↔
      ∀ value, ⟨flag.name, value⟩ ∈ flags.supplied → ∃ a, flag.convert value = .ok a := by
  constructor
  · rintro ⟨found, h⟩ value hm
    rcases outcome_read_eq_ok_iff.1 h with ⟨hnone, -⟩ | ⟨other, a, hv, hc, -⟩
    · exact absurd hm (Flags.value?_eq_none_iff.1 hnone value)
    · rw [← Flags.value?_eq_some_iff hd] at hm
      cases hm.symm.trans hv
      exact ⟨a, hc⟩
  · intro h
    rcases FlagList.present_or_absent flags.supplied flag.name with ⟨value, hm⟩ | habsent
    · obtain ⟨a, hc⟩ := h value hm
      exact ⟨some a, (outcome_read_eq_ok_some_iff hd).2 ⟨value, hm, hc⟩⟩
    · exact ⟨none, outcome_read_eq_ok_none_iff.2 habsent⟩

end Distinct

@[simp] theorem readRequired_fst (flag : KnownFlag α) (flags : Flags) :
    (flag.readRequired flags).1 = flags.ask flag.name := by
  unfold readRequired Reading.andThen
  rcases hr : flag.read flags with ⟨left, events, fault | found⟩
  · exact congrArg Prod.fst hr.symm
  · cases found with
    | none => exact congrArg Prod.fst hr.symm
    | some a => exact congrArg Prod.fst hr.symm

theorem outcome_readRequired_eq_ok_iff {flag : KnownFlag α} {flags : Flags} {a : α} :
    (flag.readRequired flags).2.outcome = .ok a ↔ (flag.read flags).2.outcome = .ok (some a) := by
  rw [readRequired, Reading.outcome_andThen_eq_ok_iff]
  constructor
  · rintro ⟨found, hread, hnext⟩
    cases found with
    | none => cases hnext
    | some b =>
      obtain rfl : b = a := by simpa [Reading.done] using hnext
      exact hread
  · intro h
    exact ⟨some a, h, rfl⟩

theorem convert_path_eq_ok_iff {name : String} {value : Option String} {path : Path} :
    (KnownFlag.path name).convert value = .ok path ↔ value = some path.text ∧ path.text ≠ "" := by
  rcases path with ⟨text⟩
  cases value with
  | none => simp [path, withValue]
  | some written =>
    by_cases h : written = ""
    · subst h
      refine ⟨fun hc => by simp [path, withValue] at hc, ?_⟩
      rintro ⟨he, hne⟩
      exact absurd (Option.some.inj he).symm hne
    · have hne : written.isEmpty = false := by simpa using h
      simp only [path, withValue, hne, Bool.false_eq_true, ↓reduceIte, Except.ok.injEq,
        Path.mk.injEq, Option.some.injEq]
      constructor
      · rintro rfl
        exact ⟨rfl, h⟩
      · exact And.left

theorem convert_boolean_eq_ok_iff {name : String} {value : Option String} {b : Bool} :
    (boolean name).convert value = .ok b ↔
      (value = none ∧ b = true) ∨
      ∃ text, value = some text ∧
        ((text.toLower = "true" ∧ b = true) ∨ (text.toLower = "false" ∧ b = false)) := by
  cases value with
  | none => cases b <;> simp [boolean]
  | some text =>
    simp only [boolean, Text.sameIgnoringCase_true_iff, Text.sameIgnoringCase_false_iff]
    by_cases ht : text.toLower = "true"
    · cases b <;> simp [ht]
    · by_cases hf : text.toLower = "false"
      · cases b <;> simp [hf]
      · simp [ht, hf]

theorem convert_textSet_eq_ok_iff {name : String} {value : Option String}
    {texts : OrderedSet String} :
    (textSet name).convert value = .ok texts ↔
      ∃ text, value = some text ∧ texts = .ofList (Text.items text) := by
  cases value with
  | none => simp [textSet, withValue]
  | some text =>
    simp only [textSet, withValue, Except.ok.injEq, Option.some.injEq, exists_eq_left']
    exact eq_comm

theorem members_eq_ok_iff {parse : String → Option α} {texts : List String} {found : List α} :
    members parse texts = .ok found ↔ texts.map parse = found.map some := by
  induction texts generalizing found with
  | nil => cases found <;> simp [members]
  | cons text rest ih =>
    rw [members]
    cases hp : parse text with
    | none => cases found <;> simp [hp]
    | some a =>
      cases hm : members parse rest with
      | error fault =>
        cases found with
        | nil => simp [Except.map]
        | cons b more =>
          have hne : rest.map parse ≠ more.map some := fun he => by
            rw [← ih, hm] at he
            cases he
          simp [Except.map, hne]
      | ok more =>
        have hrest := ih.1 hm
        cases found with
        | nil => simp [Except.map]
        | cons b others =>
          simp only [Except.map, Except.ok.injEq, List.map_cons, hp, hrest, List.cons.injEq,
            Option.some.injEq]
          rw [List.map_inj_right (fun _ _ => Option.some.inj)]

theorem convert_memberSet_eq_ok_iff [Ord α] [Std.TransOrd α] {name : String}
    {parse : String → Option α} {value : Option String} {found : OrderedSet α} :
    (memberSet name parse).convert value = .ok found ↔
      ∃ text l, value = some text ∧ (Text.items text).map parse = l.map some
        ∧ found = .ofList l := by
  cases value with
  | none => simp [memberSet, withValue]
  | some text =>
    cases hm : members parse (Text.items text) with
    | error fault =>
      have hne (l : List α) : (Text.items text).map parse ≠ l.map some := fun he => by
        rw [← members_eq_ok_iff, hm] at he
        cases he
      simp [memberSet, withValue, hm, Except.map, hne]
    | ok l =>
      have hl := members_eq_ok_iff.1 hm
      simp only [memberSet, withValue, hm, Except.map, Except.ok.injEq, Option.some.injEq]
      constructor
      · rintro rfl
        exact ⟨text, l, rfl, hl, rfl⟩
      · rintro ⟨text', l', rfl, hl', rfl⟩
        rw [hl, List.map_inj_right (fun _ _ => Option.some.inj)] at hl'
        rw [hl']

end KnownFlag

end SizeRequest

import Mathlib.Data.List.Sort
import SizeRequest.Dimension

namespace SizeRequest

theorem exists_map_eq_map_some_iff {α β : Type} {f : α → Option β} {l : List α} :
    (∃ found : List β, l.map f = found.map some) ↔ ∀ x ∈ l, ∃ b, f x = some b := by
  constructor
  · rintro ⟨found, h⟩ x hx
    have hmem : f x ∈ found.map some := h ▸ List.mem_map.2 ⟨x, hx, rfl⟩
    obtain ⟨b, -, hb⟩ := List.mem_map.1 hmem
    exact ⟨b, hb.symm⟩
  · intro h
    induction l with
    | nil => exact ⟨[], rfl⟩
    | cons x rest ih =>
      obtain ⟨b, hb⟩ := h x (by simp)
      obtain ⟨found, hfound⟩ := ih fun y hy => h y (by simp [hy])
      exact ⟨b :: found, by simp [hb, hfound]⟩

theorem mem_iff_of_map_eq_map_some {α β : Type} {f : α → Option β} {l : List α} {found : List β}
    (h : l.map f = found.map some) {b : β} : b ∈ found ↔ ∃ x ∈ l, f x = some b := by
  have hmem : some b ∈ l.map f ↔ b ∈ found := by simp [h]
  rw [← hmem, List.mem_map]

theorem mapM_eq_some_iff {α β : Type} {f : α → Option β} {l : List α} {found : List β} :
    l.mapM f = some found ↔ l.map f = found.map some := by
  induction l generalizing found with
  | nil => cases found <;> simp
  | cons x rest ih =>
    simp only [List.mapM_cons, Option.bind_eq_bind, Option.pure_def, Option.bind_eq_some_iff, ih]
    cases found with
    | nil => simp
    | cons b more => simp

namespace OrderedSet

variable {α : Type} [Ord α]

theorem mem_insertSorted_iff [Std.LawfulEqOrd α] {a x : α} {l : List α} :
    x ∈ insertSorted a l ↔ x = a ∨ x ∈ l := by
  refine ⟨mem_of_mem_insertSorted, fun h => ?_⟩
  induction l with
  | nil => simpa [insertSorted] using h
  | cons b rest ih =>
    rw [insertSorted]
    split
    next => simpa using h
    next hab =>
      rcases h with rfl | h
      · rw [Std.LawfulEqOrd.eq_of_compare hab]
        exact List.mem_cons_self
      · exact h
    next =>
      rcases h with rfl | h
      · exact List.mem_cons_of_mem _ (ih (.inl rfl))
      · rcases List.mem_cons.1 h with rfl | h
        · exact List.mem_cons_self
        · exact List.mem_cons_of_mem _ (ih (.inr h))

theorem mem_ofList_iff [Std.TransOrd α] [Std.LawfulEqOrd α] {x : α} {l : List α} :
    x ∈ (ofList l).toList ↔ x ∈ l := by
  have hfold (s : OrderedSet α) : x ∈ (l.foldl insert s).toList ↔ x ∈ s.toList ∨ x ∈ l := by
    induction l generalizing s with
    | nil => simp
    | cons a rest ih =>
      rw [List.foldl_cons, ih, insert, mem_insertSorted_iff, List.mem_cons, or_assoc, or_left_comm]
  rw [ofList, hfold]
  simp [empty]

theorem eq_of_mem_iff [Std.TransOrd α] [Std.LawfulEqOrd α] {s t : OrderedSet α}
    (h : ∀ a, a ∈ s.toList ↔ a ∈ t.toList) : s = t := by
  have hirrefl : Std.Irrefl fun a b : α => compare a b = .lt := by
    refine ⟨fun a ha => ?_⟩
    have heq : compare a a = .eq := Std.ReflCmp.compare_self
    cases ha.symm.trans heq
  have hantisymm : Std.Antisymm fun a b : α => compare a b = .lt := by
    refine ⟨fun a b hab hba => ?_⟩
    have hgt : compare b a = .gt := Std.OrientedCmp.gt_of_lt hab
    cases hba.symm.trans hgt
  have hlist : s.toList = t.toList := s.increasing.eq_of_mem_iff t.increasing h
  rcases s with ⟨l, hl⟩
  obtain rfl : l = t.toList := hlist
  rfl

end OrderedSet

namespace Dimension

instance : Std.LawfulEqOrd Dimension where
  eq_of_compare {c d} h := by
    cases c <;> cases d <;> first | rfl | cases h

theorem mem_supported_iff {d : Dimension} : d ∈ supported.toList ↔ d ≠ all := by
  cases d <;> decide

theorem ofName?_eq_some_iff {s : String} {d : Dimension} : ofName? s = some d ↔ d.name = s := by
  constructor
  · exact name_of_ofName?
  · rintro rfl
    exact ofName?_name d

/-- The expansion of a request has the dimensions that are asked for, or all of them if the
wildcard is; the wildcard itself is never left. -/
theorem mem_expand_iff {d : Dimension} {requested : OrderedSet Dimension} :
    d ∈ (expand requested).toList ↔ d ≠ all ∧ (d ∈ requested.toList ∨ all ∈ requested.toList) := by
  unfold expand OrderedSet.contains
  split
  next h =>
    have hall : all ∈ requested.toList := by simpa using h
    rw [mem_supported_iff]
    simp [hall]
  next h =>
    have hall : all ∉ requested.toList := by simpa using h
    constructor
    · rintro hd
      exact ⟨fun he => hall (he ▸ hd), .inl hd⟩
    · rintro ⟨-, hd | hd⟩
      · exact hd
      · exact absurd hd hall

theorem expand_expand (requested : OrderedSet Dimension) :
    expand (expand requested) = expand requested := by
  apply OrderedSet.eq_of_mem_iff
  intro d
  have hall : all ∉ (expand requested).toList := fun hmem => (mem_expand_iff.1 hmem).1 rfl
  rw [mem_expand_iff]
  constructor
  · intro h
    exact h.2.resolve_right hall
  · intro hd
    exact ⟨(mem_expand_iff.1 hd).1, .inl hd⟩

end Dimension

end SizeRequest

import Mathlib.Data.List.DropRight
import Mathlib.Data.List.Perm.Basic
import SizeRequest.Proofs.FlagText
import SizeRequest.Proofs.FlagValue

namespace SizeRequest

namespace Flag

theorem eq_of_body_eq {f g : Flag} (hf : '=' ∉ f.name.toList) (hg : '=' ∉ g.name.toList)
    (h : f.body = g.body) : f = g := by
  rw [← ofBody_body hf, h, ofBody_body hg]

theorem eq_of_render_eq {f g : Flag} (hf : f.HasName) (hg : g.HasName) (h : f.render = g.render) :
    f = g := by
  have hlists := congrArg String.toList h
  rw [toList_render, toList_render] at hlists
  exact eq_of_body_eq hf.2 hg.2 (List.cons.inj (List.cons.inj hlists).2).2

end Flag

namespace FlagList

theorem Writes.perm {arguments reordered : List String} {flags : List Flag}
    (h : Writes arguments flags) (hperm : reordered.Perm arguments) :
    ∃ flags', Writes reordered flags' ∧ flags'.Perm flags := by
  rw [← h.rendered] at hperm
  obtain ⟨flags', hrendered, hflags⟩ :=
    (congrFun₂ (List.eq_map_comp_perm Flag.render) reordered flags).mpr hperm
  refine ⟨flags', ⟨hrendered.symm, ?_, ?_⟩, hflags⟩
  · intro f hf
    exact h.named f (hflags.mem_iff.1 hf)
  · exact (hflags.map Flag.name).nodup_iff.2 h.distinct

theorem Writes.unique {arguments : List String} {flags flags' : List Flag}
    (h : Writes arguments flags) (h' : Writes arguments flags') : flags = flags' := by
  have hread := outcome_parse_eq_ok_iff.2 h
  rw [outcome_parse_eq_ok_iff.2 h'] at hread
  exact (Except.ok.inj hread).symm

theorem Writes.mem_iff {arguments : List String} {flags : List Flag} (h : Writes arguments flags)
    {f : Flag} (hf : f.HasName) : f.render ∈ arguments ↔ f ∈ flags := by
  rw [← h.rendered, List.mem_map]
  constructor
  · intro hmem
    obtain ⟨g, hg, hrender⟩ := hmem
    rwa [← Flag.eq_of_render_eq (h.named g hg) hf hrender]
  · intro hmem
    exact ⟨f, hmem, rfl⟩

/-- Reading flags and rendering them undo each other: arguments are read as flags exactly if they
are these flags rendered, each with a name before any equals sign and no two with one name. Each
flag is then found with its value, be it none or any text, and nothing else is found. -/
theorem read_iff_rendered (arguments : List String) (flags : List Flag) :
    ((parse arguments).outcome = .ok flags ↔
      flags.map Flag.render = arguments ∧
        (∀ f ∈ flags, f.name ≠ "" ∧ '=' ∉ f.name.toList) ∧ (flags.map Flag.name).Nodup) ∧
    ((parse arguments).outcome = .ok flags → ∀ name value,
      (Flags.mk flags []).value? name = some value ↔ ⟨name, value⟩ ∈ flags) := by
  refine ⟨outcome_parse_eq_ok_iff.trans ⟨?_, ?_⟩, ?_⟩
  · intro h
    exact ⟨h.rendered, h.named, h.distinct⟩
  · intro h
    exact ⟨h.1, h.2.1, h.2.2⟩
  · intro h name value
    exact Flags.value?_eq_some_iff (outcome_parse_eq_ok_iff.1 h).distinct

theorem signs_read_back :
    (parse ["--a", "--b=", "--c d=--a=", "---=="]).outcome =
        .ok [⟨"a", none⟩, ⟨"b", some ""⟩, ⟨"c d", some "--a="⟩, ⟨"-", some "="⟩] ∧
      (Flags.mk [⟨"a", none⟩, ⟨"b", some ""⟩, ⟨"c d", some "--a="⟩, ⟨"-", some "="⟩] []).value? "a" =
        some none ∧
      (Flags.mk [⟨"a", none⟩, ⟨"b", some ""⟩, ⟨"c d", some "--a="⟩, ⟨"-", some "="⟩] []).value? "b" =
        some (some "") := by
  have hread : (parse ["--a", "--b=", "--c d=--a=", "---=="]).outcome =
      .ok [⟨"a", none⟩, ⟨"b", some ""⟩, ⟨"c d", some "--a="⟩, ⟨"-", some "="⟩] :=
    (read_iff_rendered _ _).1.2 ⟨rfl, by decide, by decide⟩
  refine ⟨hread, ?_, ?_⟩
  · apply ((read_iff_rendered _ _).2 hread _ _).2
    simp
  · apply ((read_iff_rendered _ _).2 hread _ _).2
    simp

end FlagList

namespace Text

/-- A text that can stand between commas and is read there as it is. -/
structure IsEntry (text : String) : Prop where
  ne_empty : text ≠ ""
  noComma : ',' ∉ text.toList
  trimmed : trim text.toList = text.toList

theorem trim_eq_rdropWhile (s : List Char) : trim s = (s.dropWhile isBlank).rdropWhile isBlank := rfl

theorem trim_sublist (s : List Char) : (trim s).Sublist s :=
  (List.rdropWhile_prefix isBlank _).sublist.trans (List.dropWhile_suffix isBlank).sublist

theorem trim_trim (s : List Char) : trim (trim s) = trim s := by
  have hstart : trim s <+: s.dropWhile isBlank := List.rdropWhile_prefix isBlank _
  have hdrop : (trim s).dropWhile isBlank = trim s := by
    rw [List.dropWhile_eq_self_iff]
    intro hlength
    rw [hstart.getElem hlength]
    exact List.dropWhile_eq_self_iff.1 (List.dropWhile_idempotent isBlank s) _
  rw [trim_eq_rdropWhile (trim s), hdrop, trim_eq_rdropWhile, List.rdropWhile_idempotent]

theorem notMem_of_mem_splitOn {separator : Char} {s piece : List Char}
    (h : piece ∈ s.splitOn separator) : separator ∉ piece := by
  induction s generalizing piece with
  | nil =>
    obtain rfl : piece = [] := by simpa [List.splitOn] using h
    exact List.not_mem_nil
  | cons c rest ih =>
    obtain ⟨first, others, hsplit⟩ :=
      List.exists_cons_of_ne_nil (List.splitOnP_ne_nil (· == separator) rest)
    rw [List.splitOn, hsplit] at ih
    rw [List.splitOn, List.splitOnP_cons_eq_if_modifyHead, hsplit, List.modifyHead_cons] at h
    split at h
    next hc =>
      rcases List.mem_cons.1 h with rfl | h
      · exact List.not_mem_nil
      · exact ih h
    next hc =>
      rcases List.mem_cons.1 h with rfl | h
      · have hne : separator ≠ c := fun heq => hc (by simp [heq])
        simp [hne, ih List.mem_cons_self]
      · exact ih (List.mem_cons_of_mem _ h)

theorem IsItem.isEntry {text item : String} (h : IsItem text item) : IsEntry item := by
  obtain ⟨hne, piece, hpiece, htrim⟩ := h
  refine ⟨hne, ?_, ?_⟩
  · rw [← htrim]
    intro hmem
    exact notMem_of_mem_splitOn hpiece ((trim_sublist piece).mem hmem)
  · rw [← htrim, trim_trim]

theorem splitOn_join {separator : String} {sign : Char} (hsign : separator.toList = [sign])
    {texts : List String} (h : ∀ text ∈ texts, sign ∉ text.toList) (hne : texts ≠ []) :
    (join separator texts).toList.splitOn sign = texts.map String.toList := by
  rw [join, String.toList_intercalate, hsign]
  apply List.splitOn_intercalate sign ?_ (by simpa using hne)
  intro piece hpiece
  obtain ⟨text, htext, rfl⟩ := List.mem_map.1 hpiece
  exact h text htext

theorem items_join {texts : List String} (h : ∀ text ∈ texts, IsEntry text) :
    items (join "," texts) = texts := by
  by_cases hnil : texts = []
  · subst hnil
    rfl
  · have hsplit : (join "," texts).toList.splitOn ',' = texts.map String.toList :=
      splitOn_join rfl (fun text htext => (h text htext).noComma) hnil
    have htrim : (texts.map String.toList).map trim = texts.map String.toList := by
      rw [List.map_map]
      exact List.map_congr_left fun text htext => (h text htext).trimmed
    have hfilter : (texts.map String.toList).filter (!·.isEmpty) = texts.map String.toList := by
      rw [List.filter_eq_self]
      intro piece hpiece
      obtain ⟨text, htext, rfl⟩ := List.mem_map.1 hpiece
      simpa using (h text htext).ne_empty
    rw [items, hsplit, htrim, hfilter, List.map_map]
    simp [Function.comp_def]

theorem isItem_join_iff {texts : List String} (h : ∀ text ∈ texts, IsEntry text) {item : String} :
    IsItem (join "," texts) item ↔ item ∈ texts := by
  rw [← mem_items_iff, items_join h]

end Text

end SizeRequest

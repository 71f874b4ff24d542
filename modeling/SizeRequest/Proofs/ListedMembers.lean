import Mathlib.Data.Nat.Digits.Defs
import SizeRequest.Proofs.FlagFault
import SizeRequest.Proofs.ListedTexts

namespace SizeRequest

namespace Text

def left? (piece : String) : Option String :=
  if (trim piece.toList).isEmpty then none else some (String.ofList (trim piece.toList))

theorem left?_eq_some_iff {piece text : String} : left? piece = some text ↔ Leaves piece text := by
  rw [leaves_iff_trim, left?]
  constructor
  · intro h
    split at h
    next => cases h
    next hne =>
      cases h
      refine ⟨?_, String.toList_ofList.symm⟩
      intro hempty
      rw [String.ofList_eq_empty_iff.1 hempty] at hne
      exact hne rfl
  · intro h
    obtain ⟨hne, htrim⟩ := h
    rw [htrim, if_neg (by simpa using hne), String.ofList_toList]

theorem items_eq_filterMap (value : String) : items value = (pieces value).filterMap left? := by
  rw [items, pieces, List.filterMap_map]
  induction value.toList.splitOn ',' with
  | nil => rfl
  | cons s rest ih =>
    rw [List.map_cons, List.filter_cons, List.filterMap_cons, Function.comp_apply, left?,
      String.toList_ofList, ← ih]
    cases (trim s).isEmpty <;> simp

theorem exists_piece_of_items {value item : String} {before after : List String}
    (h : items value = before ++ item :: after) :
    ∃ first piece rest, pieces value = first ++ piece :: rest ∧ Leaves piece item ∧
      ∀ other ∈ first, ∀ text, Leaves other text → text ∈ before := by
  rw [items_eq_filterMap] at h
  obtain ⟨first, others, hpieces, hfirst, hothers⟩ := List.filterMap_eq_append_iff.1 h
  obtain ⟨blanks, piece, rest, rfl, hblanks, hpiece, -⟩ := List.filterMap_eq_cons_iff.1 hothers
  refine ⟨first ++ blanks, piece, rest, by simp [hpieces], left?_eq_some_iff.1 hpiece, ?_⟩
  intro other hother text hleaves
  rw [← left?_eq_some_iff] at hleaves
  rcases List.mem_append.1 hother with hother | hother
  · rw [← hfirst]
    exact List.mem_filterMap.2 ⟨other, hother, hleaves⟩
  · rw [hblanks other hother] at hleaves
    cases hleaves

theorem exists_items_of_piece {value item piece : String} {first rest : List String}
    (h : pieces value = first ++ piece :: rest) (hleaves : Leaves piece item) :
    ∃ before after, items value = before ++ item :: after ∧
      ∀ text ∈ before, ∃ other ∈ first, Leaves other text := by
  refine ⟨first.filterMap left?, rest.filterMap left?, ?_, ?_⟩
  · rw [items_eq_filterMap, h, List.filterMap_append,
      List.filterMap_cons_some (left?_eq_some_iff.2 hleaves)]
  · intro text htext
    obtain ⟨other, hother, hleft⟩ := List.mem_filterMap.1 htext
    exact ⟨other, hother, left?_eq_some_iff.1 hleft⟩

end Text

namespace KnownFlag

variable {α : Type} [Ord α]

/-- What texts between commas are read as when they should be members: as the set of the members,
or, if one of them is none, as a fault that names the leftmost such text, whatever stands behind
it. -/
inductive ReadsMembers (name : String) (parse : String → Option α) (value : String) :
    Except FlagFault (OrderedSet α) → Prop
  | members {found : OrderedSet α} :
      (∀ text, Text.Lists value text → ∃ a, parse text = some a) →
      (∀ a, a ∈ found.toList ↔ ∃ text, Text.Lists value text ∧ parse text = some a) →
      ReadsMembers name parse value (.ok found)
  | unknown {first rest : List String} {piece text : String} :
      Text.pieces value = first ++ piece :: rest →
      (∀ other ∈ first, ∀ earlier, Text.Leaves other earlier → ∃ a, parse earlier = some a) →
      Text.Leaves piece text → parse text = none →
      ReadsMembers name parse value (.error (.invalidValue name (.unknownMember text)))

variable [Std.TransOrd α] [Std.LawfulEqOrd α] {name : String} {parse : String → Option α}
  {value : String}

theorem convert_memberSet_of_members {found : OrderedSet α}
    (hall : ∀ text, Text.Lists value text → ∃ a, parse text = some a)
    (hfound : ∀ a, a ∈ found.toList ↔ ∃ text, Text.Lists value text ∧ parse text = some a) :
    (memberSet name parse).convert (some value) = .ok found := by
  simp only [← Text.isItem_iff_lists, ← Text.mem_items_iff] at hall hfound
  obtain ⟨l, hl⟩ := exists_map_eq_map_some_iff.2 hall
  rw [convert_memberSet_eq_ok_iff]
  refine ⟨value, l, rfl, hl, OrderedSet.eq_of_mem_iff fun a => ?_⟩
  rw [hfound, OrderedSet.mem_ofList_iff, mem_iff_of_map_eq_map_some hl]

theorem readsMembers_of_convert :
    ReadsMembers name parse value
      (((memberSet name parse).convert (some value)).mapError (.invalidValue name)) := by
  cases hconvert : (memberSet name parse).convert (some value) with
  | ok found =>
    obtain ⟨_, l, ⟨⟩, hl, rfl⟩ := convert_memberSet_eq_ok_iff.1 hconvert
    apply ReadsMembers.members
    · intro text htext
      rw [← Text.isItem_iff_lists, ← Text.mem_items_iff] at htext
      exact exists_map_eq_map_some_iff.1 ⟨l, hl⟩ text htext
    · intro a
      simp only [OrderedSet.mem_ofList_iff, mem_iff_of_map_eq_map_some hl, Text.mem_items_iff,
        Text.isItem_iff_lists]
  | error fault =>
    obtain _ | ⟨hitems, hbefore, hitem⟩ := convert_memberSet_eq_error_iff.1 hconvert
    obtain ⟨first, piece, rest, hpieces, hleaves, hfirst⟩ := Text.exists_piece_of_items hitems
    apply ReadsMembers.unknown hpieces ?_ hleaves hitem
    intro other hother earlier hearlier
    exact Option.isSome_iff_exists.1 (hbefore earlier (hfirst other hother earlier hearlier))

theorem readAs_memberSet_iff (hname : name ≠ "" ∧ '=' ∉ name.toList)
    {result : Except FlagFault (OrderedSet α)} :
    (memberSet name parse).ReadAs value result ↔ ReadsMembers name parse value result := by
  rw [readAs_iff hname]
  constructor
  · intro h
    rw [h]
    exact readsMembers_of_convert
  · intro h
    cases h with
    | members hall hfound => rw [convert_memberSet_of_members hall hfound, mapError_ok]
    | unknown hpieces hfirst hleaves hunknown =>
      obtain ⟨before, after, hitems, hbefore⟩ := Text.exists_items_of_piece hpieces hleaves
      have hmembers : ∀ other ∈ before, (parse other).isSome := by
        intro other hother
        obtain ⟨piece, hpiece, hearlier⟩ := hbefore other hother
        exact Option.isSome_iff_exists.2 (hfirst piece hpiece other hearlier)
      rw [convert_memberSet_eq_error_iff.2 (.item hitems hmembers hunknown)]
      rfl

end KnownFlag

def writtenNumber (digits : List Char) : Nat :=
  Nat.ofDigits 10 (digits.map fun c => c.toNat - '0'.toNat).reverse

theorem digitsValue?_eq_some_iff {digits : List Char} {n : Nat} :
    digitsValue? digits = some n ↔
      digits ≠ [] ∧ (∀ c ∈ digits, c.isDigit = true) ∧ writtenNumber digits = n := by
  have hvalue : digits.foldl (fun n c => 10 * n + (c.toNat - '0'.toNat)) 0 =
      writtenNumber digits := by
    rw [writtenNumber, Nat.ofDigits_eq_foldr, List.foldr_reverse, List.foldl_map]
    simp [Nat.add_comm]
  have hbad : (digits.isEmpty || !digits.all Char.isDigit) = true ↔
      ¬ (digits ≠ [] ∧ ∀ c ∈ digits, c.isDigit = true) := by
    simp [Classical.or_iff_not_imp_left]
  rw [digitsValue?, hvalue, ← and_assoc]
  simp only [hbad, ite_not]
  split
  next hdigits => rw [Option.some.injEq, and_iff_right hdigits]
  next hdigits => simp [hdigits]

theorem digitsValue?_plus (rest : List Char) : digitsValue? ('+' :: rest) = none := by
  rw [Option.eq_none_iff_forall_ne_some]
  intro n h
  obtain ⟨-, hdigits, -⟩ := digitsValue?_eq_some_iff.1 h
  exact absurd (hdigits '+' List.mem_cons_self) (by decide)

theorem byteOfText?_eq_some_iff {text : String} {n : Nat} :
    byteOfText? text = some n ↔
      ∃ digits, (text.toList = digits ∨ text.toList = '+' :: digits) ∧ digits ≠ [] ∧
        (∀ c ∈ digits, c.isDigit = true) ∧ writtenNumber digits = n ∧ n ≤ 255 := by
  have hbyte : byteOfText? text = some n ↔
      ∃ digits, (text.toList = digits ∨ text.toList = '+' :: digits) ∧
        digitsValue? digits = some n ∧ n ≤ 255 := by
    rw [byteOfText?, Option.filter_eq_some_iff, decide_eq_true_eq, Nat.lt_succ_iff]
    split
    next rest htext =>
      constructor
      · intro h
        exact ⟨rest, .inr htext, h⟩
      · intro h
        obtain ⟨digits, hdigits, hvalue⟩ := h
        rw [htext] at hdigits
        rcases hdigits with rfl | hdigits
        · rw [digitsValue?_plus] at hvalue
          cases hvalue.1
        · cases hdigits
          exact hvalue
    next hnone =>
      constructor
      · intro h
        exact ⟨text.toList, .inl rfl, h⟩
      · intro h
        obtain ⟨digits, hdigits | hdigits, hvalue⟩ := h
        · rw [hdigits]
          exact hvalue
        · exact absurd hdigits (hnone digits)
  simp only [hbyte, digitsValue?_eq_some_iff, and_assoc]

namespace KnownFlag

/-- A flag that lists dimensions or bytes between commas is read just if every text that it lists is
one of them, as the set of all these in increasing order; and otherwise its fault names the leftmost
text that is none. The texts of bytes are decimal numbers up to 255, with any number of digits and
with a plus sign or without one. -/
theorem members_between_commas {name : String} (hname : name ≠ "" ∧ '=' ∉ name.toList) :
    (∀ value result, (memberSet name Dimension.ofName?).ReadAs value result ↔
      ReadsMembers name Dimension.ofName? value result) ∧
    (∀ value found, (memberSet name Dimension.ofName?).ReadAs value (.ok found) →
      found.toList.Pairwise fun c d => c.rank < d.rank) ∧
    (∀ value result, (memberSet name byteOfText?).ReadAs value result ↔
      ReadsMembers name byteOfText? value result) ∧
    (∀ value found, (memberSet name byteOfText?).ReadAs value (.ok found) →
      found.toList.Pairwise (· < ·) ∧ ∀ n ∈ found.toList, n ≤ 255) ∧
    (∀ text n, byteOfText? text = some n ↔
      ∃ digits, (text.toList = digits ∨ text.toList = '+' :: digits) ∧ digits ≠ [] ∧
        (∀ c ∈ digits, c.isDigit = true) ∧ writtenNumber digits = n ∧ n ≤ 255) ∧
    ∀ text, (ValueFault.unknownMember text).message = "unknown value '" ++ text ++ "'" := by
  refine ⟨?_, ?_, ?_, ?_, ?_, ?_⟩
  · intro value result
    exact readAs_memberSet_iff hname
  · intro value found _
    exact found.increasing.imp Nat.compare_eq_lt.1
  · intro value result
    exact readAs_memberSet_iff hname
  · intro value found h
    refine ⟨found.increasing.imp Nat.compare_eq_lt.1, ?_⟩
    intro n hn
    cases (readAs_memberSet_iff hname).1 h with
    | members _ hfound =>
      obtain ⟨text, -, hbyte⟩ := (hfound n).1 hn
      obtain ⟨digits, -, -, -, -, hle⟩ := byteOfText?_eq_some_iff.1 hbyte
      exact hle
  · intro text n
    exact byteOfText?_eq_some_iff
  · intro text
    rfl

theorem spellings_of_bytes_read :
    ReadsMembers "numbers" byteOfText? "7, +007,,255,0007" (.ok (.ofList [7, 255])) ∧
      ReadsMembers "numbers" byteOfText? "1,+ ,256"
        (.error (.invalidValue "numbers" (.unknownMember "+"))) ∧
      ReadsMembers "numbers" Dimension.ofName? "ALL,sdk,ABI"
        (.error (.invalidValue "numbers" (.unknownMember "sdk"))) := by
  have hname : "numbers" ≠ "" ∧ '=' ∉ "numbers".toList := by decide
  obtain ⟨hdimensions, -, hbytes, -⟩ := members_between_commas hname
  refine ⟨?_, ?_, ?_⟩
  · exact (hbytes _ _).1 ((readAs_iff hname).2 (by decide))
  · exact (hbytes _ _).1 ((readAs_iff hname).2 (by decide))
  · exact (hdimensions _ _).1 ((readAs_iff hname).2 (by decide))

end KnownFlag

end SizeRequest

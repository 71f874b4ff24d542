import Mathlib.Logic.Relation
import SizeRequest.Proofs.ByteOrder
import SizeRequest.Proofs.FlagRendering

namespace SizeRequest

namespace Text

def IsPadding (s : List Char) : Prop := ∀ c ∈ s, isBlank c = true

instance (s : List Char) : Decidable (IsPadding s) :=
  decidable_of_iff (s.all isBlank = true) List.all_eq_true

def Unpadded (s : List Char) : Prop :=
  (∀ c ∈ s.head?, isBlank c = false) ∧ ∀ c ∈ s.getLast?, isBlank c = false

instance (s : List Char) : Decidable (Unpadded s) :=
  decidable_of_iff ((s.head?.all fun c => !isBlank c) ∧ s.getLast?.all fun c => !isBlank c)
    (by simp [Unpadded, Option.all_eq_true])

theorem dropWhile_isBlank_of_head {s : List Char} (h : ∀ c ∈ s.head?, isBlank c = false) :
    s.dropWhile isBlank = s := by
  cases s with
  | nil => rfl
  | cons c rest =>
    have hc : isBlank c = false := h c rfl
    rw [List.dropWhile_cons_of_neg (by simp [hc])]

theorem head?_dropWhile_isBlank (s : List Char) :
    ∀ c ∈ (s.dropWhile isBlank).head?, isBlank c = false := by
  intro c hc
  have hnot := List.head?_dropWhile_not isBlank s
  rw [Option.mem_def.1 hc] at hnot
  simpa using hnot

theorem trim_of_unpadded {s : List Char} (h : Unpadded s) : trim s = s := by
  have hreverse : s.reverse.dropWhile isBlank = s.reverse := by
    apply dropWhile_isBlank_of_head
    rw [List.head?_reverse]
    exact h.2
  rw [trim, dropWhile_isBlank_of_head h.1, hreverse, List.reverse_reverse]

theorem unpadded_trim (s : List Char) : Unpadded (trim s) := by
  refine ⟨?_, ?_⟩
  · intro c hc
    obtain ⟨rest, hrest⟩ := List.rdropWhile_prefix isBlank (s.dropWhile isBlank)
    apply head?_dropWhile_isBlank s
    rw [← hrest, List.head?_append, Option.mem_def, Option.or_eq_some_iff]
    exact .inl hc
  · intro c hc
    rw [trim, List.getLast?_reverse] at hc
    exact head?_dropWhile_isBlank _ c hc

theorem IsPadding.reverse {s : List Char} (h : IsPadding s) : IsPadding s.reverse := by
  intro c hc
  exact h c (List.mem_reverse.1 hc)

theorem trim_padded {left right : List Char} (hleft : IsPadding left) (hright : IsPadding right)
    (s : List Char) : trim (left ++ s ++ right) = trim s := by
  have hdropped : (left ++ s ++ right).dropWhile isBlank = (s ++ right).dropWhile isBlank := by
    rw [List.append_assoc, List.dropWhile_append_of_pos hleft]
  rw [trim, hdropped, List.dropWhile_append]
  split
  next hblank =>
    have hnil : right.dropWhile isBlank = [] := List.dropWhile_eq_nil_iff.2 hright
    rw [trim, hnil, List.isEmpty_iff.1 hblank]
  next =>
    rw [trim, List.reverse_append, List.dropWhile_append_of_pos hright.reverse]

theorem exists_padding (s : List Char) :
    ∃ left right, s = left ++ trim s ++ right ∧ IsPadding left ∧ IsPadding right := by
  refine ⟨s.takeWhile isBlank, (s.dropWhile isBlank).rtakeWhile isBlank, ?_, ?_, ?_⟩
  · rw [List.append_assoc, trim_eq_rdropWhile, List.rdropWhile_append_rtakeWhile,
      List.takeWhile_append_dropWhile]
  · intro c hc
    exact List.mem_takeWhile_imp hc
  · intro c hc
    exact List.mem_rtakeWhile_imp hc

/-- A text is what is left of a piece when the white space around it is taken off. Nothing is left
of a blank piece. -/
def Leaves (piece text : String) : Prop :=
  text ≠ "" ∧ Unpadded text.toList ∧
    ∃ left right, piece.toList = left ++ text.toList ++ right ∧ IsPadding left ∧ IsPadding right

theorem leaves_iff_trim {piece text : String} :
    Leaves piece text ↔ text ≠ "" ∧ trim piece.toList = text.toList := by
  apply and_congr_right
  intro _
  constructor
  · intro h
    obtain ⟨hunpadded, left, right, hpiece, hleft, hright⟩ := h
    rw [hpiece, trim_padded hleft hright, trim_of_unpadded hunpadded]
  · intro h
    rw [← h]
    exact ⟨unpadded_trim _, exists_padding _⟩

def pieces (value : String) : List String := (value.toList.splitOn ',').map String.ofList

theorem noComma_of_mem_pieces {value : String} : ∀ piece ∈ pieces value, ',' ∉ piece.toList := by
  intro piece hpiece
  obtain ⟨s, hs, rfl⟩ := List.mem_map.1 hpiece
  rw [String.toList_ofList]
  exact notMem_of_mem_splitOn hs

theorem pieces_join {texts : List String} (h : ∀ piece ∈ texts, ',' ∉ piece.toList)
    (hne : texts ≠ []) : pieces (join "," texts) = texts := by
  have hsplit : (join "," texts).toList.splitOn ',' = texts.map String.toList :=
    splitOn_join rfl h hne
  simp [pieces, hsplit, Function.comp_def]

/-- A text that stands between the commas of a value when blank pieces and the white space around
the others are left out. -/
def Lists (value text : String) : Prop := ∃ piece ∈ pieces value, Leaves piece text

theorem isItem_iff_lists {value text : String} : IsItem value text ↔ Lists value text := by
  simp [IsItem, Lists, leaves_iff_trim, pieces, and_left_comm]

theorem not_leaves_of_isPadding {piece : String} (h : IsPadding piece.toList) (text : String) :
    ¬ Leaves piece text := by
  intro hleaves
  obtain ⟨hne, htrim⟩ := leaves_iff_trim.1 hleaves
  have hnone : IsPadding [] := fun _ hc => absurd hc List.not_mem_nil
  have hempty := trim_padded h hnone []
  rw [List.append_nil, List.append_nil, htrim] at hempty
  exact hne (String.toList_eq_nil_iff.1 hempty)

theorem leaves_padded_iff {left piece right text : String} (hleft : IsPadding left.toList)
    (hright : IsPadding right.toList) : Leaves (left ++ piece ++ right) text ↔ Leaves piece text := by
  rw [leaves_iff_trim, leaves_iff_trim, String.toList_append, String.toList_append,
    trim_padded hleft hright]

theorem lists_join_iff {texts : List String} (h : ∀ piece ∈ texts, ',' ∉ piece.toList)
    {text : String} : Lists (join "," texts) text ↔ ∃ piece ∈ texts, Leaves piece text := by
  by_cases hne : texts = []
  · subst hne
    have hpieces : pieces (join "," []) = [""] := rfl
    have hempty : ¬ Leaves "" text := not_leaves_of_isPadding (fun _ hc => by simp at hc) text
    simp [Lists, hpieces, hempty]
  · rw [Lists, pieces_join h hne]

/-- A change of the pieces of a list after which the same texts are listed. -/
inductive Edit : List String → List String → Prop
  | reorder {pieces reordered : List String} : reordered.Perm pieces → Edit pieces reordered
  | double {before after : List String} {piece : String} : piece ∈ before ++ after →
      Edit (before ++ after) (before ++ piece :: after)
  | blank {before after : List String} {blank : String} : IsPadding blank.toList →
      Edit (before ++ after) (before ++ blank :: after)
  | pad {before after : List String} {piece left right : String} : IsPadding left.toList →
      IsPadding right.toList →
      Edit (before ++ piece :: after) (before ++ (left ++ piece ++ right) :: after)

theorem IsPadding.noComma {s : List Char} (h : IsPadding s) : ',' ∉ s := by
  intro hmem
  exact absurd (h ',' hmem) (by decide)

theorem Edit.noComma {texts edited : List String} (h : Edit texts edited)
    (htexts : ∀ piece ∈ texts, ',' ∉ piece.toList) : ∀ piece ∈ edited, ',' ∉ piece.toList := by
  have hinsert {before after : List String} {piece : String} (hpiece : ',' ∉ piece.toList)
      (hothers : ∀ other ∈ before ++ after, ',' ∉ other.toList) :
      ∀ other ∈ before ++ piece :: after, ',' ∉ other.toList := by
    intro other hother
    rcases List.mem_cons.1 (List.perm_middle.mem_iff.1 hother) with rfl | hother
    · exact hpiece
    · exact hothers other hother
  cases h with
  | reorder hperm =>
    intro piece hpiece
    exact htexts piece (hperm.mem_iff.1 hpiece)
  | double hpiece => exact hinsert (htexts _ hpiece) htexts
  | blank hblank => exact hinsert hblank.noComma htexts
  | @pad before after piece left right hleft hright =>
    have hpiece := htexts piece (by simp)
    apply hinsert
    · simp [hleft.noComma, hright.noComma, hpiece]
    · intro other hother
      exact htexts other (List.perm_middle.mem_iff.2 (List.mem_cons_of_mem _ hother))

theorem Edit.leaves_iff {texts edited : List String} (h : Edit texts edited) (text : String) :
    (∃ piece ∈ edited, Leaves piece text) ↔ ∃ piece ∈ texts, Leaves piece text := by
  have hinsert (before after : List String) (piece : String) :
      (∃ other ∈ before ++ piece :: after, Leaves other text) ↔
        Leaves piece text ∨ ∃ other ∈ before ++ after, Leaves other text := by
    simp only [List.perm_middle.mem_iff, List.mem_cons, or_and_right, exists_or, exists_eq_left]
  cases h with
  | reorder hperm => simp only [hperm.mem_iff]
  | double hpiece =>
    rw [hinsert]
    exact or_iff_right_of_imp fun hleaves => ⟨_, hpiece, hleaves⟩
  | blank hblank =>
    rw [hinsert]
    exact or_iff_right (not_leaves_of_isPadding hblank text)
  | pad hleft hright => rw [hinsert, hinsert, leaves_padded_iff hleft hright]

theorem leaves_iff_of_edits {texts edited : List String}
    (h : Relation.ReflTransGen Edit texts edited) (htexts : ∀ piece ∈ texts, ',' ∉ piece.toList) :
    (∀ piece ∈ edited, ',' ∉ piece.toList) ∧
      ∀ text, (∃ piece ∈ edited, Leaves piece text) ↔ ∃ piece ∈ texts, Leaves piece text := by
  induction h with
  | refl => exact ⟨htexts, fun _ => Iff.rfl⟩
  | tail _ hedit ih =>
    obtain ⟨hnoComma, hsame⟩ := ih
    exact ⟨hedit.noComma hnoComma, fun text => (hedit.leaves_iff text).trans (hsame text)⟩

theorem lists_join_of_edits {value : String} {edited : List String}
    (h : Relation.ReflTransGen Edit (pieces value) edited) {text : String} :
    Lists (join "," edited) text ↔ Lists value text := by
  obtain ⟨hnoComma, hsame⟩ := leaves_iff_of_edits h noComma_of_mem_pieces
  rw [lists_join_iff hnoComma, hsame, Lists]

/-- A text that can be listed between commas as it is. -/
def Listable (text : String) : Prop := text ≠ "" ∧ ',' ∉ text.toList ∧ Unpadded text.toList

theorem listable_iff_isEntry {text : String} : Listable text ↔ IsEntry text := by
  constructor
  · intro h
    exact ⟨h.1, h.2.1, trim_of_unpadded h.2.2⟩
  · intro h
    have hunpadded := unpadded_trim text.toList
    rw [h.trimmed] at hunpadded
    exact ⟨h.ne_empty, h.noComma, hunpadded⟩

theorem Lists.listable {value text : String} (h : Lists value text) : Listable text :=
  listable_iff_isEntry.2 (isItem_iff_lists.2 h).isEntry

theorem lists_join_iff_mem {texts : List String} (h : ∀ text ∈ texts, Listable text)
    {text : String} : Lists (join "," texts) text ↔ text ∈ texts := by
  rw [← isItem_iff_lists, isItem_join_iff fun other hother => listable_iff_isEntry.1 (h other hother)]

end Text

namespace KnownFlag

variable {α : Type}

/-- What a flag is read as wherever it is given a value: among any flags, whatever was asked for
before, and whether or not it is required. -/
def ReadAs (flag : KnownFlag α) (value : String) (result : Except FlagFault α) : Prop :=
  ∀ arguments supplied asked, (FlagList.parse arguments).outcome = .ok supplied →
    "--" ++ flag.name ++ "=" ++ value ∈ arguments →
    (flag.read ⟨supplied, asked⟩).2.outcome = result.map some ∧
      (flag.readRequired ⟨supplied, asked⟩).2.outcome = result

theorem outcome_read_of_value {flag : KnownFlag α} {flags : Flags} {value : Option String}
    (h : flags.value? flag.name = some value) :
    (flag.read flags).2.outcome =
      ((flag.convert value).mapError (.invalidValue flag.name)).map some := by
  rw [read, h]
  cases hconvert : flag.convert value with
  | error fault => simp [hconvert, Except.map]
  | ok a => simp [hconvert, Except.map]

theorem outcome_readRequired_of_value {flag : KnownFlag α} {flags : Flags} {value : Option String}
    (h : flags.value? flag.name = some value) :
    (flag.readRequired flags).2.outcome =
      (flag.convert value).mapError (.invalidValue flag.name) := by
  rw [readRequired, Reading.snd_andThen, Logged.outcome_andThen, outcome_read_of_value h]
  cases flag.convert value with
  | error fault => rfl
  | ok a => rfl

theorem readAs_iff {flag : KnownFlag α} (hname : flag.name ≠ "" ∧ '=' ∉ flag.name.toList)
    {value : String} {result : Except FlagFault α} :
    flag.ReadAs value result ↔
      result = (flag.convert (some value)).mapError (.invalidValue flag.name) := by
  have hname' : (Flag.mk flag.name (some value)).HasName := hname
  constructor
  · intro h
    have hwrites : FlagList.Writes ["--" ++ flag.name ++ "=" ++ value]
        [⟨flag.name, some value⟩] := ⟨rfl, by simpa using hname', by simp⟩
    have hvalue : (Flags.mk [⟨flag.name, some value⟩] []).value? flag.name = some (some value) :=
      (Flags.value?_eq_some_iff hwrites.distinct).2 List.mem_cons_self
    obtain ⟨-, hread⟩ :=
      h _ _ [] (FlagList.outcome_parse_eq_ok_iff.2 hwrites) List.mem_cons_self
    rw [← hread, outcome_readRequired_of_value hvalue]
  · intro h arguments supplied asked hparse hgiven
    subst h
    have hwrites := FlagList.outcome_parse_eq_ok_iff.1 hparse
    have hmem : ⟨flag.name, some value⟩ ∈ supplied := (hwrites.mem_iff hname').1 hgiven
    have hvalue : (Flags.mk supplied asked).value? flag.name = some (some value) :=
      (Flags.value?_eq_some_iff hwrites.distinct).2 hmem
    exact ⟨outcome_read_of_value hvalue, outcome_readRequired_of_value hvalue⟩

section TextSet

variable {name : String} (hname : name ≠ "" ∧ '=' ∉ name.toList)

include hname

theorem readAs_textSet_iff {value : String} {result : Except FlagFault (OrderedSet String)} :
    (textSet name).ReadAs value result ↔
      ∃ texts, result = .ok texts ∧ ∀ text, text ∈ texts.toList ↔ Text.Lists value text := by
  rw [readAs_iff hname]
  have hmem (text : String) :
      text ∈ (OrderedSet.ofList (Text.items value)).toList ↔ Text.Lists value text := by
    rw [OrderedSet.mem_ofList_iff, Text.mem_items_iff, Text.isItem_iff_lists]
  constructor
  · intro h
    exact ⟨.ofList (Text.items value), h, hmem⟩
  · intro h
    obtain ⟨texts, rfl, htexts⟩ := h
    have hsame : texts = .ofList (Text.items value) :=
      OrderedSet.eq_of_mem_iff fun text => (htexts text).trans (hmem text).symm
    rw [hsame]
    rfl

theorem readAs_textSet_join {texts : OrderedSet String}
    (h : ∀ text ∈ texts.toList, Text.Listable text) :
    (textSet name).ReadAs (Text.join "," texts.toList) (.ok texts) := by
  rw [readAs_textSet_iff hname]
  exact ⟨texts, rfl, fun text => (Text.lists_join_iff_mem h).symm⟩

/-- A flag that lists texts between commas is read as the set of them, in the order of their bytes.
Each of them can be listed again, and every set of texts that can be listed is read back from them
with commas between. Nothing that is done to the pieces of a list makes a difference if it only puts
them in another order, writes one twice, or adds blank pieces or white space around one. -/
theorem texts_between_commas :
    (∀ value result, (textSet name).ReadAs value result ↔
      ∃ texts, result = .ok texts ∧ ∀ text, text ∈ texts.toList ↔ Text.Lists value text) ∧
    (∀ value texts, (textSet name).ReadAs value (.ok texts) →
      texts.toList.Pairwise (fun s t => Text.bytes s < Text.bytes t) ∧
        (∀ text ∈ texts.toList, Text.Listable text) ∧
        (textSet name).ReadAs (Text.join "," texts.toList) (.ok texts)) ∧
    (∀ texts : OrderedSet String, (∀ text ∈ texts.toList, Text.Listable text) →
      (textSet name).ReadAs (Text.join "," texts.toList) (.ok texts)) ∧
    ∀ value edited, Relation.ReflTransGen Text.Edit (Text.pieces value) edited → ∀ result,
      (textSet name).ReadAs (Text.join "," edited) result ↔ (textSet name).ReadAs value result := by
  refine ⟨?_, ?_, ?_, ?_⟩
  · intro value result
    exact readAs_textSet_iff hname
  · intro value texts h
    obtain ⟨_, ⟨⟩, hmem⟩ := (readAs_textSet_iff hname).1 h
    have hlistable : ∀ text ∈ texts.toList, Text.Listable text :=
      fun text htext => ((hmem text).1 htext).listable
    exact ⟨texts.increasing.imp Text.bytes_lt_of_compare, hlistable,
      readAs_textSet_join hname hlistable⟩
  · intro texts h
    exact readAs_textSet_join hname h
  · intro value edited h result
    rw [readAs_textSet_iff hname, readAs_textSet_iff hname]
    simp only [Text.lists_join_of_edits h]

end TextSet

theorem padded_texts_read :
    (textSet "items").ReadAs "b,\u3000a,,b,ä " (.ok (.ofList ["a", "b", "ä"])) ∧
      ((textSet "items").readRequired
        ⟨[⟨"x", none⟩, ⟨"items", some "b,\u3000a,,b,ä "⟩], []⟩).2.outcome =
          .ok (.ofList ["a", "b", "ä"]) := by
  have hname : "items" ≠ "" ∧ '=' ∉ "items".toList := by decide
  obtain ⟨-, -, hset, hedits⟩ := texts_between_commas hname
  have hlistable : ∀ text ∈ (OrderedSet.ofList ["a", "b", "ä"]).toList, Text.Listable text := by
    intro text htext
    rw [OrderedSet.mem_ofList_iff] at htext
    simp only [List.mem_cons, List.not_mem_nil, or_false] at htext
    obtain rfl | rfl | rfl := htext <;> exact ⟨by decide, by decide, by decide⟩
  have hideographic : Text.IsPadding "\u3000".toList := by decide
  have hblank : Text.IsPadding " ".toList := by decide
  have hempty : Text.IsPadding "".toList := by decide
  have hedited : Relation.ReflTransGen Text.Edit (Text.pieces "a,b,ä")
      ["b", "\u3000a", "", "b", "ä "] := by
    have hpieces : Text.pieces "a,b,ä" = ["a", "b", "ä"] := by decide
    rw [hpieces]
    apply Relation.ReflTransGen.head (.reorder (List.Perm.swap "a" "b" ["ä"]))
    apply Relation.ReflTransGen.head (@Text.Edit.pad ["b"] ["ä"] "a" _ _ hideographic hempty)
    apply Relation.ReflTransGen.head (@Text.Edit.blank ["b", "\u3000a"] ["ä"] _ hempty)
    apply Relation.ReflTransGen.head
      (@Text.Edit.double ["b", "\u3000a", ""] ["ä"] "b" (by decide))
    exact .single (@Text.Edit.pad ["b", "\u3000a", "", "b"] [] "ä" _ _ hempty hblank)
  have hread := (hedits _ _ hedited _).2 (hset _ hlistable)
  have hparse : (FlagList.parse ["--x", "--items=b,\u3000a,,b,ä "]).outcome =
      .ok [⟨"x", none⟩, ⟨"items", some "b,\u3000a,,b,ä "⟩] := by decide
  exact ⟨hread, (hread _ _ [] hparse (by decide)).2⟩

end KnownFlag

end SizeRequest

import SizeRequest.Proofs.Json.Grammar

namespace SizeRequest.Json

def IsOpener (c : Char) : Prop := isBlank c = false ∧ c ≠ ',' ∧ ¬ IsCloser c

inductive Shape
  | null
  | yes
  | no
  | number
  | text
  | list
  | object
deriving DecidableEq

def Shape.ofHead (c : Char) : Shape :=
  if c = 'n' then null
  else if c = 't' then yes
  else if c = 'f' then no
  else if c = '"' then text
  else if c = '[' then list
  else if c = '\x7b' then object
  else number

def Value.shape : Value → Shape
  | null => .null
  | boolean true => .yes
  | boolean false => .no
  | number _ => .number
  | text _ => .text
  | list _ => .list
  | object _ => .object

theorem IsNumeral.head {s : List Char} (h : IsNumeral s) :
    ∃ c t, s = c :: t ∧ (c = '-' ∨ c.isDigit = true) := by
  obtain ⟨sign, whole, fraction, exponent, rfl | rfl, ⟨⟨hne, hd⟩, -⟩, -, -, rfl⟩ := h
  · cases whole with
    | nil => exact absurd rfl hne
    | cons c t => exact ⟨c, _, rfl, .inr (hd c (by simp))⟩
  · exact ⟨'-', _, rfl, .inl rfl⟩

theorem ofHead_of_number {c : Char} (h : c = '-' ∨ c.isDigit = true) :
    Shape.ofHead c = .number ∧ IsOpener c := by
  rcases h with rfl | h
  · exact ⟨rfl, rfl, by decide, by rintro (h | h) <;> cases h⟩
  · have hne (d : Char) (hd : d.isDigit = false) : c ≠ d := by
      rintro rfl
      rw [h] at hd
      cases hd
    refine ⟨?_, ?_, hne ',' rfl, ?_⟩
    · simp only [Shape.ofHead, hne 'n' rfl, hne 't' rfl, hne 'f' rfl, hne '"' rfl, hne '[' rfl,
        hne '\x7b' rfl, ↓reduceIte]
    · simp [isBlank, hne ' ' rfl, hne '\n' rfl, hne '\t' rfl, hne '\r' rfl]
    · rintro (h | h)
      · exact hne ']' rfl h
      · exact hne '\x7d' rfl h

theorem isOpener_of_ofHead {c : Char} (h : Shape.ofHead c ≠ .number) : IsOpener c := by
  unfold Shape.ofHead at h
  have hopener : c = 'n' ∨ c = 't' ∨ c = 'f' ∨ c = '"' ∨ c = '[' ∨ c = '\x7b' := by
    by_contra hno
    simp only [not_or] at hno
    simp [hno] at h
  rcases hopener with rfl | rfl | rfl | rfl | rfl | rfl <;>
    exact ⟨rfl, by decide, by rintro (h | h) <;> cases h⟩

theorem Writes.head {v : Value} {s : List Char} (h : Writes v s) :
    ∃ c t, s = c :: t ∧ Shape.ofHead c = v.shape ∧ IsOpener c := by
  cases h with
  | null => exact ⟨_, _, rfl, rfl, isOpener_of_ofHead (by decide)⟩
  | yes => exact ⟨_, _, rfl, rfl, isOpener_of_ofHead (by decide)⟩
  | no => exact ⟨_, _, rfl, rfl, isOpener_of_ofHead (by decide)⟩
  | @number n =>
    obtain ⟨c, t, hs, hc⟩ := n.isNumeral.head
    obtain ⟨hshape, hopener⟩ := ofHead_of_number hc
    exact ⟨c, t, hs, hshape, hopener⟩
  | text => exact ⟨_, _, rfl, rfl, isOpener_of_ofHead (by decide)⟩
  | list => exact ⟨_, _, rfl, rfl, isOpener_of_ofHead (by decide)⟩
  | object => exact ⟨_, _, rfl, rfl, isOpener_of_ofHead (by decide)⟩

/-- An item of which every text starts with an opener. -/
def Opens {α : Type} (item : α → List Char → Prop) : Prop :=
  ∀ a s, item a s → ∃ c t, s = c :: t ∧ IsOpener c

/-- An item is the only one that can stand in front of a text, whatever text writes it. -/
def UniqueItem {α : Type} (item : α → List Char → Prop) (a : α) : Prop :=
  ∀ a' s s' r r', item a s → item a' s' → Stops r → Stops r' → s ++ r = s' ++ r' →
    a = a' ∧ r = r'

section Lists

variable {α : Type} {item : α → List Char → Prop} (hopens : Opens item)

include hopens

theorem Opens.append_ne {a : α} {s r t : List Char} {c : Char} (h : item a s)
    (hc : c = ',' ∨ IsCloser c) {b b' : List Char} (hb : IsBlanks b) (hb' : IsBlanks b') :
    b ++ (s ++ r) ≠ b' ++ c :: t := by
  obtain ⟨d, u, rfl, hd⟩ := hopens a s h
  have hblank : isBlank c = false := by
    rcases hc with rfl | hc
    · rfl
    · exact isBlank_closer hc
  intro he
  have hcons := cons_eq_of_isBlanks hb hb' hd.1 hblank he
  obtain rfl : d = c := (List.cons.inj hcons).1
  rcases hc with hc | hc
  · exact hd.2.1 hc
  · exact hd.2.2 hc

theorem UniqueItem.blanks {a a' : α} (hu : UniqueItem item a) {s s' r r' b b' : List Char}
    (hb : IsBlanks b) (hb' : IsBlanks b') (h : item a s) (h' : item a' s') (hr : Stops r)
    (hr' : Stops r') (he : b ++ (s ++ r) = b' ++ (s' ++ r')) : a = a' ∧ r = r' := by
  obtain ⟨c, t, rfl, hc⟩ := hopens a s h
  obtain ⟨c', t', rfl, hc'⟩ := hopens a' s' h'
  exact hu _ _ _ _ _ h h' hr hr' (cons_eq_of_isBlanks hb hb' hc.1 hc'.1 he)

omit hopens in
theorem Following.length_le {as : List α} {s : List Char} (h : Following item as s) :
    as.length ≤ s.length := by
  induction h with
  | none => exact Nat.zero_le _
  | more _ _ _ _ ih =>
    simp only [List.length_append, List.length_cons]
    omega

theorem Listing.length_le {as : List α} {s : List Char} (h : Listing item as s) :
    as.length ≤ s.length := by
  cases h with
  | none => exact Nat.zero_le _
  | some _ hs hrest =>
    obtain ⟨c, t, rfl, -⟩ := hopens _ _ hs
    have hle := hrest.length_le
    simp only [List.length_append, List.length_cons]
    omega

theorem Following.unique {as as' : List α} {s s' r r' : List Char} {close : Char}
    (hclose : IsCloser close) (h : Following item as s) (h' : Following item as' s')
    (hu : ∀ a ∈ as, UniqueItem item a) (he : s ++ close :: r = s' ++ close :: r') :
    as = as' ∧ r = r' := by
  have hblank := isBlank_closer hclose
  induction h generalizing as' s' with
  | none hb =>
    cases h' with
    | none hb' => exact ⟨rfl, (List.cons.inj (cons_eq_of_isBlanks hb hb' hblank hblank he)).2⟩
    | more hb' =>
      simp only [List.append_assoc, List.cons_append] at he
      cases (List.cons.inj (cons_eq_of_isBlanks hb hb' hblank rfl he)).1
      rcases hclose with h | h <;> cases h
  | more hb hc hitem hrest ih =>
    simp only [List.append_assoc, List.cons_append] at he
    cases h' with
    | none hb' =>
      cases (List.cons.inj (cons_eq_of_isBlanks hb hb' rfl hblank he)).1
      rcases hclose with h | h <;> cases h
    | more hb' hc' hitem' hrest' =>
      simp only [List.append_assoc, List.cons_append] at he
      have htail := (List.cons.inj (cons_eq_of_isBlanks hb hb' rfl rfl he)).2
      obtain ⟨rfl, hmore⟩ := UniqueItem.blanks hopens (hu _ List.mem_cons_self) hc hc' hitem
        hitem' (hrest.stops hclose _) (hrest'.stops hclose _) htail
      obtain ⟨rfl, hr⟩ := ih hrest' (fun a ha => hu a (by simp [ha])) hmore
      exact ⟨rfl, hr⟩

/-- Two lists between brackets that are closed alike are equal. -/
theorem Listing.unique {as as' : List α} {s s' r r' : List Char} {close : Char}
    (hclose : IsCloser close) (h : Listing item as s) (h' : Listing item as' s')
    (hu : ∀ a ∈ as, UniqueItem item a) (he : s ++ close :: r = s' ++ close :: r') :
    as = as' ∧ r = r' := by
  have hblank := isBlank_closer hclose
  cases h with
  | none hb =>
    cases h' with
    | none hb' => exact ⟨rfl, (List.cons.inj (cons_eq_of_isBlanks hb hb' hblank hblank he)).2⟩
    | some hb' hitem' hrest' =>
      simp only [List.append_assoc] at he
      exact absurd he.symm (hopens.append_ne hitem' (.inr hclose) hb' hb)
  | some hb hitem hrest =>
    simp only [List.append_assoc] at he
    cases h' with
    | none hb' => exact absurd he (hopens.append_ne hitem (.inr hclose) hb hb')
    | some hb' hitem' hrest' =>
      simp only [List.append_assoc] at he
      obtain ⟨rfl, hmore⟩ := UniqueItem.blanks hopens (hu _ List.mem_cons_self) hb hb' hitem
        hitem' (hrest.stops hclose _) (hrest'.stops hclose _) he
      obtain ⟨rfl, hr⟩ := Following.unique hopens hclose hrest hrest'
        (fun a ha => hu a (by simp [ha])) hmore
      exact ⟨rfl, hr⟩

end Lists

theorem opens_writes : Opens Writes := by
  intro v s h
  obtain ⟨c, t, hs, -, hc⟩ := h.head
  exact ⟨c, t, hs, hc⟩

theorem opens_writesMember : Opens (WritesMember Writes) := by
  intro m s h
  cases h with
  | mk => exact ⟨'"', _, rfl, isOpener_of_ofHead (by decide)⟩

theorem Spells.unique {s t : String} {body body' r r' : List Char} (h : Spells s.toList body)
    (h' : Spells t.toList body') (he : body ++ '"' :: r = body' ++ '"' :: r') : s = t ∧ r = r' := by
  have hread := stringBody_spells h r
  rw [he, stringBody_spells h' r'] at hread
  cases hread
  exact ⟨rfl, rfl⟩

theorem uniqueItem_writesMember {k : String} {v : Value} (hv : UniqueItem Writes v) :
    UniqueItem (WritesMember Writes) (k, v) := by
  rintro m s s' r r' h h' hr hr' he
  cases h with
  | mk hk hb hc hs =>
    cases h' with
    | mk hk' hb' hc' hs' =>
      simp only [List.append_assoc, List.cons_append] at he
      obtain ⟨rfl, hcolon⟩ := hk.unique hk' (List.cons.inj he).2
      have hvalue := (List.cons.inj (cons_eq_of_isBlanks hb hb' rfl rfl hcolon)).2
      obtain ⟨rfl, hrest⟩ := UniqueItem.blanks opens_writes hv hc hc' hs hs' hr hr' hvalue
      exact ⟨rfl, hrest⟩

theorem takeWhile_numeral {n : Numeral} {r : List Char} (hr : Stops r) :
    (n.text ++ r).takeWhile continues = n.text := by
  rw [List.takeWhile_append_of_pos (continues_of_isNumeral n.isNumeral)]
  cases r with
  | nil => simp
  | cons c r => simp [hr c rfl]

theorem uniqueItem_writes_of_smaller {v : Value}
    (ih : ∀ w, sizeOf w < sizeOf v → UniqueItem Writes w) : UniqueItem Writes v := by
  intro v' s s' r r' h h' hr hr' he
  -- Two values in front of one text start with one character, which tells the shape of both.
  have hshape : v.shape = v'.shape := by
    obtain ⟨c, t, rfl, hc, -⟩ := h.head
    obtain ⟨c', t', rfl, hc', -⟩ := h'.head
    rw [← hc, ← hc', (List.cons.inj he).1]
  cases h with
  | null =>
    cases h' with
    | null => exact ⟨rfl, List.append_cancel_left he⟩
    | _ => cases hshape
  | yes =>
    cases h' with
    | yes => exact ⟨rfl, List.append_cancel_left he⟩
    | _ => cases hshape
  | no =>
    cases h' with
    | no => exact ⟨rfl, List.append_cancel_left he⟩
    | _ => cases hshape
  | @number n =>
    cases h' with
    | @number m =>
      have htext : n.text = m.text := by rw [← takeWhile_numeral hr, he, takeWhile_numeral hr']
      rw [htext] at he
      rcases n with ⟨text, _⟩
      obtain rfl : text = m.text := htext
      exact ⟨rfl, List.append_cancel_left he⟩
    | _ => cases hshape
  | text hs =>
    cases h' with
    | text hs' =>
      simp only [List.append_assoc, List.cons_append, List.nil_append] at he
      obtain ⟨rfl, hrest⟩ := hs.unique hs' (List.cons.inj he).2
      exact ⟨rfl, hrest⟩
    | _ => cases hshape
  | @list vs body hl =>
    cases h' with
    | list hl' =>
      simp only [List.append_assoc, List.cons_append, List.nil_append] at he
      have hitems (a : Value) (ha : a ∈ vs) : UniqueItem Writes a := by
        apply ih a
        have := List.sizeOf_lt_of_mem ha
        simp only [Value.list.sizeOf_spec]
        omega
      obtain ⟨rfl, hrest⟩ :=
        Listing.unique opens_writes (.inl rfl) hl hl' hitems (List.cons.inj he).2
      exact ⟨rfl, hrest⟩
    | _ => cases hshape
  | @object ms body hl =>
    cases h' with
    | object hl' =>
      simp only [List.append_assoc, List.cons_append, List.nil_append] at he
      have hitems (m : String × Value) (hm : m ∈ ms) : UniqueItem (WritesMember Writes) m := by
        rcases m with ⟨k, v⟩
        refine uniqueItem_writesMember (ih v ?_)
        have := List.sizeOf_lt_of_mem hm
        simp only [Value.object.sizeOf_spec, Prod.mk.sizeOf_spec] at this ⊢
        omega
      obtain ⟨rfl, hrest⟩ :=
        Listing.unique opens_writesMember (.inr rfl) hl hl' hitems (List.cons.inj he).2
      exact ⟨rfl, hrest⟩
    | _ => cases hshape

theorem uniqueItem_writes (v : Value) : UniqueItem Writes v := by
  -- On the size of the value, since its members stand inside lists and pairs.
  induction hn : sizeOf v using Nat.strongRecOn generalizing v with
  | ind n ih => exact uniqueItem_writes_of_smaller fun w hw => ih _ (hn ▸ hw) w rfl

/-- A document writes one value only. -/
theorem IsDocument.unique {v v' : Value} {text : List Char} (h : IsDocument v text)
    (h' : IsDocument v' text) : v = v' := by
  obtain ⟨b, s, c, hb, hs, hc, rfl⟩ := h
  obtain ⟨b', s', c', hb', hs', hc', he⟩ := h'
  rw [List.append_assoc, List.append_assoc] at he
  exact (UniqueItem.blanks opens_writes (uniqueItem_writes v) hb hb' hs hs'
    (stops_of_isBlanks hc) (stops_of_isBlanks hc') he).1

end SizeRequest.Json

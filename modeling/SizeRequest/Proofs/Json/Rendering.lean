import SizeRequest.Proofs.Json.Grammar

namespace SizeRequest.Json

namespace Value

theorem isUnit_escaped {c : Char} (h : c.toNat < 0x20) :
    IsUnit ['0', '0', Nat.digitChar (c.toNat / 16), Nat.digitChar (c.toNat % 16)] c.toNat := by
  refine ⟨rfl, ?_⟩
  generalize c.toNat = n at h
  have hall : ∀ n < 0x20,
      Text.ofDigits? 16 ['0', '0', Nat.digitChar (n / 16), Nat.digitChar (n % 16)] = some n := by
    decide
  exact hall n h

theorem spellsChar_ite {c d letter : Char} {s : List Char} (h : (letter, d) ∈ shortEscapes)
    (hs : c ≠ d → SpellsChar c s) : SpellsChar c (if c == d then ['\\', letter] else s) := by
  by_cases hc : c = d
  · subst hc
    simpa using SpellsChar.short h
  · simpa [hc] using hs hc

theorem spellsChar_escaped (c : Char) : SpellsChar c (escaped c) := by
  apply spellsChar_ite (by decide)
  intro hquote
  apply spellsChar_ite (by decide)
  intro hslash
  apply spellsChar_ite (by decide)
  intro _
  apply spellsChar_ite (by decide)
  intro _
  apply spellsChar_ite (by decide)
  intro _
  apply spellsChar_ite (by decide)
  intro _
  apply spellsChar_ite (by decide)
  intro _
  split
  next hlt =>
    have hunit := SpellsChar.unit (isUnit_escaped hlt) (.inl (by omega))
    rwa [Char.ofNat_toNat] at hunit
  next hlt => exact .plain (by omega) hquote hslash

theorem spells_flatMap_escaped (cs : List Char) : Spells cs (cs.flatMap escaped) := by
  induction cs with
  | nil => exact .nil
  | cons c cs ih => exact .cons (spellsChar_escaped c) ih

theorem isBlanks_newline (depth : Nat) : IsBlanks (newline depth) := by
  intro c hc
  rcases List.mem_cons.1 hc with rfl | hc
  · rfl
  · obtain rfl := List.eq_of_mem_replicate hc
    rfl

theorem writes_renderText (s : String) : Writes (.text s) (renderText s) :=
  .text (spells_flatMap_escaped s.toList)

theorem writesMember_render {depth : Nat} {k : String} {v : Value}
    (h : Writes v (renderAt depth v)) :
    WritesMember Writes (k, v) (renderText k ++ [':', ' '] ++ renderAt depth v) := by
  have hmember := WritesMember.mk (spells_flatMap_escaped k.toList) isBlanks_nil isBlanks_space h
  simpa [renderText] using hmember

theorem following_renderElements {depth : Nat} {vs : List Value} {b : List Char}
    (hb : IsBlanks b) (h : ∀ v ∈ vs, Writes v (renderAt depth v)) :
    Following Writes vs (renderElements depth vs ++ b) := by
  induction vs with
  | nil => simpa [renderElements] using Following.none hb
  | cons v vs ih =>
    have hmore := Following.more isBlanks_nil (isBlanks_newline depth) (h v (by simp))
      (ih fun w hw => h w (by simp [hw]))
    simpa [renderElements] using hmore

theorem following_renderMembers {depth : Nat} {ms : List (String × Value)} {b : List Char}
    (hb : IsBlanks b) (h : ∀ m ∈ ms, Writes m.2 (renderAt depth m.2)) :
    Following (WritesMember Writes) ms (renderMembers depth ms ++ b) := by
  induction ms with
  | nil => simpa [renderMembers] using Following.none hb
  | cons m ms ih =>
    rcases m with ⟨k, v⟩
    have hmore := Following.more isBlanks_nil (isBlanks_newline depth)
      (writesMember_render (k := k) (h (k, v) (by simp))) (ih fun w hw => h w (by simp [hw]))
    simpa [renderMembers] using hmore

theorem writes_renderAt_of_smaller {v : Value}
    (ih : ∀ w, sizeOf w < sizeOf v → ∀ depth, Writes w (renderAt depth w)) (depth : Nat) :
    Writes v (renderAt depth v) := by
  cases v with
  | null => exact .null
  | boolean b => cases b with
    | true => exact .yes
    | false => exact .no
  | number n => exact .number
  | text s => exact writes_renderText s
  | list vs =>
    -- What a list or an object holds is smaller, and is written one level deeper.
    have hitems (w : Value) (hw : w ∈ vs) : Writes w (renderAt (depth + 1) w) := by
      refine ih w ?_ _
      have := List.sizeOf_lt_of_mem hw
      simp only [list.sizeOf_spec]
      omega
    cases vs with
    | nil => exact .list (.none isBlanks_nil)
    | cons w rest =>
      have hlist := Writes.list (.some (isBlanks_newline (depth + 1)) (hitems w (by simp))
        (following_renderElements (isBlanks_newline depth) fun x hx =>
          hitems x (List.mem_cons_of_mem _ hx)))
      simpa [renderAt] using hlist
  | object ms =>
    have hitems (m : String × Value) (hm : m ∈ ms) : Writes m.2 (renderAt (depth + 1) m.2) := by
      rcases m with ⟨k, w⟩
      refine ih w ?_ _
      have := List.sizeOf_lt_of_mem hm
      simp only [object.sizeOf_spec, Prod.mk.sizeOf_spec] at this ⊢
      omega
    cases ms with
    | nil => exact .object (.none isBlanks_nil)
    | cons m rest =>
      rcases m with ⟨k, w⟩
      have hobject := Writes.object (.some (isBlanks_newline (depth + 1))
        (writesMember_render (k := k) (hitems (k, w) (by simp)))
        (following_renderMembers (isBlanks_newline depth) fun x hx =>
          hitems x (List.mem_cons_of_mem _ hx)))
      simpa [renderAt] using hobject

theorem writes_renderAt (v : Value) (depth : Nat) : Writes v (renderAt depth v) := by
  induction hn : sizeOf v using Nat.strongRecOn generalizing v depth with
  | ind n ih => exact writes_renderAt_of_smaller (fun w hw d => ih _ (hn ▸ hw) w d rfl) depth

/-- A rendered value is a document that writes that value. -/
theorem isDocument_render (v : Value) : IsDocument v v.render.toList :=
  ⟨[], renderAt 0 v, [], isBlanks_nil, writes_renderAt v 0, isBlanks_nil, by simp [render]⟩

end Value

end SizeRequest.Json

import SizeRequest.Proofs.Json.SpecReading

namespace SizeRequest.Json

theorem exists_blanks_of_skipBlanks {s t : List Char} (h : skipBlanks s = t) :
    ∃ b, IsBlanks b ∧ s = b ++ t := by
  refine ⟨s.takeWhile isBlank, fun c hc => List.mem_takeWhile_imp hc, ?_⟩
  rw [← h]
  exact List.takeWhile_append_dropWhile.symm

theorem IsBlanks.append {b c : List Char} (hb : IsBlanks b) (hc : IsBlanks c) :
    IsBlanks (b ++ c) := by
  intro d hd
  rcases List.mem_append.1 hd with hd | hd
  · exact hb d hd
  · exact hc d hd

section Strings

theorem digitValue?_lt {c : Char} {d : Nat} (h : Text.digitValue? c = some d) : d < 16 := by
  unfold Text.digitValue? at h
  simp only [Bool.and_eq_true, decide_eq_true_eq, Char.le_def, UInt32.le_iff_toNat_le,
    Char.toNat_val] at h
  split at h
  next hc =>
    cases h
    have hle : c.toNat ≤ 57 := hc.2
    omega
  next =>
    split at h
    next hc =>
      cases h
      have hle : c.toNat ≤ 102 := hc.2
      omega
    next =>
      split at h
      next hc =>
        cases h
        have hle : c.toNat ≤ 70 := hc.2
        omega
      next => cases h

theorem isUnit_of_fourDigits {s rest : List Char} {n : Nat} (h : fourDigits s = .ok (n, rest)) :
    ∃ digits, IsUnit digits n ∧ s = digits ++ rest := by
  have hdigit {c : Char} {d : Nat} (hc : Text.digitValue? c = some d) :
      Text.isDigitOf 16 c = true := isDigitOf_eq_true_iff.2 ⟨d, digitValue?_lt hc, hc⟩
  unfold fourDigits at h
  split at h
  next a b c d tail =>
    split at h
    next va vb vc vd ha hb hc hd =>
      cases h
      refine ⟨[a, b, c, d], ⟨rfl, ?_⟩, rfl⟩
      simp [Text.ofDigits?, hdigit ha, hdigit hb, hdigit hc, hdigit hd, Text.ofDigits, ha, hb, hc,
        hd]
    next => cases h
  next => split at h <;> cases h

theorem spellsChar_of_numberedEscape {s rest : List Char} {c : Char}
    (h : numberedEscape s = .ok (c, rest)) :
    ∃ t, SpellsChar c ('\\' :: 'u' :: t) ∧ s = t ++ rest := by
  unfold numberedEscape at h
  split at h
  next => cases h
  next n left hfirst =>
    obtain ⟨high, hhigh, rfl⟩ := isUnit_of_fourDigits hfirst
    simp only [Bool.and_eq_true, decide_eq_true_eq, Bool.or_eq_true] at h
    split at h
    next => cases h
    next hlow =>
      split at h
      next hplain =>
        cases h
        exact ⟨high, .unit hhigh (by omega), rfl⟩
      next hpair =>
        split at h
        next => cases h
        next after =>
          split at h
          next => cases h
          next after =>
            split at h
            next => cases h
            next m left hsecond =>
              obtain ⟨low, hlow', rfl⟩ := isUnit_of_fourDigits hsecond
              split at h
              next => cases h
              next =>
                simp only [Except.ok.injEq, Prod.mk.injEq] at h
                obtain ⟨rfl, rfl⟩ := h
                exact ⟨high ++ '\\' :: 'u' :: low,
                  .pair hhigh hlow' (by omega) (by omega) (by omega) (by omega), by simp⟩
          next => cases h
        next => cases h

theorem spellsChar_of_escape {s rest : List Char} {c : Char} (h : escape s = .ok (c, rest)) :
    ∃ t, SpellsChar c ('\\' :: t) ∧ s = t ++ rest := by
  have hshort {letter d : Char} {tail : List Char} (hmem : (letter, d) ∈ shortEscapes) :
      ∃ t, SpellsChar d ('\\' :: t) ∧ letter :: tail = t ++ tail :=
    ⟨[letter], .short hmem, rfl⟩
  unfold escape at h
  split at h
  case h_1 => cases h
  case h_2 =>
    obtain ⟨t, ht, rfl⟩ := spellsChar_of_numberedEscape h
    exact ⟨'u' :: t, ht, rfl⟩
  case h_11 => cases h
  all_goals
    cases h
    exact hshort (by decide)

theorem spells_of_charactersWithin {budget : Nat} {s cs rest : List Char}
    (h : charactersWithin budget s = .ok (cs, rest)) :
    ∃ body, Spells cs body ∧ s = body ++ '"' :: rest := by
  induction budget generalizing s cs with
  | zero => cases h
  | succ budget ih =>
    unfold charactersWithin at h
    split at h
    next heq => cases heq
    next => cases h
    next =>
      cases h
      exact ⟨[], .nil, rfl⟩
    next heq =>
      cases heq
      split at h
      next => cases h
      next c left hescape =>
        split at h
        next => cases h
        next more left hmore =>
          cases h
          obtain ⟨t, ht, rfl⟩ := spellsChar_of_escape hescape
          obtain ⟨body, hbody, rfl⟩ := ih hmore
          exact ⟨'\\' :: t ++ body, .cons ht hbody, by simp⟩
    next c left hquote hslash heq =>
      cases heq
      split at h
      next => cases h
      next hcontrol =>
        split at h
        next => cases h
        next more left hmore =>
          cases h
          obtain ⟨body, hbody, rfl⟩ := ih hmore
          have hplain : SpellsChar c [c] :=
            .plain (by omega) hquote hslash
          exact ⟨[c] ++ body, .cons hplain hbody, by simp⟩

theorem spells_of_stringBody {s rest : List Char} {text : String}
    (h : stringBody s = .ok (text, rest)) :
    ∃ body, Spells text.toList body ∧ s = body ++ '"' :: rest := by
  unfold stringBody at h
  split at h
  next => cases h
  next cs left hread =>
    cases h
    rw [String.toList_ofList]
    exact spells_of_charactersWithin hread

end Strings

/-- A reader takes off a text, behind blanks, a text that writes a value, and gives what this value
means. -/
def Takes {α : Type} (read : Reader α) (meaning : Value → Option α) : Prop :=
  ∀ u a rest, read u = .ok (a, rest) →
    ∃ b v s, IsBlanks b ∧ Writes v s ∧ u = b ++ (s ++ rest) ∧ meaning v = some a

theorem refuse_ne_ok {α : Type} {expected : Expected} {s : List Char} {r : α × List Char} :
    (refuse expected s : Except Fault (α × List Char)) ≠ .ok r := by
  obtain ⟨fault, hfault⟩ := refuse_eq_error (α := α) expected s
  rw [hfault]
  exact nofun

theorem exists_blanks_of_valueFrom {α : Type} {u rest : List Char} {a : α} {read : Reader α}
    (h : valueFrom u read = .ok (a, rest)) :
    ∃ b s, IsBlanks b ∧ u = b ++ s ∧ read s = .ok (a, rest) := by
  unfold valueFrom at h
  split at h
  next => cases h
  next =>
    obtain ⟨b, hb, hu⟩ := exists_blanks_of_skipBlanks (s := u) rfl
    exact ⟨b, _, hb, hu, h⟩

theorem takes_string : Takes string Value.toText? := by
  intro u a rest h
  obtain ⟨b, s, hb, rfl, hread⟩ := exists_blanks_of_valueFrom h
  split at hread
  next tail =>
    obtain ⟨body, hbody, rfl⟩ := spells_of_stringBody hread
    exact ⟨b, .text a, _, hb, .text hbody, by simp, rfl⟩
  next => exact absurd hread refuse_ne_ok

theorem isWhole_of_signedNumber {s rest : List Char} {m : Nat}
    (h : signedNumber s = .ok (.integer m, rest)) :
    ∃ whole, IsWhole whole ∧ s = whole ++ rest ∧ m = Text.ofDigits 10 whole := by
  unfold signedNumber at h
  split at h
  next =>
    obtain ⟨-, -, -, -, hneg⟩ := integer_of_number h
    have hlt := hneg rfl
    omega
  next =>
    split at h
    next =>
      obtain ⟨whole, hwhole, hs, hm, -⟩ := integer_of_number h
      exact ⟨whole, hwhole, hs, Int.ofNat.inj (hm rfl)⟩
    next => exact absurd h refuse_ne_ok
  next => exact absurd h refuse_ne_ok

theorem isNumeral_of_isWhole {whole : List Char} (h : IsWhole whole) : IsNumeral whole :=
  ⟨[], whole, [], [], .inl rfl, h, .inl rfl, .inl rfl, by simp⟩

theorem takes_number32 : Takes number32 Value.toWord? := by
  intro u a rest h
  obtain ⟨b, s, hb, rfl, hread⟩ := exists_blanks_of_valueFrom h
  split at hread
  next => cases hread
  next => cases hread
  next n left hsigned =>
    split at hread
    next => cases hread
    next w hw =>
      cases hread
      obtain ⟨m, rfl⟩ : ∃ m : Nat, n = m := by
        cases n with
        | ofNat m => exact ⟨m, rfl⟩
        | negSucc m => cases hw
      obtain ⟨whole, hwhole, rfl, rfl⟩ := isWhole_of_signedNumber hsigned
      refine ⟨b, .number ⟨whole, isNumeral_of_isWhole hwhole⟩, _, hb, .number, rfl, ?_⟩
      have hnat : (⟨whole, isNumeral_of_isWhole hwhole⟩ : Numeral).toNat? =
          some (Text.ofDigits 10 whole) := toNat?_eq_some_iff.2 ⟨hwhole.1, rfl⟩
      rw [Value.toWord?, hnat, Option.bind_some]
      simp only [Found.toNumber] at hw
      split at hw
      next hlt =>
        cases hw
        exact if_pos hlt
      next => cases hw

section Lists

/-- What stands in a list in front of its end, from its start on or from behind an element. -/
def Rest {α : Type} (item : α → List Char → Prop) (first : Bool) (as : List α) (s : List Char) :
    Prop :=
  if first then Listing item as s else Following item as s

theorem rest_nil {α : Type} {item : α → List Char → Prop} (first : Bool) {b : List Char}
    (hb : IsBlanks b) : Rest item first [] b := by
  cases first with
  | true => exact Listing.none hb
  | false => exact Following.none hb

theorem closes_of_nextElement {first : Bool} {s : List Char} (h : nextElement first s = .ok none) :
    ∃ b r, IsBlanks b ∧ s = b ++ ']' :: r := by
  unfold nextElement at h
  split at h
  next => cases h
  next hskip =>
    obtain ⟨b, hb, rfl⟩ := exists_blanks_of_skipBlanks hskip
    exact ⟨b, _, hb, rfl⟩
  next =>
    split at h
    next => cases h
    next =>
      split at h
      next => split at h <;> cases h
      next => cases h

theorem rest_cons_of_nextElement {first : Bool} {s u b' t : List Char} {v : Value}
    {vs : List Value} {rest : List Char} (h : nextElement first s = .ok (some u))
    (hb' : IsBlanks b') (hv : Writes v t) (hvs : Following Writes vs rest) {r : List Char}
    (hu : u = b' ++ (t ++ (rest ++ r))) :
    ∃ body, Rest Writes first (v :: vs) body ∧ s = body ++ r := by
  unfold nextElement at h
  split at h
  next => cases h
  next => cases h
  next c tail _ hskip =>
    obtain ⟨b, hb, rfl⟩ := exists_blanks_of_skipBlanks hskip
    split at h
    next hfirst =>
      subst hfirst
      simp only [Except.ok.injEq, Option.some.injEq] at h
      exact ⟨_, Listing.some (hb.append hb') hv hvs, by simp [h, hu]⟩
    next hfirst =>
      obtain rfl : first = false := by simpa using hfirst
      split at h
      next hcomma =>
        obtain rfl : c = ',' := by simpa using hcomma
        split at h
        next => cases h
        next => cases h
        next =>
          obtain ⟨d, hd, htail⟩ := exists_blanks_of_skipBlanks (s := tail) rfl
          simp only [Except.ok.injEq, Option.some.injEq] at h
          rw [htail, h, hu]
          exact ⟨_, Following.more hb (hd.append hb') hv hvs, by simp⟩
      next => cases h

variable {α : Type} {read : Reader α} {meaning : Value → Option α} (hread : Takes read meaning)

include hread

theorem rest_of_elementsWithin {budget : Nat} {first : Bool} {s rest : List Char} {as : List α}
    (h : elementsWithin read budget first s = .ok (as, rest)) :
    ∃ vs body r, Rest Writes first vs body ∧ s = body ++ ']' :: r ∧ Closes ']' r rest ∧
      vs.mapM meaning = some as := by
  induction budget generalizing first s as with
  | zero => cases h
  | succ budget ih =>
    rw [elementsWithin] at h
    split at h
    next => cases h
    next hnext =>
      cases h
      obtain ⟨b, r, hb, rfl⟩ := closes_of_nextElement hnext
      exact ⟨[], b, r, rest_nil first hb, rfl, ⟨b, hb, rfl⟩, rfl⟩
    next u hnext =>
      split at h
      next => cases h
      next a left ha =>
        split at h
        next => cases h
        next more left hmore =>
          cases h
          obtain ⟨b, v, t, hb, hv, rfl, hmeaning⟩ := hread _ _ _ ha
          obtain ⟨vs, body, r, hvs, rfl, hcloses, hall⟩ := ih hmore
          obtain ⟨whole, hwhole, rfl⟩ := rest_cons_of_nextElement hnext hb hv hvs rfl
          exact ⟨v :: vs, whole, r, hwhole, rfl, hcloses, by simp [hmeaning, hall]⟩

theorem takes_list : Takes (list read) (Value.toList? meaning) := by
  intro u as rest h
  obtain ⟨b, s, hb, rfl, hlist⟩ := exists_blanks_of_valueFrom h
  split at hlist
  next tail =>
    split at hlist
    next => cases hlist
    next found left helements =>
      split at hlist
      next => cases hlist
      next hend =>
        cases hlist
        obtain ⟨vs, body, r, hvs, rfl, hcloses, hall⟩ := rest_of_elementsWithin hread helements
        rw [endList_closes hcloses] at hend
        cases hend
        exact ⟨b, .list vs, _, hb, .list hvs, by simp, hall⟩
  next => exact absurd hlist refuse_ne_ok

end Lists

end SizeRequest.Json

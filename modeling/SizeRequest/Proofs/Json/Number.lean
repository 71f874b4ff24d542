import SizeRequest.Json.Reader
import SizeRequest.Proofs.Digits
import SizeRequest.Proofs.Json.Grammar

namespace SizeRequest.Json

/-- A reading that gives no integer: it fails, or it gives a float. -/
def NoInteger (x : Except Fault (Number × List Char)) : Prop :=
  ∀ n rest, x ≠ .ok (.integer n, rest)

theorem noInteger_error (fault : Fault) : NoInteger (.error fault) := fun _ _ h => by cases h

theorem noInteger_float (x : Float) (rest : List Char) : NoInteger (.ok (.float x, rest)) :=
  fun _ _ h => by cases h

theorem noInteger_floatOf (negative : Bool) (significand : Nat) (exponent : Int)
    (rest : List Char) : NoInteger (floatOf negative significand exponent rest) := by
  unfold floatOf
  split
  next => exact noInteger_error _
  next => exact noInteger_float _ _

theorem noInteger_exponentDigits (negative : Bool) (significand : Nat) (start : Int) (up : Bool)
    (value : Nat) (s : List Char) :
    NoInteger (exponentDigits negative significand start up value s) := by
  induction s generalizing value with
  | nil => exact noInteger_floatOf _ _ _ _
  | cons c rest ih =>
    rw [exponentDigits]
    split
    next =>
      dsimp only
      split
      next =>
        split
        next => exact noInteger_error _
        next => exact noInteger_float _ _
      next => exact ih _
    next => exact noInteger_floatOf _ _ _ _

theorem noInteger_exponentPart (negative : Bool) (significand : Nat) (start : Int)
    (s : List Char) : NoInteger (exponentPart negative significand start s) := by
  unfold exponentPart
  dsimp only
  split
  next => exact noInteger_error _
  next =>
    split
    next => exact noInteger_exponentDigits _ _ _ _ _ _
    next => exact noInteger_error _

theorem noInteger_afterDigits (negative : Bool) (significand : Nat) (exponent : Int)
    (s : List Char) : NoInteger (afterDigits negative significand exponent s) := by
  unfold afterDigits
  split
  next => exact noInteger_exponentPart _ _ _ _
  next => exact noInteger_exponentPart _ _ _ _
  next => exact noInteger_floatOf _ _ _ _

theorem noInteger_fractionPart (negative : Bool) (significand : Nat) (exponent : Int)
    (s : List Char) : NoInteger (fractionPart negative significand exponent s) := by
  unfold fractionPart
  dsimp only
  split
  next => split <;> exact noInteger_error _
  next => exact noInteger_afterDigits _ _ _ _

def onward (significand : Nat) (digits : List Nat) : Nat :=
  digits.foldl (fun n d => n * 10 + d) significand

theorem le_onward (significand : Nat) (digits : List Nat) :
    significand ≤ onward significand digits := by
  induction digits generalizing significand with
  | nil => exact Nat.le_refl _
  | cons d rest ih =>
    have hle := ih (significand * 10 + d)
    rw [onward, List.foldl_cons, ← onward]
    omega

theorem takeDigits_of_lt {significand : Nat} {digits : List Nat}
    (h : onward significand digits < wordCount 64) :
    takeDigits significand digits = (onward significand digits, digits.length, []) := by
  induction digits generalizing significand with
  | nil => rfl
  | cons d rest ih =>
    have hfirst : significand * 10 + d < wordCount 64 := Nat.lt_of_le_of_lt (le_onward _ rest) h
    rw [takeDigits, if_pos hfirst, ih h]
    rfl

theorem takeDigits_of_le {significand : Nat} {digits : List Nat}
    (hs : significand < wordCount 64) (h : wordCount 64 ≤ onward significand digits) :
    (takeDigits significand digits).2.2.isEmpty = false := by
  induction digits generalizing significand with
  | nil => exact absurd hs (Nat.not_lt.2 h)
  | cons d rest ih =>
    rw [takeDigits]
    split
    next hfirst => exact ih hfirst h
    next => rfl

theorem ofDigits_eq_onward {digits : List Char} (h : ∀ c ∈ digits, c.isDigit = true) :
    Text.ofDigits 10 digits = onward 0 (digits.map (·.toNat - 48)) := by
  rw [Text.ofDigits_ten h, onward, List.foldl_map]

theorem takeDigits_eq_onward {significand n taken : Nat} {digits : List Nat}
    (h : takeDigits significand digits = (n, taken, [])) : n = onward significand digits := by
  induction digits generalizing significand taken with
  | nil =>
    cases h
    rfl
  | cons d rest ih =>
    rw [takeDigits] at h
    split at h
    next =>
      simp only [Prod.mk.injEq] at h
      obtain ⟨hn, -, hleft⟩ := h
      exact ih (Prod.ext hn (Prod.ext rfl hleft))
    next => cases h

theorem integer_of_afterInteger {negative : Bool} {significand : Nat} {n : Int}
    {s rest : List Char} (h : afterInteger negative significand s = .ok (.integer n, rest)) :
    rest = s ∧ (negative = false → n = significand) ∧ (negative = true → n < 0) := by
  unfold afterInteger at h
  split at h
  next => exact absurd h (noInteger_fractionPart _ _ _ _ _ _)
  next => exact absurd h (noInteger_exponentPart _ _ _ _ _ _)
  next => exact absurd h (noInteger_exponentPart _ _ _ _ _ _)
  next =>
    cases negative with
    | false =>
      cases h
      exact ⟨rfl, fun _ => rfl, nofun⟩
    | true =>
      simp only [Bool.not_true, Bool.false_eq_true, ↓reduceIte] at h
      split at h
      next => cases h
      next hzero =>
        cases h
        have hne : significand ≠ 0 := by
          rintro rfl
          simp at hzero
        exact ⟨rfl, nofun, fun _ => by omega⟩

/-- What is read as an integer is written in digits alone. -/
theorem integer_of_number {negative : Bool} {s rest : List Char} {n : Int}
    (h : number negative s = .ok (.integer n, rest)) :
    ∃ whole, IsWhole whole ∧ s = whole ++ rest ∧
      (negative = false → n = Text.ofDigits 10 whole) ∧ (negative = true → n < 0) := by
  unfold number at h
  split at h
  next => cases h
  next tail =>
    have hzero : IsWhole ['0'] := isWhole_toDigits 0
    split at h
    next d more =>
      split at h
      next => cases h
      next =>
        obtain ⟨rfl, hvalue⟩ := integer_of_afterInteger h
        exact ⟨['0'], hzero, rfl, hvalue⟩
    next =>
      obtain ⟨rfl, hvalue⟩ := integer_of_afterInteger h
      exact ⟨['0'], hzero, rfl, hvalue⟩
  next c tail hc =>
    split at h
    next => cases h
    next hdigit =>
      rcases htake : takeDigits 0 (spanDigits (c :: tail)).1 with ⟨significand, taken, left⟩
      simp only [htake] at h
      split at h
      next hleft =>
        -- Digits that were not taken would have made the number a float.
        obtain rfl : left = [] := by simpa using hleft
        obtain ⟨rfl, hvalue⟩ := integer_of_afterInteger h
        have hcdigit : c.isDigit = true := by simpa using hdigit
        have hdigits : ∀ d ∈ (c :: tail).takeWhile Char.isDigit, d.isDigit = true :=
          fun d hd => List.mem_takeWhile_imp hd
        refine ⟨(c :: tail).takeWhile Char.isDigit, ⟨⟨?_, hdigits⟩, fun hhead => ?_⟩, ?_, ?_⟩
        · simp [hcdigit]
        · rw [List.takeWhile_cons_of_pos hcdigit] at hhead
          exact absurd (Option.some.inj hhead) hc
        · exact List.takeWhile_append_dropWhile.symm
        · rwa [takeDigits_eq_onward htake, spanDigits, ← ofDigits_eq_onward hdigits] at hvalue
      next =>
        split at h
        next => exact absurd h (noInteger_fractionPart _ _ _ _ _ _)
        next => exact absurd h (noInteger_afterDigits _ _ _ _ _ _)

theorem spanDigits_append {digits r : List Char} (hd : ∀ c ∈ digits, c.isDigit = true)
    (hr : ∀ c ∈ r.head?, c.isDigit = false) :
    spanDigits (digits ++ r) = (digits.map (·.toNat - 48), r) := by
  rw [spanDigits, Text.takeWhile_isDigit_append hd hr, Text.dropWhile_isDigit_append hd hr]

theorem number_false_whole {whole r : List Char} (hw : IsWhole whole)
    (hr : ∀ c ∈ r.head?, c.isDigit = false) :
    (Text.ofDigits 10 whole < wordCount 64 →
      number false (whole ++ r) = afterInteger false (Text.ofDigits 10 whole) r) ∧
    (wordCount 64 ≤ Text.ofDigits 10 whole → NoInteger (number false (whole ++ r))) := by
  obtain ⟨⟨hne, hdigits⟩, hzero⟩ := hw
  cases whole with
  | nil => exact absurd rfl hne
  | cons c t =>
    -- A zero in front stands alone, and digits behind any other one are taken in one run.
    by_cases hc : c = '0'
    · subst hc
      obtain rfl : t = [] := (List.cons.inj (hzero rfl)).2
      refine ⟨fun _ => ?_, fun hle => absurd hle (by decide)⟩
      cases r with
      | nil => rfl
      | cons d r =>
        have hd : d.isDigit = false := hr d rfl
        simp only [List.cons_append, List.nil_append, number, hd]
        rfl
    · have hspan := spanDigits_append hdigits hr
      have hvalue := ofDigits_eq_onward hdigits
      rw [List.cons_append] at hspan ⊢
      rw [number]
      · simp only [hdigits c (by simp), Bool.not_true, Bool.false_eq_true, ↓reduceIte, hspan,
          hvalue]
        constructor
        · intro hlt
          simp only [takeDigits_of_lt hlt, List.isEmpty_nil, ↓reduceIte]
        · intro hle
          simp only [takeDigits_of_le (by decide) hle, Bool.false_eq_true, ↓reduceIte]
          split
          next => exact noInteger_fractionPart _ _ _ _
          next => exact noInteger_afterDigits _ _ _ _
      · exact hc

def Numeral.toNat? (n : Numeral) : Option Nat := Text.ofDigits? 10 n.text

theorem toNat?_eq_some_iff {n : Numeral} {m : Nat} :
    n.toNat? = some m ↔ IsDigits n.text ∧ m = Text.ofDigits 10 n.text :=
  Text.ofDigits?_ten_eq_some_iff

theorem afterInteger_stops {r : List Char} (hr : Stops r) (n : Nat) :
    afterInteger false n r = .ok (.integer n, r) := by
  unfold afterInteger
  split
  next => cases hr '.' rfl
  next => cases hr 'e' rfl
  next => cases hr 'E' rfl
  next => rfl

theorem tail_cases {fraction exponent : List Char} (hf : IsFraction fraction)
    (he : IsExponent exponent) :
    (fraction = [] ∧ exponent = []) ∨
    ∃ c t, fraction ++ exponent = c :: t ∧ (c = '.' ∨ c = 'e' ∨ c = 'E') := by
  rcases hf with rfl | ⟨digits, -, rfl⟩
  · rcases he with rfl | ⟨e, sign, digits, he, -, -, rfl⟩
    · exact .inl ⟨rfl, rfl⟩
    · exact .inr ⟨e, _, rfl, .inr he⟩
  · exact .inr ⟨'.', _, rfl, .inl rfl⟩

theorem noInteger_afterInteger {c : Char} (hc : c = '.' ∨ c = 'e' ∨ c = 'E') (n : Nat)
    (r : List Char) : NoInteger (afterInteger false n (c :: r)) := by
  rcases hc with rfl | rfl | rfl
  · exact noInteger_fractionPart _ _ _ _
  · exact noInteger_exponentPart _ _ _ _
  · exact noInteger_exponentPart _ _ _ _

theorem isDigit_eq_false_of_stops {r : List Char} (hr : Stops r) :
    ∀ c ∈ r.head?, c.isDigit = false := by
  intro c hc
  have hstop := hr c hc
  simp only [continues, Bool.or_eq_false_iff] at hstop
  exact hstop.1.1.1.1.1

/-- A number is read as an integer without a sign just if it is written in digits alone and fits
into 64 bits. -/
theorem number_numeral_iff {n : Numeral} {r : List Char} (hr : Stops r)
    (hd : ∀ c ∈ n.text.head?, c ≠ '-') {m : Nat} {rest : List Char} :
    number false (n.text ++ r) = .ok (.integer m, rest) ↔
      n.toNat? = some m ∧ m < wordCount 64 ∧ rest = r := by
  obtain ⟨text, isNumeral⟩ := n
  obtain ⟨sign, whole, fraction, exponent, hsign, hwhole, hfraction, hexponent, rfl⟩ := isNumeral
  obtain rfl : sign = [] := by
    rcases hsign with rfl | rfl
    · rfl
    · exact absurd rfl (hd '-' rfl)
  simp only [List.nil_append, List.append_assoc, toNat?_eq_some_iff]
  -- Either the digits are the whole number, or a sign of a fraction or an exponent follows them.
  rcases tail_cases hfraction hexponent with ⟨rfl, rfl⟩ | ⟨c, t, htail, hc⟩
  · obtain ⟨hlt, hle⟩ := number_false_whole hwhole (isDigit_eq_false_of_stops hr)
    simp only [List.append_nil, List.nil_append]
    by_cases hv : Text.ofDigits 10 whole < wordCount 64
    · rw [hlt hv, afterInteger_stops hr]
      constructor
      · intro h
        cases h
        exact ⟨⟨hwhole.1, rfl⟩, hv, rfl⟩
      · rintro ⟨⟨-, rfl⟩, -, rfl⟩
        rfl
    · constructor
      · intro h
        exact absurd h (hle (Nat.not_lt.1 hv) _ _)
      · rintro ⟨⟨-, rfl⟩, hm, -⟩
        exact absurd hm hv
  · have hdigit : c.isDigit = false := by rcases hc with rfl | rfl | rfl <;> rfl
    rw [htail]
    have happ : fraction ++ (exponent ++ r) = c :: (t ++ r) := by
      rw [← List.append_assoc, htail, List.cons_append]
    rw [happ]
    obtain ⟨hlt, hle⟩ := number_false_whole (r := c :: (t ++ r)) hwhole
      (fun d hd => by cases hd; exact hdigit)
    constructor
    · intro h
      by_cases hv : Text.ofDigits 10 whole < wordCount 64
      · rw [hlt hv] at h
        exact absurd h (noInteger_afterInteger hc _ _ _ _)
      · exact absurd h (hle (Nat.not_lt.1 hv) _ _)
    · rintro ⟨⟨hdigits, -⟩, -, -⟩
      have hcdigit := hdigits.2 c (by simp)
      rw [hdigit] at hcdigit
      cases hcdigit

end SizeRequest.Json

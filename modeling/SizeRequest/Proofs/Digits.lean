import Mathlib.Data.List.TakeWhile
import SizeRequest.Text.Digit

namespace SizeRequest.Text

theorem digitValue?_of_isDigit {c : Char} (h : c.isDigit = true) :
    digitValue? c = some (c.toNat - 48) := by
  have hle : '0' ≤ c ∧ c ≤ '9' := by simpa [Char.isDigit, Char.le_def] using h
  simp [digitValue?, hle]

theorem isDigitOf_ten (c : Char) : isDigitOf 10 c = c.isDigit := by
  by_cases h : c.isDigit = true
  · have hlt : c.toNat - 48 < 10 := by
      have hle : c.toNat ≤ 57 := by
        simp only [Char.isDigit, Bool.and_eq_true, decide_eq_true_eq] at h
        exact h.2
      omega
    simp [isDigitOf, digitValue?_of_isDigit h, hlt, h]
  · have hno : ¬ ('0' ≤ c ∧ c ≤ '9') := by simpa [Char.isDigit, Char.le_def] using h
    have hlower (hle : 'a' ≤ c) : ¬ c.toNat - 87 < 10 := by
      have hge : 97 ≤ c.toNat := hle
      omega
    have hupper (hle : 'A' ≤ c) : ¬ c.toNat - 55 < 10 := by
      have hge : 65 ≤ c.toNat := hle
      omega
    rw [Bool.not_eq_true] at h
    rw [h, isDigitOf, digitValue?]
    simp only [Bool.and_eq_true, decide_eq_true_eq, hno, ↓reduceIte]
    by_cases ha : 'a' ≤ c ∧ c ≤ 'f'
    · simp [ha, hlower ha.1]
    · by_cases hA : 'A' ≤ c ∧ c ≤ 'F'
      · simp [ha, hA, hupper hA.1]
      · simp [ha, hA]

theorem ofDigits_ten {digits : List Char} (h : ∀ c ∈ digits, c.isDigit = true) :
    ofDigits 10 digits = digits.foldl (fun n c => n * 10 + (c.toNat - 48)) 0 := by
  have hfold (n : Nat) : digits.foldl (fun n c => n * 10 + (digitValue? c).getD 0) n
      = digits.foldl (fun n c => n * 10 + (c.toNat - 48)) n := by
    induction digits generalizing n with
    | nil => rfl
    | cons c rest ih =>
      rw [List.foldl_cons, List.foldl_cons, digitValue?_of_isDigit (h c (by simp)),
        ih (fun d hd => h d (by simp [hd]))]
      rfl
  exact hfold 0

theorem ofDigits?_ten_eq_some_iff {s : List Char} {n : Nat} :
    ofDigits? 10 s = some n ↔ (s ≠ [] ∧ ∀ c ∈ s, c.isDigit = true) ∧ n = ofDigits 10 s := by
  have hall : (!s.isEmpty && s.all (isDigitOf 10)) = true ↔
      (s ≠ [] ∧ ∀ c ∈ s, c.isDigit = true) := by
    simp [isDigitOf_ten]
  unfold ofDigits?
  split
  next h =>
    constructor
    · intro he
      exact ⟨hall.1 h, (Option.some.inj he).symm⟩
    · rintro ⟨-, rfl⟩
      rfl
  next h =>
    constructor
    · intro he
      cases he
    · rintro ⟨hd, -⟩
      exact absurd (hall.2 hd) h

theorem isDigit_toDigits {n : Nat} : ∀ c ∈ Nat.toDigits 10 n, c.isDigit = true :=
  fun _ hc => Nat.isDigit_of_mem_toDigits (by decide) (by decide) hc

theorem ofDigits_toDigits (n : Nat) : ofDigits 10 (Nat.toDigits 10 n) = n := by
  have hfold := Nat.ofDigitChars_ten_toDigits (n := n)
  rw [Nat.ofDigitChars_eq_foldl] at hfold
  rw [ofDigits_ten isDigit_toDigits]
  have hzero : '0'.toNat = 48 := rfl
  simpa only [Nat.mul_comm, hzero] using hfold

section Append

variable {digits r r' : List Char}

theorem takeWhile_isDigit_append (hd : ∀ c ∈ digits, c.isDigit = true)
    (hr : ∀ c ∈ r.head?, c.isDigit = false) : (digits ++ r).takeWhile Char.isDigit = digits := by
  rw [List.takeWhile_append_of_pos hd]
  cases r with
  | nil => simp
  | cons c r => simp [hr c rfl]

theorem dropWhile_isDigit_append (hd : ∀ c ∈ digits, c.isDigit = true)
    (hr : ∀ c ∈ r.head?, c.isDigit = false) : (digits ++ r).dropWhile Char.isDigit = r := by
  rw [List.dropWhile_append_of_pos hd]
  cases r with
  | nil => rfl
  | cons c r => simp [hr c rfl]

/-- A number ends where its digits do. -/
theorem toDigits_append_inj {n m : Nat} (hr : ∀ c ∈ r.head?, c.isDigit = false)
    (hr' : ∀ c ∈ r'.head?, c.isDigit = false)
    (h : Nat.toDigits 10 n ++ r = Nat.toDigits 10 m ++ r') : n = m ∧ r = r' := by
  have hdigits : Nat.toDigits 10 n = Nat.toDigits 10 m := by
    rw [← takeWhile_isDigit_append isDigit_toDigits hr, h,
      takeWhile_isDigit_append isDigit_toDigits hr']
  constructor
  · rw [← ofDigits_toDigits n, hdigits, ofDigits_toDigits]
  · rw [hdigits] at h
    exact List.append_cancel_left h

end Append

theorem ofDigits?_toDigits (n : Nat) : ofDigits? 10 (Nat.toDigits 10 n) = some n :=
  ofDigits?_ten_eq_some_iff.2
    ⟨⟨Nat.toDigits_ne_nil, isDigit_toDigits⟩, (ofDigits_toDigits n).symm⟩

end SizeRequest.Text

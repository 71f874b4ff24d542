import SizeRequest.OrderedSet
import SizeRequest.Text.Digit

namespace SizeRequest.Text

theorem cons_lt_cons {m n : Nat} {x y : List UInt8} (hn : n < 256)
    (h : m < n ∨ (m = n ∧ x < y)) : UInt8.ofNat m :: x < UInt8.ofNat n :: y := by
  rw [List.cons_lt_cons_iff]
  rcases h with h | ⟨rfl, h⟩
  · left
    have hm : (UInt8.ofNat m).toNat = m := UInt8.toNat_ofNat_of_lt' (Nat.lt_trans h hn)
    rw [UInt8.lt_iff_toNat_lt, hm, UInt8.toNat_ofNat_of_lt' hn]
    exact h
  · exact .inr ⟨rfl, h⟩

section Trailing

variable {m n : Nat} {x y : List UInt8}

theorem trailing_one (h : m % 64 < n % 64) :
    UInt8.ofNat (m % 64 + 128) :: x < UInt8.ofNat (n % 64 + 128) :: y :=
  cons_lt_cons (by omega) (.inl (by omega))

theorem trailing_two
    (h : m / 64 % 64 < n / 64 % 64 ∨ (m / 64 % 64 = n / 64 % 64 ∧ m % 64 < n % 64)) :
    UInt8.ofNat (m / 64 % 64 + 128) :: UInt8.ofNat (m % 64 + 128) :: x
      < UInt8.ofNat (n / 64 % 64 + 128) :: UInt8.ofNat (n % 64 + 128) :: y := by
  apply cons_lt_cons (by omega)
  rcases h with h | ⟨h, h'⟩
  · exact .inl (by omega)
  · exact .inr ⟨by omega, trailing_one h'⟩

theorem trailing_three (h : m / 4096 % 64 < n / 4096 % 64 ∨ (m / 4096 % 64 = n / 4096 % 64 ∧
      (m / 64 % 64 < n / 64 % 64 ∨ (m / 64 % 64 = n / 64 % 64 ∧ m % 64 < n % 64)))) :
    UInt8.ofNat (m / 4096 % 64 + 128) :: UInt8.ofNat (m / 64 % 64 + 128)
        :: UInt8.ofNat (m % 64 + 128) :: x
      < UInt8.ofNat (n / 4096 % 64 + 128) :: UInt8.ofNat (n / 64 % 64 + 128)
        :: UInt8.ofNat (n % 64 + 128) :: y := by
  apply cons_lt_cons (by omega)
  rcases h with h | ⟨h, h'⟩
  · exact .inl (by omega)
  · exact .inr ⟨by omega, trailing_two h'⟩

end Trailing

theorem utf8EncodeChar_append_lt {c d : Char} (h : c < d) (x y : List UInt8) :
    String.utf8EncodeChar c ++ x < String.utf8EncodeChar d ++ y := by
  have hlt : c.val.toNat < d.val.toNat := h
  have hd : d.val.toNat < 0x110000 := by
    rcases d.valid with h | h <;> omega
  unfold String.utf8EncodeChar
  generalize c.val.toNat = m at hlt
  generalize d.val.toNat = n at hlt hd
  -- Characters of different sizes differ in the first byte, others where their bits do.
  by_cases hm1 : m ≤ 0x7f
  · simp only [hm1, ↓reduceIte]
    split
    next => exact cons_lt_cons (by omega) (by omega)
    next =>
      split
      next => exact cons_lt_cons (by omega) (by omega)
      next => split <;> exact cons_lt_cons (by omega) (by omega)
  have hn1 : ¬ n ≤ 0x7f := by omega
  by_cases hm2 : m ≤ 0x7ff
  · simp only [hm1, hm2, hn1, ↓reduceIte]
    split
    next =>
      apply cons_lt_cons (by omega)
      rcases (by omega : m / 64 < n / 64 ∨ (m / 64 = n / 64 ∧ m % 64 < n % 64)) with h | ⟨h, h'⟩
      · exact .inl (by omega)
      · exact .inr ⟨by omega, trailing_one h'⟩
    next => split <;> exact cons_lt_cons (by omega) (by omega)
  have hn2 : ¬ n ≤ 0x7ff := by omega
  by_cases hm3 : m ≤ 0xffff
  · simp only [hm1, hm2, hm3, hn1, hn2, ↓reduceIte]
    split
    next =>
      apply cons_lt_cons (by omega)
      by_cases hfirst : m / 4096 < n / 4096
      · exact .inl (by omega)
      · exact .inr ⟨by omega, trailing_two (by omega)⟩
    next => exact cons_lt_cons (by omega) (by omega)
  · have hn3 : ¬ n ≤ 0xffff := by omega
    simp only [hm1, hm2, hm3, hn1, hn2, hn3, ↓reduceIte]
    apply cons_lt_cons (by omega)
    by_cases hfirst : m / 262144 < n / 262144
    · exact .inl (by omega)
    · exact .inr ⟨by omega, trailing_three (by omega)⟩

theorem flatMap_utf8EncodeChar_lt {l k : List Char} (h : l < k) :
    l.flatMap String.utf8EncodeChar < k.flatMap String.utf8EncodeChar := by
  induction h with
  | @nil c k =>
    rw [List.flatMap_nil, List.flatMap_cons]
    cases he : String.utf8EncodeChar c with
    | nil => exact absurd he String.utf8EncodeChar_ne_nil
    | cons b rest => exact List.nil_lt_cons _ _
  | rel h => exact utf8EncodeChar_append_lt h _ _
  | cons h ih => exact List.append_left_lt ih

/-- A text that is smaller than another one has smaller bytes. -/
theorem bytes_lt_of_compare {s t : String} (h : compare s t = .lt) : bytes s < bytes t := by
  rw [bytes_eq_flatMap, bytes_eq_flatMap]
  apply flatMap_utf8EncodeChar_lt
  have hlt : s < t := compareOfLessAndEq_eq_lt.1 h
  exact hlt

end SizeRequest.Text

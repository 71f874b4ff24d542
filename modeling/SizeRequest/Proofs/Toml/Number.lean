import SizeRequest.Proofs.Toml.Reading

namespace SizeRequest.Toml

open SpecText

theorem digits?_of_isDigit {s : List Char} (hs : s ≠ []) (h : ∀ c ∈ s, c.isDigit = true) :
    digits? 10 s = some s := by
  induction s with
  | nil => exact absurd rfl hs
  | cons c rest ih =>
    have hc : Text.isDigitOf 10 c = true := by rw [Text.isDigitOf_ten, h c (.head _)]
    cases rest with
    | nil => simp [digits?, hc]
    | cons d rest =>
      have hd : d ≠ '_' := by
        rintro rfl
        exact absurd (h '_' (.tail _ (.head _))) (by decide)
      have hrest := ih (List.cons_ne_nil _ _) fun e he => h e (.tail _ he)
      rw [digits?]
      · simp [hc, hrest]
      · exact nofun
      · exact fun rest heq => hd (List.cons.inj heq).1

theorem decimal?_of_isWhole {s : List Char} (h : Json.IsWhole s) : decimal? s = some s := by
  rw [decimal?, digits?_of_isDigit h.1.1 h.1.2]
  split
  next d rest heq =>
    have hone := h.2 (by rw [Option.some.inj heq]; rfl)
    rw [Option.some.inj heq] at hone
    cases hone
  next => rfl

theorem signed_decimal (n : Int) :
    signed (decimal n) = (decide (n < 0), Nat.toDigits 10 n.natAbs) := by
  by_cases hn : n < 0
  · simp [decimal, hn, signed]
  · have hdecimal : decimal n = Nat.toDigits 10 n.natAbs := by simp [decimal, hn]
    have hdigit := Text.isDigit_toDigits (n := n.natAbs)
    rw [hdecimal, signed]
    · simp [hn]
    · exact fun rest heq => absurd (hdigit '-' (by simp [heq])) (by decide)
    · exact fun rest heq => absurd (hdigit '+' (by simp [heq])) (by decide)

theorem integer?_decimal (n : Int) : integer? (decimal n) = some n := by
  have hchars := mem_decimal (n := n)
  rw [integer?]
  · rw [signed_decimal]
    simp only [decimal?_of_isWhole (Json.isWhole_toDigits n.natAbs), Option.map_some,
      Text.ofDigits_toDigits, decide_eq_true_eq, Option.some.injEq]
    split <;> omega
  · exact fun rest heq => absurd (hchars 'x' (by simp [heq])) (by decide)
  · exact fun rest heq => absurd (hchars 'o' (by simp [heq])) (by decide)
  · exact fun rest heq => absurd (hchars 'b' (by simp [heq])) (by decide)

theorem Scalar.ofText?_decimal (n : Int) : ofText? (decimal n) = some (.integer n) := by
  have hchars := mem_decimal (n := n)
  have htrue : decimal n ≠ ['t', 'r', 'u', 'e'] := fun h =>
    absurd (hchars 't' (by simp [h])) (by decide)
  have hfalse : decimal n ≠ ['f', 'a', 'l', 's', 'e'] := fun h =>
    absurd (hchars 'f' (by simp [h])) (by decide)
  simp [ofText?, htrue, hfalse, integer?_decimal]

theorem isBareValue_of_mem_decimal {n : Int} {c : Char} (h : c ∈ decimal n) :
    isBareValue c = true := by
  rcases mem_decimal c h with hc | rfl
  · have hrange : 0x30 ≤ c.toNat ∧ c.toNat ≤ 0x39 := by
      simpa [Char.isDigit, UInt32.le_iff_toNat_le] using hc
    have hsign : c ∉ signs := by
      have hnone : (signs.all fun d => !d.isDigit) = true := by decide
      intro hmem
      have hc' := List.all_eq_true.1 hnone c hmem
      rw [hc] at hc'
      cases hc'
    have hblank : isBlank c = false := by
      rw [isBlank, Bool.or_eq_false_iff, beq_eq_false_iff_ne, beq_eq_false_iff_ne]
      constructor <;> (rintro rfl; cases hc)
    rw [isBareValue, hblank, isControl_of_printable (by omega)]
    simpa using hsign
  · decide

theorem bareValue_decimal (n : Int) (r : List Char) :
    bareValue (decimal n ++ '\n' :: r) = .ok (.integer n, '\n' :: r) := by
  have hdrop : (decimal n ++ '\n' :: r).dropWhile isBareValue = '\n' :: r := by
    rw [List.dropWhile_append_of_pos fun c hc => isBareValue_of_mem_decimal hc]
    rfl
  have hafter : afterBareValue (decimal n ++ '\n' :: r) = '\n' :: r := by
    rw [afterBareValue, hdrop]
    rfl
  rw [bareValue, hafter]
  simp [Scalar.ofText?_decimal]

theorem value_decimal (n : Int) (depth : Nat) (r : List Char) :
    ∃ span, value depth (decimal n ++ '\n' :: r)
      = .ok ((span, .scalar (.integer n)), '\n' :: r) := by
  have hchars := mem_decimal (n := n)
  have hread := bareValue_decimal n r
  cases hdecimal : decimal n with
  | nil => exact absurd hdecimal (decimal_ne_nil n)
  | cons c cs =>
    rw [hdecimal] at hchars hread
    have hc := hchars c (.head _)
    have hne (d : Char) (hd : ¬ (d.isDigit = true ∨ d = '-')) (rest : List Char) :
        c :: (cs ++ '\n' :: r) = d :: rest → False := fun heq =>
      hd ((List.cons.inj heq).1 ▸ hc)
    rw [List.cons_append] at hread ⊢
    rw [value, hread]
    · exact ⟨_, rfl⟩
    · exact hne '"' (by decide)
    · exact hne '\'' (by decide)
    · exact fun rest _ => hne '[' (by decide) rest
    · exact fun rest _ => hne '\x7b' (by decide) rest
    · exact fun _ rest _ => hne '[' (by decide) rest
    · exact fun _ rest _ => hne '\x7b' (by decide) rest

end SizeRequest.Toml

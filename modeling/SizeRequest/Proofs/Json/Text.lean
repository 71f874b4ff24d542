import SizeRequest.Json.Text

namespace SizeRequest.Json

/-- The letters that stand behind a backslash, and the characters that they then stand for. -/
def shortEscapes : List (Char × Char) :=
  [('"', '"'), ('\\', '\\'), ('/', '/'), ('b', '\x08'), ('f', '\x0c'), ('n', '\n'), ('r', '\r'),
    ('t', '\t')]

def IsUnit (digits : List Char) (n : Nat) : Prop :=
  digits.length = 4 ∧ Text.ofDigits? 16 digits = some n

/-- How a character is spelled inside a string: as it is, by a letter, by its number, or, outside
the basic plane, by two numbers. -/
inductive SpellsChar : Char → List Char → Prop
  | plain {c : Char} : 0x20 ≤ c.toNat → c ≠ '"' → c ≠ '\\' → SpellsChar c [c]
  | short {letter c : Char} : (letter, c) ∈ shortEscapes → SpellsChar c ['\\', letter]
  | unit {digits : List Char} {n : Nat} : IsUnit digits n → n < 0xD800 ∨ 0xDFFF < n →
      SpellsChar (Char.ofNat n) ('\\' :: 'u' :: digits)
  | pair {high low : List Char} {m n : Nat} : IsUnit high m → IsUnit low n →
      0xD800 ≤ m → m ≤ 0xDBFF → 0xDC00 ≤ n → n ≤ 0xDFFF →
      SpellsChar (Char.ofNat ((m - 0xD800) * 1024 + (n - 0xDC00) + 0x10000))
        ('\\' :: 'u' :: high ++ '\\' :: 'u' :: low)

inductive Spells : List Char → List Char → Prop
  | nil : Spells [] []
  | cons {c : Char} {s cs rest : List Char} : SpellsChar c s → Spells cs rest →
      Spells (c :: cs) (s ++ rest)

theorem isDigitOf_eq_true_iff {base : Nat} {c : Char} :
    Text.isDigitOf base c = true ↔ ∃ d < base, Text.digitValue? c = some d := by
  unfold Text.isDigitOf
  cases Text.digitValue? c <;> simp

theorem fourDigits_append {digits : List Char} {n : Nat} (h : IsUnit digits n)
    (rest : List Char) : fourDigits (digits ++ rest) = .ok (n, rest) := by
  obtain ⟨hlength, hvalue⟩ := h
  match digits, hlength with
  | [a, b, c, d], _ =>
    unfold Text.ofDigits? at hvalue
    split at hvalue
    next hall =>
      simp only [List.isEmpty_cons, Bool.not_false, Bool.true_and, List.all_cons, List.all_nil,
        Bool.and_true, Bool.and_eq_true, isDigitOf_eq_true_iff] at hall
      obtain ⟨⟨va, -, ha⟩, ⟨vb, -, hb⟩, ⟨vc, -, hc⟩, ⟨vd, -, hd⟩⟩ := hall
      simp only [Text.ofDigits, List.foldl_cons, List.foldl_nil, ha, hb, hc, hd, Option.getD_some,
        Nat.zero_mul, Nat.zero_add, Option.some.injEq] at hvalue
      simp only [List.cons_append, List.nil_append, fourDigits, ha, hb, hc, hd, hvalue]
    next => cases hvalue

theorem escape_short {letter c : Char} (h : (letter, c) ∈ shortEscapes) (rest : List Char) :
    escape (letter :: rest) = .ok (c, rest) := by
  simp only [shortEscapes, List.mem_cons, Prod.mk.injEq, List.not_mem_nil, or_false] at h
  rcases h with ⟨rfl, rfl⟩ | ⟨rfl, rfl⟩ | ⟨rfl, rfl⟩ | ⟨rfl, rfl⟩ | ⟨rfl, rfl⟩ | ⟨rfl, rfl⟩ |
    ⟨rfl, rfl⟩ | ⟨rfl, rfl⟩ <;> rfl

theorem escape_unit {digits : List Char} {n : Nat} (h : IsUnit digits n)
    (hn : n < 0xD800 ∨ 0xDFFF < n) (rest : List Char) :
    escape ('u' :: digits ++ rest) = .ok (Char.ofNat n, rest) := by
  have hlow : ¬ (0xDC00 ≤ n ∧ n ≤ 0xDFFF) := by omega
  have hplain : n < 0xD800 ∨ 0xDBFF < n := by omega
  rw [List.cons_append, escape, numberedEscape, fourDigits_append h]
  simp [hlow, hplain]

theorem escape_pair {high low : List Char} {m n : Nat} (hm : IsUnit high m) (hn : IsUnit low n)
    (h1 : 0xD800 ≤ m) (h2 : m ≤ 0xDBFF) (h3 : 0xDC00 ≤ n) (h4 : n ≤ 0xDFFF) (rest : List Char) :
    escape ('u' :: high ++ ('\\' :: 'u' :: low) ++ rest)
      = .ok (Char.ofNat ((m - 0xD800) * 1024 + (n - 0xDC00) + 0x10000), rest) := by
  have hlow : ¬ (0xDC00 ≤ m ∧ m ≤ 0xDFFF) := by omega
  have hhigh : ¬ (m < 0xD800 ∨ 0xDBFF < m) := by omega
  have hsecond : ¬ (n < 0xDC00 ∨ 0xDFFF < n) := by omega
  rw [List.cons_append, List.cons_append, List.append_assoc, escape, numberedEscape,
    fourDigits_append hm]
  simp [hlow, hhigh, fourDigits_append hn, hsecond]

theorem charactersWithin_spellsChar {c : Char} {s : List Char} (h : SpellsChar c s) (budget : Nat)
    (rest : List Char) :
    charactersWithin (budget + 1) (s ++ rest)
      = (charactersWithin budget rest).map fun r => (c :: r.1, r.2) := by
  have hescape (tail : List Char) (he : escape (tail ++ rest) = .ok (c, rest)) :
      charactersWithin (budget + 1) ('\\' :: tail ++ rest)
        = (charactersWithin budget rest).map fun r => (c :: r.1, r.2) := by
    rw [List.cons_append, charactersWithin]
    simp only [he]
    cases charactersWithin budget rest <;> rfl
  cases h with
  | plain hc hquote hslash =>
    have hlt : ¬ c.toNat < 0x20 := by omega
    rw [List.singleton_append, charactersWithin]
    · simp only [hlt, ↓reduceIte]
      cases charactersWithin budget rest <;> rfl
    · exact hquote
    · exact hslash
  | short h => exact hescape [_] (escape_short h rest)
  | unit h hn => exact hescape ('u' :: _) (escape_unit h hn rest)
  | pair hm hn h1 h2 h3 h4 => exact hescape ('u' :: _ ++ _) (escape_pair hm hn h1 h2 h3 h4 rest)

theorem charactersWithin_spells {cs body : List Char} (h : Spells cs body) {budget : Nat}
    (hbudget : body.length < budget) (rest : List Char) :
    charactersWithin budget (body ++ '"' :: rest) = .ok (cs, rest) := by
  induction h generalizing budget with
  | nil =>
    obtain ⟨budget, rfl⟩ := Nat.exists_eq_add_one_of_ne_zero (Nat.ne_zero_of_lt hbudget)
    rfl
  | @cons c s cs body hc hcs ih =>
    obtain ⟨budget, rfl⟩ := Nat.exists_eq_add_one_of_ne_zero (Nat.ne_zero_of_lt hbudget)
    have hpos : 0 < s.length := by cases hc <;> simp
    rw [List.length_append] at hbudget
    rw [List.append_assoc, charactersWithin_spellsChar hc, ih (by omega)]
    rfl

theorem stringBody_spells {text : String} {body : List Char} (h : Spells text.toList body)
    (rest : List Char) : stringBody (body ++ '"' :: rest) = .ok (text, rest) := by
  have hbudget : body.length < (body ++ '"' :: rest).length + 1 := by
    rw [List.length_append]
    omega
  rw [stringBody, charactersWithin_spells h hbudget]
  simp

end SizeRequest.Json

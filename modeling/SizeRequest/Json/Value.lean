namespace SizeRequest.Json

def IsDigits (s : List Char) : Prop := s ≠ [] ∧ ∀ c ∈ s, c.isDigit

/-- The digits of a natural number, without needless zeros in front. -/
def IsWhole (s : List Char) : Prop := IsDigits s ∧ (s.head? = some '0' → s = ['0'])

def IsFraction (s : List Char) : Prop := s = [] ∨ ∃ digits, IsDigits digits ∧ s = '.' :: digits

def IsExponent (s : List Char) : Prop :=
  s = [] ∨ ∃ e sign digits, (e = 'e' ∨ e = 'E') ∧ (sign = [] ∨ sign = ['+'] ∨ sign = ['-'])
    ∧ IsDigits digits ∧ s = e :: sign ++ digits

def IsNumeral (s : List Char) : Prop :=
  ∃ sign whole fraction exponent, (sign = [] ∨ sign = ['-']) ∧ IsWhole whole
    ∧ IsFraction fraction ∧ IsExponent exponent ∧ s = sign ++ whole ++ fraction ++ exponent

theorem isDigits_toDigits (n : Nat) : IsDigits (Nat.toDigits 10 n) :=
  ⟨Nat.toDigits_ne_nil, fun _ hc => Nat.isDigit_of_mem_toDigits (by decide) (by decide) hc⟩

theorem isWhole_toDigits (n : Nat) : IsWhole (Nat.toDigits 10 n) := by
  refine ⟨isDigits_toDigits n, ?_⟩
  induction n using Nat.strongRecOn with
  | ind n ih =>
    intro h0
    by_cases hn : n < 10
    · rw [Nat.toDigits_of_lt_base hn] at h0 ⊢
      simpa using h0
    · -- the first digit of `n` is that of `n / 10`, which is not zero
      rw [Nat.toDigits_of_base_le (by decide) (by omega), List.head?_append,
        List.head?_eq_some_head Nat.toDigits_ne_nil, Option.some_or,
        ← List.head?_eq_some_head Nat.toDigits_ne_nil] at h0
      have hv := congrArg (Nat.ofDigitChars 10 · 0) (ih (n / 10) (by omega) h0)
      simp only [Nat.ofDigitChars_ten_toDigits] at hv
      have hz : n / 10 = 0 := hv
      omega

structure Numeral where
  text : List Char
  isNumeral : IsNumeral text

def Numeral.ofNat (n : Nat) : Numeral where
  text := Nat.toDigits 10 n
  isNumeral := ⟨[], Nat.toDigits 10 n, [], [], .inl rfl, isWhole_toDigits n, .inl rfl, .inl rfl,
    by simp⟩

inductive Value
  | null
  | boolean (b : Bool)
  | number (n : Numeral)
  | text (s : String)
  | list (elements : List Value)
  | object (members : List (String × Value))

namespace Value

def escaped (c : Char) : List Char :=
  if c == '"' then ['\\', '"']
  else if c == '\\' then ['\\', '\\']
  else if c == '\x08' then ['\\', 'b']
  else if c == '\x0c' then ['\\', 'f']
  else if c == '\n' then ['\\', 'n']
  else if c == '\r' then ['\\', 'r']
  else if c == '\t' then ['\\', 't']
  else if c.toNat < 0x20 then
    ['\\', 'u', '0', '0', Nat.digitChar (c.toNat / 16), Nat.digitChar (c.toNat % 16)]
  else [c]

def renderText (s : String) : List Char := '"' :: s.toList.flatMap escaped ++ ['"']

def newline (depth : Nat) : List Char := '\n' :: List.replicate (2 * depth) ' '

mutual

/-- A value at a depth; what it holds stands one deeper, each on a line of its own. -/
def renderAt (depth : Nat) : Value → List Char
  | null => ['n', 'u', 'l', 'l']
  | boolean true => ['t', 'r', 'u', 'e']
  | boolean false => ['f', 'a', 'l', 's', 'e']
  | number n => n.text
  | text s => renderText s
  | list [] => ['[', ']']
  | list (v :: rest) =>
    '[' :: newline (depth + 1) ++ renderAt (depth + 1) v ++ renderElements (depth + 1) rest
      ++ newline depth ++ [']']
  | object [] => ['\x7b', '\x7d']
  | object ((key, v) :: rest) =>
    '\x7b' :: newline (depth + 1) ++ renderText key ++ [':', ' '] ++ renderAt (depth + 1) v
      ++ renderMembers (depth + 1) rest ++ newline depth ++ ['\x7d']

def renderElements (depth : Nat) : List Value → List Char
  | [] => []
  | v :: rest => ',' :: newline depth ++ renderAt depth v ++ renderElements depth rest

def renderMembers (depth : Nat) : List (String × Value) → List Char
  | [] => []
  | (key, v) :: rest =>
    ',' :: newline depth ++ renderText key ++ [':', ' '] ++ renderAt depth v
      ++ renderMembers depth rest

end

def render (v : Value) : String := String.ofList (renderAt 0 v)

def ofTexts (texts : List String) : Value := list (texts.map text)

end Value

end SizeRequest.Json

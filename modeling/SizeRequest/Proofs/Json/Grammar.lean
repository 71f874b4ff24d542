import Mathlib.Data.List.TakeWhile
import SizeRequest.Json.Value
import SizeRequest.Proofs.Json.Text

namespace SizeRequest.Json

def IsBlanks (s : List Char) : Prop := ∀ c ∈ s, isBlank c = true

/-- What follows an item of a list: the end, or a comma and the next item. -/
inductive Following {α : Type} (item : α → List Char → Prop) : List α → List Char → Prop
  | none {b : List Char} : IsBlanks b → Following item [] b
  | more {a : α} {as : List α} {b c s rest : List Char} : IsBlanks b → IsBlanks c → item a s →
      Following item as rest → Following item (a :: as) (b ++ ',' :: c ++ s ++ rest)

/-- What stands between brackets: blanks, or items with commas between them. -/
inductive Listing {α : Type} (item : α → List Char → Prop) : List α → List Char → Prop
  | none {b : List Char} : IsBlanks b → Listing item [] b
  | some {a : α} {as : List α} {b s rest : List Char} : IsBlanks b → item a s →
      Following item as rest → Listing item (a :: as) (b ++ s ++ rest)

inductive WritesMember (value : Value → List Char → Prop) : String × Value → List Char → Prop
  | mk {k : String} {v : Value} {key b c s : List Char} : Spells k.toList key → IsBlanks b →
      IsBlanks c → value v s → WritesMember value (k, v) ('"' :: key ++ '"' :: b ++ ':' :: c ++ s)

/-- The texts that write a value. -/
inductive Writes : Value → List Char → Prop
  | null : Writes .null ['n', 'u', 'l', 'l']
  | yes : Writes (.boolean true) ['t', 'r', 'u', 'e']
  | no : Writes (.boolean false) ['f', 'a', 'l', 's', 'e']
  | number {n : Numeral} : Writes (.number n) n.text
  | text {s : String} {body : List Char} : Spells s.toList body →
      Writes (.text s) ('"' :: body ++ ['"'])
  | list {vs : List Value} {body : List Char} : Listing Writes vs body →
      Writes (.list vs) ('[' :: body ++ [']'])
  | object {ms : List (String × Value)} {body : List Char} :
      Listing (WritesMember Writes) ms body → Writes (.object ms) ('\x7b' :: body ++ ['\x7d'])

def IsDocument (v : Value) (text : List Char) : Prop :=
  ∃ b s c, IsBlanks b ∧ Writes v s ∧ IsBlanks c ∧ text = b ++ s ++ c

theorem isBlanks_nil : IsBlanks [] := fun _ h => by cases h

theorem isBlanks_space : IsBlanks [' '] := by
  intro c hc
  obtain rfl := List.mem_singleton.1 hc
  rfl

theorem Writes.isDocument {v : Value} {s : List Char} (h : Writes v s) : IsDocument v s :=
  ⟨[], s, [], isBlanks_nil, h, isBlanks_nil, by simp⟩

theorem skipBlanks_append {b : List Char} (h : IsBlanks b) (s : List Char) :
    skipBlanks (b ++ s) = skipBlanks s :=
  List.dropWhile_append_of_pos h

theorem skipBlanks_of_isBlanks {b : List Char} (h : IsBlanks b) : skipBlanks b = [] :=
  List.dropWhile_eq_nil_iff.2 h

theorem skipBlanks_cons {c : Char} (h : isBlank c = false) (s : List Char) :
    skipBlanks (c :: s) = c :: s := by
  rw [skipBlanks, List.dropWhile_cons, h]
  simp

theorem cons_eq_of_isBlanks {b b' s s' : List Char} {c c' : Char} (hb : IsBlanks b)
    (hb' : IsBlanks b') (hc : isBlank c = false) (hc' : isBlank c' = false)
    (h : b ++ c :: s = b' ++ c' :: s') : c :: s = c' :: s' := by
  have hskip := congrArg skipBlanks h
  rwa [skipBlanks_append hb, skipBlanks_append hb', skipBlanks_cons hc, skipBlanks_cons hc']
    at hskip

def continues (c : Char) : Bool :=
  c.isDigit || c == '+' || c == '-' || c == '.' || c == 'e' || c == 'E'

/-- Whether a number ends in front of a text. -/
def Stops (r : List Char) : Prop := ∀ c ∈ r.head?, continues c = false

theorem continues_of_isNumeral {s : List Char} (h : IsNumeral s) : ∀ c ∈ s, continues c = true := by
  have hdigits {d : List Char} (hd : IsDigits d) : ∀ c ∈ d, continues c = true := by
    intro c hc
    simp [continues, hd.2 c hc]
  obtain ⟨sign, whole, fraction, exponent, hsign, hwhole, hfraction, hexponent, rfl⟩ := h
  intro c hc
  simp only [List.mem_append] at hc
  rcases hc with ((hc | hc) | hc) | hc
  · rcases hsign with rfl | rfl
    · cases hc
    · obtain rfl := List.mem_singleton.1 hc
      rfl
  · exact hdigits hwhole.1 c hc
  · rcases hfraction with rfl | ⟨digits, hd, rfl⟩
    · cases hc
    · rcases List.mem_cons.1 hc with rfl | hc
      · rfl
      · exact hdigits hd c hc
  · rcases hexponent with rfl | ⟨e, sign, digits, he, hs, hd, rfl⟩
    · cases hc
    · rcases List.mem_cons.1 hc with rfl | hc
      · rcases he with rfl | rfl <;> rfl
      · rcases List.mem_append.1 hc with hc | hc
        · rcases hs with rfl | rfl | rfl
          · cases hc
          · obtain rfl := List.mem_singleton.1 hc
            rfl
          · obtain rfl := List.mem_singleton.1 hc
            rfl
        · exact hdigits hd c hc

theorem stops_cons {c : Char} (h : continues c = false) (s : List Char) : Stops (c :: s) := by
  intro d hd
  cases hd
  exact h

theorem continues_of_isBlank {c : Char} (h : isBlank c = true) : continues c = false := by
  simp only [isBlank, Bool.or_eq_true, beq_iff_eq] at h
  rcases h with ((rfl | rfl) | rfl) | rfl <;> rfl

theorem stops_blanks {b r : List Char} (hb : IsBlanks b) (hr : Stops r) : Stops (b ++ r) := by
  cases b with
  | nil => exact hr
  | cons c b => exact stops_cons (continues_of_isBlank (hb c (by simp))) _

theorem stops_of_isBlanks {b : List Char} (hb : IsBlanks b) : Stops b := by
  have hstops := stops_blanks hb (r := []) fun _ h => nomatch h
  rwa [List.append_nil] at hstops

def IsCloser (c : Char) : Prop := c = ']' ∨ c = '\x7d'

theorem stops_closer {c : Char} (h : IsCloser c) (r : List Char) : Stops (c :: r) := by
  rcases h with rfl | rfl <;> exact stops_cons rfl r

theorem isBlank_closer {c : Char} (h : IsCloser c) : isBlank c = false := by
  rcases h with rfl | rfl <;> rfl

theorem Following.stops {α : Type} {item : α → List Char → Prop} {as : List α} {s : List Char}
    (h : Following item as s) {close : Char} (hc : IsCloser close) (r : List Char) :
    Stops (s ++ close :: r) := by
  cases h with
  | none hb => exact stops_blanks hb (stops_closer hc r)
  | more hb =>
    rw [List.append_assoc, List.append_assoc, List.append_assoc]
    exact stops_blanks hb (stops_cons rfl _)

end SizeRequest.Json

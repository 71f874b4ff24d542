import Mathlib.Data.List.TakeWhile
import SizeRequest.Json.Value
import SizeRequest.Proofs.Digits
import SizeRequest.Proofs.SpecMembers

namespace SizeRequest

theorem ne_of_isAlphanum {c d : Char} (hc : c.isAlphanum = true) (hd : d.isAlphanum = false) :
    c ≠ d := by
  rintro rfl
  rw [hc] at hd
  cases hd

theorem IsIdentifier.isAlphanum {key : String} (h : IsIdentifier key) :
    ∀ c ∈ key.toList, c.isAlphanum = true := by
  obtain ⟨c, rest, hkey, hc, hrest⟩ := h
  rw [hkey]
  rintro d (_ | ⟨_, hd⟩)
  · simp [Char.isAlphanum, hc]
  · exact hrest d hd

theorem IsIdentifier.isPrintable {key : String} (h : IsIdentifier key) : IsPrintable key := by
  intro c hc
  have halnum : (c.isUpper || c.isLower || c.isDigit) = true := h.isAlphanum c hc
  have hwithin {low high : UInt32} (hlow : 0x20 ≤ low.toNat) (hhigh : high.toNat ≤ 0x7e)
      (hrange : low ≤ c.val ∧ c.val ≤ high) : 0x20 ≤ c.toNat ∧ c.toNat ≤ 0x7e :=
    ⟨Nat.le_trans hlow hrange.1, Nat.le_trans hrange.2 hhigh⟩
  rw [Bool.or_eq_true, Bool.or_eq_true] at halnum
  rcases halnum with (hupper | hlower) | hdigit
  · exact hwithin (by decide) (by decide) (of_decide_eq_true hupper)
  · have hrange := Bool.and_eq_true_iff.1 hlower
    exact hwithin (by decide) (by decide) (hrange.imp of_decide_eq_true of_decide_eq_true)
  · have hrange := Bool.and_eq_true_iff.1 hdigit
    exact hwithin (by decide) (by decide) (hrange.imp of_decide_eq_true of_decide_eq_true)

namespace SpecText

/-- A character of a string: quotes and backslashes get a backslash in front. -/
def escaped (c : Char) : List Char := if c == '"' || c == '\\' then ['\\', c] else [c]

def body (cs : List Char) : List Char := cs.flatMap escaped

def quoted (text : String) : List Char := '"' :: body text.toList ++ ['"']

/-- A number in decimal digits, with a sign if it is negative. -/
def decimal (n : Int) : List Char :=
  (if n < 0 then ['-'] else []) ++ Nat.toDigits 10 n.natAbs

/-- What stands behind the first of several texts: each of the others, behind a comma. -/
def following (texts : List (List Char)) : List Char := texts.flatMap ([',', ' '] ++ ·)

def listed : List (List Char) → List Char
  | [] => []
  | text :: rest => text ++ following rest

def content : Content → List Char
  | .texts texts => '[' :: listed (texts.map quoted) ++ [']']
  | .integer n => decimal n

def jsonMember (m : Member) : List Char := quoted m.key ++ [':', ' '] ++ content m.content

def json (members : List Member) : List Char :=
  '\x7b' :: listed (members.map jsonMember) ++ ['\x7d']

def yamlLine (m : Member) : List Char := m.key.toList ++ [':', ' '] ++ content m.content ++ ['\n']

def yaml (members : List Member) : List Char := members.flatMap yamlLine

def tomlLine (m : Member) : List Char :=
  m.key.toList ++ [' ', '=', ' '] ++ content m.content ++ ['\n']

def toml (members : List Member) : List Char := members.flatMap tomlLine

theorem body_append (cs ds : List Char) : body (cs ++ ds) = body cs ++ body ds := by
  simp [body]

theorem body_blanks {b : List Char} (hb : ∀ x ∈ b, x = ' ') : body b = b := by
  induction b with
  | nil => rfl
  | cons x b ih =>
    obtain rfl := hb x (.head _)
    have hrest := ih fun y hy => hb y (.tail _ hy)
    rw [body, List.flatMap_cons, ← body, hrest]
    rfl

theorem head_body_ne (cs : List Char) : ∀ c ∈ (body cs).head?, c ≠ '"' := by
  intro c hc
  cases cs with
  | nil => cases hc
  | cons d cs =>
    rw [body, List.flatMap_cons, escaped] at hc
    split at hc
    next =>
      cases hc
      decide
    next hd =>
      cases hc
      rintro rfl
      exact hd rfl

theorem length_le_length_flatMap {α β : Type} {write : α → List β} (h : ∀ a, write a ≠ [])
    (as : List α) : as.length ≤ (as.flatMap write).length := by
  induction as with
  | nil => exact Nat.le_refl 0
  | cons a as ih =>
    have ha := List.length_pos_iff.2 (h a)
    rw [List.flatMap_cons, List.length_append, List.length_cons]
    omega

theorem length_le_length_body (cs : List Char) : cs.length ≤ (body cs).length := by
  refine length_le_length_flatMap (fun c => ?_) cs
  unfold escaped
  split <;> exact List.cons_ne_nil _ _

theorem length_le_length_listed (texts : List String) :
    texts.length ≤ (listed (texts.map quoted)).length := by
  cases texts with
  | nil => exact Nat.le_refl 0
  | cons text texts =>
    have hfollowing : (texts.map quoted).length ≤ (following (texts.map quoted)).length :=
      length_le_length_flatMap (fun _ => List.cons_ne_nil _ _) _
    rw [List.length_map] at hfollowing
    simp only [listed, quoted, List.map_cons, List.length_append, List.length_cons]
    omega

theorem mem_decimal {n : Int} : ∀ c ∈ decimal n, c.isDigit = true ∨ c = '-' := by
  intro c hc
  rcases List.mem_append.1 hc with hc | hc
  · split at hc
    · exact .inr (List.mem_singleton.1 hc)
    · cases hc
  · exact .inl (Text.isDigit_toDigits c hc)

theorem decimal_ne_nil (n : Int) : decimal n ≠ [] :=
  List.append_ne_nil_of_right_ne_nil _ Nat.toDigits_ne_nil

theorem decimal_eq_cons (n : Int) :
    ∃ c cs, decimal n = c :: cs ∧
      (c.isDigit = true ∨ c = '-' ∧ ∃ d ds, cs = d :: ds ∧ d.isDigit = true) := by
  have hdigit := Text.isDigit_toDigits (n := n.natAbs)
  cases hdigits : Nat.toDigits 10 n.natAbs with
  | nil => exact absurd hdigits Nat.toDigits_ne_nil
  | cons d ds =>
    rw [hdigits] at hdigit
    rw [decimal, hdigits]
    split
    next => exact ⟨'-', _, rfl, .inr ⟨rfl, d, ds, rfl, hdigit d (.head _)⟩⟩
    next => exact ⟨d, ds, rfl, .inl (hdigit d (.head _))⟩

theorem content_eq_cons (held : Content) :
    ∃ c rest, content held = c :: rest ∧ (c = '[' ∨ c.isDigit = true ∨ c = '-') := by
  cases held with
  | texts texts => exact ⟨'[', _, rfl, .inl rfl⟩
  | integer n =>
    obtain ⟨c, cs, hdecimal, hc⟩ := decimal_eq_cons n
    exact ⟨c, cs, hdecimal, .inr (hc.imp_right And.left)⟩

theorem quoted_append (text : String) (r : List Char) :
    quoted text ++ r = '"' :: (body text.toList ++ '"' :: r) := by
  simp [quoted]

theorem mem_quoted {text : String} (h : IsPrintable text) :
    ∀ c ∈ quoted text, 0x20 ≤ c.toNat ∧ c.toNat ≤ 0x7e := by
  intro c hc
  simp only [quoted, body, List.cons_append, List.mem_cons, List.mem_append, List.mem_flatMap,
    List.not_mem_nil, or_false] at hc
  rcases hc with rfl | ⟨d, hd, hc⟩ | rfl
  · decide
  · unfold escaped at hc
    split at hc
    next =>
      simp only [List.mem_cons, List.not_mem_nil, or_false] at hc
      rcases hc with rfl | rfl
      · decide
      · exact h c hd
    next =>
      obtain rfl := List.mem_singleton.1 hc
      exact h c hd
  · decide

theorem mem_listed {texts : List (List Char)} {c : Char} (h : c ∈ listed texts) :
    (∃ text ∈ texts, c ∈ text) ∨ c = ',' ∨ c = ' ' := by
  cases texts with
  | nil => cases h
  | cons text texts =>
    simp only [listed, following, List.mem_append, List.mem_flatMap, List.mem_cons,
      List.not_mem_nil, or_false] at h
    rcases h with h | ⟨other, hother, (rfl | rfl) | h⟩
    · exact .inl ⟨text, .head _, h⟩
    · exact .inr (.inl rfl)
    · exact .inr (.inr rfl)
    · exact .inl ⟨other, .tail _ hother, h⟩

theorem mem_content (m : Member) :
    ∀ c ∈ content m.content, 0x20 ≤ c.toNat ∧ c.toNat ≤ 0x7e := by
  intro c hc
  cases hcontent : m.content with
  | integer n =>
    rw [hcontent] at hc
    rcases mem_decimal c hc with hdigit | rfl
    · have hrange : 0x30 ≤ c.toNat ∧ c.toNat ≤ 0x39 := by
        simpa [Char.isDigit, UInt32.le_iff_toNat_le] using hdigit
      omega
    · decide
  | texts texts =>
    rw [hcontent] at hc
    simp only [content, List.cons_append, List.mem_cons, List.mem_append, List.not_mem_nil,
      or_false] at hc
    rcases hc with rfl | hc | rfl
    · decide
    · rcases mem_listed hc with ⟨written, hwritten, hc⟩ | rfl | rfl
      · obtain ⟨text, ht, rfl⟩ := List.mem_map.1 hwritten
        exact mem_quoted (m.isPrintable texts hcontent text ht) c hc
      · decide
      · decide
    · decide

end SpecText

end SizeRequest

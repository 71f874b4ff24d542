import SizeRequest.Proofs.SpecText
import SizeRequest.Toml.Reader

namespace SizeRequest.Toml

open SpecText

theorem isControl_of_printable {c : Char} (h : 0x20 ≤ c.toNat ∧ c.toNat ≤ 0x7e) :
    isControl c = false := by
  have hlow : ¬ c.toNat < 0x20 := by omega
  have hdelete : c ≠ '\x7f' := by
    rintro rfl
    exact absurd h.2 (by decide)
  simp [isControl, hlow, hdelete]

theorem lineWithin_body {cs : List Char} (hcs : ∀ c ∈ cs, 0x20 ≤ c.toNat ∧ c.toNat ≤ 0x7e)
    {budget : Nat} (hbudget : cs.length < budget) (r : List Char) :
    lineWithin '"' budget (body cs ++ '"' :: r) = .ok (cs, r) := by
  induction cs generalizing budget with
  | nil =>
    obtain ⟨budget, rfl⟩ := Nat.exists_eq_add_one_of_ne_zero (Nat.ne_zero_of_lt hbudget)
    rfl
  | cons c cs ih =>
    rw [List.length_cons] at hbudget
    obtain ⟨budget, rfl⟩ := Nat.exists_eq_add_one_of_ne_zero (Nat.ne_zero_of_lt hbudget)
    have hrest := ih (fun d hd => hcs d (.tail _ hd)) (show cs.length < budget by omega)
    have hbody : body (c :: cs) = escaped c ++ body cs := rfl
    rw [hbody, escaped]
    by_cases hc : c = '"' ∨ c = '\\'
    · rcases hc with rfl | rfl <;> simp [lineWithin, escape, hrest, prepend]
    · have hplain := isControl_of_printable (hcs c (.head _))
      rw [not_or] at hc
      simp [lineWithin, hc.1, hc.2, hplain, hrest, prepend]

theorem string_body {cs : List Char} (hcs : ∀ c ∈ cs, 0x20 ≤ c.toNat ∧ c.toNat ≤ 0x7e)
    {r : List Char} (hr : ∀ c ∈ r.head?, c ≠ '"') :
    string '"' (body cs ++ '"' :: r) = .ok (String.ofList cs, r) := by
  have hlength := length_le_length_body cs
  have hsingle : ((body cs ++ '"' :: r).take 2 == ['"', '"']) = false := by
    rw [beq_eq_false_iff_ne]
    intro htake
    cases hbody : body cs with
    | nil =>
      cases r with
      | nil => simp [hbody] at htake
      | cons c r => exact hr c rfl (by simpa [hbody] using htake)
    | cons c rest =>
      apply head_body_ne cs c (by rw [hbody]; rfl)
      rw [hbody] at htake
      exact (List.cons.inj htake).1
  rw [string, hsingle]
  simp only [Bool.false_eq_true, ↓reduceIte, lineString]
  rw [lineWithin_body hcs (by rw [List.length_append]; omega)]

theorem value_quoted {text : String} (h : IsPrintable text) (depth : Nat) {r : List Char}
    (hr : ∀ c ∈ r.head?, c ≠ '"') :
    ∃ span, value depth (quoted text ++ r) = .ok ((span, .scalar (.text text)), r) := by
  rw [quoted_append, value, string_body h hr, String.ofList_toList]
  exact ⟨_, rfl⟩

theorem skipLines_append {b : List Char} (hb : ∀ c ∈ b, isBlank c = true) {c : Char}
    (hblank : isBlank c = false) (hcomment : c ≠ '#') (hnewline : c ≠ '\n') (hreturn : c ≠ '\r')
    (s : List Char) : skipLines (b ++ c :: s) = c :: s := by
  have hskip : skipBlanks (b ++ c :: s) = c :: s := by
    rw [skipBlanks, List.dropWhile_append_of_pos hb,
      List.dropWhile_cons_of_neg (by rw [hblank]; decide)]
    split
    next heq => exact absurd (List.cons.inj heq).1 hcomment
    next => rfl
  have hline : afterNewline? (c :: s) = none := by
    unfold afterNewline?
    split
    next heq => exact absurd (List.cons.inj heq).1 hnewline
    next heq => exact absurd (List.cons.inj heq).1 hreturn
    next => rfl
  rw [skipLines, skipLinesWithin, hskip, hline]

theorem skipLines_quote (s : List Char) : skipLines ('"' :: s) = '"' :: s :=
  skipLines_append (b := []) (List.forall_mem_nil _) rfl (by decide) (by decide) (by decide) s

theorem skipLines_bracket (s : List Char) : skipLines (']' :: s) = ']' :: s :=
  skipLines_append (b := []) (List.forall_mem_nil _) rfl (by decide) (by decide) (by decide) s

theorem skipLines_listed (texts : List String) (r : List Char) :
    skipLines (listed (texts.map quoted) ++ ']' :: r) = listed (texts.map quoted) ++ ']' :: r := by
  cases texts with
  | nil => exact skipLines_bracket r
  | cons text texts =>
    rw [List.map_cons, listed, List.append_assoc, quoted_append]
    exact skipLines_quote _

theorem separator_following (texts : List String) (r : List Char) :
    separator ']' (following (texts.map quoted) ++ ']' :: r)
      = .ok ((), listed (texts.map quoted) ++ ']' :: r) := by
  cases texts with
  | nil =>
    have hread : skipLines (following ([].map quoted) ++ ']' :: r) = ']' :: r :=
      skipLines_bracket r
    rw [separator, hread]
    rfl
  | cons text texts =>
    rw [List.map_cons, following, List.flatMap_cons, ← following, listed]
    generalize following (texts.map quoted) = more
    have hcomma : skipLines (',' :: ' ' :: (quoted text ++ (more ++ ']' :: r)))
        = ',' :: ' ' :: (quoted text ++ (more ++ ']' :: r)) :=
      skipLines_append (b := []) (List.forall_mem_nil _) rfl (by decide) (by decide) (by decide) _
    have hblank : skipLines (' ' :: (quoted text ++ (more ++ ']' :: r)))
        = quoted text ++ (more ++ ']' :: r) := by
      rw [quoted_append]
      have hspace : ∀ c ∈ [' '], isBlank c = true := by
        intro c hc
        obtain rfl := List.mem_singleton.1 hc
        rfl
      exact skipLines_append hspace rfl (by decide) (by decide) (by decide) _
    simp only [List.cons_append, List.nil_append, List.append_assoc]
    rw [separator, hcomma]
    simp only [hblank]

theorem itemsWithin_quoted {texts : List String} (htexts : ∀ text ∈ texts, IsPrintable text)
    (depth : Nat) {budget : Nat} (hbudget : texts.length < budget) (r : List Char) :
    ∃ items, itemsWithin (value depth) budget (listed (texts.map quoted) ++ ']' :: r)
        = .ok (items, r) ∧
      items.map Prod.snd = texts.map fun text => .scalar (.text text) := by
  induction texts generalizing budget with
  | nil =>
    obtain ⟨budget, rfl⟩ := Nat.exists_eq_add_one_of_ne_zero (Nat.ne_zero_of_lt hbudget)
    exact ⟨[], rfl, rfl⟩
  | cons text texts ih =>
    rw [List.length_cons] at hbudget
    obtain ⟨budget, rfl⟩ := Nat.exists_eq_add_one_of_ne_zero (Nat.ne_zero_of_lt hbudget)
    obtain ⟨items, hitems, hnodes⟩ :=
      ih (fun t ht => htexts t (.tail _ ht)) (show texts.length < budget by omega)
    have hr : ∀ c ∈ (following (texts.map quoted) ++ ']' :: r).head?, c ≠ '"' := by
      cases texts <;> (rintro c hc; cases hc; decide)
    obtain ⟨span, hvalue⟩ := value_quoted (htexts text (.head _)) depth hr
    refine ⟨(span, .scalar (.text text)) :: items, ?_, by simp [hnodes]⟩
    rw [quoted_append] at hvalue
    rw [List.map_cons, listed, List.append_assoc, quoted_append, itemsWithin]
    · simp only [hvalue, separator_following, hitems]
    · exact fun _ h => absurd (List.cons.inj h).1 (by decide)

end SizeRequest.Toml

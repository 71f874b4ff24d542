import SizeRequest.Proofs.SpecText
import SizeRequest.Yaml.Token.Text

namespace SizeRequest.Yaml

open SpecText

namespace Cursor

@[simp] theorem rest_skip (c : Cursor) (n : Nat) : (c.skip n).rest = c.rest.drop n := rfl

@[simp] theorem index_skip (c : Cursor) (n : Nat) : (c.skip n).index = c.index + n := rfl

@[simp] theorem line_skip (c : Cursor) (n : Nat) : (c.skip n).point.line = c.point.line := rfl

@[simp] theorem column_skip (c : Cursor) (n : Nat) : (c.skip n).column = c.column + n := rfl

@[simp] theorem skip_zero (c : Cursor) : c.skip 0 = c := rfl

@[simp] theorem skip_skip (c : Cursor) (m n : Nat) : (c.skip m).skip n = c.skip (m + n) := by
  simp [skip, Nat.add_assoc]

theorem rest_skip_length {c : Cursor} {w r : List Char} (h : c.rest = w ++ r) :
    (c.skip w.length).rest = r := by
  rw [rest_skip, h, List.drop_left]

theorem seesMarker_of_column {c : Cursor} (h : c.column ≠ 0) (x : Char) :
    c.seesMarker x = false := by
  simp [seesMarker, h]

theorem seesMarker_of_head {c : Cursor} {x y : Char} {r : List Char} (h : c.rest = y :: r)
    (hx : x ≠ y) : c.seesMarker x = false := by
  simp [seesMarker, h, hx.symm]

theorem atDocumentMarker_of_column {c : Cursor} (h : c.column ≠ 0) :
    c.atDocumentMarker = false := by
  rw [atDocumentMarker, seesMarker_of_column h, seesMarker_of_column h]
  rfl

theorem atDocumentMarker_of_head {c : Cursor} {x : Char} {r : List Char} (h : c.rest = x :: r)
    (hdash : x ≠ '-') (hdot : x ≠ '.') : c.atDocumentMarker = false := by
  rw [atDocumentMarker, seesMarker_of_head h hdash.symm, seesMarker_of_head h hdot.symm]
  rfl

end Cursor

theorem isInk_of_printable {x : Char} (h : 0x20 ≤ x.toNat ∧ x.toNat ≤ 0x7e) (hx : x ≠ ' ') :
    isInk x = true := by
  have hne (y : Char) (hy : y.toNat < 0x20 ∨ 0x7e < y.toNat) : x ≠ y := by
    rintro rfl
    omega
  simp [isInk, isBlank, isBreak, hx, hne '\t' (by decide), hne '\n' (by decide),
    hne '\r' (by decide), hne '\u0085' (by decide), hne '\u2028' (by decide),
    hne '\u2029' (by decide)]

theorem isInk_of_isAlphanum {x : Char} (hx : x.isAlphanum = true) : isInk x = true := by
  have hne (y : Char) (hy : y.isAlphanum = false) : x ≠ y := ne_of_isAlphanum hx hy
  simp [isInk, isBlank, isBreak, hne ' ' rfl, hne '\t' rfl, hne '\n' rfl, hne '\r' rfl,
    hne '\u0085' rfl, hne '\u2028' rfl, hne '\u2029' rfl]

/-- What ends a word without quotes: a line end, or a colon with a blank behind it. -/
def EndsWord (r : List Char) : Prop := (∃ t, r = '\n' :: t) ∨ ∃ t, r = ':' :: ' ' :: t

theorem plainWordWithin_end {c : Cursor} (h : EndsWord c.rest) (budget : Nat) :
    plainWordWithin false (budget + 1) c = .ok ([], c) := by
  rw [plainWordWithin]
  rcases h with ⟨t, ht⟩ | ⟨t, ht⟩
  · rw [ht]
    rfl
  · have hspace : c.spaceAt 1 = true := by
      rw [Cursor.spaceAt, ht]
      rfl
    rw [ht]
    simp [isInk, isBlank, isBreak, hspace]

theorem plainWordWithin_word {w r : List Char} (hw : ∀ x ∈ w, isInk x = true ∧ x ≠ ':')
    (hr : EndsWord r) {c : Cursor} (hc : c.rest = w ++ r) {budget : Nat}
    (hbudget : w.length < budget) :
    plainWordWithin false budget c = .ok (w, c.skip w.length) := by
  induction w generalizing c budget with
  | nil =>
    obtain ⟨budget, rfl⟩ := Nat.exists_eq_add_one_of_ne_zero (Nat.ne_zero_of_lt hbudget)
    exact plainWordWithin_end (hc ▸ hr) budget
  | cons x w ih =>
    rw [List.length_cons] at hbudget
    obtain ⟨budget, rfl⟩ := Nat.exists_eq_add_one_of_ne_zero (Nat.ne_zero_of_lt hbudget)
    obtain ⟨hink, hcolon⟩ := hw x (.head _)
    have hnext : (c.skip 1).rest = w ++ r := by rw [Cursor.rest_skip, hc]; rfl
    have hrest := ih (fun y hy => hw y (.tail _ hy)) hnext (show w.length < budget by omega)
    rw [plainWordWithin, hc]
    simp [hink, hcolon, hrest, Nat.add_comm]

theorem gapWithin_end {c : Cursor} (h : ∀ x ∈ c.rest.head?, isInk x = true) (margin budget : Nat)
    (g : Gap) : gapWithin margin budget g c = .ok (g, c) := by
  cases budget with
  | zero => rfl
  | succ budget =>
    rw [gapWithin, Cursor.peek?]
    cases hhead : c.rest.head? with
    | none => rfl
    | some x =>
      have hink := h x hhead
      simp only [isInk, Bool.and_eq_true, Bool.not_eq_true'] at hink
      simp [hink.1, hink.2]

theorem plainWithin_end {c : Cursor} (h : EndsWord c.rest) (inBlock : c.column ≠ 0)
    (margin budget : Nat) (before : Gap) :
    plainWithin false margin (budget + 1) before c = .ok (([], before.isBroken), c) := by
  have hsees : c.sees '#' = false := by
    rcases h with ⟨t, ht⟩ | ⟨t, ht⟩ <;> simp [Cursor.sees, Cursor.peek?, ht]
  rw [plainWithin, Cursor.atDocumentMarker_of_column inBlock, hsees, plainWordWithin_end h]
  rfl

/-- A word is read up to the gap behind it, and what follows the gap is read on unless it is not
indented enough. -/
theorem plainWithin_word {word r : List Char} (hword : ∀ x ∈ word, isInk x = true ∧ x ≠ ':')
    (hne : word ≠ []) (hcomment : '#' ∉ word.head?) (hr : EndsWord r) {c : Cursor}
    (hmarker : c.atDocumentMarker = false) (hc : c.rest = word ++ r) {margin : Nat}
    (budget : Nat) {after : Gap} {next last : Cursor} (hgap : gap margin false (c.skip word.length)
      = .ok (after, next)) {more : List Char} {isBroken : Bool}
    (hmore : (if next.column < margin then .ok (([], after.isBroken), next)
      else plainWithin false margin budget after next) = .ok ((more, isBroken), last)) :
    plainWithin false margin (budget + 1) {} c = .ok ((word ++ more, isBroken), last) := by
  have hsees : c.sees '#' = false := by
    cases word with
    | nil => exact absurd rfl hne
    | cons x word =>
      have hx : x ≠ '#' := fun hx => hcomment (hx ▸ rfl)
      simp [Cursor.sees, Cursor.peek?, hc, hx]
  have hlength : word.length < c.rest.length + 1 := by
    rw [hc, List.length_append]
    omega
  have hread := plainWordWithin_word hword hr hc hlength
  have hfolded : ({} : Gap).folded = [] := rfl
  cases word with
  | nil => exact absurd rfl hne
  | cons x word =>
    rw [plainWithin, hmarker, hsees, hread, hfolded]
    by_cases hcolumn : next.column < margin
    · rw [if_pos hcolumn] at hmore
      cases hmore
      simp only [Bool.or_self, Bool.false_eq_true, ↓reduceIte, hgap, Bool.not_false,
        Bool.true_and, hcolumn, decide_true, List.nil_append, List.append_nil]
    · rw [if_neg hcolumn] at hmore
      simp only [Bool.or_self, Bool.false_eq_true, ↓reduceIte, hgap, Bool.not_false,
        Bool.true_and, hcolumn, decide_false, hmore, List.nil_append]

theorem plain_key {key r : List Char} (hkey : ∀ x ∈ key, isInk x = true ∧ x ≠ ':')
    (hne : key ≠ []) (hcomment : '#' ∉ key.head?) {c : Cursor}
    (hmarker : c.atDocumentMarker = false) (hc : c.rest = key ++ ':' :: ' ' :: r) {margin : Nat}
    (hmargin : margin ≤ 1) :
    plain false margin c = .ok ((key, false), c.skip key.length) := by
  have hend : (c.skip key.length).rest = ':' :: ' ' :: r := Cursor.rest_skip_length hc
  have hpos : 0 < key.length := List.length_pos_iff.2 hne
  have hgap : gap margin false (c.skip key.length) = .ok ({}, c.skip key.length) :=
    gapWithin_end (by rw [hend]; rintro x ⟨⟩; decide) _ _ _
  have hcolumn : ¬ (c.skip key.length).column < margin := by
    rw [Cursor.column_skip]
    omega
  obtain ⟨budget, hbudget⟩ : ∃ n, c.rest.length = n + 1 :=
    ⟨c.rest.length - 1, by rw [hc, List.length_append]; omega⟩
  have hcolon : plainWithin false margin (budget + 1) {} (c.skip key.length)
      = .ok (([], false), c.skip key.length) := by
    refine plainWithin_end (.inr ⟨r, hend⟩) ?_ _ _ _
    rw [Cursor.column_skip]
    omega
  rw [plain, hbudget]
  have hread := plainWithin_word hkey hne hcomment (.inr ⟨r, rfl⟩) hmarker hc _ hgap
    ((if_neg hcolumn).trans hcolon)
  rwa [List.append_nil] at hread

/-- A word at the end of a line is a scalar on its own if the next line is not indented. -/
theorem plain_line {word r : List Char} (hword : ∀ x ∈ word, isInk x = true ∧ x ≠ ':')
    (hne : word ≠ []) (hcomment : '#' ∉ word.head?) {c : Cursor}
    (hmarker : c.atDocumentMarker = false) (hc : c.rest = word ++ '\n' :: r)
    (hr : ∀ x ∈ r.head?, isInk x = true) :
    plain false 1 c = .ok ((word, true), (c.skip word.length).nextLine 1) := by
  have hend : (c.skip word.length).rest = '\n' :: r := Cursor.rest_skip_length hc
  have hline : (c.skip word.length).lineEnd = (['\n'], (c.skip word.length).nextLine 1) := by
    rw [Cursor.lineEnd, hend]
    rfl
  have hnext : ∀ x ∈ ((c.skip word.length).nextLine 1).rest.head?, isInk x = true := by
    rw [Cursor.nextLine, hend]
    exact hr
  have hgap : gap 1 false (c.skip word.length)
      = .ok ({ first := ['\n'], isBroken := true }, (c.skip word.length).nextLine 1) := by
    rw [gap, gapWithin, Cursor.peek?, hend, hline]
    exact gapWithin_end hnext _ _ _
  rw [plain]
  have hread := plainWithin_word hword hne hcomment (.inl ⟨r, rfl⟩) hmarker hc c.rest.length hgap
    (if_pos Nat.zero_lt_one)
  rwa [List.append_nil] at hread

theorem escape_mark {x : Char} (hx : x = '"' ∨ x = '\\') {r : List Char} {c : Cursor}
    (hc : c.rest = x :: r) : escape c = .ok (x, c.skip 1) := by
  rw [escape, Cursor.peek?, hc]
  rcases hx with rfl | rfl <;> rfl

theorem quotedWordWithin_body {cs : List Char}
    (hcs : ∀ x ∈ cs, 0x20 ≤ x.toNat ∧ x.toNat ≤ 0x7e) {r : List Char} {c : Cursor}
    (hc : c.rest = body cs ++ '"' :: r) {budget : Nat} (hbudget : cs.length < budget) :
    quotedWordWithin '"' budget c = .ok ((cs.takeWhile (· != ' '), false),
      c.skip (body (cs.takeWhile (· != ' '))).length) := by
  induction cs generalizing c budget with
  | nil =>
    obtain ⟨budget, rfl⟩ := Nat.exists_eq_add_one_of_ne_zero (Nat.ne_zero_of_lt hbudget)
    rw [quotedWordWithin, hc]
    rfl
  | cons x cs ih =>
    rw [List.length_cons] at hbudget
    obtain ⟨budget, rfl⟩ := Nat.exists_eq_add_one_of_ne_zero (Nat.ne_zero_of_lt hbudget)
    have hbody : body (x :: cs) = escaped x ++ body cs := rfl
    by_cases hspace : x = ' '
    · subst hspace
      rw [quotedWordWithin, hc]
      rfl
    · have hink := isInk_of_printable (hcs x (.head _)) hspace
      have htake : (x :: cs).takeWhile (· != ' ') = x :: cs.takeWhile (· != ' ') := by
        simp [hspace]
      have hnext : (c.skip (escaped x).length).rest = body cs ++ '"' :: r :=
        Cursor.rest_skip_length (by rw [hc, hbody, List.append_assoc])
      have hrest := ih (fun y hy => hcs y (.tail _ hy)) hnext (show cs.length < budget by omega)
      have hlength : (body (x :: cs.takeWhile (· != ' '))).length
          = (escaped x).length + (body (cs.takeWhile (· != ' '))).length := by
        simp [body]
      rw [Cursor.skip_skip] at hrest
      rw [htake, hlength, quotedWordWithin, hc, hbody]
      by_cases hx : x = '"' ∨ x = '\\'
      · have hescaped : escaped x = ['\\', x] := by rcases hx with rfl | rfl <;> rfl
        have hbreak : isBreak x = false := by rcases hx with rfl | rfl <;> rfl
        have hmark : (c.skip 1).rest = x :: (body cs ++ '"' :: r) := by
          rw [Cursor.rest_skip, hc, hbody, hescaped]
          rfl
        rw [hescaped] at hrest ⊢
        have hslash : isInk '\\' = true := rfl
        simp only [List.length_cons, List.length_nil, Nat.zero_add, Nat.reduceAdd] at hrest
        simp [hslash, hbreak, escape_mark hx hmark, hrest]
      · have hescaped : escaped x = [x] := by
          rw [not_or] at hx
          simp [escaped, hx.1, hx.2]
        rw [not_or] at hx
        rw [hescaped] at hrest ⊢
        simp only [List.length_cons, List.length_nil, Nat.zero_add] at hrest
        simp [hink, hx.1, hx.2, hrest]

theorem gapWithin_blanks {b : List Char} (hb : ∀ x ∈ b, x = ' ') {r : List Char}
    (hr : ∀ x ∈ r.head?, isInk x = true) (margin : Nat) {c : Cursor} (hc : c.rest = b ++ r)
    (before : List Char) {budget : Nat} (hbudget : b.length ≤ budget) :
    gapWithin margin budget { blanks := before } c
      = .ok ({ blanks := before ++ b }, c.skip b.length) := by
  induction b generalizing c before budget with
  | nil =>
    rw [List.append_nil]
    exact gapWithin_end (by rw [hc]; exact hr) _ _ _
  | cons x b ih =>
    obtain rfl := hb x (.head _)
    rw [List.length_cons] at hbudget
    obtain ⟨budget, rfl⟩ := Nat.exists_eq_add_one_of_ne_zero (Nat.ne_zero_of_lt hbudget)
    have hnext : (c.skip 1).rest = b ++ r := by rw [Cursor.rest_skip, hc]; rfl
    have hrest := ih (fun y hy => hb y (.tail _ hy)) hnext (before ++ [' '])
      (show b.length ≤ budget by omega)
    rw [gapWithin, Cursor.peek?, hc]
    simp [isBlank, hrest, Nat.add_comm]

theorem exists_word (cs : List Char) :
    ∃ word b rest, cs = word ++ b ++ rest ∧ word = cs.takeWhile (· != ' ') ∧
      (∀ x ∈ b, x = ' ') ∧ (b = [] → rest = []) ∧ ∀ x ∈ rest.head?, x ≠ ' ' := by
  refine ⟨_, (cs.dropWhile (· != ' ')).takeWhile (· == ' '),
    (cs.dropWhile (· != ' ')).dropWhile (· == ' '), ?_, rfl, ?_, ?_, ?_⟩
  · rw [List.append_assoc, List.takeWhile_append_dropWhile, List.takeWhile_append_dropWhile]
  · intro x hx
    simpa using List.mem_takeWhile_imp hx
  · intro hnil
    have hhead := List.head?_dropWhile_not (· != ' ') cs
    cases hdrop : cs.dropWhile (· != ' ') with
    | nil => rfl
    | cons y ys =>
      rw [hdrop] at hhead hnil
      simp only [List.head?_cons, bne_eq_false_iff_eq] at hhead
      rw [hhead] at hnil
      cases hnil
  · intro x hx
    have hhead := List.head?_dropWhile_not (· == ' ') (cs.dropWhile (· != ' '))
    rw [hx] at hhead
    simpa using hhead

theorem head_body_isInk {cs : List Char} (hcs : ∀ x ∈ cs, 0x20 ≤ x.toNat ∧ x.toNat ≤ 0x7e)
    (hhead : ∀ x ∈ cs.head?, x ≠ ' ') (r : List Char) :
    ∀ x ∈ (body cs ++ '"' :: r).head?, isInk x = true := by
  cases cs with
  | nil =>
    rintro x ⟨⟩
    rfl
  | cons y cs =>
    have hink := isInk_of_printable (hcs y (.head _)) (hhead y rfl)
    rw [body, List.flatMap_cons, escaped]
    split
    next =>
      rintro x ⟨⟩
      rfl
    next =>
      rintro x ⟨⟩
      exact hink

theorem quotedWithin_body {cs : List Char}
    (hcs : ∀ x ∈ cs, 0x20 ≤ x.toNat ∧ x.toNat ≤ 0x7e) {r : List Char} {c : Cursor}
    (hcolumn : c.column ≠ 0) (hc : c.rest = body cs ++ '"' :: r) {budget : Nat}
    (hbudget : cs.length < budget) :
    quotedWithin '"' budget c = .ok (cs, c.skip ((body cs).length + 1)) := by
  -- Every step takes a word and the blanks behind it, so that what is left is shorter.
  induction budget generalizing cs c with
  | zero => omega
  | succ budget ih =>
    have hlength : cs.length < c.rest.length + 1 := by
      have := length_le_length_body cs
      rw [hc, List.length_append]
      omega
    have hword := quotedWordWithin_body hcs hc hlength
    have hempty : c.rest.isEmpty = false := by
      rw [hc]
      cases body cs <;> rfl
    obtain ⟨word, b, rest, hsplit, htake, hb, hnil, hrest⟩ := exists_word cs
    rw [← htake] at hword
    have hbody : body cs = body word ++ (b ++ body rest) := by
      rw [hsplit, body_append, body_append, body_blanks hb, List.append_assoc]
    have hafter : (c.skip (body word).length).rest = b ++ (body rest ++ '"' :: r) :=
      Cursor.rest_skip_length (by rw [hc, hbody]; simp)
    rw [quotedWithin, Cursor.atDocumentMarker_of_column hcolumn, hempty, hword]
    cases b with
    | nil =>
      obtain rfl := hnil rfl
      have hsees : (c.skip (body word).length).sees '"' = true := by
        rw [Cursor.sees, Cursor.peek?, hafter]
        rfl
      have hcs : cs = word := by simpa using hsplit
      simp only [Bool.false_eq_true, ↓reduceIte, hsees, Cursor.skip_skip, hcs]
    | cons x b =>
      obtain rfl := hb x (.head _)
      have hsees : (c.skip (body word).length).sees '"' = false := by
        rw [Cursor.sees, Cursor.peek?, hafter]
        rfl
      have hprintable : ∀ x ∈ rest, 0x20 ≤ x.toNat ∧ x.toNat ≤ 0x7e := fun x hx =>
        hcs x (by rw [hsplit]; exact List.mem_append_right _ hx)
      have hgap : gap 0 false (c.skip (body word).length)
          = .ok ({ blanks := ' ' :: b }, (c.skip (body word).length).skip (' ' :: b).length) :=
        gapWithin_blanks hb (head_body_isInk hprintable hrest r) 0 hafter [] (by
          rw [hafter, List.length_append]
          omega)
      have hnext : ((c.skip (body word).length).skip (' ' :: b).length).rest
          = body rest ++ '"' :: r := Cursor.rest_skip_length hafter
      have hread := ih hprintable (by simp [hcolumn]) hnext (by
        rw [hsplit] at hbudget
        simp only [List.length_append, List.length_cons] at hbudget
        omega)
      have hend : ((c.skip (body word).length).skip (' ' :: b).length).skip
          ((body rest).length + 1) = c.skip ((body cs).length + 1) := by
        rw [Cursor.skip_skip, Cursor.skip_skip, hbody, List.length_append, List.length_append]
        simp only [Nat.add_assoc]
      rw [hend] at hread
      simp only [Bool.false_eq_true, ↓reduceIte, hsees, hgap, hread, Gap.folded, Bool.not_false]
      rw [hsplit]

theorem quoted_quoted {text : String} (h : IsPrintable text) {r : List Char} {c : Cursor}
    (hc : c.rest = SpecText.quoted text ++ r) :
    quoted '"' c = .ok (text.toList, c.skip (SpecText.quoted text).length) := by
  have hnext : (c.skip 1).rest = body text.toList ++ '"' :: r := by
    rw [Cursor.rest_skip, hc, quoted_append]
    rfl
  have hcolumn : (c.skip 1).column ≠ 0 := by
    rw [Cursor.column_skip]
    omega
  have hbudget : text.toList.length < c.rest.length + 1 := by
    have := length_le_length_body text.toList
    rw [hc, quoted_append, List.length_cons, List.length_append]
    omega
  have hlength : (SpecText.quoted text).length = 1 + ((body text.toList).length + 1) := by
    simp [SpecText.quoted, Nat.add_comm]
  rw [quoted, quotedWithin_body h hcolumn hnext hbudget, Cursor.skip_skip, hlength]

end SizeRequest.Yaml

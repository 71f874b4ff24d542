import SizeRequest.Proofs.Yaml.Step

namespace SizeRequest.Yaml

open SpecText

namespace Lexer

def outside (inBlock mayStartKey : Bool) (c : Cursor) (n : Nat) : Lexer where
  cursor := c
  margin := inBlock.toNat
  outerMargins := if inBlock then [0] else []
  mayStartKey := mayStartKey
  released := n

/-- Behind a key at the start of a line, which is held back. -/
def behindKey (inBlock : Bool) (key : List Char) (c : Cursor) (n : Nat) : Lexer :=
  { outside inBlock false (c.skip key.length) n with
    possible := some ⟨inBlock, n, c⟩
    held := [⟨.scalar key .plain, c.point⟩] }

theorem isShallow_outside {inBlock mayStartKey : Bool} {c : Cursor} {n : Nat} :
    (outside inBlock mayStartKey c n).IsShallow := isShallow_of_nil rfl

theorem isShallow_behindKey {inBlock : Bool} {key : List Char} {c : Cursor} {n : Nat} :
    (behindKey inBlock key c n).IsShallow := isShallow_of_nil rfl

theorem refresh_outside (inBlock mayStartKey : Bool) (c : Cursor) (n : Nat) :
    (outside inBlock mayStartKey c n).refresh = .ok (outside inBlock mayStartKey c n) :=
  refresh_of_none isShallow_outside rfl

theorem tokenAt_alphanum {l : Lexer} {x : Char} (hx : x.isAlphanum = true) {r : List Char}
    (hrest : l.cursor.rest = x :: r) : l.tokenAt x = l.plainScalar := by
  have hne (y : Char) (hy : y.isAlphanum = false) : x ≠ y := ne_of_isAlphanum hx hy
  have hink := isInk_of_isAlphanum hx
  have hsign : x ∉ signs := by
    have hnone : (signs.all fun y => !y.isAlphanum) = true := by decide
    intro hmem
    have hx' := List.all_eq_true.1 hnone x hmem
    rw [hx] at hx'
    cases hx'
  have hplain : l.startsPlain x = true := by simp [startsPlain, hink, hsign]
  have hdash : l.cursor.seesMarker '-' = false :=
    Cursor.seesMarker_of_head hrest (hne '-' rfl).symm
  have hdot : l.cursor.seesMarker '.' = false :=
    Cursor.seesMarker_of_head hrest (hne '.' rfl).symm
  simp [tokenAt, hdash, hdot, hplain, hne '%' rfl, hne '[' rfl, hne ']' rfl, hne '\x7b' rfl,
    hne '\x7d' rfl, hne ',' rfl, hne '-' rfl, hne '?' rfl, hne ':' rfl, hne '*' rfl, hne '&' rfl,
    hne '!' rfl, hne '|' rfl, hne '>' rfl, hne '\'' rfl, hne '"' rfl]

theorem isInk_key {key : List Char} (hkey : ∀ x ∈ key, x.isAlphanum = true) :
    ∀ x ∈ key, isInk x = true ∧ x ≠ ':' := by
  intro x hx
  refine ⟨isInk_of_isAlphanum (hkey x hx), ?_⟩
  rintro rfl
  cases hkey ':' hx

theorem plainScalar_key (inBlock : Bool) {key r : List Char} {c : Cursor} (n : Nat)
    (hkey : ∀ x ∈ key, x.isAlphanum = true) (hne : key ≠ []) (hcolumn : c.column = 0)
    (hrest : c.rest = key ++ ':' :: ' ' :: r) :
    (outside inBlock true c n).plainScalar = .ok (behindKey inBlock key c n) := by
  have hnote : (outside inBlock true c n).noteKey
      = .ok { outside inBlock true c n with possible := some ⟨inBlock, n, c⟩ } := by
    have hcolumn' : (outside inBlock true c n).cursor.column = 0 := hcolumn
    rw [noteKey, hcolumn']
    cases inBlock <;> rfl
  have hread : plain false inBlock.toNat c = .ok ((key, false), c.skip key.length) := by
    cases key with
    | nil => exact absurd rfl hne
    | cons x key =>
      have hx (y : Char) (hy : y.isAlphanum = false) : x ≠ y :=
        ne_of_isAlphanum (hkey x (.head _)) hy
      refine plain_key (isInk_key hkey) hne ?_ ?_ hrest inBlock.toNat_le
      · simpa using hx '#' rfl
      · exact Cursor.atDocumentMarker_of_head hrest (hx '-' rfl) (hx '.' rfl)
  rw [plainScalar, hnote]
  simp only [outside, inFlow, List.isEmpty_nil, Bool.not_true, hread]
  rfl

theorem refresh_behindKey (inBlock : Bool) {key : List Char} (hshort : key.length ≤ longestKey)
    (c : Cursor) (n : Nat) :
    (behindKey inBlock key c n).refresh = .ok (behindKey inBlock key c n) := by
  apply refresh_of_fresh isShallow_behindKey
  rintro k ⟨⟩
  simp [isStale, behindKey, outside]
  omega

theorem next_key {l : Lexer} {inBlock : Bool} {key r : List Char} {c : Cursor} {n : Nat}
    (h : l.Resumes (outside inBlock true c n)) (hkey : ∀ x ∈ key, x.isAlphanum = true)
    (hne : key ≠ []) (hcolumn : c.column = 0) (hrest : c.rest = key ++ ':' :: ' ' :: r) :
    l.next = .ok (behindKey inBlock key c n, false) := by
  have htoken := plainScalar_key inBlock n hkey hne hcolumn hrest
  cases key with
  | nil => exact absurd rfl hne
  | cons x key =>
    rw [next_of_skipSpace h.skipSpace (refresh_outside ..) inBlock.toNat_le hrest,
      tokenAt_alphanum (hkey x (.head _)) hrest, htoken]
    rfl

/-- A key at the start of a line is held back, if it is short enough. -/
theorem step_key {l : Lexer} {inBlock : Bool} {key r : List Char} {c : Cursor} {n : Nat}
    (h : l.Resumes (outside inBlock true c n)) (hkey : ∀ x ∈ key, x.isAlphanum = true)
    (hne : key ≠ []) (hshort : key.length ≤ longestKey) (hcolumn : c.column = 0)
    (hrest : c.rest = key ++ ':' :: ' ' :: r) : Step l [] (behindKey inBlock key c n) := by
  refine ⟨_, _, next_key h hkey hne hcolumn hrest, refresh_behindKey inBlock hshort c n,
    releaseFrom_of_possible rfl rfl _ _, Nat.lt_of_lt_of_le ?_ h.shorter⟩
  have hpos : 0 < key.length := List.length_pos_iff.2 hne
  simp only [behindKey, outside, Cursor.rest_skip, hrest, List.length_drop, List.length_append,
    List.length_cons]
  omega

theorem step_colon (inBlock : Bool) {key r : List Char} {c : Cursor} (n : Nat)
    (hshort : key.length ≤ longestKey) (hcolumn : c.column = 0) (hne : key ≠ [])
    (hrest : c.rest = key ++ ':' :: ' ' :: r) :
    ∃ ready m, Step (behindKey inBlock key c n) ready
        (outside true false (c.skip (key.length + 1)) m) ∧
      ready.map Token.kind
        = (if inBlock then [] else [.blockMappingStart]) ++ [.key, .scalar key .plain, .value] := by
  have hnext : (c.skip key.length).rest = ':' :: ' ' :: r := Cursor.rest_skip_length hrest
  have hpos : 0 < key.length := List.length_pos_iff.2 hne
  have hresumes : (behindKey inBlock key c n).Resumes (behindKey inBlock key c n) :=
    resumes_of_starts (starts_of_eq_cons hnext (by decide))
  have hspace : (c.skip key.length).spaceAt 1 = true := by
    rw [Cursor.spaceAt, hnext]
    rfl
  have hbehind : (c.skip key.length).column ≠ 0 := by
    rw [Cursor.column_skip]
    omega
  have hmarker := Cursor.seesMarker_of_column hbehind
  have htoken : (behindKey inBlock key c n).tokenAt ':' = (behindKey inBlock key c n).value := by
    simp [tokenAt, behindKey, outside, hspace, hmarker]
  let ready : List Token :=
    (if inBlock then [] else [⟨.blockMappingStart, c.point⟩]) ++
      [⟨.key, c.point⟩, ⟨.scalar key .plain, c.point⟩, ⟨.value, (c.skip key.length).point⟩]
  have hvalue : (behindKey inBlock key c n).value
      = .ok { outside true false (c.skip (key.length + 1)) n with held := ready } := by
    have hcolumn' : c.column = 0 := hcolumn
    cases inBlock <;>
      simp [value, behindKey, outside, openBlock, inFlow, hcolumn', emitSign, emit, advance,
        allowKey, ready]
  refine ⟨ready, n + ready.length, ?_, ?_⟩
  · refine hresumes.step_idle (refresh_behindKey inBlock hshort c n) inBlock.toNat_le
      hnext (htoken.trans hvalue) rfl (isShallow_of_nil rfl) ?_
    simp [outside, behindKey, hrest]
  · cases inBlock <;> rfl

theorem tokenAt_minus {l : Lexer} {d : Char} (hd : isInk d = true) {r : List Char}
    (hrest : l.cursor.rest = '-' :: d :: r) (hcolumn : l.cursor.column ≠ 0) :
    l.tokenAt '-' = l.plainScalar := by
  have hmarker := Cursor.seesMarker_of_column hcolumn
  have hspace : l.cursor.spaceAt 1 = false := by simp [Cursor.spaceAt, hrest, hd]
  have hblank : isBlank d = false := by
    rw [isInk, Bool.and_eq_true, Bool.not_eq_true'] at hd
    exact hd.1
  have hplain : l.startsPlain '-' = true := by simp [startsPlain, hrest, hblank]
  simp [tokenAt, hmarker, hspace, hplain]

theorem isInk_of_mem_decimal {n : Int} {x : Char} (h : x ∈ decimal n) :
    isInk x = true ∧ x ≠ ':' ∧ x ≠ '#' ∧ x ≠ '\ufeff' := by
  rcases mem_decimal x h with hdigit | rfl
  · have halnum : x.isAlphanum = true := by simp [Char.isAlphanum, hdigit]
    refine ⟨isInk_of_isAlphanum halnum, ?_, ?_, ?_⟩ <;> (rintro rfl; cases halnum)
  · decide

theorem step_decimal {n : Int} {r : List Char} {c : Cursor} {m : Nat}
    (hrest : c.rest = ' ' :: (decimal n ++ '\n' :: r)) (hr : ∀ x ∈ r.head?, isInk x = true) :
    ∃ t c', c'.rest = r ∧ c'.column = 0 ∧
      Step (outside true false c m) [t] (outside true true c' (m + 1)) ∧
      t.kind = .scalar (decimal n) .plain := by
  have hink : ∀ x ∈ decimal n, isInk x = true ∧ x ≠ ':' := fun x hx =>
    ⟨(isInk_of_mem_decimal hx).1, (isInk_of_mem_decimal hx).2.1⟩
  obtain ⟨x, cs, hdecimal, hx⟩ := decimal_eq_cons n
  have hhead := isInk_of_mem_decimal (n := n) (x := x) (by simp [hdecimal])
  have hstarts : Starts (decimal n ++ '\n' :: r) := by
    rw [hdecimal]
    rintro y ⟨⟩
    exact ⟨hhead.1, hhead.2.2⟩
  have hresumes : (outside true false c m).Resumes (outside true false (c.skip 1) m) :=
    resumes_blank hstarts hrest
  have hnext : (c.skip 1).rest = decimal n ++ '\n' :: r := by rw [Cursor.rest_skip, hrest]; rfl
  have hcolumn' : (c.skip 1).column ≠ 0 := by
    rw [Cursor.column_skip]
    omega
  have hread := plain_line hink (decimal_ne_nil n) (by simpa [hdecimal] using hhead.2.2.1)
    (Cursor.atDocumentMarker_of_column hcolumn') hnext hr
  rw [Cursor.skip_skip, Nat.add_comm 1] at hread
  have hscalar : (outside true false (c.skip 1) m).plainScalar =
      .ok { outside true true ((c.skip ((decimal n).length + 1)).nextLine 1) m with
        held := [⟨.scalar (decimal n) .plain, (c.skip 1).point⟩] } := by
    have hnote : (outside true false (c.skip 1) m).noteKey
        = .ok (outside true false (c.skip 1) m) := rfl
    rw [plainScalar, hnote]
    simp only [outside, inFlow, List.isEmpty_nil, Bool.not_true, Bool.toNat_true, hread]
    rfl
  have htoken : (outside true false (c.skip 1) m).tokenAt x
      = (outside true false (c.skip 1) m).plainScalar := by
    rw [hdecimal] at hnext
    rcases hx with hdigit | ⟨rfl, d, ds, rfl, hd⟩
    · exact tokenAt_alphanum (by simp [Char.isAlphanum, hdigit]) hnext
    · exact tokenAt_minus (isInk_of_isAlphanum (by simp [Char.isAlphanum, hd])) hnext hcolumn'
  rw [hdecimal] at hnext
  have hend : ((c.skip ((decimal n).length + 1)).nextLine 1).rest = r := by
    simp [Cursor.nextLine, hrest]
  refine ⟨_, _, hend, rfl, hresumes.step_idle (refresh_outside ..) (Nat.le_refl 1) hnext
    (htoken.trans hscalar) rfl (isShallow_of_nil rfl) ?_, rfl⟩
  simp only [outside, hend, hnext, List.cons_append, List.length_cons, List.length_append]
  omega

def inside (possible : Option PossibleKey) (mayStartKey : Bool) (held : List Token) (c : Cursor)
    (n : Nat) : Lexer where
  cursor := c
  margin := 1
  outerMargins := [0]
  mayStartKey := mayStartKey
  possible := possible
  outerPossible := [none]
  held := held
  released := n

theorem isShallow_inside {possible : Option PossibleKey} {mayStartKey : Bool} {held : List Token}
    {c : Cursor} {n : Nat} : (inside possible mayStartKey held c n).IsShallow := by
  rintro k (_ | ⟨_, ⟨⟩⟩)
  rfl

theorem refresh_inside_none (mayStartKey : Bool) (held : List Token) (c : Cursor) (n : Nat) :
    (inside none mayStartKey held c n).refresh = .ok (inside none mayStartKey held c n) :=
  refresh_of_none isShallow_inside rfl

theorem step_open {c : Cursor} {r : List Char} {m : Nat}
    (hrest : c.rest = ' ' :: '[' :: r) :
    ∃ t, Step (outside true false c m) [t] (inside none true [] (c.skip 2) (m + 1)) ∧
      t.kind = .flowSequenceStart := by
  have hstarts : Starts ('[' :: r) := starts_of_eq_cons rfl (by decide)
  have hresumes : (outside true false c m).Resumes (outside true false (c.skip 1) m) :=
    resumes_blank hstarts hrest
  have hnext : (c.skip 1).rest = '[' :: r := by rw [Cursor.rest_skip, hrest]; rfl
  have hmarker := Cursor.seesMarker_of_column (c := c.skip 1) (Nat.succ_ne_zero _)
  have htoken : (outside true false (c.skip 1) m).tokenAt '['
      = .ok (inside none true [⟨.flowSequenceStart, (c.skip 1).point⟩] (c.skip 2) m) := by
    have hopen : (outside true false (c.skip 1) m).tokenAt '['
        = (outside true false (c.skip 1) m).openFlow .flowSequenceStart := by
      simp [tokenAt, outside, hmarker]
    rw [hopen, ← Cursor.skip_skip c 1 1]
    rfl
  refine ⟨_, hresumes.step_idle (refresh_outside ..) (Nat.le_refl 1) hnext htoken rfl
    isShallow_inside ?_, rfl⟩
  simp [inside, outside, hrest]

/-- A string between brackets is held back as long as it may be a key, which a long one is not. -/
theorem step_quoted {l : Lexer} {text : String} {r : List Char} {c : Cursor} {n : Nat}
    (h : l.Resumes (inside none true [] c n)) (htext : IsPrintable text)
    (hrest : c.rest = SpecText.quoted text ++ r) :
    ∃ ready possible held c' m, c'.rest = r ∧ Step l ready (inside possible false held c' m) ∧
      (ready ++ held).map Token.kind = [.scalar text.toList .doubleQuoted] ∧
      (inside possible false held c' m).refresh = .ok (inside possible false held c' m) ∧
      ∀ k ∈ possible, k.isRequired = false := by
  have hread := quoted_quoted htext hrest
  have hnext : (c.skip (SpecText.quoted text).length).rest = r := Cursor.rest_skip_length hrest
  have hcons : c.rest = '"' :: (body text.toList ++ '"' :: r) := by rw [hrest, quoted_append]
  have hmarker (x : Char) (hx : x ≠ '"') : c.seesMarker x = false :=
    Cursor.seesMarker_of_head hcons hx
  let t : Token := ⟨.scalar text.toList .doubleQuoted, c.point⟩
  let k : PossibleKey := ⟨false, n, c⟩
  have htoken : (inside none true [] c n).tokenAt '"'
      = .ok (inside (some k) false [t] (c.skip (SpecText.quoted text).length) n) := by
    have hpart : (inside none true [] c n).tokenAt '"' = (inside none true [] c n).keyPart
        (fun l => quoted '"' l.cursor) (.scalar · .doubleQuoted) := by
      simp [tokenAt, inside, hmarker]
    have hnote : (inside none true [] c n).noteKey = .ok (inside (some k) true [] c n) := rfl
    rw [hpart, keyPart, hnote]
    simp only [scanned, inside, allowKey, hread]
    rfl
  have hshorter : (c.skip (SpecText.quoted text).length).rest.length < c.rest.length := by
    rw [hnext, hrest, List.length_append]
    simp [SpecText.quoted]
  by_cases hshort : (SpecText.quoted text).length ≤ longestKey
  · have hfresh : (inside (some k) false [t] (c.skip (SpecText.quoted text).length) n).refresh
        = .ok (inside (some k) false [t] (c.skip (SpecText.quoted text).length) n) := by
      apply refresh_of_fresh isShallow_inside
      rintro k ⟨⟩
      simp [isStale, inside, k]
      omega
    refine ⟨[], some k, [t], _, n, hnext, ?_, rfl, hfresh, ?_⟩
    · exact h.step (refresh_inside_none ..) (Nat.le_refl 1) hcons htoken hfresh
        (releaseFrom_of_possible rfl rfl _ _) hshorter
    · rintro k ⟨⟩
      rfl
  -- Too long for a key: the lexer gives the key up when it looks again, and releases the token.
  · have hstale : (inside (some k) false [t] (c.skip (SpecText.quoted text).length) n).refresh
        = .ok (inside none false [t] (c.skip (SpecText.quoted text).length) n) := by
      have hlong : (inside (some k) false [t] (c.skip (SpecText.quoted text).length) n).isStale k
          = true := by
        simp [isStale, inside, k]
        omega
      rw [refresh_of_stale isShallow_inside rfl hlong]
      rfl
    refine ⟨[t], none, [], _, n + 1, hnext, ?_, rfl, refresh_inside_none .., by simp⟩
    exact h.step (refresh_inside_none ..) (Nat.le_refl 1) hcons htoken hstale
      (releaseFrom_of_none isShallow_inside rfl _) hshorter

theorem dropKey_inside {possible : Option PossibleKey} {mayStartKey : Bool} {held : List Token}
    {c : Cursor} {n : Nat} (hkey : ∀ k ∈ possible, k.isRequired = false) :
    (inside possible mayStartKey held c n).dropKey = .ok (inside none mayStartKey held c n) := by
  cases possible with
  | none => rfl
  | some k =>
    rw [dropKey]
    simp only [inside, hkey k rfl, Bool.false_eq_true, ↓reduceIte]

theorem step_comma {possible : Option PossibleKey} {held : List Token} {c : Cursor} {n : Nat}
    {r : List Char} (hfresh : (inside possible false held c n).refresh
      = .ok (inside possible false held c n)) (hkey : ∀ k ∈ possible, k.isRequired = false)
    (hrest : c.rest = ',' :: r) :
    ∃ t c' m, c'.rest = r ∧
      Step (inside possible false held c n) (held ++ [t]) (inside none true [] c' m) ∧
      t.kind = .flowEntry := by
  have hresumes : (inside possible false held c n).Resumes (inside possible false held c n) :=
    resumes_of_starts (starts_of_eq_cons hrest (by decide))
  have hmarker (x : Char) (hx : x ≠ ',') : c.seesMarker x = false :=
    Cursor.seesMarker_of_head hrest hx
  have htoken : (inside possible false held c n).tokenAt ','
      = .ok (inside none true (held ++ [⟨.flowEntry, c.point⟩]) (c.skip 1) n) := by
    have hcomma : (inside possible false held c n).tokenAt ','
        = (inside possible false held c n).flowEntry := by
      simp [tokenAt, inside, hmarker]
    rw [hcomma, flowEntry, dropKey_inside hkey]
    rfl
  have hnext : (c.skip 1).rest = r := by rw [Cursor.rest_skip, hrest]; rfl
  refine ⟨⟨.flowEntry, c.point⟩, _, _, hnext,
    hresumes.step_idle hfresh (Nat.le_refl 1) hrest htoken rfl isShallow_inside ?_, rfl⟩
  simp [inside, hrest]

theorem step_close {l : Lexer} {possible : Option PossibleKey} {mayStartKey : Bool}
    {held : List Token} {c : Cursor} {n : Nat} {r : List Char}
    (h : l.Resumes (inside possible mayStartKey held c n))
    (hfresh : (inside possible mayStartKey held c n).refresh
      = .ok (inside possible mayStartKey held c n)) (hkey : ∀ k ∈ possible, k.isRequired = false)
    (hrest : c.rest = ']' :: r) :
    ∃ t c' m, c'.rest = r ∧ Step l (held ++ [t]) (outside true false c' m) ∧
      t.kind = .flowSequenceEnd := by
  have hmarker (x : Char) (hx : x ≠ ']') : c.seesMarker x = false :=
    Cursor.seesMarker_of_head hrest hx
  have htoken : (inside possible mayStartKey held c n).tokenAt ']'
      = .ok { outside true false (c.skip 1) n with
        held := held ++ [⟨.flowSequenceEnd, c.point⟩] } := by
    have hclose : (inside possible mayStartKey held c n).tokenAt ']'
        = (inside possible mayStartKey held c n).closeFlow .flowSequenceEnd := by
      simp [tokenAt, inside, hmarker]
    rw [hclose, closeFlow, dropKey_inside hkey]
    rfl
  have hnext : (c.skip 1).rest = r := by rw [Cursor.rest_skip, hrest]; rfl
  refine ⟨⟨.flowSequenceEnd, c.point⟩, _, _, hnext,
    h.step_idle hfresh (Nat.le_refl 1) hrest htoken rfl (isShallow_of_nil rfl) ?_, rfl⟩
  simp [outside, inside, hrest]

def listedKinds : List String → List TokenKind
  | [] => []
  | text :: rest => .scalar text.toList .doubleQuoted ::
      rest.flatMap fun text => [.flowEntry, .scalar text.toList .doubleQuoted]

theorem run_listed {texts : List String} (htexts : ∀ text ∈ texts, IsPrintable text)
    {l : Lexer} {c : Cursor} {n : Nat} {r : List Char} (h : l.Resumes (inside none true [] c n))
    (hrest : c.rest = listed (texts.map SpecText.quoted) ++ ']' :: r) :
    ∃ c' m, c'.rest = r ∧
      Run l (listedKinds texts ++ [.flowSequenceEnd]) (outside true false c' m) := by
  induction texts generalizing l c n with
  | nil =>
    obtain ⟨t, c', m, hrest', hstep, ht⟩ :=
      step_close h (refresh_inside_none ..) (by simp) hrest
    have hrun := hstep.run
    rw [List.nil_append, List.map_singleton, ht] at hrun
    exact ⟨c', m, hrest', hrun⟩
  | cons text texts ih =>
    rw [List.map_cons, listed, List.append_assoc] at hrest
    obtain ⟨ready, possible, held, d, k, hbehind, hstep, hkinds, hfresh, hkey⟩ :=
      step_quoted h (htexts text (.head _)) hrest
    -- Whether the string was held back or not, its token comes out in front of the sign behind it.
    have hpair (t : Token) : ready.map Token.kind ++ (held ++ [t]).map Token.kind
        = [.scalar text.toList .doubleQuoted, t.kind] := by
      rw [List.map_append, ← List.append_assoc, ← List.map_append, hkinds]
      rfl
    cases texts with
    | nil =>
      have hstarts : Starts d.rest := starts_of_eq_cons hbehind (by decide)
      obtain ⟨t, c', m, hrest', hclose, ht⟩ :=
        step_close (resumes_of_starts hstarts) hfresh hkey hbehind
      have hrun := Run.step hstep hclose.run
      rw [hpair, ht] at hrun
      exact ⟨c', m, hrest', hrun⟩
    | cons next texts =>
      have hcons : d.rest = ',' :: ' ' :: (listed ((next :: texts).map SpecText.quoted) ++ ']' :: r)
          := by simp [hbehind, following, listed]
      obtain ⟨t, e, m, hblank, hcomma, ht⟩ := step_comma hfresh hkey hcons
      have hstarts : Starts (listed ((next :: texts).map SpecText.quoted) ++ ']' :: r) :=
        starts_of_eq_cons rfl (by decide)
      have hresumes : (inside none true [] e m).Resumes (inside none true [] (e.skip 1) m) :=
        resumes_blank hstarts hblank
      obtain ⟨c', m', hrest', hrun⟩ := ih (fun t ht => htexts t (.tail _ ht)) hresumes
        (by rw [Cursor.rest_skip, hblank]; rfl)
      have hall := (Run.step hstep hcomma.run).trans hrun
      rw [hpair, ht] at hall
      exact ⟨c', m', hrest', hall⟩

end Lexer

end SizeRequest.Yaml

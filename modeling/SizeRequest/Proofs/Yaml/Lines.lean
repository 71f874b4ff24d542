import SizeRequest.Proofs.Yaml.Tokens

namespace SizeRequest.Yaml

open SpecText

def contentKinds : Content → List TokenKind
  | .texts texts => .flowSequenceStart :: (Lexer.listedKinds texts ++ [.flowSequenceEnd])
  | .integer n => [.scalar (decimal n) .plain]

def memberKinds (m : Member) : List TokenKind :=
  [.key, .scalar m.key.toList .plain, .value] ++ contentKinds m.content

/-- A key that can be told to be one. -/
def IsShort (m : Member) : Prop := m.key.toList.length ≤ longestKey

theorem key_ne_nil (m : Member) : m.key.toList ≠ [] := by
  obtain ⟨c, rest, hkey, -⟩ := m.isIdentifier
  rw [hkey]
  exact List.cons_ne_nil c rest

namespace Lexer

/-- A lexer in front of a line, whether the mapping has begun or not. -/
def AtLine (inBlock : Bool) (text : List Char) (l : Lexer) : Prop :=
  ∃ c n, l.Resumes (outside inBlock true c n) ∧ c.column = 0 ∧ c.rest = text

theorem AtLine.length_le {inBlock : Bool} {text : List Char} {l : Lexer}
    (h : AtLine inBlock text l) : text.length ≤ l.cursor.rest.length := by
  obtain ⟨c, n, hresumes, -, hrest⟩ := h
  rw [← hrest]
  exact hresumes.shorter

theorem starts_alphanum {x : Char} (hx : x.isAlphanum = true) (r : List Char) :
    Starts (x :: r) :=
  starts_of_eq_cons rfl
    ⟨isInk_of_isAlphanum hx, ne_of_isAlphanum hx rfl, ne_of_isAlphanum hx rfl⟩

theorem yamlLine_append (m : Member) (r : List Char) :
    yamlLine m ++ r = m.key.toList ++ ':' :: ' ' :: (content m.content ++ '\n' :: r) := by
  simp [yamlLine]

theorem starts_yamlLine (m : Member) (r : List Char) : Starts (yamlLine m ++ r) := by
  have halnum := m.isIdentifier.isAlphanum
  obtain ⟨c, rest, hkey, -⟩ := m.isIdentifier
  rw [hkey] at halnum
  rw [yamlLine, hkey]
  exact starts_alphanum (halnum c (.head _)) _

theorem starts_yaml (ms : List Member) {r : List Char} (hr : Starts r) : Starts (yaml ms ++ r) := by
  cases ms with
  | nil => exact hr
  | cons m ms =>
    rw [yaml, List.flatMap_cons, List.append_assoc]
    exact starts_yamlLine m _

theorem run_content {m : Member} {c : Cursor} {n : Nat} {r : List Char} (hr : Starts r)
    (hrest : c.rest = ' ' :: (content m.content ++ '\n' :: r)) :
    ∃ l', Run (outside true false c n) (contentKinds m.content) l' ∧ AtLine true r l' := by
  cases hcontent : m.content with
  | integer k =>
    rw [hcontent] at hrest
    obtain ⟨t, c', hrest', hcolumn, hstep, ht⟩ :=
      step_decimal (m := n) hrest fun x hx => (hr x hx).1
    have hrun := hstep.run
    rw [List.map_singleton, ht] at hrun
    exact ⟨_, hrun, c', n + 1, resumes_of_starts (hrest'.symm ▸ hr), hcolumn, hrest'⟩
  | texts texts =>
    have hopen : c.rest =
        ' ' :: '[' :: (listed (texts.map SpecText.quoted) ++ ']' :: '\n' :: r) := by
      rw [hrest, hcontent]
      simp [content]
    obtain ⟨t, hstep, ht⟩ := step_open (m := n) hopen
    have hstarts : Starts (listed (texts.map SpecText.quoted) ++ ']' :: '\n' :: r) := by
      cases texts <;> exact starts_of_eq_cons rfl (by decide)
    have hinside : (c.skip 2).rest = listed (texts.map SpecText.quoted) ++ ']' :: '\n' :: r := by
      rw [Cursor.rest_skip, hopen]
      rfl
    have hresumes : (inside none true [] (c.skip 2) (n + 1)).Resumes
        (inside none true [] (c.skip 2) (n + 1)) := resumes_of_starts (hinside.symm ▸ hstarts)
    obtain ⟨c', k, hrest', hrun⟩ := run_listed (m.isPrintable texts hcontent) hresumes hinside
    have hall := hstep.run.trans hrun
    rw [List.map_singleton, ht] at hall
    exact ⟨_, hall, c'.nextLine 1, k, resumes_newline hr hrest', rfl, by
      rw [Cursor.nextLine, hrest']
      rfl⟩

theorem run_line {m : Member} (hshort : IsShort m) {inBlock : Bool} {l : Lexer} {r : List Char}
    (hr : Starts r) (h : AtLine inBlock (yamlLine m ++ r) l) :
    ∃ l', Run l ((if inBlock then [] else [.blockMappingStart]) ++ memberKinds m) l' ∧
      AtLine true r l' := by
  obtain ⟨c, n, hresumes, hcolumn, hrest⟩ := h
  have hkey := hrest.trans (yamlLine_append m r)
  have hstep := step_key hresumes m.isIdentifier.isAlphanum (key_ne_nil m) hshort hcolumn hkey
  obtain ⟨ready, k, hcolon, hready⟩ :=
    step_colon inBlock n hshort hcolumn (key_ne_nil m) hkey
  have hbehind : (c.skip (m.key.toList.length + 1)).rest
      = ' ' :: (content m.content ++ '\n' :: r) := by
    rw [← Cursor.skip_skip, Cursor.rest_skip, Cursor.rest_skip_length hkey]
    rfl
  obtain ⟨l', hrun, hline⟩ := run_content hr hbehind
  refine ⟨l', ?_, hline⟩
  have hall := Run.step hstep (Run.step hcolon hrun)
  rw [hready] at hall
  simpa [memberKinds] using hall

theorem run_lines {ms : List Member} (hshort : ∀ m ∈ ms, IsShort m) {l : Lexer} {r : List Char}
    (hr : Starts r) (h : AtLine true (yaml ms ++ r) l) :
    ∃ l', Run l (ms.flatMap memberKinds) l' ∧ AtLine true r l' := by
  induction ms generalizing l with
  | nil => exact ⟨l, .refl, h⟩
  | cons m ms ih =>
    rw [yaml, List.flatMap_cons, List.append_assoc] at h
    obtain ⟨next, hline, hnext⟩ := run_line (hshort m (.head _)) (starts_yaml _ hr) h
    obtain ⟨l', hrun, hend⟩ := ih (fun m' hm => hshort m' (.tail _ hm)) hnext
    exact ⟨l', hline.trans hrun, hend⟩

theorem tokensWithin_end {l : Lexer} (h : AtLine true [] l) (budget : Nat) :
    ∃ tokens, l.tokensWithin (budget + 1) = (tokens, none) ∧
      tokens.map Token.kind = [.blockEnd, .streamEnd] := by
  obtain ⟨c, n, hresumes, hcolumn, hrest⟩ := h
  let last : Lexer :=
    { outside false false c n with held := [⟨.blockEnd, c.point⟩, ⟨.streamEnd, c.point⟩] }
  have hshallow : last.IsShallow := isShallow_of_nil rfl
  have hnext : l.next = .ok (last, true) := by
    have hstream : (outside true true c n).endStream = .ok last := by
      have hcolumn' : (outside true true c n).cursor.column = 0 := hcolumn
      rw [endStream, hcolumn']
      rfl
    have hclose : (outside true true c n).closeBlocks ((outside true true c n).cursor.column + 1)
        = outside true true c n := closeBlocks_of_margin_le _ (Nat.le_add_left 1 _)
    have hpeek : (outside true true c n).cursor.rest = [] := hrest
    rw [next, hresumes.skipSpace, refresh_outside]
    simp only [hclose, Cursor.peek?, hpeek, List.head?_nil, hstream]
    rfl
  rw [tokensWithin, hnext]
  simp only [refresh_of_none hshallow rfl, releaseFrom_of_none hshallow rfl]
  exact ⟨_, rfl, rfl⟩

theorem tokensWithin_misplaced {c : Cursor} {n : Nat} {r : List Char} (hcolumn : c.column ≠ 0)
    (hrest : c.rest = ':' :: ' ' :: r) (budget : Nat) :
    (outside false false c n).tokensWithin (budget + 1)
      = ([], some (.malformed .valueMisplaced c.point)) := by
  have hstarts : Starts (outside false false c n).cursor.rest :=
    starts_of_eq_cons hrest (by decide)
  have hmarker := Cursor.seesMarker_of_column hcolumn
  have hspace : c.spaceAt 1 = true := by
    rw [Cursor.spaceAt, hrest]
    rfl
  have htoken : (outside false false c n).tokenAt ':' = (outside false false c n).value := by
    simp [tokenAt, outside, hspace, hmarker]
  rw [tokensWithin, next_of_skipSpace (skipSpace_of_starts hstarts) (refresh_outside ..)
    (Nat.zero_le 1) hrest, htoken]
  rfl

theorem tokensWithin_long {m : Member} (hlong : ¬ IsShort m) {inBlock : Bool} {l : Lexer}
    {r : List Char} (h : AtLine inBlock (yamlLine m ++ r) l) (budget : Nat) :
    ∃ tokens fault, l.tokensWithin (budget + 2) = (tokens, some fault) ∧
      tokens.map Token.kind = if inBlock then [] else [.scalar m.key.toList .plain] := by
  obtain ⟨c, n, hresumes, hcolumn, hrest⟩ := h
  have hkey := hrest.trans (yamlLine_append m r)
  have hnext := next_key hresumes m.isIdentifier.isAlphanum (key_ne_nil m) hcolumn hkey
  have hstale : (behindKey inBlock m.key.toList c n).isStale ⟨inBlock, n, c⟩ = true := by
    have hlong' : longestKey < m.key.toList.length := by
      rw [IsShort] at hlong
      omega
    simp [isStale, behindKey, outside]
    omega
  have hrefresh := refresh_of_stale isShallow_behindKey rfl hstale
  -- In a mapping the key is required, so giving it up is the fault. In front of one it only stays a
  -- scalar, and the colon behind it is the fault.
  cases inBlock with
  | true =>
    rw [tokensWithin, hnext]
    simp only [hrefresh]
    exact ⟨[], _, rfl, rfl⟩
  | false =>
    have hbehind : (c.skip m.key.toList.length).rest
        = ':' :: ' ' :: (content m.content ++ '\n' :: r) := Cursor.rest_skip_length hkey
    have hpos : 0 < m.key.toList.length := List.length_pos_iff.2 (key_ne_nil m)
    have hshorter : (c.skip m.key.toList.length).rest.length < c.rest.length := by
      rw [hbehind, hkey, List.length_append]
      omega
    have hidle : ({ behindKey false m.key.toList c n with possible := none } : Lexer).IsShallow :=
      isShallow_of_nil rfl
    have hstep : Step l [⟨.scalar m.key.toList .plain, c.point⟩]
        (outside false false (c.skip m.key.toList.length) (n + 1)) :=
      ⟨_, _, hnext, hrefresh, releaseFrom_of_none hidle rfl _,
        Nat.lt_of_lt_of_le hshorter hresumes.shorter⟩
    have hfault := tokensWithin_misplaced (n := n + 1) (by simp [Nat.ne_of_gt hpos]) hbehind budget
    rw [hstep.tokensWithin, hfault]
    exact ⟨_, _, rfl, rfl⟩

theorem run_block {ms : List Member} (hne : ms ≠ []) (hshort : ∀ m ∈ ms, IsShort m) {l : Lexer}
    {r : List Char} (hr : Starts r) (h : AtLine false (yaml ms ++ r) l) :
    ∃ l', Run l (.blockMappingStart :: ms.flatMap memberKinds) l' ∧ AtLine true r l' := by
  cases ms with
  | nil => exact absurd rfl hne
  | cons m ms =>
    rw [yaml, List.flatMap_cons, List.append_assoc] at h
    obtain ⟨next, hline, hnext⟩ := run_line (hshort m (.head _)) (starts_yaml _ hr) h
    obtain ⟨l', hrun, hend⟩ := run_lines (fun m' hm => hshort m' (.tail _ hm)) hr hnext
    exact ⟨l', hline.trans hrun, hend⟩

theorem atLine_start {text : List Char} (h : Starts text) :
    AtLine false text { cursor := ⟨text, 0, {}⟩ } :=
  ⟨⟨text, 0, {}⟩, 0, resumes_of_starts h, rfl, rfl⟩

end Lexer

theorem forbidden?_yaml (ms : List Member) : forbidden? (yaml ms) = none := by
  have hprintable {c : Char} (h : 0x20 ≤ c.toNat ∧ c.toNat ≤ 0x7e) : isAllowed c = true := by
    simp [isAllowed, h]
  have hall : ∀ c ∈ yaml ms, isAllowed c = true := by
    intro c hc
    simp only [yaml, List.mem_flatMap, yamlLine, List.mem_append, List.mem_cons,
      List.not_mem_nil, or_false] at hc
    obtain ⟨m, -, (((hc | rfl | rfl) | hc) | rfl)⟩ := hc
    · exact hprintable (m.isIdentifier.isPrintable c hc)
    · decide
    · decide
    · exact hprintable (mem_content m c hc)
    · decide
  rw [forbidden?, List.dropWhile_eq_nil_iff.2 hall]

theorem tokens_yaml {ms : List Member} (hne : ms ≠ []) (hshort : ∀ m ∈ ms, IsShort m) :
    ∃ ts, tokens (yaml ms) = (ts, none) ∧
      ts.map Token.kind
        = .blockMappingStart :: (ms.flatMap memberKinds ++ [.blockEnd, .streamEnd]) := by
  have hend : Lexer.Starts [] := fun _ h => nomatch h
  have hstart := Lexer.atLine_start (Lexer.starts_yaml ms hend)
  obtain ⟨l', hrun, hline⟩ := Lexer.run_block hne hshort hend hstart
  rw [List.append_nil] at hrun
  obtain ⟨ready, budget, hready, hbudget, htokens⟩ :=
    hrun.tokensWithin (show (yaml ms).length < (yaml ms).length + 2 by omega)
  obtain ⟨budget, rfl⟩ := Nat.exists_eq_add_one_of_ne_zero (Nat.ne_zero_of_lt hbudget)
  obtain ⟨last, hlast, hkinds⟩ := Lexer.tokensWithin_end hline budget
  refine ⟨ready ++ last, ?_, by rw [List.map_append, hready, hkinds, List.cons_append]⟩
  rw [tokens, forbidden?_yaml]
  simp only [htokens, hlast]

theorem tokens_yaml_long {first : List Member} (hfirst : ∀ m ∈ first, IsShort m) {m : Member}
    (hm : ¬ IsShort m) (rest : List Member) :
    ∃ ts fault, tokens (yaml (first ++ m :: rest)) = (ts, some fault) ∧
      ts.map Token.kind = if first = [] then [.scalar m.key.toList .plain]
        else .blockMappingStart :: first.flatMap memberKinds := by
  have htext : yaml (first ++ m :: rest) = yaml first ++ (yamlLine m ++ yaml rest) := by
    simp [yaml]
  have hline : Lexer.Starts (yamlLine m ++ yaml rest) := Lexer.starts_yamlLine m _
  have hstart := Lexer.atLine_start (Lexer.starts_yaml first hline)
  rw [tokens, forbidden?_yaml, htext]
  by_cases hne : first = []
  · subst hne
    obtain ⟨ts, fault, htokens, hkinds⟩ := Lexer.tokensWithin_long hm hstart
      (yamlLine m ++ yaml rest).length
    exact ⟨ts, fault, htokens, hkinds⟩
  · obtain ⟨l', hrun, hnext⟩ := Lexer.run_block hne hfirst hline hstart
    have hpast (text : List Char) : text.length < text.length + 2 := by omega
    obtain ⟨ready, budget, hready, hbudget, htokens⟩ := hrun.tokensWithin (hpast _)
    have hpos := hnext.length_le
    obtain ⟨budget, rfl⟩ : ∃ n, budget = n + 2 := ⟨budget - 2, by
      rw [yamlLine] at hpos
      simp only [List.length_append, List.length_cons] at hpos
      omega⟩
    obtain ⟨last, fault, hlast, hkinds⟩ := Lexer.tokensWithin_long hm hnext budget
    refine ⟨ready ++ last, fault, ?_, ?_⟩
    · simp only [htokens, hlast]
    · rw [List.map_append, hready, hkinds, if_pos rfl, if_neg hne, List.append_nil]

end SizeRequest.Yaml

import SizeRequest.Proofs.Yaml.Text
import SizeRequest.Yaml.Token.Stream

namespace SizeRequest.Yaml

namespace Lexer

/-- The next token is read, and some tokens need not be held back any longer. -/
def Step (l : Lexer) (ready : List Token) (l' : Lexer) : Prop :=
  ∃ m m', l.next = .ok (m, false) ∧ m.refresh = .ok m' ∧ m'.releaseFrom m'.held = (ready, l') ∧
    l'.cursor.rest.length < l.cursor.rest.length

inductive Run : Lexer → List TokenKind → Lexer → Prop
  | refl {l : Lexer} : Run l [] l
  | step {l m l' : Lexer} {ready : List Token} {kinds : List TokenKind} :
      Step l ready m → Run m kinds l' → Run l (ready.map Token.kind ++ kinds) l'

theorem Step.shorter {l l' : Lexer} {ready : List Token} (h : Step l ready l') :
    l'.cursor.rest.length < l.cursor.rest.length := by
  obtain ⟨-, -, -, -, -, hshorter⟩ := h
  exact hshorter

theorem Step.tokensWithin {l l' : Lexer} {ready : List Token} (h : Step l ready l')
    (budget : Nat) : l.tokensWithin (budget + 1)
      = (ready ++ (l'.tokensWithin budget).1, (l'.tokensWithin budget).2) := by
  obtain ⟨next, fresh, hnext, hfresh, hrelease, -⟩ := h
  rw [Lexer.tokensWithin, hnext]
  simp only [hfresh, hrelease, Bool.false_eq_true, ↓reduceIte]

theorem Step.run {l l' : Lexer} {ready : List Token} (h : Step l ready l') :
    Run l (ready.map Token.kind) l' := by
  have hrun := Run.step h .refl
  rwa [List.append_nil] at hrun

theorem Run.trans {l m l' : Lexer} {kinds kinds' : List TokenKind} (h : Run l kinds m)
    (h' : Run m kinds' l') : Run l (kinds ++ kinds') l' := by
  induction h with
  | refl => exact h'
  | step hs _ ih =>
    rw [List.append_assoc]
    exact .step hs (ih h')

theorem Run.tokensWithin {l l' : Lexer} {kinds : List TokenKind} (h : Run l kinds l')
    {budget : Nat} (hbudget : l.cursor.rest.length < budget) :
    ∃ ready rest, ready.map Token.kind = kinds ∧ l'.cursor.rest.length < rest ∧
      l.tokensWithin budget = (ready ++ (l'.tokensWithin rest).1, (l'.tokensWithin rest).2) := by
  induction h generalizing budget with
  | refl => exact ⟨[], budget, rfl, hbudget, rfl⟩
  | @step l m l' ready kinds hs _ ih =>
    have hshorter := hs.shorter
    obtain ⟨budget, rfl⟩ := Nat.exists_eq_add_one_of_ne_zero (Nat.ne_zero_of_lt hbudget)
    have hleft : m.cursor.rest.length < budget := by omega
    obtain ⟨tokens, rest, hkinds, hrest, htokens⟩ := ih hleft
    refine ⟨ready ++ tokens, rest, by rw [List.map_append, hkinds], hrest, ?_⟩
    rw [hs.tokensWithin, htokens, List.append_assoc]

/-- No brackets are open, or one whose surroundings are no key. -/
def IsShallow (l : Lexer) : Prop := ∀ k ∈ l.outerPossible, k = none

theorem isShallow_of_nil {l : Lexer} (h : l.outerPossible = []) : l.IsShallow := by
  rw [IsShallow, h]
  exact List.forall_mem_nil _

theorem mapM_refreshed {l : Lexer} {outer : List (Option PossibleKey)}
    (h : ∀ k ∈ outer, k = none) : outer.mapM l.refreshed = .ok outer := by
  induction outer with
  | nil => rfl
  | cons k outer ih =>
    obtain rfl := h k (.head _)
    rw [List.mapM_cons, ih fun k hk => h k (.tail _ hk)]
    rfl

theorem refresh_of_isShallow {l : Lexer} (hl : l.IsShallow) :
    l.refresh = (l.refreshed l.possible).map fun possible => { l with possible := possible } := by
  have houter : l.outerPossible.reverse.mapM l.refreshed = .ok l.outerPossible.reverse :=
    mapM_refreshed fun k hk => hl k (List.mem_reverse.1 hk)
  rw [refresh, houter]
  cases l.refreshed l.possible with
  | error fault => rfl
  | ok possible => simp [Except.map]

theorem refresh_of_fresh {l : Lexer} (hl : l.IsShallow)
    (hfresh : ∀ k ∈ l.possible, l.isStale k = false) : l.refresh = .ok l := by
  have hpossible : l.refreshed l.possible = .ok l.possible := by
    cases hk : l.possible with
    | none => rfl
    | some k =>
      rw [refreshed, hfresh k hk]
      rfl
  rw [refresh_of_isShallow hl, hpossible]
  rfl

theorem refresh_of_none {l : Lexer} (hl : l.IsShallow) (hnone : l.possible = none) :
    l.refresh = .ok l := by
  apply refresh_of_fresh hl
  intro k hk
  rw [hnone] at hk
  cases hk

theorem refresh_of_stale {l : Lexer} (hl : l.IsShallow) {k : PossibleKey}
    (hk : l.possible = some k) (hstale : l.isStale k = true) :
    l.refresh = if k.isRequired then k.start.fail .keyWithoutColon
      else .ok { l with possible := none } := by
  rw [refresh_of_isShallow hl, hk, refreshed, hstale]
  cases k.isRequired <;> rfl

theorem isPossible_eq_false {l : Lexer} (hl : l.IsShallow) (hnone : l.possible = none)
    (number : Nat) : l.isPossible number = false := by
  rw [isPossible, hnone, List.any_eq_false]
  rintro k (_ | ⟨_, hk⟩)
  · exact Bool.false_ne_true
  · rw [hl k hk]
    exact Bool.false_ne_true

theorem releaseFrom_of_none {l : Lexer} (hl : l.IsShallow) (hnone : l.possible = none)
    (held : List Token) :
    l.releaseFrom held = (held, { l with held := [], released := l.released + held.length }) := by
  induction held generalizing l with
  | nil => rfl
  | cons t held ih =>
    rw [releaseFrom, isPossible_eq_false hl hnone, if_neg Bool.false_ne_true]
    have hrest := ih (l := { l with released := l.released + 1 }) hl hnone
    have hcount : l.released + 1 + held.length = l.released + (t :: held).length := by
      rw [List.length_cons]
      omega
    simp only [hrest, hcount]

theorem releaseFrom_of_possible {l : Lexer} {k : PossibleKey} (hk : l.possible = some k)
    (hnumber : k.number = l.released) (t : Token) (held : List Token) :
    l.releaseFrom (t :: held) = ([], { l with held := t :: held }) := by
  have hpossible : l.isPossible l.released = true := by
    simp [isPossible, hk, hnumber]
  rw [releaseFrom, if_pos hpossible]

/-- A text starts with a token, or is at its end. -/
def Starts (r : List Char) : Prop := ∀ x ∈ r.head?, isInk x = true ∧ x ≠ '#' ∧ x ≠ '\ufeff'

theorem starts_of_eq_cons {s r : List Char} {x : Char} (h : s = x :: r)
    (hx : isInk x = true ∧ x ≠ '#' ∧ x ≠ '\ufeff') : Starts s := by
  subst h
  rintro y ⟨⟩
  exact hx

theorem lineEnd_of_starts {c : Cursor} (h : Starts c.rest) : c.lineEnd = ([], c) := by
  rw [Cursor.lineEnd]
  cases hrest : c.rest with
  | nil => rfl
  | cons x r =>
    have hink := (h x (by rw [hrest]; rfl)).1
    have hbreak : isBreak x = false := by
      rw [isInk, Bool.and_eq_true, Bool.not_eq_true', Bool.not_eq_true'] at hink
      exact hink.2
    split
    next heq => cases (List.cons.inj heq).1; cases hbreak
    next heq => cases (List.cons.inj heq).1; cases hbreak
    next heq => cases (List.cons.inj heq).1; cases hbreak
    next heq => rw [← (List.cons.inj heq).1, hbreak]; rfl
    next heq => cases heq

theorem not_starts_sees {r : List Char} (hr : Starts r) {y : Char}
    (hy : ∀ x, isInk x = true ∧ x ≠ '#' ∧ x ≠ '\ufeff' → x ≠ y) : (r.head? == some y) = false := by
  rw [beq_eq_false_iff_ne]
  exact fun hhead => hy y (hr y hhead) rfl

theorem skipSpaceWithin_blanks {l : Lexer} {b r : List Char} (hb : ∀ x ∈ b, x = ' ')
    (hr : Starts r) (hrest : l.cursor.rest = b ++ r) (budget : Nat) :
    l.skipSpaceWithin (budget + 1) = l.advance (l.cursor.skip b.length) := by
  have hmark : l.cursor.sees '\ufeff' = false := by
    rw [Cursor.sees, Cursor.peek?, hrest]
    cases b with
    | nil => exact not_starts_sees hr fun x hx => hx.2.2
    | cons y b =>
      rw [hb y (.head _)]
      rfl
  have hrun : l.cursor.run (fun x => x == ' ' || (x == '\t' && (l.inFlow || !l.mayStartKey)))
      = b := by
    rw [Cursor.run, hrest, List.takeWhile_append_of_pos (by
      intro x hx
      simp [hb x hx])]
    cases r with
    | nil => simp
    | cons x r =>
      have hink := (hr x rfl).1
      simp only [isInk, isBlank, Bool.and_eq_true, Bool.not_eq_true', Bool.or_eq_false_iff] at hink
      simp [hink.1.1, hink.1.2]
  have hnext : (l.cursor.skip b.length).rest = r := Cursor.rest_skip_length hrest
  have hcomment : (l.cursor.skip b.length).sees '#' = false := by
    rw [Cursor.sees, Cursor.peek?, hnext]
    exact not_starts_sees hr fun x hx => hx.2.1
  have hline := lineEnd_of_starts (hnext ▸ hr)
  simp only [skipSpaceWithin, hmark, Bool.and_false, Bool.false_eq_true, ↓reduceIte,
    Cursor.skipRun, hrun, hcomment, hline, List.isEmpty_nil]

theorem skipSpace_of_starts {l : Lexer} (h : Starts l.cursor.rest) : l.skipSpace = l := by
  rw [skipSpace, skipSpaceWithin_blanks (b := []) (List.forall_mem_nil _) h rfl]
  rfl

theorem skipSpace_blank {l : Lexer} {r : List Char} (hr : Starts r)
    (hrest : l.cursor.rest = ' ' :: r) : l.skipSpace = l.advance (l.cursor.skip 1) := by
  rw [skipSpace, skipSpaceWithin_blanks (b := [' ']) (by simp) hr hrest]
  rfl

theorem skipSpace_newline {l : Lexer} {r : List Char} (hr : Starts r)
    (hrest : l.cursor.rest = '\n' :: r) :
    l.skipSpace = (l.allowKey (l.mayStartKey || !l.inFlow)).advance (l.cursor.nextLine 1) := by
  have hmark : l.cursor.sees '\ufeff' = false := by
    simp [Cursor.sees, Cursor.peek?, hrest]
  have hrun : l.cursor.run (fun x => x == ' ' || (x == '\t' && (l.inFlow || !l.mayStartKey)))
      = [] := by
    rw [Cursor.run, hrest]
    rfl
  have hcomment : l.cursor.sees '#' = false := by
    simp [Cursor.sees, Cursor.peek?, hrest]
  have hline : l.cursor.lineEnd = (['\n'], l.cursor.nextLine 1) := by
    rw [Cursor.lineEnd, hrest]
    rfl
  have hnext : (l.cursor.nextLine 1).rest = [] ++ r := by rw [Cursor.nextLine, hrest]; rfl
  have hlength : l.cursor.rest.length = r.length + 1 := by rw [hrest, List.length_cons]
  rw [skipSpace, hlength, skipSpaceWithin]
  simp only [hmark, Bool.and_false, Bool.false_eq_true, ↓reduceIte, Cursor.skipRun, hrun,
    hcomment, List.length_nil, Cursor.skip_zero, hline]
  have hblanks := skipSpaceWithin_blanks (b := []) (List.forall_mem_nil _) hr
    (l := (l.allowKey (l.mayStartKey || !l.inFlow)).advance (l.cursor.nextLine 1)) hnext r.length
  exact hblanks

theorem closeBlocks_of_margin_le (l : Lexer) {margin : Nat} (h : l.margin ≤ margin) :
    l.closeBlocks margin = l := by
  rw [closeBlocks]
  split
  next => rfl
  next =>
    cases l.outerMargins with
    | nil => rfl
    | cons outer blocks => rw [closeFrom, if_pos h]

/-- What the next token is depends only on where it starts, if it closes no blocks. -/
theorem next_of_skipSpace {l m : Lexer} {x : Char} {r : List Char} (hskip : l.skipSpace = m)
    (hfresh : m.refresh = .ok m) (hmargin : m.margin ≤ 1) (hrest : m.cursor.rest = x :: r) :
    l.next = (m.tokenAt x).map (·, false) := by
  have hclose : m.closeBlocks (m.cursor.column + 1) = m :=
    closeBlocks_of_margin_le m (by omega)
  rw [next, hskip, hfresh]
  simp only [hclose, Cursor.peek?, hrest, List.head?_cons]

/-- A lexer goes on as another one, behind what stands in front of the next token. -/
structure Resumes (l m : Lexer) : Prop where
  skipSpace : l.skipSpace = m
  shorter : m.cursor.rest.length ≤ l.cursor.rest.length

theorem resumes_of_starts {l : Lexer} (h : Starts l.cursor.rest) : l.Resumes l :=
  ⟨skipSpace_of_starts h, Nat.le_refl _⟩

theorem resumes_blank {l : Lexer} {r : List Char} (hr : Starts r)
    (hrest : l.cursor.rest = ' ' :: r) : l.Resumes (l.advance (l.cursor.skip 1)) := by
  refine ⟨skipSpace_blank hr hrest, ?_⟩
  simp [advance]

theorem resumes_newline {l : Lexer} {r : List Char} (hr : Starts r)
    (hrest : l.cursor.rest = '\n' :: r) :
    l.Resumes ((l.allowKey (l.mayStartKey || !l.inFlow)).advance (l.cursor.nextLine 1)) := by
  refine ⟨skipSpace_newline hr hrest, ?_⟩
  simp [advance, Cursor.nextLine]

theorem Resumes.step {l m next fresh l' : Lexer} {x : Char} {r : List Char} {ready : List Token}
    (h : l.Resumes m) (hfresh : m.refresh = .ok m) (hmargin : m.margin ≤ 1)
    (hrest : m.cursor.rest = x :: r) (htoken : m.tokenAt x = .ok next)
    (hnext : next.refresh = .ok fresh) (hrelease : fresh.releaseFrom fresh.held = (ready, l'))
    (hshorter : l'.cursor.rest.length < m.cursor.rest.length) : Step l ready l' := by
  refine ⟨next, fresh, ?_, hnext, hrelease, Nat.lt_of_lt_of_le hshorter h.shorter⟩
  rw [next_of_skipSpace h.skipSpace hfresh hmargin hrest, htoken]
  rfl

theorem Resumes.step_idle {l m next : Lexer} {x : Char} {r : List Char} (h : l.Resumes m)
    (hfresh : m.refresh = .ok m) (hmargin : m.margin ≤ 1) (hrest : m.cursor.rest = x :: r)
    (htoken : m.tokenAt x = .ok next) (hnone : next.possible = none) (hshallow : next.IsShallow)
    (hshorter : next.cursor.rest.length < m.cursor.rest.length) :
    Step l next.held { next with held := [], released := next.released + next.held.length } :=
  h.step hfresh hmargin hrest htoken (refresh_of_fresh hshallow (by simp [hnone]))
    (releaseFrom_of_none hshallow hnone _) hshorter

end Lexer

end SizeRequest.Yaml

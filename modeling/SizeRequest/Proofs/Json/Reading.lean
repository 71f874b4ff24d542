import SizeRequest.Json.Reader
import SizeRequest.Proofs.Json.Number
import SizeRequest.Proofs.Json.Unambiguity

namespace SizeRequest.Json

namespace Value

def toText? : Value → Option String
  | text s => some s
  | _ => none

def toWord? : Value → Option UInt32
  | number n => n.toNat?.bind fun m => if m < UInt32.size then some (.ofNat m) else none
  | _ => none

def toList? {α : Type} (element : Value → Option α) : Value → Option (List α)
  | list vs => vs.mapM element
  | _ => none

end Value

/-- A reading gives a value and leaves a text of some kind, or there is no value and it fails. -/
def Gives {α : Type} (x : Except Fault (α × List Char)) (a? : Option α)
    (leaves : List Char → Prop) : Prop :=
  (∃ a rest, a? = some a ∧ leaves rest ∧ x = .ok (a, rest)) ∨
    (a? = none ∧ ∃ fault, x = .error fault)

/-- A reader takes off a text what the value that it writes means, and fails if it means nothing. -/
def Reads {α : Type} (read : Reader α) (meaning : Value → Option α) : Prop :=
  ∀ v b s r, IsBlanks b → Writes v s → Stops r → Gives (read (b ++ (s ++ r))) (meaning v) (· = r)

def Closes (close : Char) (r rest : List Char) : Prop := ∃ b, IsBlanks b ∧ rest = b ++ close :: r

theorem bind_eq_error {α β : Type} {x : Except Fault α} {f : α → Except Fault β}
    (h : ∀ a, ∃ fault, f a = .error fault) : ∃ fault, x.bind f = .error fault := by
  cases x with
  | error fault => exact ⟨fault, rfl⟩
  | ok a => exact h a

theorem refuse_eq_error {α : Type} (expected : Expected) (s : List Char) :
    ∃ fault, (refuse expected s : Except Fault (α × List Char)) = .error fault := by
  unfold refuse
  dsimp only
  split <;> first
    | exact bind_eq_error fun a => ⟨_, rfl⟩
    | exact ⟨_, rfl⟩
    | skip
  split
  next => exact bind_eq_error fun a => ⟨_, rfl⟩
  next => exact ⟨_, rfl⟩

theorem valueFrom_writes {α : Type} {v : Value} {b s : List Char} (hb : IsBlanks b)
    (hs : Writes v s) (r : List Char) (read : Reader α) :
    valueFrom (b ++ (s ++ r)) read = read (s ++ r) := by
  obtain ⟨c, t, rfl, -, hc, -⟩ := hs.head
  rw [valueFrom, skipBlanks_append hb, List.cons_append, skipBlanks_cons hc]

theorem head_ne_of_shape_ne {v : Value} {c d : Char} (hc : Shape.ofHead c = v.shape)
    (hne : v.shape ≠ Shape.ofHead d) : c ≠ d := by
  rintro rfl
  exact hne hc.symm

theorem reads_string : Reads string Value.toText? := by
  intro v b s r hb hs hr
  rw [string, valueFrom_writes hb hs]
  by_cases hshape : v.shape = .text
  · cases hs with
    | @text s body h =>
      refine .inl ⟨s, r, rfl, rfl, ?_⟩
      simpa using stringBody_spells h r
    | _ => cases hshape
  · obtain ⟨c, t, rfl, hc, -⟩ := hs.head
    have hnone : v.toText? = none := by
      cases v with
      | text => exact absurd rfl hshape
      | _ => rfl
    rw [List.cons_append]
    split
    next heq => exact absurd (List.cons.inj heq).1 (head_ne_of_shape_ne hc hshape)
    next => exact .inr ⟨hnone, refuse_eq_error _ _⟩

theorem isDigit_eq_false_of_shape_ne {v : Value} {c : Char} (hc : Shape.ofHead c = v.shape)
    (hshape : v.shape ≠ .number) : c.isDigit = false := by
  rw [Bool.eq_false_iff]
  intro hd
  rw [(ofHead_of_number (.inr hd)).1] at hc
  exact hshape hc.symm

theorem signedNumber_of_shape_ne {v : Value} {s : List Char} (hs : Writes v s)
    (hshape : v.shape ≠ .number) (r : List Char) :
    ∃ fault, signedNumber (s ++ r) = .error fault := by
  obtain ⟨c, t, rfl, hc, -⟩ := hs.head
  obtain ⟨fault, hfault⟩ := refuse_eq_error (α := Number) .number (c :: (t ++ r))
  refine ⟨fault, ?_⟩
  rw [List.cons_append, signedNumber, isDigit_eq_false_of_shape_ne hc hshape]
  · simp [hfault]
  · exact head_ne_of_shape_ne hc (d := '-') hshape

/-- A text that writes a value is read as a natural number just if it writes that number in digits
alone, and the number fits into 64 bits. -/
theorem signedNumber_eq_ok_iff {v : Value} {s r rest : List Char} (hs : Writes v s) (hr : Stops r)
    {m : Nat} :
    signedNumber (s ++ r) = .ok (.integer m, rest) ↔
      (∃ n, v = .number n ∧ n.toNat? = some m) ∧ m < wordCount 64 ∧ rest = r := by
  by_cases hshape : v.shape = .number
  · cases hs with
    | @number n =>
      obtain ⟨c, t, htext, hc⟩ := n.isNumeral.head
      rcases eq_or_ne c '-' with rfl | hne
      · constructor
        · intro h
          rw [htext] at h
          obtain ⟨-, -, -, -, hneg⟩ := integer_of_number h
          have hlt := hneg rfl
          omega
        · rintro ⟨⟨k, hk, hm⟩, -, -⟩
          cases hk
          have hdigit := (toNat?_eq_some_iff.1 hm).1.2 '-' (by simp [htext])
          cases hdigit
      · have hdigit : c.isDigit = true := hc.resolve_left hne
        have hread : signedNumber (n.text ++ r) = number false (n.text ++ r) := by
          rw [htext, List.cons_append, signedNumber, if_pos hdigit]
          exact hne
        rw [hread, number_numeral_iff hr (by simpa [htext] using hne)]
        simp
    | _ => cases hshape
  · obtain ⟨fault, hfault⟩ := signedNumber_of_shape_ne hs hshape r
    rw [hfault]
    constructor
    · intro h
      cases h
    · rintro ⟨⟨n, rfl, -⟩, -, -⟩
      exact absurd rfl hshape

theorem toWord?_eq_some_iff {v : Value} {w : UInt32} :
    v.toWord? = some w ↔
      ∃ n m, v = .number n ∧ n.toNat? = some m ∧ m < UInt32.size ∧ w = .ofNat m := by
  cases v with
  | number n =>
    cases hm : n.toNat? with
    | none => simp [Value.toWord?, hm]
    | some m =>
      by_cases hlt : m < UInt32.size
      · simp [Value.toWord?, hm, hlt, eq_comm]
      · simp [Value.toWord?, hm, hlt]
  | _ => simp [Value.toWord?]

theorem reads_number32 : Reads number32 Value.toWord? := by
  intro v b s r hb hs hr
  rw [number32, valueFrom_writes hb hs]
  cases hw : v.toWord? with
  | some w =>
    obtain ⟨n, m, hn, hm, hlt, rfl⟩ := toWord?_eq_some_iff.1 hw
    have hlt64 : m < wordCount 64 := Nat.lt_trans hlt (by decide)
    have hread := (signedNumber_eq_ok_iff hs hr).2 ⟨⟨n, hn, hm⟩, hlt64, rfl⟩
    refine .inl ⟨_, r, rfl, rfl, ?_⟩
    simp only [hread]
    simp [Found.toNumber, hlt]
  | none =>
    refine .inr ⟨rfl, ?_⟩
    cases hread : signedNumber (s ++ r) with
    | error fault => exact ⟨fault, rfl⟩
    | ok result =>
      rcases result with ⟨⟨m | m⟩ | x, rest⟩
      · by_cases hlt : m < UInt32.size
        · obtain ⟨⟨n, hn, hm⟩, -, -⟩ := (signedNumber_eq_ok_iff hs hr).1 hread
          rw [toWord?_eq_some_iff.2 ⟨n, m, hn, hm, hlt, rfl⟩] at hw
          cases hw
        · simp [Found.toNumber, hlt, failData]
      · exact ⟨_, rfl⟩
      · exact ⟨_, rfl⟩

theorem IsOpener.ne_bracket {c : Char} (h : IsOpener c) : c ≠ ']' := fun he => h.2.2 (.inl he)

theorem nextElement_none {b : List Char} (hb : IsBlanks b) (first : Bool) (r : List Char) :
    nextElement first (b ++ ']' :: r) = .ok none := by
  rw [nextElement, skipBlanks_append hb, skipBlanks_cons rfl]
  rfl

theorem nextElement_following {b c s : List Char} (hb : IsBlanks b) (hc : IsBlanks c) {d : Char}
    (hd : IsOpener d) :
    nextElement false (b ++ ',' :: (c ++ d :: s)) = .ok (some (d :: s)) := by
  rw [nextElement, skipBlanks_append hb, skipBlanks_cons rfl]
  have hnext : skipBlanks (c ++ d :: s) = d :: s := by
    rw [skipBlanks_append hc, skipBlanks_cons hd.1]
  simp [hnext, hd.ne_bracket]

theorem nextElement_first {b s : List Char} (hb : IsBlanks b) {d : Char} (hd : IsOpener d) :
    nextElement true (b ++ d :: s) = .ok (some (d :: s)) := by
  rw [nextElement, skipBlanks_append hb, skipBlanks_cons hd.1]
  simp [hd.ne_bracket]

section Lists

variable {α : Type} {read : Reader α} {meaning : Value → Option α} (hread : Reads read meaning)

include hread

theorem elementsWithin_step {budget : Nat} {first : Bool} {v : Value} {vs : List Value}
    {u s rest r : List Char} (hs : Writes v s) (hrest : Following Writes vs rest)
    (hnext : nextElement first u = .ok (some (s ++ (rest ++ ']' :: r))))
    (ih : Gives (elementsWithin read budget false (rest ++ ']' :: r)) (vs.mapM meaning)
      (Closes ']' r)) :
    Gives (elementsWithin read (budget + 1) first u) ((v :: vs).mapM meaning) (Closes ']' r) := by
  have hstops : Stops (rest ++ ']' :: r) := hrest.stops (.inl rfl) r
  rw [elementsWithin, hnext, List.mapM_cons]
  rcases hread v [] s _ isBlanks_nil hs hstops with ⟨a, _, ha, rfl, hok⟩ | ⟨hnone, fault, herror⟩
  · rw [List.nil_append] at hok
    rcases ih with ⟨as, left, has, hleft, hmore⟩ | ⟨hnone, fault, hmore⟩
    · exact .inl ⟨a :: as, left, by simp [ha, has], hleft, by simp [hok, hmore]⟩
    · exact .inr ⟨by simp [ha, hnone], fault, by simp [hok, hmore]⟩
  · rw [List.nil_append] at herror
    exact .inr ⟨by simp [hnone], fault, by simp [herror]⟩

theorem elementsWithin_following {vs : List Value} {t : List Char} (h : Following Writes vs t)
    {budget : Nat} (hbudget : vs.length < budget) (r : List Char) :
    Gives (elementsWithin read budget false (t ++ ']' :: r)) (vs.mapM meaning) (Closes ']' r) := by
  induction h generalizing budget with
  | none hb =>
    obtain ⟨budget, rfl⟩ := Nat.exists_eq_add_one_of_ne_zero (Nat.ne_zero_of_lt hbudget)
    exact .inl ⟨[], _, rfl, ⟨_, hb, rfl⟩, by rw [elementsWithin, nextElement_none hb]⟩
  | @more v vs b c s rest hb hc hs hrest ih =>
    obtain ⟨budget, rfl⟩ := Nat.exists_eq_add_one_of_ne_zero (Nat.ne_zero_of_lt hbudget)
    have hnext : nextElement false (b ++ ',' :: c ++ s ++ rest ++ ']' :: r)
        = .ok (some (s ++ (rest ++ ']' :: r))) := by
      obtain ⟨d, u, rfl, -, hd⟩ := hs.head
      simpa using nextElement_following (s := u ++ (rest ++ ']' :: r)) hb hc hd
    exact elementsWithin_step hread hs hrest hnext (ih (by simpa using hbudget))

theorem elementsWithin_listing {vs : List Value} {t : List Char} (h : Listing Writes vs t)
    {budget : Nat} (hbudget : vs.length < budget) (r : List Char) :
    Gives (elementsWithin read budget true (t ++ ']' :: r)) (vs.mapM meaning) (Closes ']' r) := by
  obtain ⟨budget, rfl⟩ := Nat.exists_eq_add_one_of_ne_zero (Nat.ne_zero_of_lt hbudget)
  cases h with
  | none hb => exact .inl ⟨[], _, rfl, ⟨_, hb, rfl⟩, by rw [elementsWithin, nextElement_none hb]⟩
  | @some v vs b s rest hb hs hrest =>
    have hnext : nextElement true (b ++ s ++ rest ++ ']' :: r)
        = .ok (some (s ++ (rest ++ ']' :: r))) := by
      obtain ⟨d, u, rfl, -, hd⟩ := hs.head
      simpa using nextElement_first (s := u ++ (rest ++ ']' :: r)) hb hd
    exact elementsWithin_step hread hs hrest hnext
      (elementsWithin_following hread hrest (by simpa using hbudget) r)

omit hread in
theorem endList_closes {r rest : List Char} (h : Closes ']' r rest) : endList rest = .ok r := by
  obtain ⟨b, hb, rfl⟩ := h
  rw [endList, skipBlanks_append hb, skipBlanks_cons rfl]
  rfl

theorem reads_list : Reads (list read) (Value.toList? meaning) := by
  intro v b s r hb hs hr
  rw [list, valueFrom_writes hb hs]
  by_cases hshape : v.shape = .list
  · cases hs with
    | @list vs body h =>
      have hlength : vs.length < (body ++ ']' :: r).length + 1 := by
        have := h.length_le opens_writes
        rw [List.length_append]
        omega
      simp only [List.cons_append, List.append_assoc, List.nil_append]
      rcases elementsWithin_listing hread h hlength r with
        ⟨as, left, has, hleft, hok⟩ | ⟨hnone, fault, herror⟩
      · exact .inl ⟨as, r, has, rfl, by simp only [hok, endList_closes hleft]⟩
      · exact .inr ⟨hnone, _, by simp only [herror]; rfl⟩
    | _ => cases hshape
  · obtain ⟨c, t, rfl, hc, -⟩ := hs.head
    have hnone : v.toList? meaning = none := by
      cases v with
      | list => exact absurd rfl hshape
      | _ => rfl
    rw [List.cons_append]
    split
    next heq => exact absurd (List.cons.inj heq).1 (head_ne_of_shape_ne hc hshape)
    next => exact .inr ⟨hnone, refuse_eq_error _ _⟩

end Lists

end SizeRequest.Json

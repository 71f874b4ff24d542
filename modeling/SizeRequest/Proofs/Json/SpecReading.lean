import SizeRequest.Json.Spec
import SizeRequest.Proofs.Json.Reading

namespace SizeRequest.Json

namespace Value

def setField? (spec : DeviceSpec) (field : Field) (v : Value) : Option DeviceSpec :=
  match field with
  | .list field => (v.toList? toText?).map fun texts => spec.setList texts field
  | .number field => v.toWord?.map fun n => spec.setNumber n field

/-- A spec with the fields that members mean; every key names a field not seen before. -/
def setMembers? (seen : List Field) (spec : DeviceSpec) : List (String × Value) → Option DeviceSpec
  | [] => some spec
  | (key, v) :: rest =>
    match Field.ofKey? key with
    | none => none
    | some field =>
      if seen.contains field then none
      else
        (setField? spec field v).bind fun spec => setMembers? (field :: seen) spec rest

def setElements? (fields : List Field) (spec : DeviceSpec) : List Value → Option DeviceSpec
  | [] => some spec
  | v :: rest =>
    match fields with
    | [] => none
    | field :: fields => (setField? spec field v).bind fun spec => setElements? fields spec rest

def toSpec? : Value → Option DeviceSpec
  | object ms => setMembers? [] {} ms
  | list vs => setElements? Field.values {} vs
  | _ => none

def toDimension? (v : Value) : Option Dimension := v.toText?.bind Dimension.ofName?

end Value

theorem reads_fieldValue (spec : DeviceSpec) (field : Field) :
    Reads (fieldValue spec field) (Value.setField? spec field) := by
  intro v b s r hb hs hr
  cases field with
  | list field =>
    rw [fieldValue, Value.setField?]
    rcases reads_list reads_string v b s r hb hs hr with
      ⟨texts, _, ht, rfl, hok⟩ | ⟨hnone, fault, herror⟩
    · exact .inl ⟨_, _, by rw [ht]; rfl, rfl, by simp only [hok]⟩
    · exact .inr ⟨by rw [hnone]; rfl, fault, by simp only [herror]⟩
  | number field =>
    rw [fieldValue, Value.setField?]
    rcases reads_number32 v b s r hb hs hr with ⟨n, _, hn, rfl, hok⟩ | ⟨hnone, fault, herror⟩
    · exact .inl ⟨_, _, by rw [hn]; rfl, rfl, by simp only [hok]⟩
    · exact .inr ⟨by rw [hnone]; rfl, fault, by simp only [herror]⟩

theorem reads_dimension : Reads dimension Value.toDimension? := by
  intro v b s r hb hs hr
  rw [dimension, Value.toDimension?]
  rcases reads_string v b s r hb hs hr with ⟨name, _, hname, rfl, hok⟩ | ⟨hnone, fault, herror⟩
  · rw [hok, hname]
    simp only [Option.bind_some]
    cases Dimension.ofName? name with
    | none => exact .inr ⟨rfl, _, rfl⟩
    | some d => exact .inl ⟨d, _, rfl, rfl, rfl⟩
  · exact .inr ⟨by rw [hnone]; rfl, fault, by simp only [herror]⟩

theorem nextKey_none {b : List Char} (hb : IsBlanks b) (first : Bool) (r : List Char) :
    nextKey first (b ++ '\x7d' :: r) = .ok none := by
  rw [nextKey, skipBlanks_append hb, skipBlanks_cons rfl]
  rfl

theorem nextKey_following {b c : List Char} (hb : IsBlanks b) (hc : IsBlanks c) (s : List Char) :
    nextKey false (b ++ ',' :: (c ++ '"' :: s)) = .ok (some s) := by
  rw [nextKey, skipBlanks_append hb, skipBlanks_cons rfl]
  have hnext : skipBlanks (c ++ '"' :: s) = '"' :: s := by
    rw [skipBlanks_append hc, skipBlanks_cons rfl]
  simp [hnext]

theorem nextKey_first {b : List Char} (hb : IsBlanks b) (s : List Char) :
    nextKey true (b ++ '"' :: s) = .ok (some s) := by
  rw [nextKey, skipBlanks_append hb, skipBlanks_cons rfl]
  rfl

theorem colon_blanks {b : List Char} (hb : IsBlanks b) (s : List Char) :
    colon (b ++ ':' :: s) = .ok s := by
  rw [colon, skipBlanks_append hb, skipBlanks_cons rfl]
  rfl

theorem membersWithin_step {budget : Nat} {first : Bool} {seen : List Field} {spec : DeviceSpec}
    {k : String} {v : Value} {ms : List (String × Value)} {u key b c s rest r : List Char}
    (hk : Spells k.toList key) (hb : IsBlanks b) (hc : IsBlanks c) (hs : Writes v s)
    (hrest : Following (WritesMember Writes) ms rest)
    (hnext : nextKey first u
      = .ok (some (key ++ '"' :: (b ++ ':' :: (c ++ (s ++ (rest ++ '\x7d' :: r)))))))
    (ih : ∀ seen spec, Gives (membersWithin budget false seen spec (rest ++ '\x7d' :: r))
      (Value.setMembers? seen spec ms) (Closes '\x7d' r)) :
    Gives (membersWithin (budget + 1) first seen spec u)
      (Value.setMembers? seen spec ((k, v) :: ms)) (Closes '\x7d' r) := by
  have hstops : Stops (rest ++ '\x7d' :: r) := hrest.stops (.inr rfl) r
  rw [membersWithin, hnext, Value.setMembers?]
  simp only [fieldKey, stringBody_spells hk]
  cases Field.ofKey? k with
  | none => exact .inr ⟨rfl, _, rfl⟩
  | some field =>
    by_cases hseen : seen.contains field = true
    · simp only [hseen, ↓reduceIte]
      exact .inr ⟨rfl, _, rfl⟩
    · simp only [hseen, Bool.false_eq_true, ↓reduceIte, colon_blanks hb]
      rcases reads_fieldValue spec field v c s _ hc hs hstops with
        ⟨spec', _, hspec, rfl, hok⟩ | ⟨hnone, fault, herror⟩
      · simp only [hok, hspec, Option.bind_some]
        exact ih _ _
      · simp only [herror, hnone, Option.bind_none]
        exact .inr ⟨rfl, _, rfl⟩

theorem membersWithin_following {ms : List (String × Value)} {t : List Char}
    (h : Following (WritesMember Writes) ms t) {budget : Nat} (hbudget : ms.length < budget)
    (seen : List Field) (spec : DeviceSpec) (r : List Char) :
    Gives (membersWithin budget false seen spec (t ++ '\x7d' :: r))
      (Value.setMembers? seen spec ms) (Closes '\x7d' r) := by
  induction h generalizing budget seen spec with
  | none hb =>
    obtain ⟨budget, rfl⟩ := Nat.exists_eq_add_one_of_ne_zero (Nat.ne_zero_of_lt hbudget)
    exact .inl ⟨spec, _, rfl, ⟨_, hb, rfl⟩, by rw [membersWithin, nextKey_none hb]⟩
  | more hb hc hm hrest ih =>
    obtain ⟨budget, rfl⟩ := Nat.exists_eq_add_one_of_ne_zero (Nat.ne_zero_of_lt hbudget)
    cases hm with
    | mk hk hb' hc' hs =>
      refine membersWithin_step hk hb' hc' hs hrest ?_ (ih (by simpa using hbudget))
      simpa using nextKey_following hb hc _

theorem membersWithin_listing {ms : List (String × Value)} {t : List Char}
    (h : Listing (WritesMember Writes) ms t) {budget : Nat} (hbudget : ms.length < budget)
    (spec : DeviceSpec) (r : List Char) :
    Gives (membersWithin budget true [] spec (t ++ '\x7d' :: r))
      (Value.setMembers? [] spec ms) (Closes '\x7d' r) := by
  obtain ⟨budget, rfl⟩ := Nat.exists_eq_add_one_of_ne_zero (Nat.ne_zero_of_lt hbudget)
  cases h with
  | none hb => exact .inl ⟨spec, _, rfl, ⟨_, hb, rfl⟩, by rw [membersWithin, nextKey_none hb]⟩
  | some hb hm hrest =>
    cases hm with
    | mk hk hb' hc' hs =>
      refine membersWithin_step hk hb' hc' hs hrest ?_ fun seen spec =>
        membersWithin_following hrest (by simpa using hbudget) seen spec r
      simpa using nextKey_first hb _

/-- The first elements of a list are read as a spec, behind which the list ends; or there is no such
spec, and its end is not found. -/
def GivesList (x : Except Fault (DeviceSpec × List Char)) (spec? : Option DeviceSpec)
    (r : List Char) : Prop :=
  (∃ spec rest, spec? = some spec ∧ x = .ok (spec, rest) ∧ endList rest = .ok r) ∨
  (spec? = none ∧ ∀ spec rest, x = .ok (spec, rest) → ∃ fault, endList rest = .error fault)

theorem positional_step {fields : List Field} {first : Bool} {spec : DeviceSpec} {v : Value}
    {vs : List Value} {u s rest r : List Char} (hs : Writes v s)
    (hrest : Following Writes vs rest)
    (hnext : nextElement first u = .ok (some (s ++ (rest ++ ']' :: r))))
    (hend : ∃ fault, endList u = .error fault)
    (ih : ∀ fields spec, GivesList (positional fields false spec (rest ++ ']' :: r))
      (Value.setElements? fields spec vs) r) :
    GivesList (positional fields first spec u) (Value.setElements? fields spec (v :: vs)) r := by
  have hstops : Stops (rest ++ ']' :: r) := hrest.stops (.inl rfl) r
  cases fields with
  | nil =>
    refine .inr ⟨rfl, fun spec' rest' hread => ?_⟩
    cases hread
    exact hend
  | cons field fields =>
    rw [positional, hnext, Value.setElements?]
    rcases reads_fieldValue spec field v [] s _ isBlanks_nil hs hstops with
      ⟨spec', _, hspec, rfl, hok⟩ | ⟨hnone, fault, herror⟩
    · rw [List.nil_append] at hok
      simp only [hok, hspec, Option.bind_some]
      exact ih _ _
    · rw [List.nil_append] at herror
      simp only [herror, hnone, Option.bind_none]
      exact .inr ⟨rfl, fun _ _ hread => nomatch hread⟩

theorem positional_none {b : List Char} (hb : IsBlanks b) (fields : List Field) (first : Bool)
    (spec : DeviceSpec) (r : List Char) :
    GivesList (positional fields first spec (b ++ ']' :: r)) (Value.setElements? fields spec [])
      r := by
  have hend : endList (b ++ ']' :: r) = .ok r := endList_closes ⟨b, hb, rfl⟩
  have hread : positional fields first spec (b ++ ']' :: r) = .ok (spec, b ++ ']' :: r) := by
    cases fields with
    | nil => rfl
    | cons field fields => rw [positional, nextElement_none hb]
  rw [Value.setElements?]
  exact .inl ⟨spec, _, rfl, hread, hend⟩

theorem endList_opener {b : List Char} (hb : IsBlanks b) {c : Char} (hc : IsOpener c)
    (s : List Char) : ∃ fault, endList (b ++ c :: s) = .error fault := by
  rw [endList, skipBlanks_append hb, skipBlanks_cons hc.1]
  split
  next heq => exact absurd (List.cons.inj heq).1 hc.ne_bracket
  next heq => exact absurd (List.cons.inj heq).1 hc.2.1
  next => exact ⟨_, rfl⟩
  next => exact ⟨_, rfl⟩

theorem endList_comma {b : List Char} (hb : IsBlanks b) (s : List Char) :
    ∃ fault, endList (b ++ ',' :: s) = .error fault := by
  rw [endList, skipBlanks_append hb, skipBlanks_cons rfl]
  simp only
  split
  next => exact ⟨_, rfl⟩
  next => exact ⟨_, rfl⟩

theorem positional_following {vs : List Value} {t : List Char} (h : Following Writes vs t)
    (fields : List Field) (spec : DeviceSpec) (r : List Char) :
    GivesList (positional fields false spec (t ++ ']' :: r)) (Value.setElements? fields spec vs)
      r := by
  induction h generalizing fields spec with
  | none hb => exact positional_none hb fields false spec r
  | @more v vs b c s rest hb hc hs hrest ih =>
    obtain ⟨d, u, rfl, -, hd⟩ := hs.head
    refine positional_step hs hrest ?_ ?_ ih
    · simpa using nextElement_following (s := u ++ (rest ++ ']' :: r)) hb hc hd
    · simpa using endList_comma hb (c ++ d :: (u ++ (rest ++ ']' :: r)))

theorem positional_listing {vs : List Value} {t : List Char} (h : Listing Writes vs t)
    (fields : List Field) (spec : DeviceSpec) (r : List Char) :
    GivesList (positional fields true spec (t ++ ']' :: r)) (Value.setElements? fields spec vs)
      r := by
  cases h with
  | none hb => exact positional_none hb fields true spec r
  | @some v vs b s rest hb hs hrest =>
    obtain ⟨d, u, rfl, -, hd⟩ := hs.head
    refine positional_step hs hrest ?_ ?_ fun fields spec =>
      positional_following hrest fields spec r
    · simpa using nextElement_first (s := u ++ (rest ++ ']' :: r)) hb hd
    · simpa using endList_opener hb hd (u ++ (rest ++ ']' :: r))

theorem closeObject_closes {r rest : List Char} (h : Closes '\x7d' r rest) :
    closeObject rest = r := by
  obtain ⟨b, hb, rfl⟩ := h
  rw [closeObject, skipBlanks_append hb, skipBlanks_cons rfl]
  rfl

theorem reads_spec : Reads spec Value.toSpec? := by
  intro v b s r hb hs hr
  rw [spec, valueFrom_writes hb hs]
  by_cases hobject : v.shape = .object
  · cases hs with
    | @object ms body h =>
      have hlength : ms.length < (body ++ '\x7d' :: r).length + 1 := by
        have := h.length_le opens_writesMember
        rw [List.length_append]
        omega
      simp only [List.cons_append, List.append_assoc, List.nil_append]
      rcases membersWithin_listing h hlength {} r with
        ⟨spec, rest, hspec, hrest, hok⟩ | ⟨hnone, fault, herror⟩
      · exact .inl ⟨spec, r, hspec, rfl, by simp only [hok, closeObject_closes hrest]⟩
      · exact .inr ⟨hnone, _, by simp only [herror]; rfl⟩
    | _ => cases hobject
  · by_cases hlist : v.shape = .list
    · cases hs with
      | @list vs body h =>
        simp only [List.cons_append, List.append_assoc, List.nil_append]
        rcases positional_listing h Field.values {} r with
          ⟨spec, rest, hspec, hok, hend⟩ | ⟨hnone, hend⟩
        · exact .inl ⟨spec, r, hspec, rfl, by simp only [hok, hend]⟩
        · refine .inr ⟨hnone, ?_⟩
          cases hread : positional Field.values true {} (body ++ ']' :: r) with
          | error fault => exact ⟨_, rfl⟩
          | ok y =>
            obtain ⟨fault, hfault⟩ := hend y.1 y.2 hread
            exact ⟨fault, by simp only [hfault]⟩
      | _ => cases hlist
    -- Neither an object nor a list: the first character already shows that it is refused.
    · obtain ⟨c, t, rfl, hc, -⟩ := hs.head
      have hnone : v.toSpec? = none := by
        cases v with
        | object => exact absurd rfl hobject
        | list => exact absurd rfl hlist
        | _ => rfl
      rw [List.cons_append]
      split
      next heq => exact absurd (List.cons.inj heq).1 (head_ne_of_shape_ne hc hobject)
      next heq => exact absurd (List.cons.inj heq).1 (head_ne_of_shape_ne hc hlist)
      next => exact .inr ⟨hnone, refuse_eq_error _ _⟩

theorem toList?_ofTexts {α : Type} {element : Value → Option α} {name : α → String} {as : List α}
    (h : ∀ a, element (.text (name a)) = some a) :
    (Value.ofTexts (as.map name)).toList? element = some as := by
  rw [Value.ofTexts, Value.toList?, List.map_map]
  induction as with
  | nil => rfl
  | cons a as ih => simp [h a, ih]

theorem toTexts?_ofTexts (texts : List String) :
    (Value.ofTexts texts).toList? Value.toText? = some texts := by
  have hlist : (Value.ofTexts (texts.map id)).toList? Value.toText? = some texts :=
    toList?_ofTexts fun _ => rfl
  rwa [List.map_id] at hlist

theorem setField?_ofTexts (spec : DeviceSpec) (field : ListField) (texts : List String) :
    Value.setField? spec (.list field) (.ofTexts texts) = some (spec.setList texts field) := by
  rw [Value.setField?, toTexts?_ofTexts]
  rfl

theorem document_eq {α : Type} {read : Reader α} {meaning : Value → Option α}
    (hread : Reads read meaning) {v : Value} {text : List Char} (h : IsDocument v text) :
    (∃ a, meaning v = some a ∧ document read text = .ok a) ∨
    (meaning v = none ∧ ∃ fault, document read text = .error fault) := by
  obtain ⟨b, s, c, hb, hs, hc, rfl⟩ := h
  rw [List.append_assoc, document]
  rcases hread v b s c hb hs (stops_of_isBlanks hc) with
    ⟨a, _, ha, rfl, hok⟩ | ⟨hnone, fault, herror⟩
  · exact .inl ⟨a, ha, by simp only [hok, skipBlanks_of_isBlanks hc]⟩
  · exact .inr ⟨hnone, fault, by simp only [herror]⟩

theorem document_of_meaning {α : Type} {read : Reader α} {meaning : Value → Option α}
    (hread : Reads read meaning) {v : Value} {text : List Char} (h : IsDocument v text) {a : α}
    (ha : meaning v = some a) : document read text = .ok a := by
  rcases document_eq hread h with ⟨b, hb, hok⟩ | ⟨hnone, -⟩
  · rw [ha] at hb
    cases hb
    exact hok
  · rw [ha] at hnone
    cases hnone

end SizeRequest.Json

import SizeRequest.Proofs.Json.Soundness

namespace SizeRequest.Json

theorem takes_fieldValue (spec : DeviceSpec) (field : Field) :
    Takes (fieldValue spec field) (Value.setField? spec field) := by
  intro u a rest h
  cases field with
  | list field =>
    rw [fieldValue] at h
    split at h
    next => cases h
    next texts left hlist =>
      cases h
      obtain ⟨b, v, s, hb, hv, hu, hmeaning⟩ := takes_list takes_string _ _ _ hlist
      exact ⟨b, v, s, hb, hv, hu, by rw [Value.setField?, hmeaning]; rfl⟩
  | number field =>
    rw [fieldValue] at h
    split at h
    next => cases h
    next n left hnumber =>
      cases h
      obtain ⟨b, v, s, hb, hv, hu, hmeaning⟩ := takes_number32 _ _ _ hnumber
      exact ⟨b, v, s, hb, hv, hu, by rw [Value.setField?, hmeaning]; rfl⟩

theorem spells_of_fieldKey {seen : List Field} {s rest : List Char} {field : Field}
    (h : fieldKey seen s = .ok (field, rest)) :
    ∃ (key : String) (body : List Char), Spells key.toList body ∧ s = body ++ '"' :: rest ∧
      Field.ofKey? key = some field ∧ seen.contains field = false := by
  unfold fieldKey at h
  split at h
  next => cases h
  next key left hkey =>
    split at h
    next => cases h
    next found hfound =>
      split at h
      next => cases h
      next hnew =>
        cases h
        obtain ⟨body, hbody, hs⟩ := spells_of_stringBody hkey
        exact ⟨key, body, hbody, hs, hfound, by simpa using hnew⟩

theorem blanks_of_colon {s rest : List Char} (h : colon s = .ok rest) :
    ∃ b, IsBlanks b ∧ s = b ++ ':' :: rest := by
  unfold colon at h
  split at h
  next hskip =>
    cases h
    exact exists_blanks_of_skipBlanks hskip
  next => cases h
  next => cases h

theorem closes_of_nextKey {first : Bool} {s : List Char} (h : nextKey first s = .ok none) :
    ∃ b r, IsBlanks b ∧ s = b ++ '\x7d' :: r := by
  unfold nextKey at h
  split at h
  next => cases h
  next hskip =>
    obtain ⟨b, hb, rfl⟩ := exists_blanks_of_skipBlanks hskip
    exact ⟨b, _, hb, rfl⟩
  next =>
    split at h
    next => split at h <;> cases h
    next =>
      split at h
      next => split at h <;> cases h
      next => cases h

theorem rest_cons_of_nextKey {first : Bool} {s u body : List Char} {m : String × Value}
    {ms : List (String × Value)} {rest r : List Char} (h : nextKey first s = .ok (some u))
    (hm : WritesMember Writes m ('"' :: body)) (hms : Following (WritesMember Writes) ms rest)
    (hu : u = body ++ (rest ++ r)) :
    ∃ whole, Rest (WritesMember Writes) first (m :: ms) whole ∧ s = whole ++ r := by
  subst hu
  unfold nextKey at h
  split at h
  next => cases h
  next => cases h
  next c tail _ hskip =>
    obtain ⟨b, hb, rfl⟩ := exists_blanks_of_skipBlanks hskip
    split at h
    next hfirst =>
      subst hfirst
      split at h
      next hquote =>
        obtain rfl : c = '"' := by simpa using hquote
        simp only [Except.ok.injEq, Option.some.injEq] at h
        exact ⟨_, Listing.some hb hm hms, by simp [h]⟩
      next => cases h
    next hfirst =>
      obtain rfl : first = false := by simpa using hfirst
      split at h
      next hcomma =>
        obtain rfl : c = ',' := by simpa using hcomma
        split at h
        next => cases h
        next hafter =>
          obtain ⟨d, hd, rfl⟩ := exists_blanks_of_skipBlanks hafter
          simp only [Except.ok.injEq, Option.some.injEq] at h
          exact ⟨_, Following.more hb hd hm hms, by simp [h]⟩
        next => cases h
        next => cases h
      next => cases h

theorem rest_of_membersWithin {budget : Nat} {first : Bool} {seen : List Field}
    {spec spec' : DeviceSpec} {s rest : List Char}
    (h : membersWithin budget first seen spec s = .ok (spec', rest)) :
    ∃ ms body r, Rest (WritesMember Writes) first ms body ∧ s = body ++ '\x7d' :: r ∧
      Closes '\x7d' r rest ∧ Value.setMembers? seen spec ms = some spec' := by
  induction budget generalizing first seen spec s with
  | zero => cases h
  | succ budget ih =>
    rw [membersWithin] at h
    split at h
    next => cases h
    next hnext =>
      cases h
      obtain ⟨b, r, hb, rfl⟩ := closes_of_nextKey hnext
      exact ⟨[], b, r, rest_nil first hb, rfl, ⟨b, hb, rfl⟩, rfl⟩
    next u hnext =>
      split at h
      next => cases h
      next field left hkey =>
        split at h
        next => cases h
        next left hcolon =>
          split at h
          next => cases h
          next found left hvalue =>
            obtain ⟨key, body, hbody, rfl, hfield, hnew⟩ := spells_of_fieldKey hkey
            obtain ⟨b, hb, rfl⟩ := blanks_of_colon hcolon
            obtain ⟨c, v, t, hc, hv, rfl, hmeaning⟩ := takes_fieldValue spec field _ _ _ hvalue
            obtain ⟨ms, more, r, hms, rfl, hcloses, hspec⟩ := ih h
            obtain ⟨whole, hwhole, rfl⟩ :=
              rest_cons_of_nextKey (r := '\x7d' :: r) hnext (.mk hbody hb hc hv) hms (by simp)
            refine ⟨(key, v) :: ms, whole, r, hwhole, rfl, hcloses, ?_⟩
            rw [Value.setMembers?]
            simp only [hfield, hnew, Bool.false_eq_true, ↓reduceIte, hmeaning, Option.bind_some,
              hspec]

theorem closes_of_endList {s r : List Char} (h : endList s = .ok r) : Closes ']' r s := by
  unfold endList at h
  split at h
  next hskip =>
    cases h
    exact exists_blanks_of_skipBlanks hskip
  next => split at h <;> cases h
  next => cases h
  next => cases h

theorem rest_of_positional {fields : List Field} {first : Bool} {spec spec' : DeviceSpec}
    {s left r : List Char} (h : positional fields first spec s = .ok (spec', left))
    (hend : endList left = .ok r) :
    ∃ vs body, Rest Writes first vs body ∧ s = body ++ ']' :: r ∧
      Value.setElements? fields spec vs = some spec' := by
  have hempty : endList s = .ok r → ∃ vs body, Rest Writes first vs body ∧
      s = body ++ ']' :: r ∧ Value.setElements? fields spec vs = some spec := by
    intro hs
    obtain ⟨b, hb, rfl⟩ := closes_of_endList hs
    exact ⟨[], b, rest_nil first hb, rfl, by rw [Value.setElements?]⟩
  induction fields generalizing first spec s with
  | nil =>
    cases h
    exact hempty hend
  | cons field fields ih =>
    rw [positional] at h
    split at h
    next => cases h
    next =>
      cases h
      exact hempty hend
    next u hnext =>
      split at h
      next => cases h
      next found after hvalue =>
        obtain ⟨b, v, t, hb, hv, rfl, hmeaning⟩ := takes_fieldValue spec field _ _ _ hvalue
        obtain ⟨vs, body, hvs, rfl, hspec⟩ := ih h fun hs => by
          obtain ⟨b, hb, rfl⟩ := closes_of_endList hs
          exact ⟨[], b, rest_nil _ hb, rfl, by rw [Value.setElements?]⟩
        obtain ⟨whole, hwhole, rfl⟩ := rest_cons_of_nextElement hnext hb hv hvs rfl
        refine ⟨v :: vs, whole, hwhole, rfl, ?_⟩
        rw [Value.setElements?, hmeaning, Option.bind_some, hspec]

theorem takes_spec : Takes spec Value.toSpec? := by
  intro u a rest h
  obtain ⟨b, s, hb, rfl, hread⟩ := exists_blanks_of_valueFrom h
  split at hread
  next tail =>
    split at hread
    next => cases hread
    next found left hmembers =>
      obtain ⟨ms, body, r, hms, rfl, hcloses, hspec⟩ := rest_of_membersWithin hmembers
      rw [closeObject_closes hcloses] at hread
      cases hread
      exact ⟨b, .object ms, _, hb, .object hms, by simp, hspec⟩
  next tail =>
    split at hread
    next => cases hread
    next found left helements =>
      split at hread
      next => cases hread
      next hend =>
        cases hread
        obtain ⟨vs, body, hvs, rfl, hspec⟩ := rest_of_positional helements hend
        exact ⟨b, .list vs, _, hb, .list hvs, by simp, hspec⟩
  next => exact absurd hread refuse_ne_ok

/-- What a document is read as is what the value that it writes means, and nothing else is read. -/
theorem document_eq_ok_iff {α : Type} {read : Reader α} {meaning : Value → Option α}
    (hreads : Reads read meaning) (htakes : Takes read meaning) {text : List Char} {a : α} :
    document read text = .ok a ↔ ∃ v, IsDocument v text ∧ meaning v = some a := by
  constructor
  · intro h
    unfold document at h
    split at h
    next => cases h
    next found left hread =>
      split at h
      next hskip =>
        cases h
        obtain ⟨b, v, s, hb, hv, rfl, hmeaning⟩ := htakes _ _ _ hread
        obtain ⟨c, hc, hleft⟩ := exists_blanks_of_skipBlanks hskip
        rw [List.append_nil] at hleft
        subst hleft
        exact ⟨v, ⟨b, s, _, hb, hv, hc, (List.append_assoc _ _ _).symm⟩, hmeaning⟩
      next => cases h
  · intro h
    obtain ⟨v, hdocument, hmeaning⟩ := h
    exact document_of_meaning hreads hdocument hmeaning

theorem readSpec_eq_ok_iff {text : String} {found : DeviceSpec} :
    readSpec text = .ok found ↔ ∃ v, IsDocument v text.toList ∧ v.toSpec? = some found :=
  document_eq_ok_iff reads_spec takes_spec

end SizeRequest.Json

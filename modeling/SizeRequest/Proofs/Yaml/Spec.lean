import SizeRequest.Proofs.Outcome
import SizeRequest.Proofs.Yaml.Events
import SizeRequest.Yaml.Spec

namespace SizeRequest.Yaml

open SpecText

namespace Document

def partOf? : Happening → Option Part
  | .scalar none s => some (.scalar s)
  | .sequenceStart none => some .sequenceStart
  | .sequenceEnd => some .sequenceEnd
  | .mappingStart none => some .mappingStart
  | .mappingEnd => some .mappingEnd
  | _ => none

theorem loadFrom_part {e : Event} {part : Part} (h : partOf? e.happening = some part)
    (fault : Option Fault) (rest : List Event) (names : List (String × Nat)) (index : Nat) :
    loadFrom fault (e :: rest) names index =
      { loadFrom fault rest names (index + 1) with
        parts := (part, e.point) :: (loadFrom fault rest names (index + 1)).parts } := by
  obtain ⟨happening, point⟩ := e
  unfold partOf? at h
  split at h <;> cases h <;> (next heq => simp only at heq; subst heq; rfl)

theorem loadFrom_parts {es : List Event} {parts : List Part}
    (h : es.map (fun e => partOf? e.happening) = parts.map some) (fault : Option Fault)
    (rest : List Event) (names : List (String × Nat)) (index : Nat) :
    ∃ ps : Parts, ps.map Prod.fst = parts ∧
      loadFrom fault (es ++ rest) names index =
        { loadFrom fault rest names (index + es.length) with
          parts := ps ++ (loadFrom fault rest names (index + es.length)).parts } := by
  induction es generalizing parts index with
  | nil =>
    obtain rfl := List.map_eq_nil_iff.1 h.symm
    exact ⟨[], rfl, rfl⟩
  | cons e es ih =>
    cases parts with
    | nil => cases h
    | cons part parts =>
      rw [List.map_cons, List.map_cons, List.cons.injEq] at h
      obtain ⟨ps, hps, hload⟩ := ih h.2 (index + 1)
      refine ⟨(part, e.point) :: ps, by rw [List.map_cons, hps], ?_⟩
      have hindex : index + (e :: es).length = index + 1 + es.length := by
        rw [List.length_cons]
        omega
      rw [List.cons_append, loadFrom_part h.1, hload, hindex]
      rfl

def contentParts : Content → List Part
  | .texts texts =>
    .sequenceStart :: ((texts.map fun text => .scalar ⟨text, .doubleQuoted, none⟩)
      ++ [.sequenceEnd])
  | .integer n => [.scalar ⟨String.ofList (decimal n), .plain, none⟩]

def memberParts (m : Member) : List Part :=
  .scalar ⟨m.key, .plain, none⟩ :: contentParts m.content

theorem map_partOf?_contentHappenings (held : Content) :
    (Outline.contentHappenings held).map partOf? = (contentParts held).map some := by
  cases held with
  | integer n => rfl
  | texts texts =>
    simp [Outline.contentHappenings, contentParts, partOf?]

theorem map_partOf?_memberHappenings (ms : List Member) :
    (ms.flatMap Outline.memberHappenings).map partOf? = (ms.flatMap memberParts).map some := by
  induction ms with
  | nil => rfl
  | cons m ms ih =>
    rw [List.flatMap_cons, List.map_append, ih, Outline.memberHappenings, List.map_cons,
      map_partOf?_contentHappenings]
    simp [memberParts, partOf?]

theorem map_partOf? {es : List Event} {happenings : List Happening} {parts : List Part}
    (hes : es.map Event.happening = happenings) (h : happenings.map partOf? = parts.map some) :
    es.map (fun e => partOf? e.happening) = parts.map some := by
  rw [← h, ← hes, List.map_map]
  rfl

theorem exists_event {es : List Event} {happening : Happening} {happenings : List Happening}
    (h : es.map Event.happening = happening :: happenings) :
    ∃ p fs, es = ⟨happening, p⟩ :: fs ∧ fs.map Event.happening = happenings := by
  obtain ⟨⟨_, p⟩, fs, rfl, rfl, hfs⟩ := List.map_eq_cons_iff.1 h
  exact ⟨p, fs, rfl, hfs⟩

theorem first_yaml {ms : List Member} (hne : ms ≠ []) (hshort : ∀ m ∈ ms, IsShort m) :
    ∃ ps : Parts, first (yaml ms) = { parts := ps } ∧
      ps.map Prod.fst = .mappingStart :: (ms.flatMap memberParts ++ [.mappingEnd]) := by
  obtain ⟨es, hevents, hes⟩ := events_yaml hne hshort
  obtain ⟨p, fs, rfl, hfs⟩ := exists_event hes
  have hsplit : fs.map Event.happening =
      (.mappingStart none :: (ms.flatMap Outline.memberHappenings ++ [.mappingEnd]))
        ++ [.documentEnd, .streamEnd] := by
    rw [hfs]
    simp
  obtain ⟨gs, ends, rfl, hgs, hends⟩ := List.map_eq_append_iff.1 hsplit
  obtain ⟨q, hs, rfl, hhs⟩ := exists_event hends
  obtain ⟨r, is, rfl, his⟩ := exists_event hhs
  have hparts : gs.map (fun e => partOf? e.happening)
      = (.mappingStart :: (ms.flatMap memberParts ++ [.mappingEnd])).map some :=
    map_partOf? hgs (by simp [partOf?, map_partOf?_memberHappenings])
  obtain ⟨ps, hps, hload⟩ := loadFrom_parts hparts none (⟨.documentEnd, q⟩ :: ⟨.streamEnd, r⟩ :: is)
    [] 0
  refine ⟨ps, ?_, hps⟩
  rw [first, hevents]
  simp only [loadFrom]
  rw [hload]
  simp [loadFrom]

/-- The document of members up to a long key is cut short. -/
theorem first_yaml_long {before : List Member} (hbefore : ∀ m ∈ before, IsShort m) {m : Member}
    (hm : ¬ IsShort m) (rest : List Member) :
    ∃ fault, (first (yaml (before ++ m :: rest))).fault = some fault := by
  obtain ⟨es, fault, hevents, hes⟩ := events_yaml_long hbefore hm rest
  obtain ⟨p, fs, rfl, hfs⟩ := exists_event hes
  obtain ⟨parts, hparts⟩ : ∃ parts : List Part,
      fs.map (fun e => partOf? e.happening) = parts.map some := by
    by_cases hnil : before = []
    · rw [if_pos hnil] at hfs
      exact ⟨[.scalar ⟨m.key, .plain, none⟩], map_partOf? hfs rfl⟩
    · rw [if_neg hnil] at hfs
      refine ⟨.mappingStart :: before.flatMap memberParts, map_partOf? hfs ?_⟩
      simp [partOf?, map_partOf?_memberHappenings]
  obtain ⟨ps, -, hload⟩ := loadFrom_parts hparts (some fault) [] [] 0
  refine ⟨fault, ?_⟩
  rw [first, hevents]
  simp only [loadFrom]
  rw [List.append_nil] at hload
  rw [hload]
  rfl

theorem toOption_refuse {α : Type} (d : Document) (expected : Expected) (path : Path)
    (part : Part × Point) : (d.refuse expected path part : Except Fault α).toOption = none := by
  unfold refuse
  dsimp only
  split
  next s _ => cases s.found <;> rfl
  all_goals rfl

theorem textsFrom_eq (d : Document) (key : Option String) {texts : List String} {ps : Parts}
    (hps : ps.map Prod.fst
      = (texts.map fun text => .scalar ⟨text, .doubleQuoted, none⟩) ++ [.sequenceEnd])
    (rest : Parts) (index : Nat) : d.textsFrom key (ps ++ rest) index = .ok (texts, rest) := by
  induction texts generalizing ps index with
  | nil =>
    obtain ⟨⟨_, p⟩, qs, rfl, rfl, hqs⟩ := List.map_eq_cons_iff.1 hps
    obtain rfl := List.map_eq_nil_iff.1 hqs
    rfl
  | cons text texts ih =>
    obtain ⟨⟨_, p⟩, qs, rfl, rfl, hqs⟩ := List.map_eq_cons_iff.1 hps
    have hrest := ih hqs (index + 1)
    rw [List.cons_append, textsFrom]
    · simp only [Document.text, resolve, hrest]
    · rintro _ ⟨⟩

theorem integer?_toDigits (n : Nat) : integer? (Nat.toDigits 10 n) = some (n : Int) := by
  have hdigit := Text.isDigit_toDigits (n := n)
  have hwhole := Json.isWhole_toDigits n
  have hvalue := Text.ofDigits?_toDigits n
  generalize Nat.toDigits 10 n = digits at hdigit hwhole hvalue
  -- Digits start neither with a sign nor with a zero and the letter of another base.
  have hsign {c : Char} (hc : c.isDigit = false) (rest : List Char) : digits ≠ c :: rest := by
    rintro rfl
    rw [hdigit c (.head _)] at hc
    cases hc
  have hmark {c : Char} (hc : c.isDigit = false) (rest : List Char) :
      digits ≠ '0' :: c :: rest := by
    rintro rfl
    rw [hdigit c (.tail _ (.head _))] at hc
    cases hc
  have hpadded : isPaddedDigits digits = false := by
    have hsame : withoutSign digits = digits := by
      unfold withoutSign
      split
      next => exact absurd rfl (hsign rfl _)
      next => exact absurd rfl (hsign rfl _)
      next => rfl
    rw [isPaddedDigits, hsame]
    split
    next => cases hwhole.2 rfl
    next => rfl
  have hmagnitude : magnitude? digits = some n := by
    rw [magnitude?, hpadded]
    · exact hvalue
    · exact fun _ heq => hmark rfl _ heq
    · exact fun _ heq => hmark rfl _ heq
    · exact fun _ heq => hmark rfl _ heq
  rw [integer?, hmagnitude]
  · rfl
  · exact fun _ heq => hsign rfl _ heq
  · exact fun _ heq => hsign rfl _ heq

theorem unsigned?_decimal (n : Int) :
    unsigned? (decimal n) = if 0 ≤ n ∧ n < wordCount 64 then some n.toNat else none := by
  by_cases hn : n < 0
  · have hrange : ¬ (0 ≤ n ∧ n < wordCount 64) := by omega
    rw [if_neg hrange]
    simp [decimal, hn, unsigned?]
  · have hdecimal : decimal n = Nat.toDigits 10 n.toNat := by
      have habs : n.natAbs = n.toNat := by omega
      simp [decimal, hn, habs]
    have hinteger : integer? (decimal n) = some n := by
      rw [hdecimal, integer?_toDigits, Int.toNat_of_nonneg (by omega)]
    have hhead : ∀ rest, decimal n = '-' :: rest → False := by
      intro rest heq
      rw [hdecimal] at heq
      have hdigit := Text.isDigit_toDigits (n := n.toNat) '-' (by simp [heq])
      cases hdigit
    rw [unsigned?, hinteger]
    · simp only [show 0 ≤ n by omega, true_and]
    · exact hhead

theorem toOption_number_integer (d : Document) (key : Option String) (n : Int) (p : Point)
    (rest : Parts) :
    (d.number key ((.scalar ⟨String.ofList (decimal n), .plain, none⟩, p) :: rest)).toOption
      = if 0 ≤ n ∧ n < UInt32.size then some (.ofNat n.toNat, rest) else none := by
  have hsize : UInt32.size ≤ wordCount 64 := by decide
  have hnumber : (⟨String.ofList (decimal n), .plain, none⟩ : Scalar).number?
      = if 0 ≤ n ∧ n < wordCount 64 then some n.toNat else none := by
    rw [Scalar.number?, String.toList_ofList, unsigned?_decimal]
    rfl
  rw [number]
  simp only [resolve, hnumber]
  by_cases hword : 0 ≤ n ∧ n < wordCount 64
  · have hread := Found.toOption_toNumber n.toNat
    rw [Int.toNat_of_nonneg hword.1] at hread
    rw [if_pos hword]
    simp only [Int.toNat_of_nonneg hword.1]
    by_cases hn : 0 ≤ n ∧ n < UInt32.size
    · rw [if_pos hn] at hread ⊢
      rw [toOption_eq_some_iff.1 hread]
      rfl
    · rw [if_neg hn] at hread ⊢
      obtain ⟨fault, hfault⟩ := toOption_eq_none_iff.1 hread
      rw [hfault]
      rfl
  · have hrange : ¬ (0 ≤ n ∧ n < UInt32.size) := by omega
    rw [if_neg hword, if_neg hrange]
    exact toOption_refuse ..

theorem toOption_fieldValue_list (d : Document) (spec : DeviceSpec) (field : ListField)
    (key : Option String) (parts : Parts) :
    (d.fieldValue spec (.list field) key parts).toOption
      = (d.texts key parts).toOption.map fun found => (spec.setList found.1 field, found.2) := by
  rw [fieldValue]
  cases d.texts key parts <;> rfl

theorem toOption_fieldValue_number (d : Document) (spec : DeviceSpec) (field : NumberField)
    (key : Option String) (parts : Parts) :
    (d.fieldValue spec (.number field) key parts).toOption
      = (d.number key parts).toOption.map fun found => (spec.setNumber found.1 field, found.2) := by
  rw [fieldValue]
  cases d.number key parts <;> rfl

theorem toOption_fieldValue (d : Document) (spec : DeviceSpec) (field : Field)
    (key : Option String) {held : Content} {ps : Parts} (hps : ps.map Prod.fst = contentParts held)
    (rest : Parts) : (d.fieldValue spec field key (ps ++ rest)).toOption
      = (spec.put? field held).map fun spec => (spec, rest) := by
  cases field with
  | list field =>
    rw [toOption_fieldValue_list]
    cases held with
    | texts texts =>
      obtain ⟨⟨_, p⟩, qs, rfl, rfl, hqs⟩ := List.map_eq_cons_iff.1 hps
      have htexts : d.texts key ((.sequenceStart, p) :: qs ++ rest) = .ok (texts, rest) := by
        rw [Document.texts]
        simp only [List.cons_append, resolve, textsFrom_eq d key hqs rest 0]
        rfl
      rw [htexts]
      rfl
    | integer n =>
      obtain ⟨⟨_, p⟩, qs, rfl, rfl, hqs⟩ := List.map_eq_cons_iff.1 hps
      have homitted : (⟨String.ofList (decimal n), .plain, none⟩ : Scalar).isOmitted = false := by
        simp [Scalar.isOmitted, decimal_ne_nil]
      have htexts : (d.texts key ((.scalar ⟨String.ofList (decimal n), .plain, none⟩, p) :: qs
          ++ rest)).toOption = none := by
        rw [Document.texts]
        simp only [List.cons_append, resolve, homitted, Bool.false_eq_true, ↓reduceIte,
          toOption_refuse]
      rw [htexts]
      rfl
  | number field =>
    rw [toOption_fieldValue_number]
    cases held with
    | texts texts =>
      obtain ⟨⟨_, p⟩, qs, rfl, rfl, hqs⟩ := List.map_eq_cons_iff.1 hps
      have hnumber : (d.number key ((.sequenceStart, p) :: qs ++ rest)).toOption = none := by
        rw [number]
        simp only [List.cons_append, resolve, toOption_refuse]
      rw [hnumber]
      rfl
    | integer n =>
      obtain ⟨⟨_, p⟩, qs, rfl, rfl, hqs⟩ := List.map_eq_cons_iff.1 hps
      obtain rfl := List.map_eq_nil_iff.1 hqs
      rw [List.cons_append, List.nil_append, toOption_number_integer, DeviceSpec.put?]
      split <;> rfl

theorem toOption_membersWithin (d : Document) (start : Point) {ms : List Member} {ps : Parts}
    (hps : ps.map Prod.fst = ms.flatMap memberParts ++ [.mappingEnd]) {budget : Nat}
    (hbudget : ms.length < budget) (seen : List Field) (spec : DeviceSpec) :
    (d.membersWithin start budget seen spec ps).toOption = spec.putNew? seen ms := by
  induction ms generalizing ps budget seen spec with
  | nil =>
    obtain ⟨budget, rfl⟩ := Nat.exists_eq_add_one_of_ne_zero (Nat.ne_zero_of_lt hbudget)
    obtain ⟨⟨_, p⟩, qs, rfl, rfl, -⟩ := List.map_eq_cons_iff.1 hps
    rfl
  | cons m ms ih =>
    rw [List.length_cons] at hbudget
    obtain ⟨budget, rfl⟩ := Nat.exists_eq_add_one_of_ne_zero (Nat.ne_zero_of_lt hbudget)
    rw [List.flatMap_cons, List.append_assoc, memberParts, List.cons_append] at hps
    obtain ⟨⟨_, p⟩, qs, rfl, rfl, hqs⟩ := List.map_eq_cons_iff.1 hps
    obtain ⟨held, more, rfl, hheld, hmore⟩ := List.map_eq_append_iff.1 hqs
    rw [membersWithin, DeviceSpec.putNew?]
    · simp only [Document.text, resolve, List.drop_succ_cons, List.drop_zero]
      cases Field.ofKey? m.key with
      | none => rfl
      | some field =>
        simp only
        by_cases hseen : seen.contains field = true
        · rw [if_pos hseen, if_pos hseen]
          rfl
        · rw [if_neg hseen, if_neg hseen]
          have hvalue := toOption_fieldValue d spec field
            (writtenKey ((.scalar ⟨m.key, .plain, none⟩, p) :: (held ++ more))) hheld more
          cases hput : spec.put? field m.content with
          | none =>
            rw [hput] at hvalue
            obtain ⟨fault, hfault⟩ := toOption_eq_none_iff.1 hvalue
            simp only [hfault]
            rfl
          | some next =>
            rw [hput] at hvalue
            simp only [toOption_eq_some_iff.1 hvalue]
            exact ih hmore (by omega) (field :: seen) next
    · rintro _ _ ⟨⟩

end Document

theorem isShort_of_key {m : Member} {field : Field} (h : m.key = field.key) : IsShort m := by
  rw [IsShort, h]
  rcases field with field | field <;> cases field <;> decide

theorem exists_long {ms : List Member} (h : ¬ ∀ m ∈ ms, IsShort m) :
    ∃ before m rest, ms = before ++ m :: rest ∧ (∀ m ∈ before, IsShort m) ∧ ¬ IsShort m := by
  induction ms with
  | nil => exact absurd (List.forall_mem_nil _) h
  | cons m ms ih =>
    by_cases hm : IsShort m
    · obtain ⟨before, other, rest, rfl, hbefore, hother⟩ := ih fun hms => h (by
        rintro _ (_ | ⟨_, hmem⟩)
        · exact hm
        · exact hms _ hmem)
      refine ⟨m :: before, other, rest, rfl, ?_, hother⟩
      rintro _ (_ | ⟨_, hmem⟩)
      · exact hm
      · exact hbefore _ hmem
    · exact ⟨[], m, ms, rfl, List.forall_mem_nil _, hm⟩

/-- A YAML mapping of members is read as the spec that they describe. -/
theorem readSpec_yaml {ms : List Member} (hne : ms ≠ []) :
    (readSpec (String.ofList (yaml ms))).toOption = DeviceSpec.ofMembers? ms := by
  rw [readSpec, String.toList_ofList]
  by_cases hshort : ∀ m ∈ ms, IsShort m
  · obtain ⟨ps, hfirst, hps⟩ := Document.first_yaml hne hshort
    obtain ⟨⟨_, p⟩, qs, rfl, rfl, hqs⟩ := List.map_eq_cons_iff.1 hps
    -- The budget counts the parts behind the start, and every member has one at least.
    have hbudget : ms.length < qs.length + 1 := by
      have hparts (m : Member) : Document.memberParts m ≠ [] := List.cons_ne_nil _ _
      have := length_le_length_flatMap hparts ms
      have hlength := congrArg List.length hqs
      rw [List.length_map, List.length_append] at hlength
      omega
    let d : Document := { parts := (.mappingStart, p) :: qs }
    have hread := Document.toOption_membersWithin d p hqs hbudget [] {}
    rw [DeviceSpec.putNew?_nil] at hread
    rw [hfirst, ← hread]
    simp only [Document.spec]
    cases Document.membersWithin d p (qs.length + 1) [] {} qs with
    | error fault => rfl
    | ok spec => rfl
  -- A key that is too long cuts the document short, and no field has such a key.
  · obtain ⟨before, m, rest, rfl, hbefore, hm⟩ := exists_long hshort
    obtain ⟨fault, hfault⟩ := Document.first_yaml_long hbefore hm rest
    have hnone : DeviceSpec.ofMembers? (before ++ m :: rest) = none := by
      rw [Option.eq_none_iff_forall_ne_some]
      intro spec hspec
      obtain ⟨field, hkey, -⟩ := (DeviceSpec.ofMembers?_eq_some_iff.1 hspec).1.fields m (by simp)
      exact hm (isShort_of_key hkey)
    rw [hnone]
    simp only [hfault]
    cases (Document.first (yaml (before ++ m :: rest))).spec with
    | error fault => rfl
    | ok spec => rfl

end SizeRequest.Yaml

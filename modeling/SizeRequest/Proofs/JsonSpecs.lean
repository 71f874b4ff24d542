import Mathlib.Data.List.Perm.Basic
import SizeRequest.Proofs.Json.SpecSoundness
import SizeRequest.Proofs.Resolution
import SizeRequest.Proofs.SpecMembers

namespace SizeRequest

namespace Json

namespace Value

inductive Has : Value → Content → Prop
  | texts (texts : List String) : Has (list (texts.map text)) (.texts texts)
  | integer {n : Numeral} {m : Nat} : n.toNat? = some m → Has (number n) (.integer m)

def Suits (v : Value) (field : Field) : Prop := ∃ content, v.Has content ∧ field.Fits content

/-- The fields to which a value assigns values: an object does so by keys, no two of which are the
same, and a list does so by the order in which the fields are declared. -/
inductive Assigns : Value → List (Field × Value) → Prop
  | object {fields : List (Field × Value)} : (fields.map Prod.fst).Nodup →
      Assigns (object (fields.map fun f => (f.1.key, f.2))) fields
  | list {vs : List Value} : vs.length ≤ Field.values.length →
      Assigns (list vs) (Field.values.zip vs)

/-- Two values that differ at most in the order of the members of an object. -/
inductive Reorders : Value → Value → Prop
  | same (v : Value) : Reorders v v
  | object {ms ms' : List (String × Value)} : ms.Perm ms' → Reorders (object ms) (object ms')

end Value

end Json

open Json (Value)

/-- A spec holds the values of some fields, and is the default one elsewhere. -/
structure DeviceSpec.HoldsFields (spec : DeviceSpec) (fields : List (Field × Value)) : Prop where
  given : ∀ f ∈ fields, f.2.Has (spec.content f.1)
  default : ∀ field ∉ fields.map Prod.fst, spec.content field = ({} : DeviceSpec).content field

namespace Json

namespace Value

theorem mapM_toText?_eq_some_iff {vs : List Value} {texts : List String} :
    vs.mapM toText? = some texts ↔ vs = texts.map text := by
  induction vs generalizing texts with
  | nil => cases texts <;> simp
  | cons v vs ih =>
    cases v with
    | text s =>
      simp only [List.mapM_cons, toText?, Option.bind_eq_bind, Option.bind_some, Option.pure_def,
        Option.bind_eq_some_iff, ih]
      cases texts with
      | nil => simp
      | cons s' texts => simp [and_comm, eq_comm]
    | _ => cases texts <;> simp [toText?]

theorem toTexts?_eq_some_iff {v : Value} {texts : List String} :
    v.toList? toText? = some texts ↔ v.Has (.texts texts) := by
  constructor
  · intro h
    cases v with
    | list vs =>
      rw [mapM_toText?_eq_some_iff.1 h]
      exact .texts texts
    | _ => cases h
  · rintro ⟨⟩
    exact mapM_toText?_eq_some_iff.2 rfl

theorem content_fits (spec : DeviceSpec) (field : Field) : field.Fits (spec.content field) := by
  rcases field with field | field
  · cases field <;> trivial
  · cases field with
    | screenDensity => exact ⟨Int.natCast_nonneg _, Int.ofNat_lt.2 spec.screenDensity.toNat_lt⟩
    | sdkVersion => exact ⟨Int.natCast_nonneg _, Int.ofNat_lt.2 spec.sdkVersion.toNat_lt⟩

theorem setField?_eq_some_iff_put? {spec spec' : DeviceSpec} {field : Field} {v : Value} :
    setField? spec field v = some spec' ↔
      ∃ content, v.Has content ∧ spec.put? field content = some spec' := by
  cases field with
  | list field =>
    simp only [setField?, Option.map_eq_some_iff, toTexts?_eq_some_iff]
    constructor
    · rintro ⟨texts, hv, rfl⟩
      exact ⟨.texts texts, hv, rfl⟩
    · rintro ⟨content, hv, hput⟩
      cases content with
      | texts texts => exact ⟨texts, hv, Option.some.inj hput⟩
      | integer n => cases hput
  | number field =>
    simp only [setField?, Option.map_eq_some_iff, toWord?_eq_some_iff]
    constructor
    · rintro ⟨w, ⟨n, m, rfl, hm, hlt, rfl⟩, rfl⟩
      have hrange : (0 : Int) ≤ m ∧ (m : Int) < UInt32.size :=
        ⟨Int.natCast_nonneg m, Int.ofNat_lt.2 hlt⟩
      refine ⟨.integer m, .integer hm, ?_⟩
      rw [DeviceSpec.put?, if_pos hrange, Int.toNat_natCast]
    · rintro ⟨content, hv, hput⟩
      cases hv with
      | texts => cases hput
      | @integer n m hm =>
        rw [DeviceSpec.put?] at hput
        split at hput
        next hrange =>
          exact ⟨_, ⟨n, m, rfl, hm, Int.ofNat_lt.1 hrange.2, rfl⟩, Option.some.inj hput⟩
        next => cases hput

theorem setField?_eq_some_iff {spec spec' : DeviceSpec} {field : Field} {v : Value} :
    setField? spec field v = some spec' ↔
      v.Has (spec'.content field) ∧
        ∀ other, other ≠ field → spec'.content other = spec.content other := by
  rw [setField?_eq_some_iff_put?]
  simp only [DeviceSpec.put?_eq_some_iff]
  constructor
  · rintro ⟨content, hv, -, rfl, hother⟩
    exact ⟨hv, hother⟩
  · rintro ⟨hv, hother⟩
    exact ⟨_, hv, content_fits spec' field, rfl, hother⟩

theorem exists_setField?_iff (spec : DeviceSpec) {field : Field} {v : Value} :
    (∃ spec', setField? spec field v = some spec') ↔ v.Suits field := by
  simp only [setField?_eq_some_iff_put?]
  constructor
  · rintro ⟨spec', content, hv, hput⟩
    exact ⟨content, hv, (DeviceSpec.put?_eq_some_iff.1 hput).1⟩
  · rintro ⟨content, hv, hfits⟩
    obtain ⟨spec', hput⟩ := spec.put?_of_fits hfits
    exact ⟨spec', content, hv, hput⟩

def setFields? (spec : DeviceSpec) (fields : List (Field × Value)) : Option DeviceSpec :=
  fields.foldlM (fun spec f => setField? spec f.1 f.2) spec

theorem setFields?_cons (spec : DeviceSpec) (f : Field × Value) (rest : List (Field × Value)) :
    setFields? spec (f :: rest) =
      (setField? spec f.1 f.2).bind fun spec => setFields? spec rest := rfl

theorem exists_setFields?_iff (spec : DeviceSpec) {fields : List (Field × Value)} :
    (∃ spec', setFields? spec fields = some spec') ↔ ∀ f ∈ fields, f.2.Suits f.1 := by
  induction fields generalizing spec with
  | nil => exact ⟨fun _ => nofun, fun _ => ⟨spec, rfl⟩⟩
  | cons f rest ih =>
    rw [List.forall_mem_cons]
    constructor
    · rintro ⟨spec', h⟩
      rw [setFields?_cons, Option.bind_eq_some_iff] at h
      obtain ⟨next, hnext, hrest⟩ := h
      exact ⟨(exists_setField?_iff spec).1 ⟨next, hnext⟩, (ih next).1 ⟨spec', hrest⟩⟩
    · rintro ⟨hf, hrest⟩
      obtain ⟨next, hnext⟩ := (exists_setField?_iff spec).2 hf
      obtain ⟨spec', hspec'⟩ := (ih next).2 hrest
      exact ⟨spec', by rw [setFields?_cons, hnext, Option.bind_some, hspec']⟩

theorem setFields?_eq_some_iff {spec spec' : DeviceSpec} {fields : List (Field × Value)}
    (hd : (fields.map Prod.fst).Nodup) :
    setFields? spec fields = some spec' ↔
      (∀ f ∈ fields, f.2.Has (spec'.content f.1)) ∧
        ∀ field ∉ fields.map Prod.fst, spec'.content field = spec.content field := by
  induction fields generalizing spec with
  | nil =>
    constructor
    · intro h
      cases h
      exact ⟨nofun, fun _ _ => rfl⟩
    · rintro ⟨-, hsame⟩
      exact congrArg some (DeviceSpec.eq_of_content fun field => (hsame field nofun).symm)
  | cons f rest ih =>
    rw [List.map_cons, List.nodup_cons] at hd
    rw [setFields?_cons, Option.bind_eq_some_iff, List.forall_mem_cons]
    simp only [ih hd.2, List.map_cons, List.mem_cons, not_or]
    constructor
    · rintro ⟨next, hnext, hgiven, hsame⟩
      obtain ⟨hf, hother⟩ := setField?_eq_some_iff.1 hnext
      refine ⟨⟨?_, hgiven⟩, fun field hfield => ?_⟩
      · rw [hsame f.1 hd.1]
        exact hf
      · rw [hsame field hfield.2, hother field hfield.1]
    · rintro ⟨⟨hf, hgiven⟩, hsame⟩
      -- The field holds in the end what it is set to first, since it is not set again.
      obtain ⟨next, hput⟩ := spec.put?_of_fits (content_fits spec' f.1)
      obtain ⟨-, hheld, hother⟩ := DeviceSpec.put?_eq_some_iff.1 hput
      refine ⟨next, setField?_eq_some_iff_put?.2 ⟨_, hf, hput⟩, hgiven, fun field hfield => ?_⟩
      by_cases heq : field = f.1
      · rw [heq, hheld]
      · rw [hsame field ⟨heq, hfield⟩, hother field heq]

theorem setMembers?_eq_some_iff {seen : List Field} {spec spec' : DeviceSpec}
    {ms : List (String × Value)} :
    setMembers? seen spec ms = some spec' ↔
      ∃ fields : List (Field × Value), ms = fields.map (fun f => (f.1.key, f.2)) ∧
        (fields.map Prod.fst).Nodup ∧ (∀ f ∈ fields, f.1 ∉ seen) ∧
        setFields? spec fields = some spec' := by
  induction ms generalizing seen spec with
  | nil =>
    constructor
    · intro h
      exact ⟨[], rfl, .nil, nofun, h⟩
    · rintro ⟨fields, hfields, -, -, hset⟩
      obtain rfl : fields = [] := by simpa using hfields.symm
      exact hset
  | cons m rest ih =>
    rcases m with ⟨key, v⟩
    rw [setMembers?]
    constructor
    · intro h
      split at h
      next => cases h
      next field hfield =>
        split at h
        next => cases h
        next hnew =>
          obtain ⟨next, hnext, hrest⟩ := Option.bind_eq_some_iff.1 h
          obtain ⟨fields, rfl, hd, hunseen, hset⟩ := ih.1 hrest
          obtain rfl := Field.ofKey?_eq_some_iff.1 hfield
          refine ⟨(field, v) :: fields, rfl, ?_, ?_, ?_⟩
          · rw [List.map_cons, List.nodup_cons]
            refine ⟨fun hmem => ?_, hd⟩
            obtain ⟨f, hf, heq⟩ := List.mem_map.1 hmem
            exact hunseen f hf (by simp [heq])
          · rintro f (_ | ⟨_, hf⟩)
            · simpa using hnew
            · exact fun hmem => hunseen f hf (List.mem_cons_of_mem _ hmem)
          · rw [setFields?_cons, hnext, Option.bind_some, hset]
    · rintro ⟨fields, hfields, hd, hunseen, hset⟩
      cases fields with
      | nil => cases hfields
      | cons f fields =>
        simp only [List.map_cons, List.cons.injEq, Prod.mk.injEq] at hfields
        obtain ⟨⟨rfl, rfl⟩, rfl⟩ := hfields
        rw [List.map_cons, List.nodup_cons] at hd
        rw [setFields?_cons, Option.bind_eq_some_iff] at hset
        obtain ⟨next, hnext, hrest⟩ := hset
        have hnew : seen.contains f.1 = false := by simpa using hunseen f (by simp)
        simp only [Field.ofKey?_key, hnew, Bool.false_eq_true, ↓reduceIte, hnext,
          Option.bind_some]
        refine ih.2 ⟨fields, rfl, hd.2, fun g hg hmem => ?_, hrest⟩
        rcases List.mem_cons.1 hmem with heq | hmem
        · exact hd.1 (List.mem_map.2 ⟨g, hg, heq⟩)
        · exact hunseen g (by simp [hg]) hmem

theorem setElements?_eq_some_iff {fields : List Field} {spec spec' : DeviceSpec}
    {vs : List Value} :
    setElements? fields spec vs = some spec' ↔
      vs.length ≤ fields.length ∧ setFields? spec (fields.zip vs) = some spec' := by
  induction vs generalizing fields spec with
  | nil => simp [setElements?, setFields?]
  | cons v vs ih =>
    cases fields with
    | nil => simp [setElements?]
    | cons field fields =>
      rw [setElements?, List.zip_cons_cons, setFields?_cons, Option.bind_eq_some_iff,
        Option.bind_eq_some_iff]
      simp only [ih, List.length_cons, Nat.add_le_add_iff_right]
      constructor
      · rintro ⟨next, hnext, hlength, hset⟩
        exact ⟨hlength, next, hnext, hset⟩
      · rintro ⟨hlength, next, hnext, hset⟩
        exact ⟨next, hnext, hlength, hset⟩

theorem toSpec?_eq_some_iff_setFields? {v : Value} {spec : DeviceSpec} :
    v.toSpec? = some spec ↔ ∃ fields, v.Assigns fields ∧ setFields? {} fields = some spec := by
  constructor
  · intro h
    cases v with
    | object ms =>
      obtain ⟨fields, rfl, hd, -, hset⟩ := setMembers?_eq_some_iff.1 h
      exact ⟨fields, .object hd, hset⟩
    | list vs =>
      obtain ⟨hlength, hset⟩ := setElements?_eq_some_iff.1 h
      exact ⟨_, .list hlength, hset⟩
    | _ => cases h
  · rintro ⟨fields, hassigns, hset⟩
    cases hassigns with
    | object hd => exact setMembers?_eq_some_iff.2 ⟨fields, rfl, hd, fun _ _ => nofun, hset⟩
    | list hlength => exact setElements?_eq_some_iff.2 ⟨hlength, hset⟩

theorem map_fst_zip_sublist {α β : Type} (as : List α) (bs : List β) :
    ((as.zip bs).map Prod.fst).Sublist as := by
  induction as generalizing bs with
  | nil => simp
  | cons a as ih =>
    cases bs with
    | nil => simp
    | cons b bs => exact (ih bs).cons_cons a

theorem Assigns.nodup {v : Value} {fields : List (Field × Value)} (h : v.Assigns fields) :
    (fields.map Prod.fst).Nodup := by
  cases h with
  | object hd => exact hd
  | list =>
    have hvalues : Field.values.Nodup := by decide
    exact hvalues.sublist (map_fst_zip_sublist _ _)

/-- The spec of a value holds the fields to which the value assigns values. -/
theorem toSpec?_eq_some_iff {v : Value} {spec : DeviceSpec} :
    v.toSpec? = some spec ↔ ∃ fields, v.Assigns fields ∧ spec.HoldsFields fields := by
  rw [toSpec?_eq_some_iff_setFields?]
  refine exists_congr fun fields => and_congr_right fun hassigns => ?_
  rw [setFields?_eq_some_iff hassigns.nodup]
  exact ⟨fun ⟨hgiven, hdefault⟩ => ⟨hgiven, hdefault⟩, fun h => ⟨h.given, h.default⟩⟩

theorem exists_toSpec?_iff {v : Value} :
    (∃ spec, v.toSpec? = some spec) ↔
      ∃ fields, v.Assigns fields ∧ ∀ f ∈ fields, f.2.Suits f.1 := by
  simp only [toSpec?_eq_some_iff_setFields?, ← exists_setFields?_iff {}]
  constructor
  · rintro ⟨spec, fields, hassigns, hset⟩
    exact ⟨fields, hassigns, spec, hset⟩
  · rintro ⟨fields, hassigns, spec, hset⟩
    exact ⟨spec, fields, hassigns, hset⟩

theorem toSpec?_of_perm {ms ms' : List (String × Value)} (h : ms.Perm ms') {spec : DeviceSpec}
    (hspec : (object ms).toSpec? = some spec) : (object ms').toSpec? = some spec := by
  obtain ⟨fields, hassigns, hholds⟩ := toSpec?_eq_some_iff.1 hspec
  cases hassigns with
  | object hd =>
    -- The fields are put in the order of the members, which changes nothing that is said of them.
    obtain ⟨fields', rfl, hperm⟩ : ∃ fields' : List (Field × Value),
        ms' = fields'.map (fun f => (f.1.key, f.2)) ∧ fields'.Perm fields := by
      have hcomp := congrFun (congrFun
        (List.eq_map_comp_perm fun f : Field × Value => (f.1.key, f.2)) ms') fields
      exact hcomp.mpr h.symm
    refine toSpec?_eq_some_iff.2 ⟨fields', .object ?_, fun f hf => ?_, fun field hfield => ?_⟩
    · exact (hperm.map Prod.fst).nodup_iff.2 hd
    · exact hholds.given f (hperm.mem_iff.1 hf)
    · exact hholds.default field fun hmem => hfield ((hperm.map Prod.fst).mem_iff.2 hmem)

theorem toSpec?_of_reorders {v v' : Value} (h : v.Reorders v') : v'.toSpec? = v.toSpec? := by
  cases h with
  | same => rfl
  | object hperm => exact Option.ext fun _ => ⟨toSpec?_of_perm hperm.symm, toSpec?_of_perm hperm⟩

end Value

theorem toOption_readSpec {v : Value} {text : String} (h : IsDocument v text.toList) :
    (readSpec text).toOption = v.toSpec? := by
  rcases document_eq reads_spec h with ⟨spec, hspec, hread⟩ | ⟨hnone, fault, hread⟩
  · rw [readSpec, hread, hspec]
    rfl
  · rw [readSpec, hread, hnone]
    rfl

end Json

namespace DeviceSpec

open Json (IsDocument)

variable {t : FileTree} {path : Path} {text : String}

theorem load_json (hformat : SpecFormat.ofPath? path = some .json)
    (htext : t.readText path = .ok text) :
    load t path =
      ((Json.readSpec text).mapError (Json.Fault.message text)).mapError (.malformed path) := by
  rw [load, hformat, htext]
  rfl

theorem toOption_load_json {v : Value} (hformat : SpecFormat.ofPath? path = some .json)
    (htext : t.readText path = .ok text) (h : IsDocument v text.toList) :
    (load t path).toOption = v.toSpec? := by
  rw [load_json hformat htext, toOption_mapError, toOption_mapError, Json.toOption_readSpec h]

/-- A JSON file is read as a spec just if it is a document of a value that assigns to fields values
which suit them, and then the spec holds these and is the default one elsewhere; any other file is
malformed. Neither the order of members nor the spelling of the document matters. -/
theorem loadPartial_json (hformat : SpecFormat.ofPath? path = some .json)
    (htext : t.readText path = .ok text) :
    ((∃ spec, (loadPartial t path).outcome = .ok spec) ↔
      ∃ v fields, IsDocument v text.toList ∧ v.Assigns fields ∧ ∀ f ∈ fields, f.2.Suits f.1) ∧
    (∀ spec, (loadPartial t path).outcome = .ok spec ↔
      ∃ v fields, IsDocument v text.toList ∧ v.Assigns fields ∧ spec.HoldsFields fields) ∧
    (∀ fault, (loadPartial t path).outcome = .error fault →
      ∃ reason, fault = .malformed path reason) ∧
    ∀ v v' t' path' text', IsDocument v text.toList → v.Reorders v' →
      SpecFormat.ofPath? path' = some .json → t'.readText path' = .ok text' →
      IsDocument v' text'.toList →
      (loadPartial t' path').outcome.toOption = (loadPartial t path).outcome.toOption := by
  simp only [outcome_loadPartial]
  have hread (spec : DeviceSpec) : load t path = .ok spec ↔
      ∃ v, IsDocument v text.toList ∧ v.toSpec? = some spec := by
    rw [load_json hformat htext, mapError_eq_ok_iff, mapError_eq_ok_iff, Json.readSpec_eq_ok_iff]
  refine ⟨?_, fun spec => ?_, fun fault h => ?_, fun v v' t' path' text' hv hsame hformat' htext'
    hv' => ?_⟩
  · simp only [hread]
    constructor
    · rintro ⟨spec, v, hv, hspec⟩
      obtain ⟨fields, hassigns, hsuits⟩ := Value.exists_toSpec?_iff.1 ⟨spec, hspec⟩
      exact ⟨v, fields, hv, hassigns, hsuits⟩
    · rintro ⟨v, fields, hv, hassigns, hsuits⟩
      obtain ⟨spec, hspec⟩ := Value.exists_toSpec?_iff.2 ⟨fields, hassigns, hsuits⟩
      exact ⟨spec, v, hv, hspec⟩
  · simp only [hread, Value.toSpec?_eq_some_iff, exists_and_left]
  · rw [load_json hformat htext, mapError_eq_error_iff] at h
    obtain ⟨reason, -, hfault⟩ := h
    exact ⟨reason, hfault⟩
  · rw [toOption_load_json hformat' htext' hv', toOption_load_json hformat htext hv,
      Value.toSpec?_of_reorders hsame]

def jsonTree (text : String) : FileTree where
  entries := [(["spec.json".toList], .file text.toByteArray)]
  current := []

theorem readText_jsonTree (text : String) : (jsonTree text).readText ⟨"spec.json"⟩ = .ok text :=
  FileTree.readText_eq_ok_iff.2 ⟨_, rfl, dif_pos text.isValidUTF8⟩

theorem escaped_json_holdsFields :
    ∃ v fields,
      IsDocument v "\n\x7b\"sdkVersion\": 34, \"supported\\u0041bis\": [\"x\\/86\"]\x7d".toList ∧
        v.Assigns fields ∧
        HoldsFields { supportedAbis := ["x/86"], sdkVersion := 34 } fields := by
  have hread : (Json.readSpec
      "\n\x7b\"sdkVersion\": 34, \"supported\\u0041bis\": [\"x\\/86\"]\x7d").toOption =
        some { supportedAbis := ["x/86"], sdkVersion := 34 } := by
    decide
  have hformat : SpecFormat.ofPath? ⟨"spec.json"⟩ = some .json := rfl
  obtain ⟨-, hok, -⟩ := loadPartial_json hformat (readText_jsonTree _)
  apply (hok _).1
  rw [outcome_loadPartial, load_json hformat (readText_jsonTree _), toOption_eq_some_iff.1 hread]
  rfl

end DeviceSpec

end SizeRequest

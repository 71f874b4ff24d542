import SizeRequest.DeviceSpec.DataFault
import SizeRequest.Proofs.Digits

namespace SizeRequest

inductive Content
  | texts (texts : List String)
  | integer (n : Int)
deriving DecidableEq

def IsIdentifier (key : String) : Prop :=
  ∃ c rest, key.toList = c :: rest ∧ c.isAlpha = true ∧ ∀ d ∈ rest, d.isAlphanum = true

def IsPrintable (text : String) : Prop := ∀ c ∈ text.toList, 0x20 ≤ c.toNat ∧ c.toNat ≤ 0x7e

theorem isPrintable_of_all {text : String}
    (h : text.toList.all fun c => 0x20 ≤ c.toNat && c.toNat ≤ 0x7e) : IsPrintable text := by
  intro c hc
  have hrange := List.all_eq_true.1 h c hc
  rwa [Bool.and_eq_true, decide_eq_true_iff, decide_eq_true_iff] at hrange

/-- A member: an identifier, which need not be the key of a field, and printable texts or an
integer. -/
structure Member where
  key : String
  content : Content
  isIdentifier : IsIdentifier key
  isPrintable : ∀ texts, content = .texts texts → ∀ text ∈ texts, IsPrintable text

def Field.Fits : Field → Content → Prop
  | .list _, .texts _ => True
  | .number _, .integer n => 0 ≤ n ∧ n < UInt32.size
  | _, _ => False

theorem Found.toOption_toNumber (n : Int) :
    (Found.toNumber n).toOption
      = if 0 ≤ n ∧ n < UInt32.size then some (.ofNat n.toNat) else none := by
  cases n with
  | ofNat m =>
    have hrange : (0 ≤ Int.ofNat m ∧ Int.ofNat m < UInt32.size) ↔ m < UInt32.size := by
      rw [Int.ofNat_eq_natCast]
      omega
    simp only [Found.toNumber, hrange]
    split <;> rfl
  | negSucc m =>
    have hrange : ¬ (0 ≤ Int.negSucc m ∧ Int.negSucc m < UInt32.size) := by omega
    rw [if_neg hrange]
    rfl

theorem Field.ofKey?_eq_some_iff {key : String} {field : Field} :
    Field.ofKey? key = some field ↔ field.key = key := by
  constructor
  · intro h
    simpa using List.find?_some h
  · rintro rfl
    exact Field.ofKey?_key field

theorem Field.key_injective {field other : Field} (h : field.key = other.key) : field = other := by
  have hkey := Field.ofKey?_key field
  rw [h, Field.ofKey?_key] at hkey
  exact (Option.some.inj hkey).symm

namespace DeviceSpec

def content (spec : DeviceSpec) : Field → Content
  | .list .supportedAbis => .texts spec.supportedAbis
  | .list .supportedLocales => .texts spec.supportedLocales
  | .list .deviceFeatures => .texts spec.deviceFeatures
  | .list .glExtensions => .texts spec.glExtensions
  | .number .screenDensity => .integer spec.screenDensity.toNat
  | .number .sdkVersion => .integer spec.sdkVersion.toNat

/-- Members describe a device: no two have one key, and every one is a field with content that
fits. -/
structure Described (members : List Member) : Prop where
  distinct : (members.map Member.key).Nodup
  fields : ∀ m ∈ members, ∃ field : Field, m.key = field.key ∧ field.Fits m.content

structure Holds (spec : DeviceSpec) (members : List Member) : Prop where
  given : ∀ m ∈ members, ∀ field : Field, m.key = field.key → spec.content field = m.content
  default : ∀ field : Field, (∀ m ∈ members, m.key ≠ field.key) →
    spec.content field = ({} : DeviceSpec).content field

def put? (spec : DeviceSpec) : Field → Content → Option DeviceSpec
  | .list field, .texts texts => some (spec.setList texts field)
  | .number field, .integer n =>
    if 0 ≤ n ∧ n < UInt32.size then some (spec.setNumber (.ofNat n.toNat) field) else none
  | _, _ => none

def putMember? (spec : DeviceSpec) (m : Member) : Option DeviceSpec :=
  (Field.ofKey? m.key).bind fun field => spec.put? field m.content

def ofMembers? (members : List Member) : Option DeviceSpec :=
  if (members.map Member.key).Nodup then members.foldlM putMember? {} else none

theorem eq_of_content {spec spec' : DeviceSpec} (h : ∀ f, spec.content f = spec'.content f) :
    spec = spec' := by
  have h1 := h (.list .supportedAbis)
  have h2 := h (.list .supportedLocales)
  have h3 := h (.list .deviceFeatures)
  have h4 := h (.list .glExtensions)
  have h5 := h (.number .screenDensity)
  have h6 := h (.number .sdkVersion)
  rcases spec with ⟨_, _, _, _, _, _⟩
  rcases spec' with ⟨_, _, _, _, _, _⟩
  simp only [content, Content.texts.injEq, Content.integer.injEq, Int.natCast_inj,
    UInt32.toNat_inj] at h1 h2 h3 h4 h5 h6
  rw [h1, h2, h3, h4, h5, h6]

@[simp] theorem content_setList_same (spec : DeviceSpec) (texts : List String)
    (field : ListField) : (spec.setList texts field).content (.list field) = .texts texts := by
  cases field <;> rfl

theorem content_setList_of_ne {field : ListField} {other : Field} (h : other ≠ .list field)
    (spec : DeviceSpec) (texts : List String) :
    (spec.setList texts field).content other = spec.content other := by
  rcases other with other | other
  · cases field <;> cases other <;> first | rfl | exact absurd rfl h
  · cases field <;> cases other <;> rfl

@[simp] theorem content_setNumber_same (spec : DeviceSpec) (n : UInt32) (field : NumberField) :
    (spec.setNumber n field).content (.number field) = .integer n.toNat := by
  cases field <;> rfl

theorem content_setNumber_of_ne {field : NumberField} {other : Field} (h : other ≠ .number field)
    (spec : DeviceSpec) (n : UInt32) :
    (spec.setNumber n field).content other = spec.content other := by
  rcases other with other | other
  · cases field <;> cases other <;> rfl
  · cases field <;> cases other <;> first | rfl | exact absurd rfl h

/-- Content is put into a field just if it fits, and then the field holds it and no other field
changes. -/
theorem put?_eq_some_iff {spec spec' : DeviceSpec} {field : Field} {content : Content} :
    spec.put? field content = some spec' ↔
      field.Fits content ∧ spec'.content field = content ∧
        ∀ other, other ≠ field → spec'.content other = spec.content other := by
  have hset {set : DeviceSpec} (hsame : set.content field = content)
      (hother : ∀ other, other ≠ field → set.content other = spec.content other) :
      some set = some spec' ↔ spec'.content field = content ∧
        ∀ other, other ≠ field → spec'.content other = spec.content other := by
    constructor
    · intro he
      obtain rfl : set = spec' := Option.some.inj he
      exact ⟨hsame, hother⟩
    · rintro ⟨hsame', hother'⟩
      refine congrArg some (eq_of_content fun f => ?_)
      by_cases hf : f = field
      · rw [hf, hsame, hsame']
      · rw [hother f hf, hother' f hf]
  cases field with
  | list field =>
    cases content with
    | texts texts =>
      simp only [put?, Field.Fits, true_and]
      exact hset (content_setList_same _ _ _) fun _ h => content_setList_of_ne h _ _
    | integer n => simp [put?, Field.Fits]
  | number field =>
    cases content with
    | texts texts => simp [put?, Field.Fits]
    | integer n =>
      by_cases hn : 0 ≤ n ∧ n < UInt32.size
      · simp only [put?, Field.Fits, hn, and_self, ↓reduceIte, true_and]
        refine hset ?_ fun _ h => content_setNumber_of_ne h _ _
        have hsize : n.toNat < UInt32.size := by omega
        rw [content_setNumber_same, UInt32.toNat_ofNat_of_lt' hsize, Int.toNat_of_nonneg hn.1]
      · have hnone : spec.put? (.number field) (.integer n) = none := if_neg hn
        rw [hnone]
        exact ⟨nofun, fun h => absurd h.1 hn⟩

theorem put?_of_fits (spec : DeviceSpec) {field : Field} {content : Content}
    (h : field.Fits content) : ∃ next, spec.put? field content = some next := by
  cases field with
  | list field =>
    cases content with
    | texts texts => exact ⟨_, rfl⟩
    | integer n => exact h.elim
  | number field =>
    cases content with
    | texts texts => exact h.elim
    | integer n => exact ⟨_, if_pos h⟩

theorem putMember?_eq_some_iff {spec spec' : DeviceSpec} {m : Member} :
    spec.putMember? m = some spec' ↔
      ∃ field : Field, m.key = field.key ∧ field.Fits m.content ∧
        spec'.content field = m.content ∧
        ∀ other, other ≠ field → spec'.content other = spec.content other := by
  rw [putMember?, Option.bind_eq_some_iff]
  constructor
  · rintro ⟨field, hfield, hput⟩
    exact ⟨field, (Field.ofKey?_eq_some_iff.mp hfield).symm, put?_eq_some_iff.mp hput⟩
  · rintro ⟨field, hkey, hput⟩
    exact ⟨field, Field.ofKey?_eq_some_iff.mpr hkey.symm, put?_eq_some_iff.mpr hput⟩

theorem foldlM_putMember?_eq_some_iff {members : List Member} {spec spec' : DeviceSpec}
    (hd : (members.map Member.key).Nodup) :
    members.foldlM putMember? spec = some spec' ↔
      (∀ m ∈ members, ∃ field : Field, m.key = field.key ∧ field.Fits m.content) ∧
      (∀ m ∈ members, ∀ field : Field, m.key = field.key → spec'.content field = m.content) ∧
      ∀ field : Field, (∀ m ∈ members, m.key ≠ field.key) →
        spec'.content field = spec.content field := by
  induction members generalizing spec with
  | nil =>
    simp only [List.foldlM_nil, Option.pure_def, Option.some.injEq, List.not_mem_nil,
      false_implies, implies_true, true_implies, true_and]
    constructor
    · rintro rfl field
      rfl
    · exact fun h => eq_of_content fun field => (h field).symm
  | cons m rest ih =>
    rw [List.map_cons, List.nodup_cons] at hd
    -- No later member has the key of this one, so its field keeps what is put there now.
    have hnew : ∀ other ∈ rest, other.key ≠ m.key := fun other hmem hkey =>
      hd.1 (hkey ▸ List.mem_map_of_mem hmem)
    rw [List.foldlM_cons, Option.bind_eq_bind, Option.bind_eq_some_iff]
    constructor
    · rintro ⟨next, hnext, hrest⟩
      obtain ⟨field, hkey, hfits, hsame, hother⟩ := putMember?_eq_some_iff.mp hnext
      obtain ⟨hfields, hgiven, hdefault⟩ := (ih hd.2).mp hrest
      have hheld : spec'.content field = m.content := by
        rw [hdefault field fun other hmem => hkey ▸ hnew other hmem, hsame]
      refine ⟨?_, ?_, fun f hf => ?_⟩
      · rintro _ (_ | ⟨_, hmem⟩)
        · exact ⟨field, hkey, hfits⟩
        · exact hfields _ hmem
      · rintro _ (_ | ⟨_, hmem⟩) f hf
        · rwa [Field.key_injective (hf.symm.trans hkey)]
        · exact hgiven _ hmem f hf
      · rw [hdefault f fun other hmem => hf other (.tail _ hmem), hother f]
        rintro rfl
        exact hf m (.head _) hkey
    · rintro ⟨hfields, hgiven, hdefault⟩
      obtain ⟨field, hkey, hfits⟩ := hfields m (.head _)
      obtain ⟨next, hput⟩ := put?_of_fits spec hfits
      obtain ⟨-, hsame, hother⟩ := put?_eq_some_iff.mp hput
      refine ⟨next, putMember?_eq_some_iff.mpr ⟨field, hkey, hfits, hsame, hother⟩, ?_⟩
      refine (ih hd.2).mpr ⟨fun other hmem => hfields other (.tail _ hmem),
        fun other hmem => hgiven other (.tail _ hmem), fun f hf => ?_⟩
      by_cases hfield : f = field
      · rw [hfield, hsame, hgiven m (.head _) field hkey]
      · rw [hother f hfield, hdefault f]
        rintro _ (_ | ⟨_, hmem⟩) hk
        · exact hfield (Field.key_injective (hk.symm.trans hkey))
        · exact hf _ hmem hk

theorem ofMembers?_eq_some_iff {members : List Member} {spec : DeviceSpec} :
    ofMembers? members = some spec ↔ Described members ∧ spec.Holds members := by
  by_cases hd : (members.map Member.key).Nodup
  · rw [ofMembers?, if_pos hd, foldlM_putMember?_eq_some_iff hd]
    exact ⟨fun ⟨hf, hg, hdef⟩ => ⟨⟨hd, hf⟩, ⟨hg, hdef⟩⟩,
      fun ⟨hdes, hh⟩ => ⟨hdes.fields, hh.given, hh.default⟩⟩
  · rw [ofMembers?, if_neg hd]
    exact ⟨nofun, fun h => absurd h.1.distinct hd⟩

theorem exists_ofMembers? {members : List Member} (h : Described members) :
    ∃ spec, ofMembers? members = some spec := by
  rw [ofMembers?, if_pos h.distinct]
  obtain ⟨-, hfields⟩ := h
  generalize ({} : DeviceSpec) = spec
  induction members generalizing spec with
  | nil => exact ⟨spec, rfl⟩
  | cons m rest ih =>
    obtain ⟨field, hkey, hfits⟩ := hfields m (.head _)
    obtain ⟨next, hput⟩ := put?_of_fits spec hfits
    have hnext : spec.putMember? m = some next := by
      rw [putMember?, Field.ofKey?_eq_some_iff.mpr hkey.symm]
      exact hput
    rw [List.foldlM_cons, hnext]
    exact ih (fun other hmem => hfields other (.tail _ hmem)) next

/-- A spec with the content of members, each of which is that of a field not seen before. -/
def putNew? (seen : List Field) (spec : DeviceSpec) : List Member → Option DeviceSpec
  | [] => some spec
  | m :: rest =>
    match Field.ofKey? m.key with
    | none => none
    | some field =>
      if seen.contains field then none
      else (spec.put? field m.content).bind fun spec => putNew? (field :: seen) spec rest

theorem putNew?_eq {members : List Member} {seen : List Field} (hseen : seen.Nodup)
    (spec : DeviceSpec) :
    putNew? seen spec members =
      if (seen.map Field.key ++ members.map Member.key).Nodup then
        members.foldlM putMember? spec else none := by
  induction members generalizing seen spec with
  | nil =>
    have hkeys : (seen.map Field.key).Nodup :=
      List.pairwise_map.mpr (hseen.imp fun hne hkey => hne (Field.key_injective hkey))
    rw [putNew?, List.map_nil, List.append_nil, if_pos hkeys]
    rfl
  | cons m rest ih =>
    rw [putNew?, List.map_cons, List.foldlM_cons, putMember?]
    cases hfield : Field.ofKey? m.key with
    | none => simp
    | some field =>
      have hkey := Field.ofKey?_eq_some_iff.mp hfield
      simp only [List.contains_iff_mem, Option.bind_some]
      by_cases hmem : field ∈ seen
      · have hold : ¬ (seen.map Field.key ++ m.key :: rest.map Member.key).Nodup := fun hnodup =>
          (List.nodup_append.mp hnodup).2.2 _ (List.mem_map_of_mem hmem) _ (.head _) hkey
        rw [if_pos hmem, if_neg hold]
      · have hmiddle : (seen.map Field.key ++ m.key :: rest.map Member.key).Nodup ↔
            ((field :: seen).map Field.key ++ rest.map Member.key).Nodup := by
          rw [← hkey]
          exact List.perm_middle.nodup_iff
        rw [if_neg hmem]
        cases hput : spec.put? field m.content with
        | none => simp
        | some next =>
          simp only [Option.bind_some, ih (List.nodup_cons.mpr ⟨hmem, hseen⟩), hmiddle,
            Option.bind_eq_bind]

theorem putNew?_nil (members : List Member) : putNew? [] {} members = ofMembers? members := by
  rw [putNew?_eq .nil]
  rfl

end DeviceSpec

end SizeRequest

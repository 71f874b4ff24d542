import SizeRequest.DeviceSpec.Load
import SizeRequest.Proofs.ByteOrder
import SizeRequest.Proofs.Json.Members
import SizeRequest.Proofs.Json.Rendering
import SizeRequest.Proofs.Json.SpecReading
import SizeRequest.Report.Show

namespace SizeRequest

namespace Json

theorem toNat?_ofNat (n : Nat) : (Numeral.ofNat n).toNat? = some n := Text.ofDigits?_toDigits n

theorem toWord?_ofNat (n : UInt32) : (Value.number (.ofNat n.toNat)).toWord? = some n :=
  toWord?_eq_some_iff.2 ⟨_, n.toNat, rfl, toNat?_ofNat _, n.toNat_lt, by simp⟩

theorem setField?_ofNat (spec : DeviceSpec) (field : NumberField) (n : UInt32) :
    Value.setField? spec (.number field) (.number (.ofNat n.toNat))
      = some (spec.setNumber n field) := by
  rw [Value.setField?, toWord?_ofNat]
  rfl

theorem setMembers?_key {seen : List Field} {field : Field} (h : field ∉ seen)
    {spec spec' : DeviceSpec} {v : Value} (hv : Value.setField? spec field v = some spec')
    (rest : List (String × Value)) :
    Value.setMembers? seen spec ((field.key, v) :: rest)
      = Value.setMembers? (field :: seen) spec' rest := by
  simp [Value.setMembers?, Field.ofKey?_key, h, hv]

end Json

namespace DeviceSpec

theorem toSpec?_toJson (spec : DeviceSpec) : spec.toJson.toSpec? = some spec := by
  have hobject : spec.toJson = .object [
      ((Field.list .supportedAbis).key, .ofTexts spec.supportedAbis),
      ((Field.list .supportedLocales).key, .ofTexts spec.supportedLocales),
      ((Field.list .deviceFeatures).key, .ofTexts spec.deviceFeatures),
      ((Field.list .glExtensions).key, .ofTexts spec.glExtensions),
      ((Field.number .screenDensity).key, .number (.ofNat spec.screenDensity.toNat)),
      ((Field.number .sdkVersion).key, .number (.ofNat spec.sdkVersion.toNat))] := rfl
  rw [hobject, Json.Value.toSpec?,
    Json.setMembers?_key (by decide) (Json.setField?_ofTexts _ _ _),
    Json.setMembers?_key (by decide) (Json.setField?_ofTexts _ _ _),
    Json.setMembers?_key (by decide) (Json.setField?_ofTexts _ _ _),
    Json.setMembers?_key (by decide) (Json.setField?_ofTexts _ _ _),
    Json.setMembers?_key (by decide) (Json.setField?_ofNat _ _ _),
    Json.setMembers?_key (by decide) (Json.setField?_ofNat _ _ _), Json.Value.setMembers?]
  rfl

/-- The text of a spec in a document is read as that spec. -/
theorem readSpec_writes_toJson {spec : DeviceSpec} {text : List Char}
    (h : Json.Writes spec.toJson text) : Json.readSpec (String.ofList text) = .ok spec := by
  rw [Json.readSpec, String.toList_ofList]
  exact Json.document_of_meaning Json.reads_spec h.isDocument (toSpec?_toJson spec)

end DeviceSpec

namespace Dimension

theorem readDimensions_writes_ofTexts {dimensions : List Dimension} {text : List Char}
    (h : Json.Writes (.ofTexts (dimensions.map name)) text) :
    Json.readDimensions (String.ofList text) = .ok dimensions := by
  have hmeaning : (Json.Value.ofTexts (dimensions.map name)).toList? Json.Value.toDimension?
      = some dimensions := Json.toList?_ofTexts ofName?_name
  rw [Json.readDimensions, String.toList_ofList]
  exact Json.document_of_meaning (Json.reads_list Json.reads_dimension) h.isDocument hmeaning

end Dimension

namespace Request

def object (r : Request) : Json.Value :=
  .object [
    ("apksArchivePath", .text r.archive.text),
    ("deviceSpec", .object [
      ("supportedAbis", .list (r.spec.supportedAbis.map .text)),
      ("supportedLocales", .list (r.spec.supportedLocales.map .text)),
      ("deviceFeatures", .list (r.spec.deviceFeatures.map .text)),
      ("glExtensions", .list (r.spec.glExtensions.map .text)),
      ("screenDensity", .number (.ofNat r.spec.screenDensity.toNat)),
      ("sdkVersion", .number (.ofNat r.spec.sdkVersion.toNat))]),
    ("modules", match r.modules with
      | none => .null
      | some names => .list (names.toList.map .text)),
    ("dimensions", .list (r.dimensions.toList.map fun d => .text d.name)),
    ("instant", .boolean r.instant)]

theorem object_eq_toJson (r : Request) : r.object = r.toJson := by
  rcases r with ⟨archive, spec, _ | names, dimensions, instant⟩ <;>
    simp [object, toJson, DeviceSpec.toJson, Json.Value.ofTexts, Function.comp_def]

theorem written_json_eq (r : Request) : r.written .json = r.toJson.render ++ "\n" := by
  simp [written, pieces]

theorem ofTexts_injective {texts texts' : List String}
    (h : Json.Value.ofTexts texts = .ofTexts texts') : texts = texts' := by
  have htexts := Json.toTexts?_ofTexts texts
  rw [h, Json.toTexts?_ofTexts] at htexts
  exact (Option.some.inj htexts).symm

theorem orderedSet_eq_of_toList_eq {α : Type} [Ord α] {s t : OrderedSet α}
    (h : s.toList = t.toList) : s = t := by
  rcases s with ⟨l, hl⟩
  obtain rfl : l = t.toList := h
  rfl

theorem eq_of_toJson_eq {r s : Request} (h : r.toJson = s.toJson) : r = s := by
  rcases r with ⟨⟨archive⟩, spec, modules, dimensions, instant⟩
  rcases s with ⟨⟨archive'⟩, spec', modules', dimensions', instant'⟩
  simp only [toJson, Json.Value.object.injEq, List.cons.injEq, Prod.mk.injEq, true_and,
    Json.Value.text.injEq, Json.Value.boolean.injEq, and_true] at h
  obtain ⟨rfl, hspec, hmodules, hdimensions, rfl⟩ := h
  have hspec : spec = spec' := by
    have hread := spec.toSpec?_toJson
    rw [hspec, spec'.toSpec?_toJson] at hread
    exact (Option.some.inj hread).symm
  have hdimensions : dimensions = dimensions' := by
    have hnames := ofTexts_injective hdimensions
    exact orderedSet_eq_of_toList_eq (List.map_injective_iff.2 Dimension.name_injective hnames)
  have hmodules : modules = modules' := by
    cases modules with
    | none =>
      cases modules' with
      | none => rfl
      | some names' => cases hmodules
    | some names =>
      cases modules' with
      | none => cases hmodules
      | some names' => rw [orderedSet_eq_of_toList_eq (ofTexts_injective hmodules)]
  rw [hspec, hdimensions, hmodules]

theorem isDocument_toJson (r : Request) : Json.IsDocument r.toJson r.toJson.render.toList :=
  Json.Value.isDocument_render r.toJson

theorem writes_of_hasMember_deviceSpec {r : Request} {text : List Char}
    (h : Json.HasMember r.toJson.render.toList "deviceSpec" text) :
    Json.Writes r.spec.toJson text := by
  obtain ⟨v, hv, hw⟩ := h.mem r.isDocument_toJson
  obtain rfl : v = r.spec.toJson := by simpa using hv
  exact hw

theorem writes_of_hasMember_dimensions {r : Request} {text : List Char}
    (h : Json.HasMember r.toJson.render.toList "dimensions" text) :
    Json.Writes (.ofTexts (r.dimensions.toList.map Dimension.name)) text := by
  obtain ⟨v, hv, hw⟩ := h.mem r.isDocument_toJson
  obtain rfl : v = .ofTexts (r.dimensions.toList.map Dimension.name) := by simpa using hv
  exact hw

/-- The JSON output of a request is one document and a newline. It can be decoded as the object of
the request and in no other way, the texts of its members are read as the spec and the dimensions of
the request, and no other request has the same output. -/
theorem written_json_document (r : Request) :
    ∃ document : String, r.written .json = document ++ "\n" ∧
      (∀ v, Json.IsDocument v document.toList ↔ v = r.object) ∧
      (∀ names, r.modules = some names →
        names.toList.Pairwise fun a b => Text.bytes a < Text.bytes b) ∧
      r.dimensions.toList.Pairwise (fun c d => c.rank < d.rank) ∧
      (∃ text, Json.HasMember document.toList "deviceSpec" text) ∧
      (∀ text, Json.HasMember document.toList "deviceSpec" text →
        ∀ t path, SpecFormat.ofPath? path = some .json →
          t.readText path = .ok (String.ofList text) → DeviceSpec.load t path = .ok r.spec) ∧
      (∃ text, Json.HasMember document.toList "dimensions" text) ∧
      (∀ text, Json.HasMember document.toList "dimensions" text →
        Json.readDimensions (String.ofList text) = .ok r.dimensions.toList) ∧
      ∀ s : Request, s.written .json = r.written .json →
        s.archive.text = r.archive.text ∧ s = r := by
  refine ⟨r.toJson.render, r.written_json_eq, fun v => ⟨fun h => ?_, ?_⟩, fun names _ => ?_, ?_, ?_,
    fun text h t path hpath hread => ?_, ?_, fun text h => ?_, fun s hs => ?_⟩
  · rw [object_eq_toJson]
    exact h.unique r.isDocument_toJson
  · rintro rfl
    rw [object_eq_toJson]
    exact r.isDocument_toJson
  · exact names.increasing.imp fun h => Text.bytes_lt_of_compare h
  · exact r.dimensions.increasing.imp fun h => compareOfLessAndEq_eq_lt.1 h
  · exact Json.exists_hasMember (v := r.spec.toJson) r.isDocument_toJson (by simp)
  · have hspec := DeviceSpec.readSpec_writes_toJson (writes_of_hasMember_deviceSpec h)
    simp only [DeviceSpec.load, hpath, hread, DeviceSpec.ofText, hspec]
    rfl
  · exact Json.exists_hasMember (v := .ofTexts (r.dimensions.toList.map Dimension.name))
      r.isDocument_toJson (by simp)
  · exact Dimension.readDimensions_writes_ofTexts (writes_of_hasMember_dimensions h)
  · rw [written_json_eq, written_json_eq] at hs
    have hrender : s.toJson.render = r.toJson.render := by
      rw [← String.toList_inj] at hs ⊢
      simpa using hs
    have hdocument := s.isDocument_toJson
    rw [hrender] at hdocument
    have heq : s = r := eq_of_toJson_eq (hdocument.unique r.isDocument_toJson)
    exact ⟨by rw [heq], heq⟩

end Request

end SizeRequest

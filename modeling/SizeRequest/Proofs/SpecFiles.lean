import SizeRequest.DeviceSpec.Load
import SizeRequest.Proofs.Json.Spec
import SizeRequest.Proofs.Outcome
import SizeRequest.Proofs.Resolution
import SizeRequest.Proofs.Toml.Spec
import SizeRequest.Proofs.Yaml.Spec

namespace SizeRequest

def SpecText.ofMembers (members : List Member) : SpecFormat → String
  | .json => .ofList (json members)
  | .yaml => .ofList (yaml members)
  | .toml => .ofList (toml members)

/-- A path names a spec file of some format, and leads to a file in which members are written in
that format. -/
structure FileTree.HoldsMembers (t : FileTree) (members : List Member) (format : SpecFormat)
    (path : Path) : Prop where
  named : SpecFormat.ofPath? path = some format
  text : t.readText path = .ok (SpecText.ofMembers members format)

namespace DeviceSpec

variable {t : FileTree} {members : List Member} {format : SpecFormat} {path : Path}

theorem toOption_ofText_ofMembers (hne : members ≠ []) (format : SpecFormat) :
    (ofText format (SpecText.ofMembers members format)).toOption = ofMembers? members := by
  cases format with
  | json =>
    rw [ofText, toOption_mapError]
    exact Json.readSpec_json members
  | yaml =>
    rw [ofText, toOption_mapError]
    exact Yaml.readSpec_yaml hne
  | toml =>
    rw [ofText, toOption_mapError]
    exact Toml.readSpec_toml members

theorem load_of_holdsMembers (h : t.HoldsMembers members format path) :
    load t path =
      (ofText format (SpecText.ofMembers members format)).mapError (.malformed path) := by
  rw [load, h.named, h.text]

theorem load_of_ofMembers?_eq_some (hne : members ≠ []) (h : t.HoldsMembers members format path)
    {spec : DeviceSpec} (hspec : ofMembers? members = some spec) : load t path = .ok spec := by
  rw [load_of_holdsMembers h, mapError_eq_ok_iff, ← toOption_eq_some_iff,
    toOption_ofText_ofMembers hne, hspec]

theorem load_of_ofMembers?_eq_none (hne : members ≠ []) (h : t.HoldsMembers members format path)
    (hspec : ofMembers? members = none) :
    ∃ reason, load t path = .error (.malformed path reason) := by
  have hnone := toOption_ofText_ofMembers hne format
  rw [hspec, toOption_eq_none_iff] at hnone
  obtain ⟨reason, hreason⟩ := hnone
  refine ⟨reason, ?_⟩
  rw [load_of_holdsMembers h, hreason]
  rfl

/-- Files in which the same members are written, one in each format, are read alike: as the one spec
that holds what the members say, if they describe a device, and else as malformed. -/
theorem loadPartial_alike {path : SpecFormat → Path} (hne : members ≠ [])
    (h : ∀ format, t.HoldsMembers members format (path format)) :
    (Described members → ∃ spec : DeviceSpec, spec.Holds members ∧
      ∀ format, (loadPartial t (path format)).outcome = .ok spec) ∧
    (¬ Described members → ∀ format, ∃ reason,
      (loadPartial t (path format)).outcome = .error (.malformed (path format) reason)) := by
  simp only [outcome_loadPartial]
  constructor
  · intro hdescribed
    obtain ⟨spec, hspec⟩ := exists_ofMembers? hdescribed
    refine ⟨spec, (ofMembers?_eq_some_iff.mp hspec).2, fun format => ?_⟩
    exact load_of_ofMembers?_eq_some hne (h format) hspec
  · intro hnot format
    have hspec : ofMembers? members = none := by
      rw [Option.eq_none_iff_forall_not_mem]
      exact fun spec hspec => hnot (ofMembers?_eq_some_iff.mp hspec).1
    exact load_of_ofMembers?_eq_none hne (h format) hspec

def samplePath : SpecFormat → Path
  | .json => ⟨"spec.json"⟩
  | .yaml => ⟨"spec.yml"⟩
  | .toml => ⟨"spec.toml"⟩

def sampleTree (members : List Member) : FileTree where
  entries := [SpecFormat.json, .yaml, .toml].map fun format =>
    ([(samplePath format).text.toList],
      .file (SpecText.ofMembers members format).toByteArray)
  current := []

theorem holdsMembers_sampleTree (members : List Member) (format : SpecFormat) :
    (sampleTree members).HoldsMembers members format (samplePath format) := by
  have hutf8 (text : String) : String.fromUTF8? text.toByteArray = some text :=
    dif_pos text.isValidUTF8
  constructor
  · cases format <;> decide
  · rw [FileTree.readText_eq_ok_iff]
    exact ⟨_, by cases format <;> rfl, hutf8 _⟩

def sampleMembers : List Member :=
  [{ key := "sdkVersion"
     content := .integer 34
     isIdentifier :=
       ⟨'s', "dkVersion".toList, by decide, by decide, List.all_eq_true.1 (by decide)⟩
     isPrintable := nofun },
   { key := "deviceFeatures"
     content := .texts ["say \"hi\"", "a\\b"]
     isIdentifier :=
       ⟨'d', "eviceFeatures".toList, by decide, by decide, List.all_eq_true.1 (by decide)⟩
     isPrintable := by
       rintro _ ⟨⟩ text htext
       rcases List.mem_pair.1 htext with rfl | rfl <;> exact isPrintable_of_all (by decide) }]

theorem sampleFiles_alike :
    sampleMembers ≠ [] ∧
    (∀ format,
      (sampleTree sampleMembers).HoldsMembers sampleMembers format (samplePath format)) ∧
    ∀ format, (loadPartial (sampleTree sampleMembers) (samplePath format)).outcome =
      .ok { deviceFeatures := ["say \"hi\"", "a\\b"], sdkVersion := 34 } := by
  have hspec : ofMembers? sampleMembers =
      some { deviceFeatures := ["say \"hi\"", "a\\b"], sdkVersion := 34 } := by
    decide
  have hne : sampleMembers ≠ [] := List.cons_ne_nil _ _
  have hfiles := holdsMembers_sampleTree sampleMembers
  have hdescribed := (ofMembers?_eq_some_iff.mp hspec).1
  obtain ⟨spec, hholds, hread⟩ := (loadPartial_alike hne hfiles).1 hdescribed
  have hsame := ofMembers?_eq_some_iff.mpr ⟨hdescribed, hholds⟩
  rw [hspec, Option.some.injEq] at hsame
  rw [hsame]
  exact ⟨hne, hfiles, hread⟩

end DeviceSpec

end SizeRequest

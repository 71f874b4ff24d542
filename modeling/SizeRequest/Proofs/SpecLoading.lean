import SizeRequest.Proofs.CheckFaults
import SizeRequest.Proofs.SpecMembers

namespace SizeRequest

namespace FileTree

theorem readText_eq_error_iff_of_file {t : FileTree} {path : Path} {contents : ByteArray}
    (h : t.locate path = .ok (.file contents)) {fault : AccessFault} :
    t.readText path = .error fault ↔ fault = .notText ∧ String.fromUTF8? contents = none := by
  simp only [readText, h]
  cases String.fromUTF8? contents with
  | none => simp [eq_comm]
  | some text => simp

end FileTree

namespace DeviceSpec

/-- Why there is no spec in a file. What is told of a later step is told only if the earlier ones
went well. -/
inductive NoSpec (t : FileTree) (path : Path) : SpecFault → Prop
  | unsupported : SpecFormat.ofPath? path = none → NoSpec t path (.unsupported path)
  | unread {format : SpecFormat} {fault : AccessFault} : SpecFormat.ofPath? path = some format →
      t.readText path = .error fault → NoSpec t path (.read path fault)
  | malformed {format : SpecFormat} {text reason : String} :
      SpecFormat.ofPath? path = some format → t.readText path = .ok text →
      ofText format text = .error reason → NoSpec t path (.malformed path reason)

def required : List Field :=
  [.number .sdkVersion, .number .screenDensity, .list .supportedAbis, .list .supportedLocales]

/-- A field holds a zero or an empty list, be it written in the file or not. -/
def Lacks (spec : DeviceSpec) (field : Field) : Prop :=
  spec.content field = .integer 0 ∨ spec.content field = .texts []

instance (spec : DeviceSpec) : DecidablePred spec.Lacks :=
  fun _ => inferInstanceAs (Decidable (_ ∨ _))

theorem lacks_sdkVersion_iff {spec : DeviceSpec} :
    spec.Lacks (.number .sdkVersion) ↔ spec.sdkVersion = 0 := by
  simp [Lacks, content, ← UInt32.toNat_inj]

theorem lacks_screenDensity_iff {spec : DeviceSpec} :
    spec.Lacks (.number .screenDensity) ↔ spec.screenDensity = 0 := by
  simp [Lacks, content, ← UInt32.toNat_inj]

theorem lacks_supportedAbis_iff {spec : DeviceSpec} :
    spec.Lacks (.list .supportedAbis) ↔ spec.supportedAbis = [] := by
  simp [Lacks, content]

theorem lacks_supportedLocales_iff {spec : DeviceSpec} :
    spec.Lacks (.list .supportedLocales) ↔ spec.supportedLocales = [] := by
  simp [Lacks, content]

theorem missing_eq_filter (spec : DeviceSpec) : spec.missing = required.filter spec.Lacks := by
  have hsplit : required = [.number .sdkVersion] ++ [.number .screenDensity] ++
      [.list .supportedAbis] ++ [.list .supportedLocales] := rfl
  simp only [hsplit, List.filter_append, List.filter_singleton, missing, Bool.cond_decide,
    lacks_sdkVersion_iff, lacks_screenDensity_iff, lacks_supportedAbis_iff,
    lacks_supportedLocales_iff, List.isEmpty_iff]

theorem missing_eq_nil_iff {spec : DeviceSpec} :
    spec.missing = [] ↔ spec.sdkVersion ≠ 0 ∧ spec.screenDensity ≠ 0 ∧ spec.supportedAbis ≠ [] ∧
      spec.supportedLocales ≠ [] := by
  simp [missing_eq_filter, required, lacks_sdkVersion_iff, lacks_screenDensity_iff,
    lacks_supportedAbis_iff, lacks_supportedLocales_iff]

section Loading

variable {t : FileTree} {path : Path}

theorem load_eq_error_iff {fault : SpecFault} :
    load t path = .error fault ↔ NoSpec t path fault := by
  unfold load
  constructor
  · intro h
    split at h
    next hformat =>
      cases h
      exact .unsupported hformat
    next format hformat =>
      split at h
      next cause hread =>
        cases h
        exact .unread hformat hread
      next text hread =>
        obtain ⟨reason, hreason, rfl⟩ := mapError_eq_error_iff.1 h
        exact .malformed hformat hread hreason
  · intro h
    cases h with
    | unsupported hformat => simp only [hformat]
    | unread hformat hread => simp only [hformat, hread]
    | malformed hformat hread hreason => simp only [hformat, hread, hreason, mapError_error]

theorem loadFull_of_error {fault : SpecFault} (h : load t path = .error fault) :
    loadFull t path = .error fault := by
  rw [loadFull, h]

theorem loadFull_of_ok {spec : DeviceSpec} (h : load t path = .ok spec) :
    loadFull t path =
      if spec.missing = [] then .ok spec else .error (.incomplete path spec.missing) := by
  simp only [loadFull, h]
  split
  next hnil => rw [if_pos hnil]
  next hne => rw [if_neg hne]

/-- A full spec is a partial one from which nothing is missing. -/
theorem loadFull_eq_ok_iff {spec : DeviceSpec} :
    loadFull t path = .ok spec ↔ load t path = .ok spec ∧ spec.missing = [] := by
  cases hload : load t path with
  | error fault => simp [loadFull_of_error hload]
  | ok found =>
    rw [loadFull_of_ok hload]
    split
    next hnil =>
      simp only [Except.ok.injEq]
      constructor
      · rintro rfl
        exact ⟨rfl, hnil⟩
      · exact And.left
    next hne =>
      constructor
      · intro h
        cases h
      · rintro ⟨⟨⟩, hnil⟩
        exact absurd hnil hne

theorem loadFull_of_lacks {spec : DeviceSpec} (h : load t path = .ok spec)
    (hlacks : ∃ field ∈ required, spec.Lacks field) :
    loadFull t path = .error (.incomplete path (required.filter spec.Lacks)) := by
  have hne : spec.missing ≠ [] := by
    rw [missing_eq_filter]
    simpa using hlacks
  rw [loadFull_of_ok h, if_neg hne, missing_eq_filter]

theorem loadFull_eq_error_iff {fault : SpecFault} :
    loadFull t path = .error fault ↔
      NoSpec t path fault ∨ ∃ spec, load t path = .ok spec ∧ spec.missing ≠ [] ∧
        fault = .incomplete path spec.missing := by
  rw [← load_eq_error_iff]
  cases hload : load t path with
  | error cause => simp [loadFull_of_error hload]
  | ok found =>
    rw [loadFull_of_ok hload]
    split
    next hnil => simp [hnil]
    next hne =>
      constructor
      · intro h
        cases h
        exact .inr ⟨found, rfl, hne, rfl⟩
      · intro h
        obtain h | ⟨_, ⟨⟩, -, rfl⟩ := h
        · cases h
        · rfl

theorem outcome_resolve_of_check_error {fault : FileFault}
    (h : (t.check path).outcome = .error fault) :
    (resolve t (some path)).outcome = .error (.file fault) := by
  have hcheck : ((t.check path).mapFault RequestFault.file).outcome = .error (.file fault) := by
    rw [Logged.outcome_mapFault, h, mapError_error]
  rw [resolve, Logged.andThen_of_error hcheck]

theorem outcome_resolve_of_check_ok (h : (t.check path).outcome = .ok ()) :
    (resolve t (some path)).outcome = (loadPartial t path).outcome.mapError .spec := by
  have hcheck : ((t.check path).mapFault RequestFault.file).outcome = .ok () := by
    rw [Logged.outcome_mapFault, h, mapError_ok]
  rw [resolve, Logged.andThen_of_ok hcheck, Logged.outcome_mapFault]

theorem outcome_resolve_eq_error_iff {fault : RequestFault} :
    (resolve t (some path)).outcome = .error fault ↔
      (∃ cause, (t.check path).outcome = .error cause ∧ fault = .file cause) ∨
      ∃ cause, (t.check path).outcome = .ok () ∧ NoSpec t path cause ∧ fault = .spec cause := by
  cases hcheck : (t.check path).outcome with
  | error cause => simp [outcome_resolve_of_check_error hcheck, eq_comm]
  | ok =>
    simp [outcome_resolve_of_check_ok hcheck, outcome_loadPartial, mapError_eq_error_iff,
      load_eq_error_iff]

theorem outcome_resolve_eq_read_iff {contents : ByteArray} {format : SpecFormat}
    {fault : AccessFault} (hlocate : t.locate path = .ok (.file contents))
    (hformat : SpecFormat.ofPath? path = some format) :
    (resolve t (some path)).outcome = .error (.spec (.read path fault)) ↔
      fault = .notText ∧ String.fromUTF8? contents = none := by
  have hcheck : (t.check path).outcome = .ok () := by
    rw [outcome_check, FileTree.checkFile, hlocate]
  rw [← FileTree.readText_eq_error_iff_of_file hlocate, outcome_resolve_eq_error_iff]
  constructor
  · intro h
    obtain ⟨_, _, ⟨⟩⟩ | ⟨_, _, hno, ⟨⟩⟩ := h
    cases hno with
    | unread _ hread => exact hread
  · intro hread
    exact .inr ⟨_, hcheck, .unread hformat hread, rfl⟩

end Loading

/-- The three ways to a spec agree. A full spec is a partial one that fills in every required field,
and where there is none it is for the same fault, or for the fields that are missing, which are
listed in their order. A spec at a given path is the partial one, behind the check of the file, and
only without a path it is the default one. -/
theorem loaders_agree (t : FileTree) (path : Path) :
    (∀ fault, (∀ other fields, fault ≠ .incomplete other fields) ∧
        loadFull t path = .error fault ↔
      (loadPartial t path).outcome = .error fault) ∧
    (∀ spec, loadFull t path = .ok spec ↔
      (loadPartial t path).outcome = .ok spec ∧ spec.sdkVersion ≠ 0 ∧ spec.screenDensity ≠ 0 ∧
        spec.supportedAbis ≠ [] ∧ spec.supportedLocales ≠ []) ∧
    (∀ spec, (loadPartial t path).outcome = .ok spec → (∃ field ∈ required, spec.Lacks field) →
      ∃ fault, loadFull t path = .error fault ∧
        fault = .incomplete path (required.filter spec.Lacks) ∧
        fault.message = "Incomplete device spec '" ++ path.text ++ "': missing " ++
          Text.join ", " ((required.filter spec.Lacks).map Field.key) ++ ".") ∧
    (∀ fault, (t.check path).outcome = .error fault →
      (resolve t (some path)).outcome = .error (.file fault)) ∧
    ((t.check path).outcome = .ok () →
      (resolve t (some path)).outcome = (loadPartial t path).outcome.mapError .spec) ∧
    (∀ other fields, (resolve t (some path)).outcome ≠ .error (.spec (.incomplete other fields))) ∧
    (t.locate path = .error .missing →
      (resolve t (some path)).outcome = .error (.file (.notFound path))) ∧
    (∀ contents format fault, t.locate path = .ok (.file contents) →
      SpecFormat.ofPath? path = some format →
      ((resolve t (some path)).outcome = .error (.spec (.read path fault)) ↔
        fault = .notText ∧ String.fromUTF8? contents = none)) ∧
    (∀ spec, (resolve t (some path)).outcome = .ok spec ↔
      (t.check path).outcome = .ok () ∧ (loadPartial t path).outcome = .ok spec) ∧
    (resolve t none).outcome = .ok {} := by
  refine ⟨?_, ?_, ?_, ?_, ?_, ?_, ?_, ?_, ?_, rfl⟩
  · intro fault
    rw [outcome_loadPartial, load_eq_error_iff, loadFull_eq_error_iff]
    constructor
    · intro h
      obtain ⟨hother, hno | ⟨spec, -, -, rfl⟩⟩ := h
      · exact hno
      · exact absurd rfl (hother _ _)
    · intro hno
      refine ⟨?_, .inl hno⟩
      intro other fields
      cases hno <;> exact nofun
  · intro spec
    rw [outcome_loadPartial, loadFull_eq_ok_iff, missing_eq_nil_iff]
  · intro spec hspec hlacks
    rw [outcome_loadPartial] at hspec
    exact ⟨_, loadFull_of_lacks hspec hlacks, rfl, rfl⟩
  · intro fault hcheck
    exact outcome_resolve_of_check_error hcheck
  · exact outcome_resolve_of_check_ok
  · intro other fields hresolve
    obtain ⟨_, _, ⟨⟩⟩ | ⟨_, _, ⟨⟩, ⟨⟩⟩ := outcome_resolve_eq_error_iff.1 hresolve
  · intro hlocate
    apply outcome_resolve_of_check_error
    rw [outcome_check, FileTree.checkFile, hlocate]
  · intro contents format fault hlocate hformat
    exact outcome_resolve_eq_read_iff hlocate hformat
  · intro spec
    simp [outcome_resolve_eq_ok_iff, outcome_check, FileTree.checkFile_eq_ok_iff,
      outcome_loadPartial, load_eq_ok_iff]

def sparseTree : FileTree :=
  (FileTree.scratch.add "spec.json" (.file ("\x7b\"sdkVersion\": 0, \"screenDensity\": 480, " ++
    "\"supportedAbis\": [], \"supportedLocales\": [\"en\"]\x7d").toUTF8)).add
      "raw.json" (.file ⟨#[0xff]⟩)

theorem zero_missing_from_full :
    loadFull sparseTree ⟨"spec.json"⟩ =
        .error (.incomplete ⟨"spec.json"⟩ [.number .sdkVersion, .list .supportedAbis]) ∧
      (resolve sparseTree (some ⟨"spec.json"⟩)).outcome =
        .ok { screenDensity := 480, supportedLocales := ["en"] } ∧
      (resolve sparseTree (some ⟨"lost.txt"⟩)).outcome = .error (.file (.notFound ⟨"lost.txt"⟩)) ∧
      (resolve sparseTree (some ⟨"raw.json"⟩)).outcome =
        .error (.spec (.read ⟨"raw.json"⟩ .notText)) := by
  have hpartial : (loadPartial sparseTree ⟨"spec.json"⟩).outcome =
      .ok { screenDensity := 480, supportedLocales := ["en"] } := by
    decide
  obtain ⟨-, -, hlists, -, hchecked, -⟩ := loaders_agree sparseTree ⟨"spec.json"⟩
  obtain ⟨-, -, -, -, -, -, hlost, -⟩ := loaders_agree sparseTree ⟨"lost.txt"⟩
  obtain ⟨-, -, -, -, -, -, -, hraw, -⟩ := loaders_agree sparseTree ⟨"raw.json"⟩
  refine ⟨?_, ?_, hlost rfl, ?_⟩
  · obtain ⟨fault, hfull, hfault, -⟩ := hlists _ hpartial (by decide)
    rw [hfull, hfault]
    rfl
  · rw [hchecked (by decide), hpartial, mapError_ok]
  · exact (hraw ⟨#[0xff]⟩ .json .notText rfl rfl).2 ⟨rfl, by decide⟩

end DeviceSpec

end SizeRequest

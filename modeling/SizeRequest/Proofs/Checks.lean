import SizeRequest.Proofs.Arguments

namespace SizeRequest

namespace Request

/-- What is checked while a request is resolved. -/
inductive Check
  | archive
  | spec
  | modules
  | instant
  | dimensions
  | others
  | archiveFile
  | specFile
  | specExtension
  | specText
  | specContent
deriving DecidableEq

namespace Check

def values : List Check :=
  [archive, spec, modules, instant, dimensions, others, archiveFile, specFile, specExtension,
    specText, specContent]

theorem eq_takeWhile_of_values {passed rest : List Check} {check : Check}
    (h : values = passed ++ check :: rest) : passed = values.takeWhile (· ≠ check) := by
  have hnodup : values.Nodup := by decide
  rw [h, List.nodup_append'] at hnodup
  rw [h, List.takeWhile_append_of_pos]
  · simp
  · intro other hother
    have hne : other ≠ check := fun heq => hnodup.2.2 hother (by simp [heq])
    simpa using hne

def path? (flags : Flags) (name : String) : Option Path := (flags.value? name).join.map Path.mk

def run (t : FileTree) (flags : Flags) : Check → Logged RequestFault Unit
  | archive => ((archiveFlag.readRequired flags).2.mapFault .flag).course
  | spec => ((specFlag.read flags).2.mapFault .flag).course
  | modules => ((modulesFlag.read flags).2.mapFault .flag).course
  | instant => ((instantFlag.read flags).2.mapFault .flag).course
  | dimensions => ((dimensionsFlag.read flags).2.mapFault .flag).course
  | others => (Logged.silent (flagNames.foldl Flags.ask flags).checkAllAsked).mapFault .flag
  | archiveFile => (path? flags "apks").elim (.done ()) fun path => (t.check path).mapFault .file
  | specFile =>
    (path? flags "device-spec").elim (.log .defaultSpec) fun path => (t.check path).mapFault .file
  | specExtension => (path? flags "device-spec").elim (.done ()) fun path =>
    match SpecFormat.ofPath? path with
    | none => .fail (.spec (.unsupported path))
    | some _ => .done ()
  | specText => (path? flags "device-spec").elim (.done ()) fun path =>
    match t.readText path with
    | .error fault => .fail (.spec (.read path fault))
    | .ok _ => .done ()
  | specContent => (path? flags "device-spec").elim (.done ()) fun path =>
    match SpecFormat.ofPath? path, t.readText path with
    | some format, .ok text =>
      match DeviceSpec.ofText format text with
      | .error reason => .fail (.spec (.malformed path reason))
      | .ok described => .log (.specParsed path described)
    | _, _ => .done ()

def runAll (t : FileTree) (flags : Flags) : List Check → Logged RequestFault Unit
  | [] => .done ()
  | check :: rest => (run t flags check).andThen fun _ => runAll t flags rest

theorem runAll_append (t : FileTree) (flags : Flags) (checks more : List Check) :
    runAll t flags (checks ++ more) =
      (runAll t flags checks).andThen fun _ => runAll t flags more := by
  induction checks with
  | nil => rw [List.nil_append, runAll, Logged.done_andThen]
  | cons check rest ih => rw [List.cons_append, runAll, runAll, ih, Logged.andThen_assoc]

theorem path?_eq_some_iff {flags : Flags} (hd : (flags.supplied.map Flag.name).Nodup)
    {name : String} {path : Path} :
    path? flags name = some path ↔ ⟨name, some path.text⟩ ∈ flags.supplied := by
  rw [← Flags.value?_eq_some_iff hd, path?]
  rcases path with ⟨text⟩
  rcases flags.value? name with _ | _ | other <;> simp

theorem path?_of_read {flags : Flags} {name : String} {found : Option Path}
    (h : ((KnownFlag.path name).read flags).2.outcome = .ok found) : path? flags name = found := by
  rcases KnownFlag.outcome_read_eq_ok_iff.1 h with ⟨hvalue, rfl⟩ | ⟨value, path, hvalue, hpath, rfl⟩
  · have hnone : flags.value? name = none := hvalue
    simp [path?, hnone]
  · obtain ⟨rfl, -⟩ := KnownFlag.convert_path_eq_ok_iff.1 hpath
    have hsome : flags.value? name = some (some path.text) := hvalue
    simp [path?, hsome]

end Check

def chosen? {α : Type} (flag : KnownFlag α) (flags : Flags) : Option α :=
  (flag.read flags).2.outcome.toOption.join

def chosenSpec (t : FileTree) (flags : Flags) : DeviceSpec :=
  match Check.path? flags "device-spec" with
  | none => {}
  | some path => (DeviceSpec.load t path).toOption.getD {}

def conclude (t : FileTree) (flags : Flags) : Logged RequestFault Request :=
  (Dimension.expandLogged ((chosen? dimensionsFlag flags).getD .empty)).andThen fun dimensions =>
  let request : Request :=
    ⟨(Check.path? flags "apks").getD default, chosenSpec t flags, chosen? modulesFlag flags,
      dimensions, (chosen? instantFlag flags).getD false⟩
  (Logged.log (.requestResolved request)).andThen fun _ => .done request

theorem chosen?_of_read {α : Type} {flag : KnownFlag α} {flags : Flags} {found : Option α}
    (h : ((flag.read flags).2.mapFault RequestFault.flag).outcome = .ok found) :
    chosen? flag flags = found := by
  rw [Logged.outcome_mapFault, mapError_eq_ok_iff] at h
  rw [chosen?, h]
  rfl

section Steps

variable {t : FileTree} {flags : Flags} {β : Type}

theorem readInputs_andThen {next : Inputs → Logged RequestFault β} {rest : Logged RequestFault β}
    (h : ∀ archive, Check.path? flags "apks" = some archive →
      next ⟨archive, Check.path? flags "device-spec", chosen? modulesFlag flags,
        (chosen? dimensionsFlag flags).getD .empty, chosen? instantFlag flags⟩ = rest) :
    ((readInputs flags).2.mapFault .flag).andThen next =
      (Check.runAll t flags [.archive, .spec, .modules, .instant, .dimensions, .others]).andThen
        fun _ => rest := by
  simp only [readInputs, Reading.snd_andThen, Logged.mapFault_andThen, Logged.andThen_assoc,
    KnownFlag.readRequired_fst, KnownFlag.read_fst, KnownFlag.read_ask_snd, Check.runAll, Check.run,
    Logged.done_andThen]
  refine Logged.andThen_eq_course_andThen fun archive harchive => ?_
  refine Logged.andThen_eq_course_andThen fun spec hspec => ?_
  refine Logged.andThen_eq_course_andThen fun modules hmodules => ?_
  refine Logged.andThen_eq_course_andThen fun instant hinstant => ?_
  refine Logged.andThen_eq_course_andThen fun dimensions hdimensions => ?_
  rw [Logged.outcome_mapFault, mapError_eq_ok_iff, KnownFlag.outcome_readRequired_eq_ok_iff]
    at harchive
  rw [Logged.outcome_mapFault, mapError_eq_ok_iff] at hspec
  rw [← h archive (Check.path?_of_read harchive), Check.path?_of_read hspec,
    chosen?_of_read hmodules, chosen?_of_read hdimensions, chosen?_of_read hinstant]
  congr 1

theorem resolve_andThen {path : Option Path} (hpath : Check.path? flags "device-spec" = path)
    (next : DeviceSpec → Logged RequestFault β) :
    (DeviceSpec.resolve t path).andThen next =
      (Check.runAll t flags [.specFile, .specExtension, .specText, .specContent]).andThen fun _ =>
        next (chosenSpec t flags) := by
  simp only [Check.runAll, Check.run, chosenSpec, hpath, Logged.andThen_assoc, Logged.done_andThen]
  cases path with
  | none =>
    simp only [Option.elim_none, DeviceSpec.resolve, Logged.andThen_assoc, Logged.done_andThen]
  | some path =>
    simp only [Option.elim_some, DeviceSpec.resolve, Logged.andThen_assoc]
    congr 1
    funext _
    simp only [DeviceSpec.loadPartial, DeviceSpec.load]
    cases SpecFormat.ofPath? path with
    | none => rfl
    | some format =>
      cases t.readText path with
      | error fault => rfl
      | ok text =>
        cases hread : DeviceSpec.ofText format text with
        | error reason => simp [hread, Logged.done_andThen]; rfl
        | ok found => simp [hread, Logged.done_andThen]; rfl

/-- A request is resolved by making all checks in their order. -/
theorem ofFlags_snd (t : FileTree) (flags : Flags) :
    (ofFlags t flags).2 =
      (Check.runAll t flags Check.values).andThen fun _ => conclude t flags := by
  have hvalues : Check.values = [.archive, .spec, .modules, .instant, .dimensions, .others] ++
      ([.archiveFile] ++ [.specFile, .specExtension, .specText, .specContent]) := rfl
  rw [hvalues, Check.runAll_append, Check.runAll_append, Logged.andThen_assoc]
  refine readInputs_andThen fun archive harchive => ?_
  rw [build, resolve_andThen rfl]
  simp [Check.runAll, Check.run, harchive, Logged.andThen_assoc, Logged.done_andThen, conclude]

end Steps

end Request

end SizeRequest

import SizeRequest.Proofs.FirstFault

namespace SizeRequest

/-- What a reader of the log sees of an event. -/
structure Record where
  level : Level
  message : String
  fields : List (String × LogValue)

def Event.record (event : Event) : Record := ⟨event.level, event.message, event.fields⟩

namespace Record

def tokenized (flag : Flag) : Record := ⟨.trace, "tokenized flag", [("flag", .text flag.name)]⟩

def extracted (name : String) : Record := ⟨.debug, "extracted flag", [("flag", .text name)]⟩

def readable (path : String) : Record :=
  ⟨.debug, "file exists and is readable", [("path", .bare path)]⟩

def defaultSpec : Record := ⟨.debug, "no device spec given, using the default spec", []⟩

def parsed (path : String) (spec : DeviceSpec) : Record :=
  ⟨.debug, "parsed partial device spec", [("path", .bare path), ("spec", .bare spec.debugText)]⟩

def ignoring (names : List String) : Record :=
  ⟨.warn, "ALL already covers every supported dimension, ignoring " ++ Text.join ", " names, []⟩

def resolved (r : Request) : Record :=
  ⟨.info, "resolved get-size request", [("command", .bare r.summary)]⟩

end Record

namespace KnownFlag

variable {α : Type} {flag : KnownFlag α} {flags : Flags}

theorem events_read_of_absent (h : ∀ value, ⟨flag.name, value⟩ ∉ flags.supplied) :
    (flag.read flags).2.events = [] := by
  rw [read, Flags.value?_eq_none_iff.2 h]
  rfl

theorem events_read_of_mem {value : Option String} {found : Option α}
    (hmem : ⟨flag.name, value⟩ ∈ flags.supplied) (h : (flag.read flags).2.outcome = .ok found) :
    (flag.read flags).2.events = [.flagExtracted flag.name] := by
  rcases outcome_read_eq_ok_iff.1 h with ⟨hnone, -⟩ | ⟨given, a, hvalue, hconvert, -⟩
  · exact absurd hmem (Flags.value?_eq_none_iff.1 hnone value)
  · simp only [read, hvalue, hconvert]

theorem events_readRequired {a : α} (h : (flag.readRequired flags).2.outcome = .ok a) :
    (flag.readRequired flags).2.events = (flag.read flags).2.events := by
  rw [readRequired, Reading.snd_andThen,
    Logged.andThen_of_ok (outcome_readRequired_eq_ok_iff.1 h)]
  exact List.append_nil _

end KnownFlag

namespace Request

open FlagList (Writes Rejects)

namespace Check

def flag? : Check → Option String
  | archive => some "apks"
  | spec => some "device-spec"
  | modules => some "modules"
  | instant => some "instant"
  | dimensions => some "dimensions"
  | _ => none

/-- What a check logs when it is passed. -/
inductive Logs (t : FileTree) (flags : List Flag) : Check → List Record → Prop
  | present {check : Check} {name : String} {value : Option String} : check.flag? = some name →
      ⟨name, value⟩ ∈ flags → Logs t flags check [.extracted name]
  | absent {check : Check} {name : String} : check.flag? = some name →
      (∀ value, ⟨name, value⟩ ∉ flags) → Logs t flags check []
  | others : Logs t flags others []
  | archiveFile {text : String} : ⟨"apks", some text⟩ ∈ flags →
      Logs t flags archiveFile [.readable text]
  | specFile {text : String} : ⟨"device-spec", some text⟩ ∈ flags →
      Logs t flags specFile [.readable text]
  | defaultSpec : (∀ value, ⟨"device-spec", value⟩ ∉ flags) → Logs t flags specFile [.defaultSpec]
  | specExtension : Logs t flags specExtension []
  | specText : Logs t flags specText []
  | specContent {text : String} {spec : DeviceSpec} : ⟨"device-spec", some text⟩ ∈ flags →
      t.HoldsSpec ⟨text⟩ spec → Logs t flags specContent [.parsed text spec]
  | noContent : (∀ value, ⟨"device-spec", value⟩ ∉ flags) → Logs t flags specContent []

section Passed

variable {t : FileTree} {flags : List Flag} {check : Check} {records : List Record}

theorem exists_text_of_passes_archive (h : Passes t ⟨flags, []⟩ archive) :
    ∃ text, ⟨"apks", some text⟩ ∈ flags := by
  by_contra hnone
  refine h _ (.archiveMissing fun value hmem => ?_)
  cases value with
  | none => exact h _ (.archive hmem .bare)
  | some text => exact hnone ⟨text, hmem⟩

theorem exists_text_of_passes_spec (h : Passes t ⟨flags, []⟩ spec) {value : Option String}
    (hmem : ⟨"device-spec", value⟩ ∈ flags) : ∃ text, ⟨"device-spec", some text⟩ ∈ flags := by
  cases value with
  | none => exact absurd (.spec hmem .bare) (h _)
  | some text => exact ⟨text, hmem⟩

theorem holdsSpec_of_passes {text : String} (hmem : ⟨"device-spec", some text⟩ ∈ flags)
    (hextension : Passes t ⟨flags, []⟩ specExtension) (htext : Passes t ⟨flags, []⟩ specText)
    (hcontent : Passes t ⟨flags, []⟩ specContent) : ∃ spec, t.HoldsSpec ⟨text⟩ spec := by
  cases hformat : SpecFormat.ofPath? ⟨text⟩ with
  | none => exact absurd (.specExtension hmem hformat) (hextension _)
  | some format =>
    cases hread : t.readText ⟨text⟩ with
    | error fault => exact absurd (.specText hmem hread) (htext _)
    | ok contents =>
      cases hspec : DeviceSpec.ofText format contents with
      | error reason => exact absurd (.specContent hmem hformat hread hspec) (hcontent _)
      | ok spec =>
        obtain ⟨bytes, hlocate, hutf8⟩ := FileTree.readText_eq_ok_iff.1 hread
        exact ⟨spec, format, bytes, contents, hformat, hlocate, hutf8, hspec⟩

/-- There is something to log of a check that is passed after those before it were. -/
theorem exists_logs (hbefore : ∀ other ∈ values.takeWhile (· ≠ check), Passes t ⟨flags, []⟩ other)
    (h : Passes t ⟨flags, []⟩ check) : ∃ records, Logs t flags check records := by
  have hlookup {name : String} (hname : check.flag? = some name) :
      ∃ records, Logs t flags check records := by
    rcases FlagList.present_or_absent flags name with ⟨value, hmem⟩ | habsent
    · exact ⟨_, .present hname hmem⟩
    · exact ⟨_, .absent hname habsent⟩
  cases check with
  | archive => exact hlookup rfl
  | spec => exact hlookup rfl
  | modules => exact hlookup rfl
  | instant => exact hlookup rfl
  | dimensions => exact hlookup rfl
  | others => exact ⟨_, .others⟩
  | archiveFile =>
    -- The check of the flag came before, so the flag is there and gives a path.
    obtain ⟨text, hmem⟩ := exists_text_of_passes_archive (hbefore archive (by decide))
    exact ⟨_, .archiveFile hmem⟩
  | specFile =>
    rcases FlagList.present_or_absent flags "device-spec" with ⟨value, hmem⟩ | habsent
    · obtain ⟨text, hmem⟩ := exists_text_of_passes_spec (hbefore spec (by decide)) hmem
      exact ⟨_, .specFile hmem⟩
    · exact ⟨_, .defaultSpec habsent⟩
  | specExtension => exact ⟨_, .specExtension⟩
  | specText => exact ⟨_, .specText⟩
  | specContent =>
    rcases FlagList.present_or_absent flags "device-spec" with ⟨value, hmem⟩ | habsent
    · obtain ⟨text, hmem⟩ := exists_text_of_passes_spec (hbefore spec (by decide)) hmem
      obtain ⟨spec, hspec⟩ := holdsSpec_of_passes hmem (hbefore specExtension (by decide))
        (hbefore specText (by decide)) h
      exact ⟨_, .specContent hmem hspec⟩
    · exact ⟨_, .noContent habsent⟩

variable (hd : (flags.map Flag.name).Nodup)

include hd

theorem exists_read_of_passes {name : String} (hname : check.flag? = some name)
    (h : Passes t ⟨flags, []⟩ check) :
    ∃ (α : Type) (flag : KnownFlag α) (found : Option α), flag.name = name ∧
      (flag.read ⟨flags, []⟩).2.outcome = .ok found ∧
      (run t ⟨flags, []⟩ check).events = (flag.read ⟨flags, []⟩).2.events := by
  have hread {α : Type} {x : Logged FlagFault α}
      (hrun : run t ⟨flags, []⟩ check = (x.mapFault RequestFault.flag).course) :
      ∃ a, x.outcome = .ok a :=
    isOk_iff.1 ((passes_iff_isOk hd hrun).1 h)
  cases check with
  | archive =>
    obtain ⟨a, ha⟩ := hread (x := (archiveFlag.readRequired ⟨flags, []⟩).2) rfl
    exact ⟨_, archiveFlag, _, Option.some.inj hname,
      KnownFlag.outcome_readRequired_eq_ok_iff.1 ha, KnownFlag.events_readRequired ha⟩
  | spec =>
    obtain ⟨found, hfound⟩ := hread (x := (specFlag.read ⟨flags, []⟩).2) rfl
    exact ⟨_, specFlag, found, Option.some.inj hname, hfound, rfl⟩
  | modules =>
    obtain ⟨found, hfound⟩ := hread (x := (modulesFlag.read ⟨flags, []⟩).2) rfl
    exact ⟨_, modulesFlag, found, Option.some.inj hname, hfound, rfl⟩
  | instant =>
    obtain ⟨found, hfound⟩ := hread (x := (instantFlag.read ⟨flags, []⟩).2) rfl
    exact ⟨_, instantFlag, found, Option.some.inj hname, hfound, rfl⟩
  | dimensions =>
    obtain ⟨found, hfound⟩ := hread (x := (dimensionsFlag.read ⟨flags, []⟩).2) rfl
    exact ⟨_, dimensionsFlag, found, Option.some.inj hname, hfound, rfl⟩
  | _ => cases hname

omit hd in
theorem path?_of_absent {name : String} (h : ∀ value, ⟨name, value⟩ ∉ flags) :
    path? ⟨flags, []⟩ name = none := by
  have hvalue : (Flags.mk flags []).value? name = none := Flags.value?_eq_none_iff.2 h
  rw [path?, hvalue]
  rfl

theorem events_check {name text : String} {otherwise : Logged RequestFault Unit}
    (h : Passes t ⟨flags, []⟩ check)
    (hrun : run t ⟨flags, []⟩ check = (path? ⟨flags, []⟩ name).elim otherwise fun path =>
      (t.check path).mapFault .file) (hmem : ⟨name, some text⟩ ∈ flags) :
    (run t ⟨flags, []⟩ check).events = [.fileReadable ⟨text⟩] := by
  have hpath : path? ⟨flags, []⟩ name = some ⟨text⟩ := (path?_eq_some_iff hd).2 hmem
  have houtcome := outcome_run_of_passes hd h
  rw [hrun, hpath, Option.elim_some] at houtcome ⊢
  unfold FileTree.check at houtcome ⊢
  cases hcheck : t.checkFile ⟨text⟩ with
  | error fault =>
    rw [hcheck] at houtcome
    cases houtcome
  | ok => rfl

theorem records_of_logs (hlogs : Logs t flags check records) (h : Passes t ⟨flags, []⟩ check) :
    (run t ⟨flags, []⟩ check).events.map Event.record = records := by
  cases hlogs with
  | present hname hmem =>
    obtain ⟨α, flag, found, rfl, hfound, hevents⟩ := exists_read_of_passes hd hname h
    rw [hevents, KnownFlag.events_read_of_mem hmem hfound]
    rfl
  | absent hname habsent =>
    obtain ⟨α, flag, found, rfl, hfound, hevents⟩ := exists_read_of_passes hd hname h
    rw [hevents, KnownFlag.events_read_of_absent habsent]
    rfl
  | others => rfl
  | archiveFile hmem =>
    rw [events_check hd h rfl hmem]
    rfl
  | specFile hmem =>
    rw [events_check hd h rfl hmem]
    rfl
  | defaultSpec habsent =>
    simp only [run, path?_of_absent habsent, Option.elim_none]
    rfl
  | specExtension =>
    rw [run]
    cases path? ⟨flags, []⟩ "device-spec" with
    | none => rfl
    | some path =>
      rw [Option.elim_some]
      split <;> rfl
  | specText =>
    rw [run]
    cases path? ⟨flags, []⟩ "device-spec" with
    | none => rfl
    | some path =>
      rw [Option.elim_some]
      split <;> rfl
  | @specContent text spec hmem hspec =>
    obtain ⟨format, bytes, contents, hformat, hlocate, hutf8, hspec⟩ := hspec
    have hpath : path? ⟨flags, []⟩ "device-spec" = some ⟨text⟩ := (path?_eq_some_iff hd).2 hmem
    have hread := FileTree.readText_eq_ok_iff.2 ⟨bytes, hlocate, hutf8⟩
    simp only [run, hpath, Option.elim_some, hformat, hread, hspec]
    rfl
  | noContent habsent =>
    simp only [run, path?_of_absent habsent, Option.elim_none]
    rfl

end Passed

end Check

/-- What is logged of the requested dimensions: nothing, or that the wildcard covers others. -/
inductive Warns (flags : List Flag) : List Record → Prop
  | nothing : (∀ d, AsksFor flags d → d ≠ .all → ¬ AsksFor flags .all) → Warns flags []
  | ignoring {others : OrderedSet Dimension} : AsksFor flags .all → others.toList ≠ [] →
      (∀ d, d ∈ others.toList ↔ d ≠ .all ∧ AsksFor flags d) →
      Warns flags [.ignoring (others.toList.map Dimension.name)]

section Warnings

variable {flags : List Flag} {found : Option (OrderedSet Dimension)} {records : List Record}

theorem mem_discarded_iff {requested : OrderedSet Dimension} {d : Dimension} :
    d ∈ Dimension.discarded requested ↔
      .all ∈ requested.toList ∧ d ∈ requested.toList ∧ d ≠ .all := by
  by_cases hall : .all ∈ requested.toList
  · simp [Dimension.discarded, OrderedSet.contains, hall]
  · simp [Dimension.discarded, OrderedSet.contains, hall]

def discardedSet (requested : OrderedSet Dimension) : OrderedSet Dimension where
  toList := Dimension.discarded requested
  increasing := by
    unfold Dimension.discarded
    split
    · exact requested.increasing.filter _
    · exact .nil

theorem chosen?_eq (h : (dimensionsFlag.read ⟨flags, []⟩).2.outcome = .ok found) :
    chosen? dimensionsFlag ⟨flags, []⟩ = found := by
  rw [chosen?, h]
  rfl

variable (hd : (flags.map Flag.name).Nodup)
  (hread : (dimensionsFlag.read ⟨flags, []⟩).2.outcome = .ok found)

include hd hread

theorem mem_discarded_iff_asksFor {d : Dimension} :
    d ∈ Dimension.discarded (found.getD .empty) ↔
      AsksFor flags .all ∧ AsksFor flags d ∧ d ≠ .all := by
  rw [mem_discarded_iff, asksFor_iff_of_read hd _ hread, asksFor_iff_of_read hd _ hread]

theorem records_of_warns (h : Warns flags records) :
    (warnings ⟨flags, []⟩).map Event.record = records := by
  rw [warnings, chosen?_eq hread]
  cases h with
  | nothing hnone =>
    have hnil : Dimension.discarded (found.getD .empty) = [] := by
      refine List.eq_nil_iff_forall_not_mem.2 fun d hmem => ?_
      obtain ⟨hall, hasked, hne⟩ := (mem_discarded_iff_asksFor hd hread).1 hmem
      exact hnone d hasked hne hall
    rw [hnil]
    rfl
  | @ignoring others hall hne hothers =>
    have hsame : others = discardedSet (found.getD .empty) := by
      refine OrderedSet.eq_of_mem_iff fun d => ?_
      refine (hothers d).trans (Iff.trans ?_ (mem_discarded_iff_asksFor hd hread).symm)
      simp [hall, and_comm]
    have hlist : Dimension.discarded (found.getD .empty) = others.toList := by
      rw [hsame]
      rfl
    rw [hlist]
    cases hcons : others.toList with
    | nil => exact absurd hcons hne
    | cons d rest => rfl

theorem exists_warns : ∃ records, Warns flags records := by
  by_cases hnil : Dimension.discarded (found.getD .empty) = []
  · refine ⟨[], .nothing fun d hasked hne hall => ?_⟩
    have hmem := (mem_discarded_iff_asksFor hd hread).2 ⟨hall, hasked, hne⟩
    rw [hnil] at hmem
    cases hmem
  · obtain ⟨d, hmem⟩ := List.exists_mem_of_ne_nil _ hnil
    have hall := ((mem_discarded_iff_asksFor hd hread).1 hmem).1
    have hothers : ∀ d, d ∈ (discardedSet (found.getD .empty)).toList ↔
        d ≠ .all ∧ AsksFor flags d := by
      intro d
      refine (mem_discarded_iff_asksFor hd hread).trans ?_
      simp [hall, and_comm]
    exact ⟨_, .ignoring hall hnil hothers⟩

end Warnings

/-- What is logged until the resolution ends, and how it ends. -/
inductive Story (t : FileTree) (arguments : List String) :
    List Record → Except RequestFault Request → Prop
  | rejected {before after : List String} {argument : String} {flags : List Flag}
      {fault : FlagFault} : arguments = before ++ argument :: after → Writes before flags →
      Rejects flags argument fault →
      Story t arguments (flags.map .tokenized) (.error (.flag fault))
  | failed {flags : List Flag} {passed rest : List Check} {check : Check} {fault : RequestFault}
      {logged : List (List Record)} : Writes arguments flags →
      Check.values = passed ++ check :: rest →
      (∀ other ∈ passed, Check.Passes t ⟨flags, []⟩ other) →
      Check.Fails t ⟨flags, []⟩ check fault → passed.Forall₂ (Check.Logs t flags) logged →
      Story t arguments (flags.map .tokenized ++ logged.flatten) (.error fault)
  | resolved {flags : List Flag} {logged : List (List Record)} {warned : List Record}
      {r : Request} : Writes arguments flags →
      (∀ check ∈ Check.values, Check.Passes t ⟨flags, []⟩ check) →
      Check.values.Forall₂ (Check.Logs t flags) logged → Warns flags warned → Answers t flags r →
      Story t arguments (flags.map .tokenized ++ logged.flatten ++ warned ++ [.resolved r]) (.ok r)

section Courses

variable {t : FileTree} {flags : List Flag} {arguments : List String}
  (hwrites : Writes arguments flags)

include hwrites

theorem ofArguments_of_fails {passed rest : List Check} {check : Check} {fault : RequestFault}
    (hvalues : Check.values = passed ++ check :: rest)
    (hpassed : ∀ other ∈ passed, Check.Passes t ⟨flags, []⟩ other)
    (hfails : Check.Fails t ⟨flags, []⟩ check fault) :
    ofArguments t arguments =
      ⟨flags.map (.flagTokenized ·.name) ++
        passed.flatMap fun other => (Check.run t ⟨flags, []⟩ other).events, .error fault⟩ := by
  rw [ofArguments_of_writes hwrites, ofFlags_snd, hvalues,
    Check.runAll_of_fails hwrites.distinct hpassed hfails]
  rfl

theorem ofArguments_of_passes (hpassed : ∀ check ∈ Check.values, Check.Passes t ⟨flags, []⟩ check) :
    ofArguments t arguments =
      ⟨flags.map (.flagTokenized ·.name) ++
        ((Check.values.flatMap fun check => (Check.run t ⟨flags, []⟩ check).events) ++
          (warnings ⟨flags, []⟩ ++ [.requestResolved (concluded t ⟨flags, []⟩)])),
        .ok (concluded t ⟨flags, []⟩)⟩ := by
  rw [ofArguments_of_writes hwrites, ofFlags_snd,
    Check.runAll_of_passes hwrites.distinct hpassed, conclude_eq]
  rfl

end Courses

section Stories

variable {t : FileTree} {flags : List Flag} {arguments : List String}

theorem records_flatMap {checks : List Check} {logged : List (List Record)}
    (hd : (flags.map Flag.name).Nodup) (h : checks.Forall₂ (Check.Logs t flags) logged)
    (hpassed : ∀ check ∈ checks, Check.Passes t ⟨flags, []⟩ check) :
    (checks.flatMap fun check => (Check.run t ⟨flags, []⟩ check).events).map Event.record =
      logged.flatten := by
  induction h with
  | nil => rfl
  | cons hlogs _ ih =>
    rw [List.forall_mem_cons] at hpassed
    rw [List.flatMap_cons, List.map_append, Check.records_of_logs hd hlogs hpassed.1,
      ih hpassed.2, List.flatten_cons]

theorem exists_logged {passed rest : List Check} (hvalues : Check.values = passed ++ rest)
    (hpassed : ∀ check ∈ passed, Check.Passes t ⟨flags, []⟩ check) :
    ∃ logged, passed.Forall₂ (Check.Logs t flags) logged := by
  have hlogs : ∀ check ∈ passed, ∃ records, Check.Logs t flags check records := by
    intro check hcheck
    obtain ⟨before, after, rfl⟩ := List.append_of_mem hcheck
    have hbefore := Check.eq_takeWhile_of_values (hvalues.trans (List.append_assoc _ _ _))
    refine Check.exists_logs (fun other hother => hpassed other ?_) (hpassed check hcheck)
    rw [← hbefore] at hother
    exact List.mem_append_left _ hother
  clear hvalues hpassed
  induction passed with
  | nil => exact ⟨[], .nil⟩
  | cons check checks ih =>
    rw [List.forall_mem_cons] at hlogs
    obtain ⟨records, hrecords⟩ := hlogs.1
    obtain ⟨logged, hlogged⟩ := ih hlogs.2
    exact ⟨records :: logged, .cons hrecords hlogged⟩

theorem exists_read_dimensions (hd : (flags.map Flag.name).Nodup)
    (hpassed : ∀ check ∈ Check.values, Check.Passes t ⟨flags, []⟩ check) :
    ∃ found, (dimensionsFlag.read ⟨flags, []⟩).2.outcome = .ok found :=
  isOk_iff.1 ((Check.passes_iff_isOk hd rfl).1 (hpassed .dimensions (by decide)))

theorem course_of_story {records : List Record} {outcome : Except RequestFault Request}
    (h : Story t arguments records outcome) :
    (ofArguments t arguments).events.map Event.record = records ∧
      (ofArguments t arguments).outcome = outcome := by
  cases h with
  | rejected hsplit hwrites hrejects =>
    rw [hsplit, ofArguments_of_rejects hwrites hrejects]
    exact ⟨by rw [List.map_map]; rfl, rfl⟩
  | failed hwrites hvalues hpassed hfails hlogged =>
    rw [ofArguments_of_fails hwrites hvalues hpassed hfails]
    refine ⟨?_, rfl⟩
    rw [List.map_append, List.map_map, records_flatMap hwrites.distinct hlogged hpassed]
    rfl
  | @resolved flags logged warned r hwrites hpassed hlogged hwarned hanswers =>
    obtain ⟨found, hread⟩ := exists_read_dimensions hwrites.distinct hpassed
    have hcourse := ofArguments_of_passes hwrites hpassed
    have houtcome : (ofFlags t ⟨flags, []⟩).2.outcome = .ok (concluded t ⟨flags, []⟩) := by
      rw [ofArguments_of_writes hwrites] at hcourse
      exact congrArg Logged.outcome hcourse
    have hr : r = concluded t ⟨flags, []⟩ :=
      eq_of_answers hwrites.distinct (acceptable_of_outcome_ofFlags hwrites.distinct houtcome)
        hanswers (answers_of_outcome_ofFlags hwrites.distinct houtcome)
    rw [hcourse, hr]
    refine ⟨?_, rfl⟩
    rw [List.map_append, List.map_map, List.map_append, List.map_append,
      records_flatMap hwrites.distinct hlogged hpassed,
      records_of_warns hwrites.distinct hread hwarned, List.append_assoc, List.append_assoc]
    rfl

theorem exists_story (t : FileTree) (arguments : List String) :
    ∃ records outcome, Story t arguments records outcome := by
  rcases FlagList.writes_or_rejects arguments with
    ⟨flags, hwrites⟩ | ⟨before, argument, after, flags, fault, hsplit, hwrites, hrejects⟩
  · rcases Check.passes_or_fails t ⟨flags, []⟩ Check.values with
      hpassed | ⟨passed, check, rest, fault, hvalues, hpassed, hfails⟩
    · obtain ⟨found, hread⟩ := exists_read_dimensions hwrites.distinct hpassed
      obtain ⟨logged, hlogged⟩ := exists_logged (List.append_nil _).symm hpassed
      obtain ⟨warned, hwarned⟩ := exists_warns hwrites.distinct hread
      have hcourse := ofArguments_of_passes hwrites hpassed
      rw [ofArguments_of_writes hwrites] at hcourse
      exact ⟨_, _, .resolved hwrites hpassed hlogged hwarned
        (answers_of_outcome_ofFlags hwrites.distinct (congrArg Logged.outcome hcourse))⟩
    · obtain ⟨logged, hlogged⟩ := exists_logged hvalues hpassed
      exact ⟨_, _, .failed hwrites hvalues hpassed hfails hlogged⟩
  · exact ⟨_, _, .rejected hsplit hwrites hrejects⟩

theorem level_of_logs {check : Check} {records : List Record}
    (h : Check.Logs t flags check records) :
    ∀ record ∈ records, record.level = .debug := by
  cases h <;> simp [Record.extracted, Record.readable, Record.defaultSpec, Record.parsed]

theorem level_of_warns {records : List Record} (h : Warns flags records) :
    ∀ record ∈ records, record.level = .warn := by
  cases h <;> simp [Record.ignoring]

/-- What is told of the flags and of the checks is told at the two least pressing levels. -/
theorem level_of_logged {checks : List Check} {logged : List (List Record)}
    (h : checks.Forall₂ (Check.Logs t flags) logged) :
    ∀ record ∈ flags.map .tokenized ++ logged.flatten,
      record.level = .trace ∨ record.level = .debug := by
  simp only [List.mem_append, List.mem_map, List.mem_flatten]
  rintro record (⟨flag, -, rfl⟩ | ⟨records, hmem, hrecord⟩)
  · exact .inl rfl
  · induction h with
    | nil => cases hmem
    | cons hlogs _ ih =>
      rcases List.mem_cons.1 hmem with rfl | hmem
      · exact .inr (level_of_logs hlogs record hrecord)
      · exact ih hmem

theorem level_of_story_error {records : List Record} {fault : RequestFault}
    (h : Story t arguments records (.error fault)) :
    ∀ record ∈ records, record.level ≠ .info := by
  cases h with
  | rejected =>
    intro record hrecord
    obtain ⟨flag, -, rfl⟩ := List.mem_map.1 hrecord
    simp [Record.tokenized]
  | failed _ _ _ _ hlogged =>
    intro record hrecord
    rcases level_of_logged hlogged record hrecord with hlevel | hlevel <;> simp [hlevel]

theorem level_of_story_ok {records : List Record} {r : Request}
    (h : Story t arguments records (.ok r)) :
    ∃ before, records = before ++ [.resolved r] ∧ ∀ record ∈ before, record.level ≠ .info := by
  cases h with
  | resolved _ _ hlogged hwarned _ =>
    refine ⟨_, rfl, fun record hrecord => ?_⟩
    rcases List.mem_append.1 hrecord with hrecord | hrecord
    · rcases level_of_logged hlogged record hrecord with hlevel | hlevel <;> simp [hlevel]
    · simp [level_of_warns hwarned record hrecord]

end Stories

/-- What is logged while arguments are resolved, and how this ends, is what a story of them tells;
so a request is told of once, at the end, and only if there is one. -/
theorem records_are_story (t : FileTree) (arguments : List String) :
    (∀ records outcome, Story t arguments records outcome ↔
      (ofArguments t arguments).events.map Event.record = records ∧
        (ofArguments t arguments).outcome = outcome) ∧
    (∀ fault, (ofArguments t arguments).outcome = .error fault →
      ∀ record ∈ (ofArguments t arguments).events.map Event.record, record.level ≠ .info) ∧
    ∀ r, (ofArguments t arguments).outcome = .ok r →
      ∃ before, (ofArguments t arguments).events.map Event.record = before ++ [.resolved r] ∧
        ∀ record ∈ before, record.level ≠ .info := by
  have hstory : Story t arguments ((ofArguments t arguments).events.map Event.record)
      (ofArguments t arguments).outcome := by
    obtain ⟨records, outcome, h⟩ := exists_story t arguments
    obtain ⟨rfl, rfl⟩ := course_of_story h
    exact h
  refine ⟨fun records outcome => ⟨course_of_story, ?_⟩, fun fault h => ?_, fun r h => ?_⟩
  · rintro ⟨rfl, rfl⟩
    exact hstory
  · rw [h] at hstory
    exact level_of_story_error hstory
  · rw [h] at hstory
    exact level_of_story_ok hstory

theorem told_of_archive_only_if_there :
    (∃ r before,
      (ofArguments (FileTree.scratch.add "a.apks" (.file .empty)) ["--apks=a.apks"]).events.map
        Event.record = before ++ [.resolved r] ∧ ∀ record ∈ before, record.level ≠ .info) ∧
    ∀ record ∈ (ofArguments .scratch ["--apks=a.apks"]).events.map Event.record,
      record.level ≠ .info := by
  have hthere : (ofArguments (FileTree.scratch.add "a.apks" (.file .empty))
      ["--apks=a.apks"]).outcome.isOk := by decide
  have hlost : (ofArguments .scratch ["--apks=a.apks"]).outcome =
      .error (.file (.notFound ⟨"a.apks"⟩)) := by decide
  obtain ⟨r, hr⟩ := isOk_iff.1 hthere
  exact ⟨⟨r, (records_are_story _ _).2.2 r hr⟩, (records_are_story _ _).2.1 _ hlost⟩

end Request

end SizeRequest

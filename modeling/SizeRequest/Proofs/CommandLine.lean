import SizeRequest.CommandLine.Parse
import SizeRequest.Proofs.FlagText

namespace SizeRequest.CommandLine

/-- An option as it is given on a command line, in one of its two spellings. -/
inductive Given
  | logLevel (level : Level) (attached : Bool)
  | verbose (short : Bool)
  | output (format : OutputFormat) (attached : Bool)

namespace Given

def option : Given → Opt
  | logLevel _ _ => .logLevel
  | verbose _ => .verbose
  | output _ _ => .output

def arguments : Given → List String
  | logLevel level true => ["--log-level=" ++ level.name]
  | logLevel level false => ["--log-level", level.name]
  | verbose true => ["-v"]
  | verbose false => ["--verbose"]
  | output format true => ["--output=" ++ format.name]
  | output format false => ["--output", format.name]

def level? : Given → Option Level
  | logLevel level _ => some level
  | _ => none

def format? : Given → Option OutputFormat
  | output format _ => some format
  | _ => none

def isVerbose : Given → Bool
  | verbose _ => true
  | _ => false

theorem option_mem_getSize (g : Given) : g.option ∈ Scope.getSize.options := by
  cases g <;> simp [option, Scope.options]

theorem option_mem_program {g : Given} (h : g.option ≠ .output) :
    g.option ∈ Scope.program.options := by
  cases g with
  | logLevel level attached => simp [option, Scope.options]
  | verbose short => simp [option, Scope.options]
  | output format attached => exact absurd rfl h

end Given

theorem Shape.of_dashes {argument : String} {c : Char} {rest : List Char}
    (h : argument.toList = '-' :: '-' :: c :: rest) :
    Shape.of argument = .long (Flag.ofBody (c :: rest)).name (Flag.ofBody (c :: rest)).value := by
  simp only [Shape.of, h, Flag.ofBody]
  cases (c :: rest).dropWhile (· != '=') <;> rfl

theorem Shape.of_render {f : Flag} (h : f.HasName) : Shape.of f.render = .long f.name f.value := by
  have hbody : Flag.ofBody f.body = f := Flag.ofBody_body h.2
  have hrender := f.toList_render
  cases hchars : f.body with
  | nil =>
    rw [hchars] at hbody
    exact absurd (congrArg Flag.name hbody).symm h.1
  | cons c rest =>
    rw [hchars] at hbody hrender
    rw [Shape.of_dashes hrender, hbody]

theorem Opt.hasName (o : Opt) (value : Option String) : Flag.HasName ⟨o.name, value⟩ := by
  have hnames : o.name ≠ "" ∧ '=' ∉ o.name.toList := by cases o <;> decide
  exact hnames

theorem Scope.ofName?_name {scope : Scope} {o : Opt} (h : o ∈ scope.options) :
    scope.ofName? o.name = some o := by
  cases scope <;> cases o <;> first | rfl | exact absurd h (by decide)

namespace Progress

def give (q : Progress) : Given → Progress
  | .logLevel level _ => { q with level := some level, used := q.used ++ [.logLevel] }
  | .verbose _ => { q with verbose := true, used := q.used ++ [.verbose] }
  | .output format _ => { q with output := some format, used := q.used ++ [.output] }

/-- No value is due, and checking the last one leads to the progress `q`. -/
structure Settles (scope : Scope) (p q : Progress) : Prop where
  notDue : p.awaits = none
  settled : p.settle scope = .ok q
  checked : q.pending = none

theorem Settles.of_checked {scope : Scope} {q : Progress} (h : q.pending = none) :
    Settles scope q q where
  notDue := by rw [awaits, h]
  settled := by rw [settle, h]
  checked := h

/-- Arguments that are read as options one after the other. -/
inductive Steps (scope : Scope) : Progress → List String → Progress → Prop
  | nil {p : Progress} : Steps scope p [] p
  | cons {p p' p'' : Progress} {argument : String} {arguments : List String} :
      (∀ later, p.step scope argument later = .ok (.option p')) → Steps scope p' arguments p'' →
      Steps scope p (argument :: arguments) p''

theorem Steps.append {scope : Scope} {p p' p'' : Progress} {arguments more : List String}
    (h : Steps scope p arguments p') (hmore : Steps scope p' more p'') :
    Steps scope p (arguments ++ more) p'' := by
  induction h with
  | nil => exact hmore
  | cons hstep _ ih => exact .cons hstep (ih hmore)

section Step

variable {scope : Scope} {p q q' : Progress} {o : Opt} {value : String}

theorem step_long (hscope : o ∈ scope.options) (value : Option String) (later : List String) :
    p.step scope (Flag.render ⟨o.name, value⟩) later =
      (p.readLong scope o value).map .option := by
  simp only [step, Shape.of_render (o.hasName value), Scope.ofName?_name hscope]

theorem step_due (hdue : p.awaits = some o) (hplain : Shape.of value = .plain)
    (later : List String) :
    p.step scope value later = .ok (.option { p with pending := some (o, some value) }) := by
  simp only [step, hdue, hplain]

theorem step_letter (hverbose : .verbose ∈ scope.options) (later : List String) :
    p.step scope "-v" later = (p.turnOn scope .verbose).map .option := by
  have hshape : Shape.of "-v" = .letters ['v'] := rfl
  have hletter : scope.ofLetter? 'v' = some .verbose := by
    cases scope <;> rfl
  simp only [step, hshape, readLetters, hletter, List.all_cons, List.all_nil]
  cases scope <;> cases p.turnOn _ .verbose <;> rfl

theorem turnOn_verbose (h : Settles scope p q) (hnew : .verbose ∉ q.used) (short : Bool) :
    p.turnOn scope .verbose = .ok (q.give (.verbose short)) := by
  simp [turnOn, h.settled, use, give, hnew]

theorem assign_logLevel (hnew : .logLevel ∉ q.used) (level : Level) (attached : Bool) :
    q.assign scope .logLevel level.name = .ok (q.give (.logLevel level attached)) := by
  have hname : Level.ofName? false level.name = some level := by cases level <;> rfl
  simp [assign, hname, use, give, hnew]

theorem assign_output (hnew : .output ∉ q.used) (format : OutputFormat) (attached : Bool) :
    q.assign scope .output format.name = .ok (q.give (.output format attached)) := by
  have hname : OutputFormat.values.find? (·.name == format.name) = some format := by
    cases format <;> rfl
  simp [assign, hname, use, give, hnew]

variable (h : Settles scope p q) (hscope : o ∈ scope.options) (htakes : o.takesValue = true)
  (hassign : q.assign scope o value = .ok q') (hchecked : q'.pending = none)

include h hscope htakes hassign hchecked

theorem exists_steps_attached :
    ∃ p', Steps scope p [Flag.render ⟨o.name, some value⟩] p' ∧ Settles scope p' q' := by
  refine ⟨q', .cons ?_ .nil, .of_checked hchecked⟩
  intro later
  rw [step_long hscope, readLong, if_pos htakes, h.settled]
  simp only [hassign]
  rfl

/-- A value that is an argument of its own is not checked before the next argument is read. -/
theorem exists_steps_separate (hplain : Shape.of value = .plain) :
    ∃ p', Steps scope p [Flag.render ⟨o.name, none⟩, value] p' ∧ Settles scope p' q' := by
  have hdue (later : List String) : p.step scope (Flag.render ⟨o.name, none⟩) later =
      .ok (.option { q with pending := some (o, none) }) := by
    rw [step_long hscope, readLong, if_pos htakes, h.settled]
    rfl
  refine ⟨{ q with pending := some (o, some value) }, .cons hdue (.cons ?_ .nil), rfl, ?_, hchecked⟩
  · intro later
    rw [step_due rfl hplain]
  · have hq : { q with pending := none } = q := by rw [← h.checked]
    simp only [settle, hq, hassign]

end Step

section Run

variable {scope : Scope} {p q : Progress}

@[simp] theorem pending_give (q : Progress) (g : Given) : (q.give g).pending = q.pending := by
  cases g <;> rfl

@[simp] theorem used_give (q : Progress) (g : Given) : (q.give g).used = q.used ++ [g.option] := by
  cases g <;> rfl

theorem exists_steps_give {g : Given} (h : Settles scope p q) (hscope : g.option ∈ scope.options)
    (hnew : g.option ∉ q.used) :
    ∃ p', Steps scope p g.arguments p' ∧ Settles scope p' (q.give g) := by
  have hchecked : (q.give g).pending = none := by rw [pending_give, h.checked]
  cases g with
  | logLevel level attached =>
    have hassign : q.assign scope .logLevel level.name = .ok (q.give (.logLevel level attached)) :=
      assign_logLevel hnew level attached
    cases attached with
    | true => exact exists_steps_attached h hscope rfl hassign hchecked
    | false =>
      have hplain : Shape.of level.name = .plain := by cases level <;> rfl
      exact exists_steps_separate h hscope rfl hassign hchecked hplain
  | verbose short =>
    have hturnOn := turnOn_verbose h hnew short
    refine ⟨_, ?_, .of_checked hchecked⟩
    cases short with
    | true =>
      refine .cons ?_ .nil
      intro later
      rw [step_letter hscope, hturnOn]
      rfl
    | false =>
      refine .cons ?_ .nil
      intro later
      have hstep := step_long (p := p) (o := .verbose) hscope none later
      rw [readLong, if_neg (by decide)] at hstep
      simp only [hturnOn] at hstep
      exact hstep
  | output format attached =>
    have hassign : q.assign scope .output format.name = .ok (q.give (.output format attached)) :=
      assign_output hnew format attached
    cases attached with
    | true => exact exists_steps_attached h hscope rfl hassign hchecked
    | false =>
      have hplain : Shape.of format.name = .plain := by cases format <;> rfl
      exact exists_steps_separate h hscope rfl hassign hchecked hplain

/-- Options that are given once each are read from their arguments. -/
theorem exists_steps_foldl_give {given : List Given} (h : Settles scope p q)
    (hscope : ∀ g ∈ given, g.option ∈ scope.options) (hnew : ∀ g ∈ given, g.option ∉ q.used)
    (hd : (given.map Given.option).Nodup) :
    ∃ p', Steps scope p (given.flatMap Given.arguments) p' ∧
      Settles scope p' (given.foldl give q) := by
  -- The last value may still be unchecked when the next option is read, so it is not the progress
  -- itself that is known from option to option but only what it settles to.
  induction given generalizing p q with
  | nil => exact ⟨p, .nil, h⟩
  | cons g rest ih =>
    rw [List.forall_mem_cons] at hscope hnew
    rw [List.map_cons, List.nodup_cons] at hd
    obtain ⟨p', hsteps, hsettles⟩ := exists_steps_give h hscope.1 hnew.1
    have hrest : ∀ other ∈ rest, other.option ∉ (q.give g).used := by
      intro other hother
      rw [used_give, List.mem_append, List.mem_singleton, not_or]
      refine ⟨hnew.2 other hother, ?_⟩
      intro heq
      exact hd.1 (heq ▸ List.mem_map_of_mem hother)
    obtain ⟨p'', hmore, hsettled⟩ := ih hsettles hscope.2 hrest hd.2
    exact ⟨p'', hsteps.append hmore, hsettled⟩

theorem foldl_give_eq_getLast? {α : Type} {field : Progress → Option α} {value? : Given → Option α}
    (hgive : ∀ q g, field (q.give g) = (value? g).or (field q)) (given : List Given)
    (q : Progress) :
    field (given.foldl give q) = (given.filterMap value?).getLast?.or (field q) := by
  induction given generalizing q with
  | nil => rfl
  | cons g rest ih =>
    rw [List.foldl_cons, ih, hgive, List.filterMap_cons]
    cases value? g with
    | none => rfl
    | some a => cases hlast : (rest.filterMap value?).getLast? <;> simp [List.getLast?_cons, hlast]

theorem level_foldl_give (given : List Given) (q : Progress) :
    (given.foldl give q).level = (given.filterMap Given.level?).getLast?.or q.level :=
  foldl_give_eq_getLast? (fun _ g => by cases g <;> rfl) given q

theorem output_foldl_give (given : List Given) (q : Progress) :
    (given.foldl give q).output = (given.filterMap Given.format?).getLast?.or q.output :=
  foldl_give_eq_getLast? (fun _ g => by cases g <;> rfl) given q

theorem verbose_foldl_give (given : List Given) (q : Progress) :
    (given.foldl give q).verbose = (q.verbose || given.any Given.isVerbose) := by
  induction given generalizing q with
  | nil => simp
  | cons g rest ih =>
    rw [List.foldl_cons, ih, List.any_cons]
    cases g <;> simp [give, Given.isVerbose]

end Run

end Progress

open Progress (Settles Steps)

theorem readGetSize_append {p p' : Progress} {arguments : List String}
    (h : Steps .getSize p arguments p') (rest : List String) :
    readGetSize p (arguments ++ rest) = readGetSize p' rest := by
  induction h with
  | nil => rfl
  | cons hstep _ ih =>
    rw [List.cons_append, readGetSize, hstep]
    exact ih

theorem readProgram_append {p p' : Progress} {arguments : List String}
    (h : Steps .program p arguments p')
    (hnone : ∀ argument ∈ arguments, Scope.ofCommand? argument = none) (rest : List String) :
    readProgram p (arguments ++ rest) = readProgram p' rest := by
  induction h with
  | nil => rfl
  | @cons p p' p'' argument arguments hstep _ ih =>
    rw [List.forall_mem_cons] at hnone
    rw [List.cons_append, readProgram.eq_def]
    simp only [hnone.1, hstep, ih hnone.2]
    -- Whether a value is due matters for the names of commands only.
    cases p.awaits <;> rfl

theorem ofCommand?_of_mem_arguments {g : Given} :
    ∀ argument ∈ g.arguments, Scope.ofCommand? argument = none := by
  rcases g with ⟨level, _ | _⟩ | ⟨_ | _⟩ | ⟨format, _ | _⟩
  · cases level <;> decide
  · cases level <;> decide
  · decide
  · decide
  · cases format <;> decide
  · cases format <;> decide

theorem exists_steps_getSize {given : List Given} (hd : (given.map Given.option).Nodup) :
    ∃ p, Steps .getSize {} (given.flatMap Given.arguments) p ∧
      Settles .getSize p (given.foldl Progress.give {}) := by
  have hscope : ∀ g ∈ given, g.option ∈ Scope.getSize.options := fun g _ => g.option_mem_getSize
  have hnew : ∀ g ∈ given, g.option ∉ ({} : Progress).used := fun _ _ => List.not_mem_nil
  exact Progress.exists_steps_foldl_give (.of_checked rfl) hscope hnew hd

theorem readGetSize_given {given : List Given} (hd : (given.map Given.option).Nodup)
    (flags : List String) :
    readGetSize {} (given.flatMap Given.arguments ++ "--" :: flags) =
      .ok (given.foldl Progress.give {}, flags) := by
  obtain ⟨p, hsteps, hsettles⟩ := exists_steps_getSize hd
  have hescape : p.step .getSize "--" flags = .ok .escape := rfl
  rw [readGetSize_append hsteps, readGetSize, hescape]
  simp only [hsettles.settled]
  rfl

theorem readCommand_given {p q : Progress} {given : List Given} (h : Settles .program p q)
    (hd : (given.map Given.option).Nodup) (flags : List String) :
    readCommand p .getSize (given.flatMap Given.arguments ++ "--" :: flags) =
      .ok (combine q (given.foldl Progress.give {})
        (.getSize ((given.filterMap Given.format?).getLastD .text) flags)) := by
  simp only [readCommand, readGetSize_given hd, Except.map, h.settled,
    Progress.output_foldl_give, Option.or_none, List.getLastD_eq_getLast?]

theorem combine_given (before after : List Given) (command : Command) :
    combine (before.foldl Progress.give {}) (after.foldl Progress.give {}) command = {
      logLevel := ((before ++ after).filterMap Given.level?).getLastD .warn
      verbose := (before ++ after).any Given.isVerbose
      command := command } := by
  simp only [combine, Progress.level_foldl_give, Progress.verbose_foldl_give, Option.or_none,
    Option.orElse_eq_or, List.filterMap_append, List.getLastD_eq_getLast?, List.getLast?_append,
    List.any_append, Bool.false_or, Bool.or_comm]

/-- Where an option stands does not matter: each one that is given before or after `get-size`
counts, any other one is as if it had its default, and all that follows the escape is passed on as
it is. -/
theorem parse_given (program : String) {before after : List Given} (flags : List String)
    (hbefore : ∀ g ∈ before, g.option ≠ .output)
    (hd : ((before ++ after).map Given.option).Nodup) :
    parse (program :: before.flatMap Given.arguments ++ "get-size" ::
        after.flatMap Given.arguments ++ "--" :: flags) =
      .ok {
        logLevel := ((before ++ after).filterMap Given.level?).getLastD .warn
        verbose := (before ++ after).any Given.isVerbose
        command := .getSize ((after.filterMap Given.format?).getLastD .text) flags } := by
  rw [List.map_append, List.nodup_append'] at hd
  have hscope : ∀ g ∈ before, g.option ∈ Scope.program.options :=
    fun g hg => Given.option_mem_program (hbefore g hg)
  have hnew : ∀ g ∈ before, g.option ∉ ({} : Progress).used := fun _ _ => List.not_mem_nil
  obtain ⟨p, hsteps, hsettles⟩ :=
    Progress.exists_steps_foldl_give (.of_checked rfl) hscope hnew hd.1
  have hnone : ∀ argument ∈ before.flatMap Given.arguments,
      Scope.ofCommand? argument = none := by
    intro argument hargument
    obtain ⟨g, -, hg⟩ := List.mem_flatMap.1 hargument
    exact ofCommand?_of_mem_arguments argument hg
  have hlist : (program :: before.flatMap Given.arguments ++ "get-size" ::
      after.flatMap Given.arguments ++ "--" :: flags).drop 1 =
        before.flatMap Given.arguments ++ "get-size" ::
          (after.flatMap Given.arguments ++ "--" :: flags) := by
    simp
  have hcommand : Scope.ofCommand? "get-size" = some .getSize := rfl
  rw [parse, hlist, readProgram_append hsteps hnone, readProgram.eq_def]
  simp only [hsettles.notDue, hcommand]
  rw [readCommand_given hsettles hd.2.1, combine_given]

theorem options_like_flags_passed_on :
    parse ["apksize", "-v", "get-size", "--output=json", "--log-level", "trace", "--", "", "--",
        "-v", "--help", "--output=json", "help", "get-size"] =
      .ok ⟨.trace, true,
        .getSize .json ["", "--", "-v", "--help", "--output=json", "help", "get-size"]⟩ := by
  have hbefore : ∀ g ∈ [Given.verbose true], g.option ≠ .output := by
    simp [Given.option]
  have hd : (([Given.verbose true] ++ [Given.output .json true, Given.logLevel .trace false]).map
      Given.option).Nodup := by
    simp [Given.option]
  exact parse_given "apksize"
    ["", "--", "-v", "--help", "--output=json", "help", "get-size"] hbefore hd

end SizeRequest.CommandLine

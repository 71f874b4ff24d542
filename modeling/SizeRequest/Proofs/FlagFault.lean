import Mathlib.Data.List.Induction
import SizeRequest.Proofs.FlagText
import SizeRequest.Proofs.FlagValue

namespace SizeRequest

namespace FlagList

/-- An argument that cannot follow some flags, and why: it does not start with two dashes, its name
is empty, or a flag before it has its name. -/
inductive Rejects (flags : List Flag) (argument : String) : FlagFault → Prop
  | positional : (∀ rest, argument ≠ "--" ++ rest) → Rejects flags argument (.positional argument)
  | emptyName {f : Flag} : f.render = argument → f.name = "" →
      Rejects flags argument (.emptyName argument)
  | duplicate {f g : Flag} : f.render = argument → f.HasName → g ∈ flags → g.name = f.name →
      Rejects flags argument (.duplicate f.name)

theorem exists_render (rest : String) :
    ∃ f : Flag, f.render = "--" ++ rest ∧ '=' ∉ f.name.toList := by
  refine ⟨Flag.ofBody rest.toList, ?_, Flag.equals_notMem_ofBody _⟩
  rw [← String.toList_inj, Flag.toList_render, Flag.body_ofBody]
  simp

theorem rejects_or_new (flags : List Flag) (argument : String) :
    (∃ fault, Rejects flags argument fault) ∨
    ∃ f : Flag, f.render = argument ∧ f.HasName ∧ f.name ∉ flags.map Flag.name := by
  by_cases hdashes : ∃ rest, argument = "--" ++ rest
  · obtain ⟨rest, rfl⟩ := hdashes
    obtain ⟨f, hrender, hequals⟩ := exists_render rest
    by_cases hname : f.name = ""
    · exact .inl ⟨_, .emptyName hrender hname⟩
    · by_cases hnew : f.name ∈ flags.map Flag.name
      · obtain ⟨g, hg, hsame⟩ := List.mem_map.1 hnew
        exact .inl ⟨_, .duplicate hrender ⟨hname, hequals⟩ hg hsame⟩
      · exact .inr ⟨f, hrender, ⟨hname, hequals⟩, hnew⟩
  · exact .inl ⟨_, .positional fun rest hrest => hdashes ⟨rest, hrest⟩⟩

theorem Writes.concat {arguments : List String} {flags : List Flag} (h : Writes arguments flags)
    {f : Flag} (hf : f.HasName) (hnew : f.name ∉ flags.map Flag.name) :
    Writes (arguments ++ [f.render]) (flags ++ [f]) where
  rendered := by simp [h.rendered]
  named := by
    intro g hg
    rcases List.mem_append.1 hg with hg | hg
    · exact h.named g hg
    · obtain rfl := List.mem_singleton.1 hg
      exact hf
  distinct := by
    rw [List.map_append, List.map_singleton, ← List.concat_eq_append, List.nodup_concat]
    exact ⟨hnew, h.distinct⟩

theorem writes_or_rejects (arguments : List String) :
    (∃ flags, Writes arguments flags) ∨
    ∃ before argument after flags fault, arguments = before ++ argument :: after ∧
      Writes before flags ∧ Rejects flags argument fault := by
  induction arguments using List.reverseRecOn with
  | nil => exact .inl ⟨[], rfl, by simp, List.nodup_nil⟩
  | append_singleton arguments argument ih =>
    rcases ih with ⟨flags, hwrites⟩ | ⟨before, first, after, flags, fault, rfl, hwrites, hrejects⟩
    · rcases rejects_or_new flags argument with ⟨fault, hrejects⟩ | ⟨f, rfl, hnamed, hnew⟩
      · exact .inr ⟨arguments, argument, [], flags, fault, rfl, hwrites, hrejects⟩
      · exact .inl ⟨_, hwrites.concat hnamed hnew⟩
    · exact .inr ⟨before, first, after ++ [argument], flags, fault, by simp, hwrites, hrejects⟩

theorem parseAfter_append {read more : List Flag} (hnamed : ∀ f ∈ more, f.HasName)
    (hdistinct : ((read ++ more).map Flag.name).Nodup) (rest : List String) :
    parseAfter read (more.map Flag.render ++ rest) =
      ⟨more.map (.flagTokenized ·.name) ++ (parseAfter (read ++ more) rest).events,
        (parseAfter (read ++ more) rest).outcome⟩ := by
  induction more generalizing read with
  | nil => simp
  | cons f more ih =>
    have hparse : Flag.parse f.render = .ok f := Flag.parse_eq_ok_iff.2 ⟨rfl, hnamed f (by simp)⟩
    have hnew : f.name ∉ read.map Flag.name := by
      rw [List.map_append, List.nodup_append'] at hdistinct
      exact fun hmem => hdistinct.2.2 hmem (by simp)
    have hdistinct' : ((read ++ [f] ++ more).map Flag.name).Nodup := by simpa using hdistinct
    have hrest := ih (fun g hg => hnamed g (by simp [hg])) hdistinct'
    rw [List.map_cons, List.cons_append, parseAfter, hparse]
    simp only [List.contains_eq_mem, hnew, decide_false, Bool.false_eq_true, ↓reduceIte, hrest]
    simp [Logged.andThen, Logged.log]

theorem parse_of_writes {arguments : List String} {flags : List Flag} (h : Writes arguments flags) :
    parse arguments = ⟨flags.map (.flagTokenized ·.name), .ok flags⟩ := by
  have hdistinct : (([] ++ flags).map Flag.name).Nodup := h.distinct
  have hparse := parseAfter_append h.named hdistinct []
  rw [h.rendered, List.append_nil] at hparse
  simpa [parse, parseAfter, Logged.done] using hparse

theorem parseAfter_of_rejects {flags : List Flag} {argument : String} {fault : FlagFault}
    (h : Rejects flags argument fault) (rest : List String) :
    parseAfter flags (argument :: rest) = .fail fault := by
  rw [parseAfter]
  cases h with
  | positional hdashes =>
    have hparse : Flag.parse argument = .error (.positional argument) := by
      unfold Flag.parse
      split
      next body hbody =>
        refine absurd ?_ (hdashes (String.ofList body))
        rw [← String.toList_inj, hbody]
        simp
      next => rfl
    rw [hparse]
  | @emptyName f hrender hname =>
    have hequals : '=' ∉ f.name.toList := by simp [hname]
    have hparse : Flag.parse argument = .error (.emptyName argument) := by
      rw [← hrender, Flag.parse, Flag.toList_render]
      simp [Flag.ofBody_body hequals, hname]
    rw [hparse]
  | @duplicate f g hrender hnamed hg hsame =>
    have hold : f.name ∈ flags.map Flag.name := List.mem_map.2 ⟨g, hg, hsame⟩
    rw [Flag.parse_eq_ok_iff.2 ⟨hrender, hnamed⟩]
    simp [hold]

/-- The first argument that is rejected ends the reading, whatever stands behind it. -/
theorem parse_of_rejects {before : List String} {flags : List Flag} {argument : String}
    {fault : FlagFault} (hwrites : Writes before flags) (hrejects : Rejects flags argument fault)
    (after : List String) :
    parse (before ++ argument :: after) = ⟨flags.map (.flagTokenized ·.name), .error fault⟩ := by
  have hdistinct : (([] ++ flags).map Flag.name).Nodup := hwrites.distinct
  have hparse := parseAfter_append hwrites.named hdistinct (argument :: after)
  rw [hwrites.rendered, List.nil_append, parseAfter_of_rejects hrejects] at hparse
  simpa [parse, Logged.fail] using hparse

end FlagList

namespace KnownFlag

variable {α : Type}

inductive NoPath : Option String → ValueFault → Prop
  | bare : NoPath none .required
  | empty : NoPath (some "") .emptyPath

inductive NoBoolean : Option String → ValueFault → Prop
  | other {text : String} : text.toLower ≠ "true" → text.toLower ≠ "false" →
      NoBoolean (some text) (.notBoolean text)

/-- A value that is no list of members: it is missing, or one of its items is no member, the
leftmost of which is named. -/
inductive NoMembers (parse : String → Option α) : Option String → ValueFault → Prop
  | bare : NoMembers parse none .required
  | item {text item : String} {before after : List String} :
      Text.items text = before ++ item :: after → (∀ other ∈ before, (parse other).isSome) →
      parse item = none → NoMembers parse (some text) (.unknownMember item)

theorem convert_path_eq_error_iff {name : String} {value : Option String} {fault : ValueFault} :
    (KnownFlag.path name).convert value = .error fault ↔ NoPath value fault := by
  constructor
  · intro h
    cases value with
    | none =>
      cases h
      exact .bare
    | some text =>
      by_cases htext : text = ""
      · subst htext
        cases h
        exact .empty
      · simp [path, withValue, htext] at h
  · rintro (_ | _) <;> rfl

theorem convert_textSet_eq_error_iff {name : String} {value : Option String} {fault : ValueFault} :
    (textSet name).convert value = .error fault ↔ value = none ∧ fault = .required := by
  cases value with
  | none => simp [textSet, withValue, eq_comm]
  | some text => simp [textSet, withValue]

theorem convert_boolean_eq_error_iff {name : String} {value : Option String} {fault : ValueFault} :
    (boolean name).convert value = .error fault ↔ NoBoolean value fault := by
  cases value with
  | none =>
    constructor
    · intro h
      cases h
    · rintro ⟨⟩
  | some text =>
    simp only [boolean, Text.sameIgnoringCase_true_iff, Text.sameIgnoringCase_false_iff]
    constructor
    · intro h
      split at h
      next => cases h
      next htrue =>
        split at h
        next => cases h
        next hfalse =>
          cases h
          exact .other htrue hfalse
    · rintro ⟨htrue, hfalse⟩
      simp [htrue, hfalse]

theorem members_eq_error_iff {parse : String → Option α} {texts : List String}
    {fault : ValueFault} :
    members parse texts = .error fault ↔
      ∃ before item after, texts = before ++ item :: after ∧
        (∀ other ∈ before, (parse other).isSome) ∧ parse item = none ∧
        fault = .unknownMember item := by
  induction texts with
  | nil => simp [members]
  | cons text rest ih =>
    rw [members]
    cases hparse : parse text with
    | none =>
      constructor
      · intro h
        cases h
        exact ⟨[], text, rest, rfl, by simp, hparse, rfl⟩
      · rintro ⟨before, item, after, htexts, hbefore, hitem, rfl⟩
        cases before with
        | nil =>
          cases htexts
          rfl
        | cons other before =>
          cases htexts
          simp [hparse] at hbefore
    | some a =>
      have hmap : (members parse rest).map (a :: ·) = .error fault ↔
          members parse rest = .error fault := by
        cases members parse rest <;> simp [Except.map]
      rw [hmap, ih]
      constructor
      · rintro ⟨before, item, after, rfl, hbefore, hitem, rfl⟩
        exact ⟨text :: before, item, after, rfl, by simpa [hparse] using hbefore, hitem, rfl⟩
      · rintro ⟨before, item, after, htexts, hbefore, hitem, rfl⟩
        cases before with
        | nil =>
          cases htexts
          rw [hparse] at hitem
          cases hitem
        | cons other before =>
          cases htexts
          exact ⟨before, item, after, rfl, fun x hx => hbefore x (by simp [hx]), hitem, rfl⟩

theorem convert_memberSet_eq_error_iff [Ord α] [Std.TransOrd α] {name : String}
    {parse : String → Option α} {value : Option String} {fault : ValueFault} :
    (memberSet name parse).convert value = .error fault ↔ NoMembers parse value fault := by
  cases value with
  | none =>
    constructor
    · intro h
      cases h
      exact .bare
    · rintro ⟨⟩
      rfl
  | some text =>
    have hconvert : (memberSet name parse).convert (some text) = .error fault ↔
        members parse (Text.items text) = .error fault := by
      simp only [memberSet, withValue]
      cases members parse (Text.items text) <;> simp [Except.map]
    rw [hconvert, members_eq_error_iff]
    constructor
    · rintro ⟨before, item, after, hitems, hbefore, hitem, rfl⟩
      exact .item hitems hbefore hitem
    · rintro (_ | ⟨hitems, hbefore, hitem⟩)
      exact ⟨_, _, _, hitems, hbefore, hitem, rfl⟩

theorem failsSilently_read (flag : KnownFlag α) (flags : Flags) :
    (flag.read flags).2.FailsSilently := by
  intro fault hfault
  unfold read at hfault ⊢
  split
  next => rfl
  next value hvalue =>
    simp only [hvalue] at hfault
    split
    next => rfl
    next a hconvert => simp [hconvert] at hfault

theorem failsSilently_readRequired (flag : KnownFlag α) (flags : Flags) :
    (flag.readRequired flags).2.FailsSilently := by
  intro fault hfault
  rw [readRequired, Reading.snd_andThen] at hfault ⊢
  cases hread : (flag.read flags).2.outcome with
  | error cause =>
    rw [Logged.andThen_of_error hread]
    exact flag.failsSilently_read flags cause hread
  | ok found =>
    rw [Logged.andThen_of_ok hread] at hfault ⊢
    cases found with
    | some a => cases hfault
    | none =>
      -- A flag that is read as nothing is absent, and then nothing is logged of it.
      have habsent := Flags.value?_eq_none_iff.2 (outcome_read_eq_ok_none_iff.1 hread)
      simp [read, habsent, Logged.done, Logged.fail]

section Distinct

variable {flag : KnownFlag α} {flags : Flags} (hd : (flags.supplied.map Flag.name).Nodup)

include hd

theorem outcome_read_eq_error_iff {fault : FlagFault} :
    (flag.read flags).2.outcome = .error fault ↔
      ∃ value cause, ⟨flag.name, value⟩ ∈ flags.supplied ∧ flag.convert value = .error cause ∧
        fault = .invalidValue flag.name cause := by
  simp only [← Flags.value?_eq_some_iff hd]
  unfold read
  cases hvalue : flags.value? flag.name with
  | none => simp
  | some value =>
    cases hconvert : flag.convert value with
    | error cause => simp [hconvert, eq_comm]
    | ok a => simp [hconvert]

theorem outcome_readRequired_eq_error_iff {fault : FlagFault} :
    (flag.readRequired flags).2.outcome = .error fault ↔
      ((∀ value, ⟨flag.name, value⟩ ∉ flags.supplied) ∧ fault = .missing flag.name) ∨
      ∃ value cause, ⟨flag.name, value⟩ ∈ flags.supplied ∧ flag.convert value = .error cause ∧
        fault = .invalidValue flag.name cause := by
  rw [← outcome_read_eq_error_iff hd, ← outcome_read_eq_ok_none_iff, readRequired,
    Reading.snd_andThen]
  cases hread : (flag.read flags).2.outcome with
  | error cause => simp [Logged.andThen_of_error hread]
  | ok found =>
    rw [Logged.andThen_of_ok hread]
    cases found with
    | none => simp [eq_comm]
    | some a => simp [Reading.done]

end Distinct

end KnownFlag

end SizeRequest

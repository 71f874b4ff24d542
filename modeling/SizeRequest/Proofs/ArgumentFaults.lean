import SizeRequest.Proofs.FlagFault
import SizeRequest.Proofs.FlagRendering

namespace SizeRequest

namespace FlagList

def Names (argument name : String) : Prop :=
  '=' ∉ name.toList ∧ (argument = "--" ++ name ∨ ∃ value, argument = "--" ++ name ++ "=" ++ value)

theorem names_iff_render {argument name : String} :
    Names argument name ↔ '=' ∉ name.toList ∧ ∃ value, (Flag.mk name value).render = argument := by
  apply and_congr_right
  intro _
  constructor
  · intro h
    rcases h with rfl | ⟨value, rfl⟩
    · exact ⟨none, rfl⟩
    · exact ⟨some value, rfl⟩
  · intro h
    obtain ⟨_ | value, rfl⟩ := h
    · exact .inl rfl
    · exact .inr ⟨value, rfl⟩

theorem names_render {f : Flag} (h : '=' ∉ f.name.toList) : Names f.render f.name :=
  names_iff_render.2 ⟨h, f.value, rfl⟩

/-- What is wrong with the argument at an index, whatever is wrong with the others: it does not
start with two dashes, its name is empty, or an argument before it has its name. -/
inductive FaultAt (arguments : List String) (i : Nat) : FlagFault → Prop
  | positional {argument : String} : arguments[i]? = some argument →
      (∀ rest, argument ≠ "--" ++ rest) → FaultAt arguments i (.positional argument)
  | emptyName {argument : String} : arguments[i]? = some argument → Names argument "" →
      FaultAt arguments i (.emptyName argument)
  | duplicate {argument other name : String} {j : Nat} : arguments[i]? = some argument →
      Names argument name → name ≠ "" → j < i → arguments[j]? = some other → Names other name →
      FaultAt arguments i (.duplicate name)

theorem FaultAt.lt_length {arguments : List String} {i : Nat} {fault : FlagFault}
    (h : FaultAt arguments i fault) : i < arguments.length := by
  cases h with
  | positional hi => exact (List.getElem?_eq_some_iff.1 hi).1
  | emptyName hi => exact (List.getElem?_eq_some_iff.1 hi).1
  | duplicate hi => exact (List.getElem?_eq_some_iff.1 hi).1

theorem FaultAt.congr {arguments arguments' : List String} {i : Nat} {fault : FlagFault}
    (h : FaultAt arguments i fault) (hsame : ∀ j ≤ i, arguments'[j]? = arguments[j]?) :
    FaultAt arguments' i fault := by
  cases h with
  | positional hi hdashes =>
    rw [← hsame i le_rfl] at hi
    exact .positional hi hdashes
  | emptyName hi hname =>
    rw [← hsame i le_rfl] at hi
    exact .emptyName hi hname
  | duplicate hi hname hne hlt hj hother =>
    rw [← hsame i le_rfl] at hi
    rw [← hsame _ hlt.le] at hj
    exact .duplicate hi hname hne hlt hj hother

theorem FaultAt.of_append {before after : List String} {i : Nat} {fault : FlagFault}
    (h : FaultAt (before ++ after) i fault) (hi : i < before.length) : FaultAt before i fault := by
  apply h.congr
  intro j hj
  rw [List.getElem?_append_left (Nat.lt_of_le_of_lt hj hi)]

theorem FaultAt.append {before : List String} {i : Nat} {fault : FlagFault}
    (h : FaultAt before i fault) (after : List String) : FaultAt (before ++ after) i fault := by
  apply h.congr
  intro j hj
  rw [List.getElem?_append_left (Nat.lt_of_le_of_lt hj h.lt_length)]

section Behind

variable {before : List String} {flags : List Flag} (hwrites : Writes before flags)

include hwrites

theorem Writes.getElem?_eq (i : Nat) : before[i]? = flags[i]?.map Flag.render := by
  rw [← hwrites.rendered, List.getElem?_map]

theorem Rejects.faultAt {argument : String} {fault : FlagFault} (h : Rejects flags argument fault)
    (after : List String) : FaultAt (before ++ argument :: after) before.length fault := by
  have hat : (before ++ argument :: after)[before.length]? = some argument := by simp
  cases h with
  | positional hdashes => exact .positional hat hdashes
  | @emptyName f hrender hname =>
    have hequals : '=' ∉ f.name.toList := by simp [hname]
    have hnames := names_render hequals
    rw [hrender, hname] at hnames
    exact .emptyName hat hnames
  | @duplicate f g hrender hnamed hg hsame =>
    obtain ⟨j, hj⟩ := List.mem_iff_getElem?.1 hg
    have hother : before[j]? = some g.render := by rw [hwrites.getElem?_eq, hj, Option.map_some]
    have hlt : j < before.length := (List.getElem?_eq_some_iff.1 hother).1
    have hnames := names_render (hwrites.named g hg).2
    rw [hsame] at hnames
    have hother' : (before ++ argument :: after)[j]? = some g.render := by
      rw [List.getElem?_append_left hlt, hother]
    exact .duplicate hat (hrender ▸ names_render hnamed.2) hnamed.1 hlt hother' hnames

theorem FaultAt.rejects {argument : String} {after : List String} {fault : FlagFault}
    (h : FaultAt (before ++ argument :: after) before.length fault) :
    Rejects flags argument fault := by
  have hat {found : String}
      (hfound : (before ++ argument :: after)[before.length]? = some found) : found = argument := by
    simpa [eq_comm] using hfound
  cases h with
  | positional hi hdashes =>
    obtain rfl := hat hi
    exact .positional hdashes
  | emptyName hi hname =>
    obtain rfl := hat hi
    obtain ⟨-, value, hrender⟩ := names_iff_render.1 hname
    exact .emptyName hrender rfl
  | @duplicate _ other name j hi hname hne hlt hj hother =>
    obtain rfl := hat hi
    obtain ⟨hequals, value, hrender⟩ := names_iff_render.1 hname
    obtain ⟨-, value', hrender'⟩ := names_iff_render.1 hother
    rw [List.getElem?_append_left hlt] at hj
    have hmem : (Flag.mk name value').render ∈ before := hrender' ▸ List.mem_of_getElem? hj
    have hg : Flag.mk name value' ∈ flags := (hwrites.mem_iff ⟨hne, hequals⟩).1 hmem
    exact .duplicate (f := ⟨name, value⟩) hrender ⟨hne, hequals⟩ hg rfl

end Behind

/-- Two lists of arguments together write flags just if each of them does and they share no name,
and then they write those of the first and behind them those of the second. -/
theorem writes_append_iff {first second : List String} {flags : List Flag} :
    Writes (first ++ second) flags ↔
      ∃ before after, Writes first before ∧ Writes second after ∧
        (∀ f ∈ before, ∀ g ∈ after, f.name ≠ g.name) ∧ flags = before ++ after := by
  constructor
  · intro h
    obtain ⟨before, after, rfl, hfirst, hsecond⟩ := List.map_eq_append_iff.1 h.rendered
    have hdistinct := h.distinct
    rw [List.map_append, List.nodup_append] at hdistinct
    obtain ⟨hbefore, hafter, hapart⟩ := hdistinct
    have hnamed := List.forall_mem_append.1 h.named
    refine ⟨before, after, ⟨hfirst, hnamed.1, hbefore⟩, ⟨hsecond, hnamed.2, hafter⟩, ?_, rfl⟩
    intro f hf g hg
    exact hapart _ (List.mem_map_of_mem hf) _ (List.mem_map_of_mem hg)
  · intro h
    obtain ⟨before, after, hbefore, hafter, hapart, rfl⟩ := h
    have hnames : ∀ name ∈ before.map Flag.name, ∀ other ∈ after.map Flag.name, name ≠ other := by
      intro name hname other hother
      obtain ⟨f, hf, rfl⟩ := List.mem_map.1 hname
      obtain ⟨g, hg, rfl⟩ := List.mem_map.1 hother
      exact hapart f hf g hg
    exact
      { rendered := by rw [List.map_append, hbefore.rendered, hafter.rendered]
        named := List.forall_mem_append.2 ⟨hbefore.named, hafter.named⟩
        distinct := by
          rw [List.map_append, List.nodup_append]
          exact ⟨hbefore.distinct, hafter.distinct, hnames⟩ }

theorem eq_take_append_cons_drop {arguments : List String} {i : Nat} (hi : i < arguments.length) :
    arguments = arguments.take i ++ arguments[i] :: arguments.drop (i + 1) := by
  rw [← List.drop_eq_getElem_cons hi, List.take_append_drop]

theorem Writes.not_faultAt {arguments : List String} {flags : List Flag}
    (h : Writes arguments flags) (i : Nat) (fault : FlagFault) : ¬ FaultAt arguments i fault := by
  intro hfault
  have hi := hfault.lt_length
  have hlength : (arguments.take i).length = i := List.length_take_of_le hi.le
  rw [eq_take_append_cons_drop hi] at h hfault
  obtain ⟨before, _, hbefore, -⟩ := writes_append_iff.1 h
  have hrejects := FaultAt.rejects hbefore (by rwa [hlength])
  have hread := outcome_parse_eq_ok_iff.2 h
  rw [parse_of_rejects hbefore hrejects] at hread
  cases hread

/-- Reading stops at an argument if this is the first one with which anything is wrong. -/
def StopsAt (arguments : List String) (i : Nat) (fault : FlagFault) : Prop :=
  FaultAt arguments i fault ∧ ∀ j < i, ∀ earlier, ¬ FaultAt arguments j earlier

theorem StopsAt.exists_rejects {arguments : List String} {i : Nat} {fault : FlagFault}
    (h : StopsAt arguments i fault) :
    ∃ (hi : i < arguments.length) (flags : List Flag),
      Writes (arguments.take i) flags ∧ Rejects flags arguments[i] fault := by
  obtain ⟨hfault, hleast⟩ := h
  have hi := hfault.lt_length
  have hlength : (arguments.take i).length = i := List.length_take_of_le hi.le
  rcases writes_or_rejects (arguments.take i) with
    ⟨flags, hwrites⟩ | ⟨before, argument, after, flags, cause, hsplit, hwrites, hrejects⟩
  · have hat := hfault
    rw [eq_take_append_cons_drop hi] at hat
    exact ⟨hi, flags, hwrites, FaultAt.rejects hwrites (by rwa [hlength])⟩
  -- An earlier argument that is rejected would be at fault already, against the choice of the index.
  · have hearlier := (hrejects.faultAt hwrites after).append (arguments.drop i)
    rw [← hsplit, List.take_append_drop] at hearlier
    have hlt : before.length < i := by
      rw [← hlength, hsplit]
      simp
    exact absurd hearlier (hleast _ hlt _)

theorem Rejects.stopsAt {before : List String} {argument : String} {flags : List Flag}
    {fault : FlagFault} (h : Rejects flags argument fault) (hwrites : Writes before flags)
    (after : List String) : StopsAt (before ++ argument :: after) before.length fault := by
  apply And.intro (h.faultAt hwrites after)
  intro j hj earlier hearlier
  exact hwrites.not_faultAt j earlier (hearlier.of_append hj)

theorem StopsAt.parse_eq {arguments : List String} {i : Nat} {fault : FlagFault}
    (h : StopsAt arguments i fault) :
    ∃ flags, Writes (arguments.take i) flags ∧ ∀ after,
      parse (arguments.take (i + 1) ++ after) =
        ⟨flags.map (.flagTokenized ·.name), .error fault⟩ := by
  obtain ⟨hi, flags, hwrites, hrejects⟩ := h.exists_rejects
  refine ⟨flags, hwrites, ?_⟩
  intro after
  rw [← List.take_append_getElem hi, List.append_assoc, List.singleton_append]
  exact parse_of_rejects hwrites hrejects after

theorem outcome_parse_eq_error_iff {arguments : List String} {fault : FlagFault} :
    (parse arguments).outcome = .error fault ↔ ∃ i, StopsAt arguments i fault := by
  constructor
  · intro h
    rcases writes_or_rejects arguments with
      ⟨flags, hwrites⟩ | ⟨before, argument, after, flags, cause, rfl, hwrites, hrejects⟩
    · rw [outcome_parse_eq_ok_iff.2 hwrites] at h
      cases h
    · rw [parse_of_rejects hwrites hrejects] at h
      cases h
      exact ⟨before.length, hrejects.stopsAt hwrites after⟩
  · intro h
    obtain ⟨i, hstops⟩ := h
    obtain ⟨flags, -, hparse⟩ := hstops.parse_eq
    rw [← List.take_append_drop (i + 1) arguments, hparse]

/-- Arguments are rejected for the first one with which anything is wrong: this alone says why, only
the arguments before it have been noted, and what stands behind it makes no difference. So two
lists of arguments are read together just if each of them is read and they share no name, and then
as the flags of the first followed by those of the second. -/
theorem reading_stops_at_first_fault :
    (∀ arguments fault, (parse arguments).outcome = .error fault ↔
      ∃ i, StopsAt arguments i fault) ∧
    (∀ arguments i fault, StopsAt arguments i fault →
      ∃ flags, Writes (arguments.take i) flags ∧ ∀ after,
        parse (arguments.take (i + 1) ++ after) =
          ⟨flags.map (.flagTokenized ·.name), .error fault⟩) ∧
    ∀ first second flags, (parse (first ++ second)).outcome = .ok flags ↔
      ∃ before after, (parse first).outcome = .ok before ∧ (parse second).outcome = .ok after ∧
        (∀ f ∈ before, ∀ g ∈ after, f.name ≠ g.name) ∧ flags = before ++ after := by
  refine ⟨?_, ?_, ?_⟩
  · intro arguments fault
    exact outcome_parse_eq_error_iff
  · intro arguments i fault h
    exact h.parse_eq
  · intro first second flags
    simp only [outcome_parse_eq_ok_iff]
    exact writes_append_iff

theorem repeated_name_stops_reading :
    StopsAt ["--a=1", "---", "--a", "-", "--=x"] 2 (.duplicate "a") ∧
      parse ["--a=1", "---", "--a", "-", "--=x"] =
        ⟨[.flagTokenized "a", .flagTokenized "-"], .error (.duplicate "a")⟩ := by
  have hwrites : Writes ["--a=1", "---"] [⟨"a", some "1"⟩, ⟨"-", none⟩] :=
    outcome_parse_eq_ok_iff.1 (by decide)
  have hrejects : Rejects [⟨"a", some "1"⟩, ⟨"-", none⟩] "--a" (.duplicate "a") :=
    .duplicate (f := ⟨"a", none⟩) rfl ⟨by decide, by decide⟩ List.mem_cons_self rfl
  have hstops := hrejects.stopsAt hwrites ["-", "--=x"]
  obtain ⟨flags, hnoted, hparse⟩ := reading_stops_at_first_fault.2.1 _ _ _ hstops
  obtain rfl := hwrites.unique hnoted
  exact ⟨hstops, hparse ["-", "--=x"]⟩

end FlagList

end SizeRequest

import SizeRequest.Proofs.Yaml.Lines
import SizeRequest.Yaml.Event

namespace SizeRequest.Yaml

open SpecText

namespace Outline

/-- What happens on the way from one outline to another. -/
inductive Run : Outline → List Happening → Outline → Prop
  | refl {o : Outline} : Run o [] o
  | step {o m o' : Outline} {happening : Happening} {point : Point}
      {happenings : List Happening} : o.next = .ok (⟨happening, point⟩, m) →
      Run m happenings o' → Run o (happening :: happenings) o'

theorem Run.single {o o' : Outline} {happening : Happening} {point : Point}
    (h : o.next = .ok (⟨happening, point⟩, o')) : Run o [happening] o' :=
  .step h .refl

theorem Run.trans {o m o' : Outline} {happenings happenings' : List Happening}
    (h : Run o happenings m) (h' : Run m happenings' o') :
    Run o (happenings ++ happenings') o' := by
  induction h with
  | refl => exact h'
  | step hnext _ ih => exact .step hnext (ih h')

theorem Run.eventsWithin {o o' : Outline} {happenings : List Happening} (h : Run o happenings o')
    (budget : Nat) :
    ∃ events, events.map Event.happening = happenings ∧
      Yaml.eventsWithin (happenings.length + budget) o
        = (events ++ (Yaml.eventsWithin budget o').1, (Yaml.eventsWithin budget o').2) := by
  induction h with
  | refl => exact ⟨[], rfl, by simp⟩
  | @step o m o' happening point happenings hnext _ ih =>
    obtain ⟨events, hevents, hwithin⟩ := ih
    refine ⟨⟨happening, point⟩ :: events, by rw [List.map_cons, hevents], ?_⟩
    have hbudget : (happening :: happenings).length + budget = happenings.length + budget + 1 := by
      rw [List.length_cons]
      omega
    rw [hbudget, Yaml.eventsWithin, hnext]
    simp only [hwithin, List.cons_append]

def contentHappenings : Content → List Happening
  | .texts texts =>
    .sequenceStart none ::
      (texts.map fun text => .scalar none ⟨text, .doubleQuoted, none⟩) ++ [.sequenceEnd]
  | .integer n => [.scalar none ⟨String.ofList (decimal n), .plain, none⟩]

def memberHappenings (m : Member) : List Happening :=
  .scalar none ⟨m.key, .plain, none⟩ :: contentHappenings m.content

def within (tokens : List Token) (expected : Expectation) (later : List Expectation) : Outline :=
  { tokens := tokens, expected := expected, later := later, handles := standardHandles }

theorem exists_token {ts : List Token} {kind : TokenKind} {kinds : List TokenKind}
    (h : ts.map Token.kind = kind :: kinds) :
    ∃ p us, ts = ⟨kind, p⟩ :: us ∧ us.map Token.kind = kinds := by
  obtain ⟨⟨_, p⟩, us, rfl, rfl, hus⟩ := List.map_eq_cons_iff.1 h
  exact ⟨p, us, rfl, hus⟩

theorem run_rest (texts : List String) {ts : List Token}
    (hts : ts.map Token.kind
      = texts.flatMap (fun text => [.flowEntry, .scalar text.toList .doubleQuoted])
        ++ [.flowSequenceEnd]) (rest : List Token) (expected : Expectation)
    (later : List Expectation) :
    Run (within (ts ++ rest) (.flowEntry false) (expected :: later))
      ((texts.map fun text => .scalar none ⟨text, .doubleQuoted, none⟩) ++ [.sequenceEnd])
      (within rest expected later) := by
  induction texts generalizing ts with
  | nil =>
    obtain ⟨p, us, rfl, hus⟩ := exists_token hts
    obtain rfl := List.map_eq_nil_iff.1 hus
    exact .single rfl
  | cons text texts ih =>
    obtain ⟨p, us, rfl, hus⟩ := exists_token hts
    obtain ⟨q, vs, rfl, hvs⟩ := exists_token hus
    have hnext : (within (⟨.flowEntry, p⟩ :: ⟨.scalar text.toList .doubleQuoted, q⟩ :: vs ++ rest)
        (.flowEntry false) (expected :: later)).next
          = .ok (⟨.scalar none ⟨String.ofList text.toList, .doubleQuoted, none⟩, q⟩,
            within (vs ++ rest) (.flowEntry false) (expected :: later)) := rfl
    rw [String.ofList_toList] at hnext
    exact .step hnext (ih hvs)

theorem run_texts (texts : List String) {ts : List Token}
    (hts : ts.map Token.kind = Lexer.listedKinds texts ++ [.flowSequenceEnd]) (rest : List Token)
    (expected : Expectation) (later : List Expectation) :
    Run (within (ts ++ rest) (.flowEntry true) (expected :: later))
      ((texts.map fun text => .scalar none ⟨text, .doubleQuoted, none⟩) ++ [.sequenceEnd])
      (within rest expected later) := by
  cases texts with
  | nil =>
    obtain ⟨p, us, rfl, hus⟩ := exists_token hts
    obtain rfl := List.map_eq_nil_iff.1 hus
    exact .single rfl
  | cons text texts =>
    obtain ⟨p, us, rfl, hus⟩ := exists_token hts
    have hnext : (within (⟨.scalar text.toList .doubleQuoted, p⟩ :: us ++ rest)
        (.flowEntry true) (expected :: later)).next
          = .ok (⟨.scalar none ⟨String.ofList text.toList, .doubleQuoted, none⟩, p⟩,
            within (us ++ rest) (.flowEntry false) (expected :: later)) := rfl
    rw [String.ofList_toList] at hnext
    exact .step hnext (run_rest texts hus rest expected later)

theorem run_content (held : Content) {ts : List Token} (hts : ts.map Token.kind = contentKinds held)
    (p : Point) (rest : List Token) (later : List Expectation) :
    Run (within (⟨.value, p⟩ :: ts ++ rest) .blockValue later) (contentHappenings held)
      (within rest .blockKey later) := by
  cases held with
  | integer n =>
    obtain ⟨q, us, rfl, hus⟩ := exists_token hts
    obtain rfl := List.map_eq_nil_iff.1 hus
    exact .single rfl
  | texts texts =>
    obtain ⟨q, us, rfl, hus⟩ := exists_token hts
    have hnext : (within (⟨.value, p⟩ :: (⟨.flowSequenceStart, q⟩ :: us) ++ rest) .blockValue
        later).next
          = .ok (⟨.sequenceStart none, q⟩, within (us ++ rest) (.flowEntry true)
            (.blockKey :: later)) := rfl
    exact .step hnext (run_texts texts hus rest .blockKey later)

theorem run_member (m : Member) {ts : List Token} (hts : ts.map Token.kind = memberKinds m)
    (rest : List Token) (later : List Expectation) :
    Run (within (ts ++ rest) .blockKey later) (memberHappenings m)
      (within rest .blockKey later) := by
  obtain ⟨p, us, rfl, hus⟩ := exists_token hts
  obtain ⟨q, vs, rfl, hvs⟩ := exists_token hus
  obtain ⟨r, ws, rfl, hws⟩ := exists_token hvs
  have hnext : (within (⟨.key, p⟩ :: ⟨.scalar m.key.toList .plain, q⟩ :: ⟨.value, r⟩ :: ws ++ rest)
      .blockKey later).next
        = .ok (⟨.scalar none ⟨String.ofList m.key.toList, .plain, none⟩, q⟩,
          within (⟨.value, r⟩ :: ws ++ rest) .blockValue later) := rfl
  rw [String.ofList_toList] at hnext
  exact .step hnext (run_content m.content hws r rest later)

theorem run_members (ms : List Member) {ts : List Token}
    (hts : ts.map Token.kind = ms.flatMap memberKinds) (rest : List Token)
    (later : List Expectation) :
    Run (within (ts ++ rest) .blockKey later) (ms.flatMap memberHappenings)
      (within rest .blockKey later) := by
  induction ms generalizing ts with
  | nil =>
    obtain rfl := List.map_eq_nil_iff.1 hts
    exact .refl
  | cons m ms ih =>
    obtain ⟨us, vs, rfl, hus, hvs⟩ := List.map_eq_append_iff.1 hts
    rw [List.append_assoc]
    exact (run_member m hus (vs ++ rest) later).trans (ih hvs)

theorem eventsWithin_nil {o : Outline} (h : o.tokens = []) (budget : Nat) :
    Yaml.eventsWithin budget o = ([], none) := by
  cases budget with
  | zero => rfl
  | succ budget =>
    have hnext : o.next = .error .noMoreTokens := by rw [next, withToken, h]
    rw [Yaml.eventsWithin, hnext]

theorem length_contentHappenings_le (held : Content) :
    (contentHappenings held).length ≤ (contentKinds held).length := by
  cases held with
  | integer n => exact Nat.le_refl 1
  | texts texts =>
    have htexts : texts.length ≤ (Lexer.listedKinds texts).length := by
      cases texts with
      | nil => exact Nat.le_refl 0
      | cons text texts =>
        exact Nat.succ_le_succ (length_le_length_flatMap (fun _ => List.cons_ne_nil _ _) texts)
    simp only [contentHappenings, contentKinds, List.cons_append, List.length_cons,
      List.length_append, List.length_map]
    omega

theorem length_memberHappenings_le (ms : List Member) :
    (ms.flatMap memberHappenings).length ≤ (ms.flatMap memberKinds).length := by
  induction ms with
  | nil => exact Nat.le_refl 0
  | cons m ms ih =>
    have hcontent := length_contentHappenings_le m.content
    simp only [List.flatMap_cons, List.length_append, memberHappenings, memberKinds,
      List.length_cons] at ih ⊢
    omega

end Outline

theorem events_of_run {text : List Char} {ts : List Token} {fault : Option Fault}
    {happenings : List Happening} {o : Outline} (htokens : tokens text = (ts, fault))
    (hrun : Outline.Run { tokens := ts, expected := .document true } happenings o)
    (hend : o.tokens = []) (hlength : happenings.length ≤ 8 * ts.length + 8) :
    ∃ es, events text = (es, fault) ∧ es.map Event.happening = happenings := by
  obtain ⟨es, hes, hwithin⟩ := hrun.eventsWithin (8 * ts.length + 8 - happenings.length)
  rw [Nat.add_sub_cancel' hlength, Outline.eventsWithin_nil hend, List.append_nil] at hwithin
  refine ⟨es, ?_, hes⟩
  rw [events, htokens]
  simp only [hwithin]

theorem events_yaml {ms : List Member} (hne : ms ≠ []) (hshort : ∀ m ∈ ms, IsShort m) :
    ∃ es, events (yaml ms) = (es, none) ∧ es.map Event.happening
      = .documentStart :: .mappingStart none ::
        (ms.flatMap Outline.memberHappenings ++ [.mappingEnd, .documentEnd, .streamEnd]) := by
  obtain ⟨ts, htokens, hkinds⟩ := tokens_yaml hne hshort
  obtain ⟨p, us, rfl, hus⟩ := Outline.exists_token hkinds
  obtain ⟨vs, ws, rfl, hvs, hws⟩ := List.map_eq_append_iff.1 hus
  obtain ⟨q, xs, rfl, hxs⟩ := Outline.exists_token hws
  obtain ⟨r, ys, rfl, hys⟩ := Outline.exists_token hxs
  obtain rfl := List.map_eq_nil_iff.1 hys
  have hopen : Outline.Run
      { tokens := ⟨.blockMappingStart, p⟩ :: (vs ++ _), expected := .document true }
      [.documentStart, .mappingStart none]
      (.within (vs ++ [⟨.blockEnd, q⟩, ⟨.streamEnd, r⟩]) .blockKey [.documentEnd]) :=
    .step rfl (.single rfl)
  have hclose : Outline.Run (.within [⟨.blockEnd, q⟩, ⟨.streamEnd, r⟩] .blockKey [.documentEnd])
      [.mappingEnd, .documentEnd, .streamEnd] { tokens := [], expected := .nothing } :=
    .step rfl (.step rfl (.single rfl))
  have hrun := hopen.trans ((Outline.run_members ms hvs _ _).trans hclose)
  apply events_of_run htokens hrun rfl
  have hlength := Outline.length_memberHappenings_le ms
  rw [← hvs, List.length_map] at hlength
  simp only [List.length_append, List.length_cons, List.length_nil]
  omega

/-- What happens up to a long key, where the document is cut short. -/
theorem events_yaml_long {first : List Member} (hfirst : ∀ m ∈ first, IsShort m) {m : Member}
    (hm : ¬ IsShort m) (rest : List Member) :
    ∃ es fault, events (yaml (first ++ m :: rest)) = (es, some fault) ∧ es.map Event.happening
      = .documentStart :: if first = [] then [.scalar none ⟨m.key, .plain, none⟩]
        else .mappingStart none :: first.flatMap Outline.memberHappenings := by
  obtain ⟨ts, fault, htokens, hkinds⟩ := tokens_yaml_long hfirst hm rest
  by_cases hne : first = []
  · rw [if_pos hne] at hkinds ⊢
    obtain ⟨p, us, rfl, hus⟩ := Outline.exists_token hkinds
    obtain rfl := List.map_eq_nil_iff.1 hus
    have hrun : Outline.Run
        { tokens := [⟨.scalar m.key.toList .plain, p⟩], expected := .document true }
        [.documentStart, .scalar none ⟨String.ofList m.key.toList, .plain, none⟩]
        (.within [] .documentEnd []) := .step rfl (.single rfl)
    rw [String.ofList_toList] at hrun
    obtain ⟨es, hevents, hes⟩ := events_of_run htokens hrun rfl (by simp)
    exact ⟨es, fault, hevents, hes⟩
  · rw [if_neg hne] at hkinds ⊢
    obtain ⟨p, us, rfl, hus⟩ := Outline.exists_token hkinds
    have hopen : Outline.Run { tokens := ⟨.blockMappingStart, p⟩ :: us, expected := .document true }
        [.documentStart, .mappingStart none] (.within (us ++ []) .blockKey [.documentEnd]) := by
      rw [List.append_nil]
      exact .step rfl (.single rfl)
    have hrun := hopen.trans (Outline.run_members first hus [] _)
    obtain ⟨es, hevents, hes⟩ := events_of_run htokens hrun rfl (by
      have hlength := Outline.length_memberHappenings_le first
      rw [← hus, List.length_map] at hlength
      simp only [List.length_append, List.length_cons, List.length_nil]
      omega)
    exact ⟨es, fault, hevents, hes⟩

end SizeRequest.Yaml

import Mathlib.Data.List.Nodup
import Mathlib.Data.List.TakeWhile
import SizeRequest.Proofs.Outcome

namespace SizeRequest

namespace Flag

def HasName (f : Flag) : Prop := f.name ≠ "" ∧ '=' ∉ f.name.toList

def body (f : Flag) : List Char :=
  match f.value with
  | none => f.name.toList
  | some value => f.name.toList ++ '=' :: value.toList

theorem toList_render (f : Flag) : f.render.toList = '-' :: '-' :: f.body := by
  rcases f with ⟨name, _ | value⟩
  · simp [render, body]
  · simp [render, body]

theorem body_ofBody (body : List Char) : (ofBody body).body = body := by
  have happ := List.takeWhile_append_dropWhile (p := (· != '=')) (l := body)
  unfold ofBody
  split
  next => simp [Flag.body]
  next c value hd =>
    have hc : c = '=' := by
      have := List.head?_dropWhile_not (· != '=') body
      rw [hd] at this
      simpa using this
    rw [hd, hc] at happ
    simpa [Flag.body] using happ

theorem equals_notMem_ofBody (body : List Char) : '=' ∉ (ofBody body).name.toList := by
  unfold ofBody
  split
  next hd =>
    intro hm
    have hall := List.dropWhile_eq_nil_iff.1 hd
    rw [String.toList_ofList] at hm
    simpa using hall _ hm
  next =>
    intro hm
    rw [String.toList_ofList] at hm
    simpa using List.mem_takeWhile_imp hm

theorem ofBody_body {f : Flag} (h : '=' ∉ f.name.toList) : ofBody f.body = f := by
  have hne : ∀ c ∈ f.name.toList, (c != '=') = true := by
    intro c hc
    have hcne : c ≠ '=' := fun he => h (he ▸ hc)
    simpa using hcne
  rcases f with ⟨name, _ | value⟩
  · have hd : List.dropWhile (· != '=') name.toList = [] := List.dropWhile_eq_nil_iff.2 hne
    simp [ofBody, body, hd]
  · have hd : List.dropWhile (· != '=') (name.toList ++ '=' :: value.toList)
        = '=' :: value.toList := by
      rw [List.dropWhile_append_of_pos hne]
      simp
    have ht : List.takeWhile (· != '=') (name.toList ++ '=' :: value.toList) = name.toList := by
      rw [List.takeWhile_append_of_pos hne]
      simp
    simp [ofBody, body, hd, ht]

theorem parse_eq_ok_iff {argument : String} {f : Flag} :
    parse argument = .ok f ↔ f.render = argument ∧ f.HasName := by
  constructor
  · intro h
    unfold parse at h
    split at h
    next body harg =>
      by_cases hname : (ofBody body).name.isEmpty
      · simp [hname] at h
      · simp only [hname, Bool.false_eq_true, ↓reduceIte, Except.ok.injEq] at h
        subst h
        refine ⟨?_, by simpa using hname, equals_notMem_ofBody body⟩
        rw [← String.toList_inj, toList_render, body_ofBody, harg]
    next => cases h
  · rintro ⟨rfl, hne, heq⟩
    have hname : f.name.isEmpty = false := by simpa using hne
    simp [parse, toList_render, ofBody_body heq, hname]

end Flag

namespace FlagList

/-- The flags that a list of arguments writes: each argument is one of them rendered, and no two
have one name. -/
structure Writes (arguments : List String) (flags : List Flag) : Prop where
  rendered : flags.map Flag.render = arguments
  named : ∀ f ∈ flags, f.HasName
  distinct : (flags.map Flag.name).Nodup

theorem outcome_parseAfter_eq_ok_iff {read flags : List Flag} {arguments : List String}
    (hread : (read.map Flag.name).Nodup) :
    (parseAfter read arguments).outcome = .ok flags ↔
      ∃ more, flags = read ++ more ∧ more.map Flag.render = arguments
        ∧ (∀ f ∈ more, f.HasName) ∧ (flags.map Flag.name).Nodup := by
  -- The flags read so far are part of the statement: a name must be new among them as well.
  induction arguments generalizing read with
  | nil =>
    constructor
    · intro h
      obtain rfl : read = flags := by simpa [parseAfter] using h
      exact ⟨[], by simp, rfl, by simp, hread⟩
    · rintro ⟨more, rfl, hmore, -, -⟩
      obtain rfl : more = [] := by simpa using hmore
      simp [parseAfter]
  | cons argument rest ih =>
    constructor
    · intro h
      unfold parseAfter at h
      split at h
      next => simp at h
      next f hf =>
        obtain ⟨hrender, hname⟩ := Flag.parse_eq_ok_iff.1 hf
        split at h
        next => simp at h
        next hnew =>
          have hread' : ((read ++ [f]).map Flag.name).Nodup := by
            rw [List.map_append, List.map_singleton, ← List.concat_eq_append, List.nodup_concat]
            exact ⟨by simpa using hnew, hread⟩
          rw [Logged.outcome_log_andThen, ih hread'] at h
          obtain ⟨more, rfl, hmore, hnamed, hdistinct⟩ := h
          refine ⟨f :: more, by simp, by simp [hrender, hmore], ?_, hdistinct⟩
          simpa [hname] using hnamed
    · rintro ⟨more, rfl, hmore, hnamed, hdistinct⟩
      cases more with
      | nil => simp at hmore
      | cons f more =>
        obtain ⟨hrender, hmore⟩ : f.render = argument ∧ more.map Flag.render = rest := by
          simpa using hmore
        have hf : Flag.parse argument = .ok f :=
          Flag.parse_eq_ok_iff.2 ⟨hrender, hnamed f (by simp)⟩
        have hdistinct' : ((read ++ [f]) ++ more).map Flag.name |>.Nodup := by simpa using hdistinct
        have hread' : ((read ++ [f]).map Flag.name).Nodup := by
          rw [List.map_append] at hdistinct'
          exact (List.nodup_append.1 hdistinct').1
        have hnew : (read.map Flag.name).contains f.name = false := by
          rw [List.map_append, List.map_singleton, ← List.concat_eq_append,
            List.nodup_concat] at hread'
          simpa using hread'.1
        rw [parseAfter, hf]
        simp only [hnew, Bool.false_eq_true, ↓reduceIte, Logged.outcome_log_andThen]
        rw [ih hread']
        exact ⟨more, by simp, hmore, fun g hg => hnamed g (by simp [hg]), hdistinct⟩

theorem outcome_parse_eq_ok_iff {arguments : List String} {flags : List Flag} :
    (parse arguments).outcome = .ok flags ↔ Writes arguments flags := by
  rw [parse, outcome_parseAfter_eq_ok_iff (by simp)]
  constructor
  · rintro ⟨more, rfl, hmore, hnamed, hdistinct⟩
    exact ⟨hmore, hnamed, hdistinct⟩
  · intro h
    exact ⟨flags, rfl, h.rendered, h.named, h.distinct⟩

end FlagList

end SizeRequest

import Mathlib.Data.List.Forall2
import SizeRequest.Proofs.FlagRendering
import SizeRequest.Report.Help

namespace SizeRequest

namespace FlagHelp

/-- Descriptions of flags that are used alike, whatever they say in words. -/
structure SameUse (f g : FlagHelp) : Prop where
  name : f.name = g.name
  sample : f.sample = g.sample
  optional : f.optional = g.optional

/-- No blank parts what a synopsis shows of a flag, and its name ends where its value starts. -/
structure IsWord (f : FlagHelp) : Prop where
  name : ' ' ∉ f.name.toList
  sample : ∀ sample ∈ f.sample, ' ' ∉ sample.toList
  noEquals : '=' ∉ f.name.toList

instance (f : FlagHelp) : Decidable f.IsWord :=
  decidable_of_iff (' ' ∉ f.name.toList ∧ (∀ sample ∈ f.sample, ' ' ∉ sample.toList) ∧
      '=' ∉ f.name.toList)
    ⟨fun h => ⟨h.1, h.2.1, h.2.2⟩, fun h => ⟨h.name, h.sample, h.noEquals⟩⟩

def shown (f : FlagHelp) : Flag := ⟨f.name, f.sample.map fun sample => "<" ++ sample ++ ">"⟩

def bracketed : Bool → List Char → List Char
  | true, s => '[' :: (s ++ [']'])
  | false, s => s

theorem toList_usage (f : FlagHelp) :
    f.usage.toList = bracketed f.optional ('-' :: '-' :: f.shown.body) := by
  rcases f with ⟨name, sample, optional, description⟩
  cases sample <;> cases optional <;> simp [usage, bracketed, shown, Flag.body]

theorem bracketed_inj {b b' : Bool} {s s' : List Char}
    (h : bracketed b ('-' :: s) = bracketed b' ('-' :: s')) : b = b' ∧ s = s' := by
  cases b with
  | false =>
    cases b' with
    | false => exact ⟨rfl, (List.cons.inj h).2⟩
    | true => exact absurd (List.cons.inj h).1 (by decide)
  | true =>
    cases b' with
    | false => exact absurd (List.cons.inj h).1 (by decide)
    | true => exact ⟨rfl, List.append_cancel_right (List.cons.inj (List.cons.inj h).2).2⟩

theorem shown_inj {f g : FlagHelp} (h : f.shown = g.shown) :
    f.name = g.name ∧ f.sample = g.sample := by
  obtain ⟨hname, hvalue⟩ := Flag.mk.inj h
  refine ⟨hname, Option.map_injective ?_ hvalue⟩
  intro sample sample' hsame
  have hlists := congrArg String.toList hsame
  rw [← String.toList_inj]
  simpa using hlists

theorem usage_eq_iff {f g : FlagHelp} (hf : f.IsWord) (hg : g.IsWord) :
    f.usage = g.usage ↔ f.SameUse g := by
  rw [← String.toList_inj, toList_usage, toList_usage]
  constructor
  · intro h
    obtain ⟨hoptional, hdashed⟩ := bracketed_inj h
    have hflags : f.shown = g.shown :=
      Flag.eq_of_body_eq hf.noEquals hg.noEquals (List.cons.inj hdashed).2
    exact ⟨(shown_inj hflags).1, (shown_inj hflags).2, hoptional⟩
  · intro h
    rw [shown, shown, h.name, h.sample, h.optional]

theorem IsWord.blank_notMem {f : FlagHelp} (h : f.IsWord) : ' ' ∉ f.usage.toList := by
  have hbody : ' ' ∉ f.shown.body := by
    cases hsample : f.sample with
    | none => simpa [shown, Flag.body, hsample] using h.name
    | some sample => simpa [shown, Flag.body, hsample] using ⟨h.name, h.sample sample hsample⟩
  rw [toList_usage]
  cases f.optional <;> simp [bracketed, hbody]

end FlagHelp

namespace CommandHelp

structure IsPlain (help : CommandHelp) : Prop where
  name : ' ' ∉ help.name.toList
  flags : ∀ f ∈ help.flags, f.IsWord

instance (help : CommandHelp) : Decidable help.IsPlain :=
  decidable_of_iff (' ' ∉ help.name.toList ∧ ∀ f ∈ help.flags, f.IsWord)
    ⟨fun h => ⟨h.1, h.2⟩, fun h => ⟨h.name, h.flags⟩⟩

theorem IsPlain.splitOn_synopsis {help : CommandHelp} (h : help.IsPlain) :
    help.synopsis.toList.splitOn ' ' =
      (help.name :: help.flags.map FlagHelp.usage).map String.toList := by
  apply Text.splitOn_join rfl ?_ (List.cons_ne_nil _ _)
  rw [List.forall_mem_cons]
  refine ⟨h.name, ?_⟩
  intro text htext
  obtain ⟨f, hf, rfl⟩ := List.mem_map.1 htext
  exact (h.flags f hf).blank_notMem

theorem map_usage_eq_iff {flags flags' : List FlagHelp} (h : ∀ f ∈ flags, f.IsWord)
    (h' : ∀ f ∈ flags', f.IsWord) :
    flags.map FlagHelp.usage = flags'.map FlagHelp.usage ↔
      List.Forall₂ FlagHelp.SameUse flags flags' := by
  induction flags generalizing flags' with
  | nil => cases flags' <;> simp
  | cons f flags ih =>
    cases flags' with
    | nil => simp
    | cons f' flags' =>
      rw [List.forall_mem_cons] at h h'
      rw [List.map_cons, List.map_cons, List.cons.injEq, List.forall₂_cons,
        FlagHelp.usage_eq_iff h.1 h'.1, ih h.2 h'.2]

/-- A synopsis tells the name of its command and, flag by flag, the name, the example and whether
the flag may be left out, and nothing else. An empty example is told from none, and brackets in a
name or in an example from those around them. -/
theorem told_by_synopsis {help help' : CommandHelp} (h : help.IsPlain) (h' : help'.IsPlain) :
    help.synopsis = help'.synopsis ↔
      help.name = help'.name ∧ List.Forall₂ FlagHelp.SameUse help.flags help'.flags := by
  rw [← map_usage_eq_iff h.flags h'.flags]
  constructor
  · intro hsynopsis
    have hwords := h.splitOn_synopsis
    rw [hsynopsis, h'.splitOn_synopsis] at hwords
    have hinjective : Function.Injective String.toList := fun _ _ => String.toList_inj.1
    exact List.cons.inj (hinjective.list_map hwords).symm
  · intro hsame
    rw [synopsis, synopsis, hsame.1, hsame.2]

theorem brackets_told_by_synopsis :
    synopsis ⟨"a", "", [⟨"b]", none, true, ""⟩, ⟨"[c", some "", false, ""⟩]⟩ ≠
        synopsis ⟨"a", "", [⟨"b", some "]", true, ""⟩, ⟨"[c", none, false, ""⟩]⟩ ∧
      synopsis ⟨"a", "", [⟨"[c", some "<>", true, ""⟩]⟩ =
        synopsis ⟨"a", "A.", [⟨"[c", some "<>", true, "C."⟩]⟩ := by
  constructor
  · intro h
    obtain ⟨-, hflags⟩ := (told_by_synopsis (by decide) (by decide)).1 h
    exact absurd (List.forall₂_cons.1 hflags).1.name (by decide)
  · exact (told_by_synopsis (by decide) (by decide)).2 ⟨rfl, .cons ⟨rfl, rfl, rfl⟩ .nil⟩

example : getSize.IsPlain := by decide

end CommandHelp

end SizeRequest

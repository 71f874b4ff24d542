namespace SizeRequest

/-- A finite set, listed in increasing order. -/
structure OrderedSet (α : Type) [Ord α] where
  toList : List α
  increasing : toList.Pairwise (fun a b => compare a b = .lt)
deriving DecidableEq

namespace OrderedSet

variable {α : Type} [Ord α]

def insertSorted (a : α) : List α → List α
  | [] => [a]
  | b :: rest =>
    match compare a b with
    | .lt => a :: b :: rest
    | .eq => b :: rest
    | .gt => b :: insertSorted a rest

theorem mem_of_mem_insertSorted {a x : α} {l : List α} (h : x ∈ insertSorted a l) :
    x = a ∨ x ∈ l := by
  induction l with
  | nil => simpa [insertSorted] using h
  | cons b rest ih =>
    rw [insertSorted] at h
    split at h
    · simpa using h
    · exact .inr h
    · rcases List.mem_cons.1 h with rfl | h
      · simp
      · rcases ih h with rfl | h
        · exact .inl rfl
        · exact .inr (List.mem_cons_of_mem _ h)

theorem pairwise_insertSorted [Std.TransOrd α] {a : α} {l : List α}
    (h : l.Pairwise (fun a b => compare a b = .lt)) :
    (insertSorted a l).Pairwise (fun a b => compare a b = .lt) := by
  induction l with
  | nil => simp [insertSorted]
  | cons b rest ih =>
    have hb := List.pairwise_cons.1 h
    rw [insertSorted]
    split
    · rename_i hab
      refine List.pairwise_cons.2 ⟨fun x hx => ?_, h⟩
      rcases List.mem_cons.1 hx with rfl | hx
      · exact hab
      · exact Std.TransCmp.lt_trans hab (hb.1 x hx)
    · exact h
    · rename_i hab
      refine List.pairwise_cons.2 ⟨fun x hx => ?_, ih hb.2⟩
      rcases mem_of_mem_insertSorted hx with rfl | hx
      · exact Std.OrientedCmp.lt_of_gt hab
      · exact hb.1 x hx

def empty : OrderedSet α := ⟨[], .nil⟩

instance : Inhabited (OrderedSet α) := ⟨empty⟩

/-- The set with one more member; a member already there stays as it is. -/
def insert [Std.TransOrd α] (s : OrderedSet α) (a : α) : OrderedSet α :=
  ⟨insertSorted a s.toList, pairwise_insertSorted s.increasing⟩

def ofList [Std.TransOrd α] (l : List α) : OrderedSet α :=
  l.foldl insert empty

def isEmpty (s : OrderedSet α) : Bool := s.toList.isEmpty

def contains [BEq α] (s : OrderedSet α) (a : α) : Bool := s.toList.contains a

end OrderedSet

end SizeRequest

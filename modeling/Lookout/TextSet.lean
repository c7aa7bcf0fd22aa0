/-! Finite sets of texts, held as their members in ascending order of code points. The order and the absence
    of repetitions belong to the type, so two sets with the same members are equal. -/

namespace Lookout

/-- The ascending list `xs` with one more member. -/
def insertAscending (x : String) : List String → List String
  | [] => [x]
  | y :: ys => if x < y then x :: y :: ys else if x = y then y :: ys else y :: insertAscending x ys

theorem mem_insertAscending {x z : String} {xs : List String} :
    z ∈ insertAscending x xs ↔ z = x ∨ z ∈ xs := by
  induction xs with
  | nil => simp [insertAscending]
  | cons y ys ih =>
    unfold insertAscending
    split
    · simp
    · split
      · next h => subst h; simp
      · simp [ih, or_left_comm]

theorem insertAscending_pairwise (x : String) {xs : List String} (h : xs.Pairwise (· < ·)) :
    (insertAscending x xs).Pairwise (· < ·) := by
  induction xs with
  | nil => simp [insertAscending]
  | cons y ys ih =>
    obtain ⟨hy, hys⟩ := List.pairwise_cons.mp h
    unfold insertAscending
    split
    · next hlt =>
      refine List.pairwise_cons.mpr ⟨fun z hz => ?_, h⟩
      rcases List.mem_cons.mp hz with rfl | hz
      · exact hlt
      · exact String.lt_trans hlt (hy z hz)
    · next hlt =>
      split
      · exact h
      · next hne =>
        refine List.pairwise_cons.mpr ⟨fun z hz => ?_, ih hys⟩
        rcases mem_insertAscending.mp hz with rfl | hz
        · refine String.not_le.mp fun hle => hne (String.le_antisymm hle (String.not_lt.mp hlt))
        · exact hy z hz

/-- A set of texts. -/
structure TextSet where
  toList : List String
  ascending : toList.Pairwise (· < ·)
  deriving DecidableEq

namespace TextSet

def empty : TextSet := ⟨[], .nil⟩

/-- The set with one more member. -/
def insert (s : TextSet) (x : String) : TextSet := ⟨insertAscending x s.toList, insertAscending_pairwise x s.ascending⟩

/-- The set of the members of a list. -/
def ofList (xs : List String) : TextSet := xs.foldl insert empty

def isEmpty (s : TextSet) : Bool := s.toList.isEmpty

instance : Membership String TextSet := ⟨fun s x => x ∈ s.toList⟩

theorem mem_insert {s : TextSet} {x z : String} : z ∈ s.insert x ↔ z = x ∨ z ∈ s := mem_insertAscending

end TextSet
end Lookout

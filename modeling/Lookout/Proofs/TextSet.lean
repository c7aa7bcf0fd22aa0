import Lookout.TextSet
import Mathlib.Data.List.Perm.Basic

/-! Sets of texts are told apart by their members alone, whatever list they were made from. -/

namespace Lookout

/-- An ascending list is told by its members. -/
theorem eq_of_ascending {xs ys : List String} (hxs : xs.Pairwise (· < ·)) (hys : ys.Pairwise (· < ·))
    (h : ∀ z, z ∈ xs ↔ z ∈ ys) : xs = ys := by
  have hnodup : ∀ {zs : List String}, zs.Pairwise (· < ·) → zs.Nodup := by
    intro zs hzs
    refine hzs.imp ?_
    rintro a _ hlt rfl
    exact String.lt_irrefl a hlt
  have hperm : xs.Perm ys := (List.perm_ext_iff_of_nodup (hnodup hxs) (hnodup hys)).mpr h
  exact hperm.eq_of_pairwise (fun a b _ _ hab hba => absurd (String.lt_trans hab hba) (String.lt_irrefl a)) hxs hys

namespace TextSet

theorem eq_of_mem_iff {s t : TextSet} (h : ∀ x, x ∈ s ↔ x ∈ t) : s = t := by
  obtain ⟨xs, hxs⟩ := s
  obtain ⟨ys, hys⟩ := t
  obtain rfl : xs = ys := eq_of_ascending hxs hys h
  rfl

theorem mem_foldl_insert {xs : List String} {s : TextSet} {x : String} :
    x ∈ xs.foldl insert s ↔ x ∈ s ∨ x ∈ xs := by
  induction xs generalizing s with
  | nil => simp
  | cons y ys ih => rw [List.foldl_cons, ih, mem_insert, List.mem_cons, or_comm (a := x = y), or_assoc]

theorem mem_ofList {xs : List String} {x : String} : x ∈ ofList xs ↔ x ∈ xs := by
  refine mem_foldl_insert.trans (or_iff_right ?_)
  exact List.not_mem_nil

theorem ofList_toList (s : TextSet) : ofList s.toList = s := eq_of_mem_iff fun _ => mem_ofList

end TextSet
end Lookout

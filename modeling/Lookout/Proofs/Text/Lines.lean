import Lookout.Proofs.Text.Words
import Lookout.Text.Lines

/-! The lines of a text that is put together from lines. -/

namespace Lookout.Text

variable {line : List Char} {ls : List (List Char)}

theorem lines_cons (h : '\n' ∉ line) (s : List Char) : lines (line ++ '\n' :: s) = dropReturn line :: lines s := by
  have hfree : ∀ c ∈ line, (c == '\n') = false := fun c hc => beq_eq_false_iff_ne.mpr fun he => h (he ▸ hc)
  obtain ⟨first, rest, hs⟩ := List.exists_cons_of_ne_nil (cut_ne_nil (· == '\n') s)
  rw [lines, lines, cut_append_cons hfree (beq_self_eq_true _), hs]
  rfl

/-- Lines with their ends are found again. -/
theorem lines_flatMap (h : ∀ line ∈ ls, '\n' ∉ line ∧ line.getLast? ≠ some '\r') :
    lines (ls.flatMap (· ++ ['\n'])) = ls := by
  induction ls with
  | nil => rfl
  | cons line ls ih =>
    obtain ⟨⟨hfeed, hreturn⟩, hls⟩ := List.forall_mem_cons.mp h
    rw [List.flatMap_cons, List.append_assoc, List.singleton_append, lines_cons hfeed, ih hls, dropReturn,
      if_neg hreturn]

end Lookout.Text

import Lookout.Text.Blank
import Mathlib.Data.List.SplitBy

/-! The lexemes of a text: its longest stretches in which each character glues to the next one, without the
    blanks between them. Which characters glue is a matter of the language. Two texts may be cut on their
    own if they are apart, that is, if the one does not glue to the other at the seam. -/

namespace Lookout.Text

variable {glues : Char → Char → Bool} {s t : List Char}

/-- The lexemes of a text in which these characters glue. -/
def lexemes (glues : Char → Char → Bool) (s : List Char) : List (List Char) :=
  (s.splitBy glues).filter (!isBlankText ·)

/-- The end of the first text does not glue to the start of the second. -/
def Apart (glues : Char → Char → Bool) (s t : List Char) : Prop :=
  ∀ x ∈ s.getLast?, ∀ y ∈ t.head?, glues x y = false

/-- Nothing glues to the start of the text. -/
def StartsLoose (glues : Char → Char → Bool) (s : List Char) : Prop := ∀ x, ∀ y ∈ s.head?, glues x y = false

/-- Nothing glues to the end of the text. -/
def EndsLoose (glues : Char → Char → Bool) (s : List Char) : Prop := ∀ x ∈ s.getLast?, ∀ y, glues x y = false

theorem StartsLoose.apart (h : StartsLoose glues t) : Apart glues s t := fun x _ y hy => h x y hy

theorem EndsLoose.apart (h : EndsLoose glues s) : Apart glues s t := fun x hx y _ => h x hx y

theorem lexemes_append (h : Apart glues s t) : lexemes glues (s ++ t) = lexemes glues s ++ lexemes glues t := by
  rw [lexemes, List.splitBy_append h, List.filter_append]
  rfl

/-- A text whose characters glue is one lexeme. -/
theorem lexemes_of_isChain (hne : s ≠ []) (h : s.IsChain fun x y => glues x y) (hb : isBlankText s = false) :
    lexemes glues s = [s] := by
  rw [lexemes, List.splitBy_of_isChain hne h]
  simp [hb]

/-- The lexemes of texts with a loose separator between any two. -/
theorem lexemes_intercalate {sep : List Char} (hne : sep ≠ []) (hs : StartsLoose glues sep)
    (he : EndsLoose glues sep) (x : List Char) (xs : List (List Char)) :
    lexemes glues (sep.intercalate (x :: xs)) =
      lexemes glues x ++ xs.flatMap fun y => lexemes glues sep ++ lexemes glues y := by
  induction xs generalizing x with
  | nil => simp
  | cons y ys ih =>
    have hsep : StartsLoose glues (sep ++ sep.intercalate (y :: ys)) := by
      obtain ⟨c, cs, rfl⟩ := List.exists_cons_of_ne_nil hne
      exact hs
    rw [List.intercalate_cons_cons, List.append_assoc, lexemes_append hsep.apart, lexemes_append he.apart, ih]
    simp

end Lookout.Text

import Lookout.Text.Blank
import Lookout.Text.WordChar

/-! Words and word characters. A blank is no word character, and cutting a text into words loses nothing but
    blanks, so a text has a word character exactly when one of its words has one. -/

namespace Lookout.Text

/-- The code points of the characters with the property White_Space. -/
def blankCodes : List Nat :=
  [9, 10, 11, 12, 13, 0x20, 0x85, 0xA0, 0x1680, 0x2000, 0x2001, 0x2002, 0x2003, 0x2004, 0x2005, 0x2006, 0x2007, 0x2008,
   0x2009, 0x200A, 0x2028, 0x2029, 0x202F, 0x205F, 0x3000]

theorem isBlank_iff_mem {c : Char} : isBlank c = true ↔ c.toNat ∈ blankCodes := by
  simp only [isBlank, blankCodes, List.mem_cons, List.not_mem_nil, Bool.or_eq_true, Bool.and_eq_true, beq_iff_eq,
    decide_eq_true_eq, or_false]
  omega

theorem isWordChar_of_isBlank {c : Char} (h : isBlank c = true) : isWordChar c = false := by
  have htable : ∀ n ∈ blankCodes, isWordChar (Char.ofNat n) = false := by decide +kernel
  have hc := htable _ (isBlank_iff_mem.mp h)
  rwa [Char.ofNat_toNat] at hc

theorem isBlank_of_isWordChar {c : Char} (h : isWordChar c = true) : isBlank c = false :=
  Bool.eq_false_iff.mpr fun hb => by
    rw [isWordChar_of_isBlank hb] at h
    cases h

theorem flatten_filter_nonempty {α : Type} (xs : List (List α)) : (xs.filter (!·.isEmpty)).flatten = xs.flatten := by
  induction xs with
  | nil => rfl
  | cons x xs ih => cases x <;> simp [ih]

/-- The words of a text hold all its characters but the blanks, in order. -/
theorem flatten_words (s : List Char) : (words s).flatten = s.filter (!isBlank ·) := by
  rw [words, flatten_filter_nonempty, flatten_cut]

theorem mem_of_mem_words {s w : List Char} (hw : w ∈ words s) {c : Char} (hc : c ∈ w) : c ∈ s := by
  have h : c ∈ (words s).flatten := List.mem_flatten.mpr ⟨w, hw, hc⟩
  rw [flatten_words] at h
  exact (List.mem_filter.mp h).1

/-- A text has a word character exactly when one of its words has one. -/
theorem any_isWordChar_words (s : List Char) : ((words s).any fun w => w.any isWordChar) = s.any isWordChar := by
  rw [← List.any_flatten, flatten_words, List.any_filter]
  congr 1
  funext c
  cases hb : isBlank c with
  | true => simp [isWordChar_of_isBlank hb]
  | false => simp

theorem wordChars_eq_nil {s : List Char} : wordChars s = [] ↔ s.any isWordChar = false := by
  simp [wordChars]

theorem cut_of_forall {α : Type} {p : α → Bool} {s : List α} (h : ∀ a ∈ s, p a = false) : cut p s = [s] := by
  induction s with
  | nil => rfl
  | cons a s ih =>
    obtain ⟨ha, hs⟩ := List.forall_mem_cons.mp h
    simp [cut, ha, ih hs]

/-- Two texts with a separator between them are cut on their own. -/
theorem cut_append_separator {α : Type} {p : α → Bool} {a : α} (ha : p a = true) (s t : List α) :
    cut p (s ++ a :: t) = cut p s ++ cut p t := by
  induction s with
  | nil => simp [cut, ha]
  | cons b s ih =>
    obtain ⟨x, xs, hx⟩ := List.exists_cons_of_ne_nil (cut_ne_nil p s)
    rw [List.cons_append, cut, cut, ih, hx]
    by_cases hb : p b = true <;> simp [hb]

/-- The part before the first cut is the first piece. -/
theorem cut_append_cons {α : Type} {p : α → Bool} {s : List α} (h : ∀ a ∈ s, p a = false) {a : α} (ha : p a = true)
    (t : List α) : cut p (s ++ a :: t) = s :: cut p t := by
  rw [cut_append_separator ha, cut_of_forall h]
  rfl

/-- Two texts with a blank between them have their own words. -/
theorem words_append_blank {c : Char} (hc : isBlank c = true) (s t : List Char) :
    words (s ++ c :: t) = words s ++ words t := by
  rw [words, cut_append_separator hc, List.filter_append]
  rfl

/-- A word is not empty and holds no blank. -/
theorem word_of_mem_words {s w : List Char} (hw : w ∈ words s) : w ≠ [] ∧ ∀ c ∈ w, isBlank c = false := by
  obtain ⟨hcut, hne⟩ := List.mem_filter.mp hw
  exact ⟨by simpa using hne, fun c hc => not_of_mem_cut hcut hc⟩

theorem mem_intercalate {α : Type} {sep : List α} {a : α} {pieces : List (List α)} (h : a ∈ sep.intercalate pieces) :
    a ∈ sep ∨ ∃ piece ∈ pieces, a ∈ piece := by
  induction pieces with
  | nil => cases h
  | cons x xs ih =>
    cases xs with
    | nil => exact Or.inr ⟨x, List.mem_cons_self, by simpa using h⟩
    | cons y ys =>
      rw [List.intercalate_cons_cons, List.mem_append, List.mem_append] at h
      rcases h with (h | h) | h
      · exact Or.inr ⟨x, List.mem_cons_self, h⟩
      · exact Or.inl h
      · rcases ih h with hsep | ⟨piece, hp, ha⟩
        · exact Or.inl hsep
        · exact Or.inr ⟨piece, List.mem_cons_of_mem x hp, ha⟩

/-- Cutting at a character is undone by putting it between the pieces. -/
theorem intercalate_cut (a : Char) (s : List Char) : [a].intercalate (cut (· == a) s) = s := by
  induction s with
  | nil => rfl
  | cons c s ih =>
    obtain ⟨p, ps, hp⟩ := List.exists_cons_of_ne_nil (cut_ne_nil (· == a) s)
    rw [cut, hp]
    rw [hp] at ih
    by_cases hc : c = a
    · subst hc
      simp [List.intercalate_cons_cons, ih]
    · cases ps with
      | nil => simpa [hc] using ih
      | cons q qs =>
        rw [List.intercalate_cons_cons] at ih
        simp [hc, List.intercalate_cons_cons, ← ih]

end Lookout.Text

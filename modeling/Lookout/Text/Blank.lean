/-! White space, and the two ways in which texts are cut: at every character of a kind, and into words.
    A character is blank if it has the Unicode property White_Space; U+200B and U+FEFF are not. -/

namespace Lookout.Text

/-- The characters with the property White_Space. -/
def isBlank (c : Char) : Bool :=
  let n := c.toNat
  (9 ≤ n && n ≤ 13) || n == 0x20 || n == 0x85 || n == 0xA0 || n == 0x1680 || (0x2000 ≤ n && n ≤ 0x200A)
    || n == 0x2028 || n == 0x2029 || n == 0x202F || n == 0x205F || n == 0x3000

/-- `s` without the blanks at its start. -/
def trimLeft (s : List Char) : List Char := s.dropWhile isBlank

/-- `s` without the blanks at its end. -/
def trimRight (s : List Char) : List Char := (trimLeft s.reverse).reverse

/-- `s` without the blanks at its ends. -/
def trim (s : List Char) : List Char := trimRight (trimLeft s)

/-- Every character of the text is blank. -/
def isBlankText (s : List Char) : Bool := s.all isBlank

/-- The pieces of `s` between the members that satisfy `p`: one more than there are such members. -/
def cut {α : Type} (p : α → Bool) : List α → List (List α)
  | [] => [[]]
  | a :: s => if p a then [] :: cut p s else (cut p s).modifyHead (a :: ·)

/-- The longest stretches of `s` without a blank. -/
def words (s : List Char) : List (List Char) := (cut isBlank s).filter (!·.isEmpty)

/-- `part` stands somewhere in `s`, without a gap. -/
def contains (part : List Char) : List Char → Bool
  | [] => part.isEmpty
  | c :: s => part.isPrefixOf (c :: s) || contains part s

theorem cut_ne_nil {α : Type} (p : α → Bool) (s : List α) : cut p s ≠ [] := by
  cases s with
  | nil => simp [cut]
  | cons a s =>
    by_cases h : p a
    · simp [cut, h]
    · cases hc : cut p s with
      | nil => exact absurd hc (cut_ne_nil p s)
      | cons x xs => simp [cut, h, hc]

/-- Cutting loses nothing but the separators. -/
theorem flatten_cut {α : Type} (p : α → Bool) (s : List α) : (cut p s).flatten = s.filter (!p ·) := by
  induction s with
  | nil => rfl
  | cons a s ih =>
    by_cases h : p a
    · simp [cut, h, ih]
    · cases hc : cut p s with
      | nil => exact absurd hc (cut_ne_nil p s)
      | cons x xs =>
        rw [hc] at ih
        simp [cut, h, hc, ← ih]

/-- No piece holds a separator. -/
theorem not_of_mem_cut {α : Type} {p : α → Bool} {s piece : List α} (hs : piece ∈ cut p s) {a : α}
    (ha : a ∈ piece) : p a = false := by
  have hmem : a ∈ (cut p s).flatten := List.mem_flatten.mpr ⟨piece, hs, ha⟩
  rw [flatten_cut] at hmem
  simpa using (List.mem_filter.mp hmem).2

theorem length_cut {α : Type} (p : α → Bool) (s : List α) : (cut p s).length = s.countP p + 1 := by
  induction s with
  | nil => rfl
  | cons a s ih =>
    by_cases h : p a
    · simp [cut, h, ih]
    · simp [cut, h, ih, List.length_modifyHead]

end Lookout.Text

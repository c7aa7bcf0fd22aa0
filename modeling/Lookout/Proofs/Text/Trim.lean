import Lookout.Proofs.Text.Words
import Mathlib.Data.List.TakeWhile

/-! Texts without the blanks at their ends. Trimming takes away blanks only, so the pieces of a trimmed text are
    those of the text, up to the blanks at the ends of pieces. -/

namespace Lookout.Text

variable {s t b : List Char}

theorem isBlankText_append : isBlankText (s ++ t) = (isBlankText s && isBlankText t) := List.all_append

theorem isBlankText_reverse : isBlankText s.reverse = isBlankText s := List.all_reverse

/-! ### Trimming -/

theorem trimLeft_append (hb : isBlankText b = true) : trimLeft (b ++ s) = trimLeft s := by
  induction b with
  | nil => rfl
  | cons c b ih =>
    obtain ⟨hc, hb⟩ := Bool.and_eq_true_iff.mp hb
    rw [trimLeft, List.cons_append, List.dropWhile_cons_of_pos hc]
    exact ih hb

theorem trimRight_append (hb : isBlankText b = true) : trimRight (s ++ b) = trimRight s := by
  rw [trimRight, List.reverse_append, trimLeft_append (isBlankText_reverse.trans hb), trimRight]

theorem trimLeft_of_head (h : ∀ c ∈ s.head?, isBlank c = false) : trimLeft s = s := by
  cases s with
  | nil => rfl
  | cons c s => exact List.dropWhile_cons_of_neg (by simp [h c rfl])

theorem exists_trimLeft (s : List Char) : ∃ b, isBlankText b = true ∧ s = b ++ trimLeft s :=
  ⟨s.takeWhile isBlank, List.all_takeWhile, List.takeWhile_append_dropWhile.symm⟩

theorem exists_trimRight (s : List Char) : ∃ b, isBlankText b = true ∧ s = trimRight s ++ b := by
  obtain ⟨b, hb, hs⟩ := exists_trimLeft s.reverse
  refine ⟨b.reverse, isBlankText_reverse.trans hb, ?_⟩
  rw [trimRight, ← List.reverse_append, ← hs, List.reverse_reverse]

/-- Trimming takes away a blank text at either end. -/
theorem exists_trim (s : List Char) :
    ∃ b b', isBlankText b = true ∧ isBlankText b' = true ∧ s = b ++ trim s ++ b' := by
  obtain ⟨b, hb, hs⟩ := exists_trimLeft s
  obtain ⟨b', hb', ht⟩ := exists_trimRight (trimLeft s)
  refine ⟨b, b', hb, hb', ?_⟩
  rw [List.append_assoc, trim, ← ht]
  exact hs

theorem trim_prepend (hb : isBlankText b = true) : trim (b ++ s) = trim s := by
  rw [trim, trimLeft_append hb, trim]

theorem trim_append (hb : isBlankText b = true) : trim (s ++ b) = trim s := by
  have hnil : b.dropWhile isBlank = [] := List.dropWhile_eq_nil_iff.mpr (List.all_eq_true.mp hb)
  rw [trim, trim, trimLeft, trimLeft, List.dropWhile_append]
  split
  · next h => rw [hnil, List.isEmpty_iff.mp h]
  · exact trimRight_append hb

theorem trim_between {b b' : List Char} (hb : isBlankText b = true) (hb' : isBlankText b' = true) :
    trim (b ++ s ++ b') = trim s := by
  rw [trim_append hb', trim_prepend hb]

/-- A text that neither begins nor ends with a blank stays as it is. -/
theorem trim_of_ends (hhead : ∀ c ∈ s.head?, isBlank c = false) (hlast : ∀ c ∈ s.getLast?, isBlank c = false) :
    trim s = s := by
  rw [trim, trimLeft_of_head hhead, trimRight, trimLeft_of_head (by rwa [List.head?_reverse]), List.reverse_reverse]

theorem head_trimLeft (s : List Char) : ∀ c ∈ (trimLeft s).head?, isBlank c = false := by
  intro c hc
  have hdrop := List.head?_dropWhile_not isBlank s
  rw [trimLeft] at hc
  rw [Option.mem_def.mp hc] at hdrop
  simpa using hdrop

theorem getLast_trim (s : List Char) : ∀ c ∈ (trim s).getLast?, isBlank c = false := by
  rw [trim, trimRight, List.getLast?_reverse]
  exact head_trimLeft _

theorem head_trim (s : List Char) : ∀ c ∈ (trim s).head?, isBlank c = false := by
  intro c hc
  obtain ⟨b, -, hs⟩ := exists_trimRight (trimLeft s)
  refine head_trimLeft s c ?_
  rw [hs, List.head?_append, show (trimRight (trimLeft s)).head? = some c from hc]
  rfl

theorem isDigit_of_isBlank {c : Char} (h : isBlank c = true) : c.isDigit = false := by
  have htable : ∀ n ∈ blankCodes, (Char.ofNat n).isDigit = false := by decide
  have hc := htable _ (isBlank_iff_mem.mp h)
  rwa [Char.ofNat_toNat] at hc

theorem trim_of_blank (h : isBlankText s = true) : trim s = [] := by
  have hs := trim_append (s := []) h
  rwa [List.nil_append] at hs

theorem trim_eq_nil_iff : trim s = [] ↔ isBlankText s = true := by
  refine ⟨fun h => ?_, trim_of_blank⟩
  obtain ⟨b, b', hb, hb', hs⟩ := exists_trim s
  rw [h, List.append_nil] at hs
  rw [hs, isBlankText_append, hb, hb']
  rfl

theorem mem_of_mem_trim {c : Char} (h : c ∈ trim s) : c ∈ s := by
  obtain ⟨b, b', -, -, hs⟩ := exists_trim s
  rw [hs]
  simp [h]

theorem mem_trim_of_mem {c : Char} (hc : isBlank c = false) (h : c ∈ s) : c ∈ trim s := by
  obtain ⟨b, b', hb, hb', hs⟩ := exists_trim s
  have hblank : ∀ {b : List Char}, isBlankText b = true → c ∉ b := fun hb hmem => by
    rw [List.all_eq_true.mp hb c hmem] at hc
    cases hc
  rw [hs, List.mem_append, List.mem_append] at h
  rcases h with (h | h) | h
  · exact absurd h (hblank hb)
  · exact h
  · exact absurd h (hblank hb')

/-! ### The pieces of a trimmed text -/

variable {p : Char → Bool}

/-- Two texts that no separator parts share a piece. -/
theorem exists_cut_seam (s t : List Char) :
    ∃ init last first rest, cut p s = init ++ [last] ∧ cut p t = first :: rest ∧
      cut p (s ++ t) = init ++ (last ++ first) :: rest := by
  induction s with
  | nil =>
    obtain ⟨first, rest, ht⟩ := List.exists_cons_of_ne_nil (cut_ne_nil p t)
    exact ⟨[], [], first, rest, rfl, ht, ht⟩
  | cons c s ih =>
    obtain ⟨init, last, first, rest, hs, ht, hst⟩ := ih
    rw [List.cons_append, cut, cut, hs, hst]
    by_cases hc : p c = true
    · exact ⟨[] :: init, last, first, rest, by simp [hc], ht, by simp [hc]⟩
    · cases init with
      | nil => exact ⟨[], c :: last, first, rest, by simp [hc], ht, by simp [hc]⟩
      | cons i is => exact ⟨(c :: i) :: is, last, first, rest, by simp [hc], ht, by simp [hc]⟩

/-- What stands before a text without a separator belongs to its first piece. -/
theorem exists_cut_prepend (hb : ∀ c ∈ b, p c = false) (s : List Char) :
    ∃ first rest, cut p s = first :: rest ∧ cut p (b ++ s) = (b ++ first) :: rest := by
  obtain ⟨init, last, first, rest, hcut, hs, hbs⟩ := exists_cut_seam (p := p) b s
  rw [cut_of_forall hb] at hcut
  obtain ⟨rfl, hlast⟩ := List.append_inj' (show [] ++ [b] = init ++ [last] from hcut) rfl
  obtain rfl := List.singleton_inj.mp hlast
  exact ⟨first, rest, hs, hbs⟩

/-- What stands behind a text without a separator belongs to its last piece. -/
theorem exists_cut_append (hb : ∀ c ∈ b, p c = false) (s : List Char) :
    ∃ init last, cut p s = init ++ [last] ∧ cut p (s ++ b) = init ++ [last ++ b] := by
  obtain ⟨init, last, first, rest, hs, hcut, hsb⟩ := exists_cut_seam (p := p) s b
  rw [cut_of_forall hb] at hcut
  obtain ⟨rfl, rfl⟩ := List.cons.inj hcut
  exact ⟨init, last, hs, hsb⟩

/-- A trimmed text has the pieces of the text, if no blank separates pieces and the pieces are trimmed. -/
theorem map_trim_cut_trim (hp : ∀ c, isBlank c = true → p c = false) (s : List Char) :
    (cut p (trim s)).map trim = (cut p s).map trim := by
  obtain ⟨b, b', hb, hb', hs⟩ := exists_trim s
  have hsep : ∀ {b : List Char}, isBlankText b = true → ∀ c ∈ b, p c = false :=
    fun hb c hc => hp c (List.all_eq_true.mp hb c hc)
  obtain ⟨first, rest, htrim, hfirst⟩ := exists_cut_prepend (hsep hb) (trim s)
  obtain ⟨init, last, hinit, hlast⟩ := exists_cut_append (hsep hb') (b ++ trim s)
  calc (cut p (trim s)).map trim
      = (cut p (b ++ trim s)).map trim := by
        rw [htrim, hfirst, List.map_cons, List.map_cons, trim_prepend hb]
    _ = (cut p (b ++ trim s ++ b')).map trim := by
        rw [hinit, hlast, List.map_append, List.map_append, List.map_singleton, List.map_singleton, trim_append hb']
    _ = (cut p s).map trim := by rw [← hs]

/-- Cutting at a separator finds the pieces that it joins. -/
theorem cut_intercalate {a : Char} {pieces : List (List Char)} (hne : pieces ≠ [])
    (h : ∀ piece ∈ pieces, a ∉ piece) : cut (· == a) ([a].intercalate pieces) = pieces := by
  have hfree : ∀ {piece : List Char}, a ∉ piece → ∀ c ∈ piece, (c == a) = false := fun hp c hc =>
    beq_eq_false_iff_ne.mpr fun he => hp (he ▸ hc)
  induction pieces with
  | nil => exact absurd rfl hne
  | cons x xs ih =>
    obtain ⟨hx, hxs⟩ := List.forall_mem_cons.mp h
    cases xs with
    | nil => simpa using cut_of_forall (hfree hx)
    | cons y ys =>
      rw [List.intercalate_cons_cons, List.append_assoc, List.singleton_append,
        cut_append_cons (hfree hx) (beq_self_eq_true a), ih (List.cons_ne_nil y ys) hxs]

end Lookout.Text

import Mathlib.Data.List.Basic
import Lookout.Proofs.Text.Trim

/-! Where the words of a text begin, and the text outside its double quotes. A word begins at the start of the text or
    behind a blank. A text that ends outside the quotes keeps its end when they are emptied, so what stands directly
    before a word there is what stands before it in the text. -/

namespace Lookout.Text

/-! ### Where words begin -/

/-- The text is empty or ends in a blank. -/
def EndsBlank (s : List Char) : Prop := ∀ c ∈ s.getLast?, isBlank c = true

theorem endsBlank_nil : EndsBlank [] := by rintro c ⟨⟩

theorem EndsBlank.words_append {a : List Char} (h : EndsBlank a) (s : List Char) : words (a ++ s) = words a ++ words s := by
  rcases List.eq_nil_or_concat' a with rfl | ⟨init, c, rfl⟩
  · rfl
  · have hc : isBlank c = true := h c List.getLast?_concat
    have hnil : words [] = [] := rfl
    rw [List.append_assoc, List.singleton_append, words_append_blank hc, words_append_blank hc, hnil, List.append_nil]

/-- A text that begins without a blank has a first word that begins so. -/
theorem exists_words_cons {w : List Char} (hne : w ≠ []) (hw : ∀ c ∈ w, isBlank c = false) (s : List Char) :
    ∃ r rest, words (w ++ s) = (w ++ r) :: rest := by
  obtain ⟨first, rest, -, hcut⟩ := exists_cut_prepend hw s
  exact ⟨first, rest.filter (!·.isEmpty), by rw [words, hcut, List.filter_cons_of_pos (by simp [hne])]⟩

theorem places_of_cut {p : Char → Bool} {s first : List Char} {rest : List (List Char)} (h : cut p s = first :: rest) :
    first <+: s ∧ ∀ piece ∈ rest, ∃ a b z, s = a ++ b :: (piece ++ z) ∧ p b = true := by
  induction s generalizing first rest with
  | nil =>
    obtain ⟨rfl, rfl⟩ := List.cons.inj h
    exact ⟨List.nil_prefix, List.forall_mem_nil _⟩
  | cons c s ih =>
    obtain ⟨f, r, hs⟩ := List.exists_cons_of_ne_nil (cut_ne_nil p s)
    obtain ⟨⟨z, hz⟩, hpieces⟩ := ih hs
    have hbehind : ∀ piece ∈ r, ∃ a b z, c :: s = a ++ b :: (piece ++ z) ∧ p b = true := by
      intro piece hpiece
      obtain ⟨a, b, z, rfl, hb⟩ := hpieces piece hpiece
      exact ⟨c :: a, b, z, rfl, hb⟩
    rw [cut, hs] at h
    by_cases hc : p c = true
    · rw [if_pos hc] at h
      obtain ⟨rfl, rfl⟩ := List.cons.inj h
      exact ⟨List.nil_prefix, List.forall_mem_cons.mpr ⟨⟨[], c, z, by rw [hz]; rfl, hc⟩, hbehind⟩⟩
    · rw [if_neg hc] at h
      obtain ⟨rfl, rfl⟩ := List.cons.inj h
      exact ⟨⟨z, by rw [List.cons_append, hz]⟩, hbehind⟩

theorem split_of_mem_words {s w : List Char} (h : w ∈ words s) : ∃ a z, s = a ++ (w ++ z) ∧ EndsBlank a := by
  obtain ⟨first, rest, hcut⟩ := List.exists_cons_of_ne_nil (cut_ne_nil isBlank s)
  obtain ⟨⟨z, hz⟩, hpieces⟩ := places_of_cut hcut
  rw [words, hcut] at h
  rcases List.mem_cons.mp (List.mem_filter.mp h).1 with rfl | hmem
  · exact ⟨[], z, hz.symm, endsBlank_nil⟩
  · obtain ⟨a, b, z, rfl, hb⟩ := hpieces w hmem
    refine ⟨a ++ [b], z, by simp, fun c hc => ?_⟩
    rw [List.getLast?_concat] at hc
    exact Option.some.inj hc ▸ hb

theorem EndsBlank.filter {s : List Char} (h : EndsBlank s) {p : Char → Bool} (hp : ∀ c, isBlank c = true → p c = true) :
    EndsBlank (s.filter p) := by
  rcases List.eq_nil_or_concat' s with rfl | ⟨init, c, rfl⟩
  · exact h
  · have hc : p c = true := hp c (h c List.getLast?_concat)
    rw [List.filter_append, List.filter_cons_of_pos hc, List.filter_nil]
    intro d hd
    rw [List.getLast?_concat] at hd
    exact h d (List.getLast?_concat.trans hd)

/-- A text ends in a blank if its last piece does, unless blanks separate pieces. -/
theorem EndsBlank.last_piece {s : List Char} (h : EndsBlank s) {p : Char → Bool}
    (hp : ∀ c, isBlank c = true → p c = false) {init : List (List Char)} {last : List Char}
    (hcut : cut p s = init ++ [last]) : EndsBlank last := by
  rcases List.eq_nil_or_concat' s with rfl | ⟨t, c, rfl⟩
  · obtain ⟨-, hlast⟩ := List.append_inj' (show [] ++ [[]] = init ++ [last] from hcut) rfl
    exact List.singleton_inj.mp hlast ▸ h
  · have hc : isBlank c = true := h c List.getLast?_concat
    obtain ⟨init', last', -, hcut'⟩ := exists_cut_append (List.forall_mem_singleton.mpr (hp c hc)) t
    obtain ⟨-, hlast⟩ := List.append_inj' (hcut.symm.trans hcut') rfl
    obtain rfl := List.singleton_inj.mp hlast
    intro d hd
    rw [List.getLast?_concat] at hd
    exact Option.some.inj hd ▸ hc

/-! ### Quotations emptied -/

/-- The text without what stands in double quotes, of which `inside` says whether one is open before it. -/
def unquoted (inside : Bool) : List Char → List Char
  | [] => []
  | c :: s =>
    if c = '"' then c :: unquoted (!inside) s else if inside then unquoted inside s else c :: unquoted inside s

/-- A quotation is open behind the text. -/
def insideAfter (inside : Bool) (s : List Char) : Bool := s.foldl (fun b c => if c = '"' then !b else b) inside

theorem insideAfter_eq_false {s : List Char} : insideAfter false s = false ↔ s.count '"' % 2 = 0 := by
  have hparity : ∀ b, insideAfter b s = (b ^^ decide (s.count '"' % 2 = 1)) := by
    induction s with
    | nil => simp [insideAfter]
    | cons c s ih =>
      intro b
      have hcons : insideAfter b (c :: s) = insideAfter (if c = '"' then !b else b) s := rfl
      rw [hcons, ih]
      by_cases hc : c = '"'
      · subst hc
        rcases Nat.mod_two_eq_zero_or_one (s.count '"') with h | h <;> simp [h, Nat.add_mod]
      · simp [hc]
  rw [hparity, Bool.false_xor, decide_eq_false_iff_not]
  exact Nat.mod_two_ne_one

theorem unquoted_append (inside : Bool) (s t : List Char) :
    unquoted inside (s ++ t) = unquoted inside s ++ unquoted (insideAfter inside s) t := by
  induction s generalizing inside with
  | nil => rfl
  | cons c s ih =>
    have hstate : insideAfter inside (c :: s) = insideAfter (if c = '"' then !inside else inside) s := rfl
    rw [List.cons_append, unquoted, unquoted, hstate]
    split
    · rw [ih, List.cons_append]
    split
    · rw [ih]
    · rw [ih, List.cons_append]

/-- A text that ends outside keeps its end. -/
theorem getLast_unquoted {inside : Bool} {s : List Char} (h : insideAfter inside s = false) :
    (unquoted inside s).getLast? = s.getLast? := by
  rcases List.eq_nil_or_concat' s with rfl | ⟨init, c, rfl⟩
  · rfl
  · have hlast : unquoted (insideAfter inside init) [c] = [c] := by
      rw [insideAfter, List.foldl_append] at h
      by_cases hc : c = '"'
      · simp [unquoted, hc]
      · have hopen : insideAfter inside init = false := by simpa [insideAfter, hc] using h
        simp [unquoted, hc, hopen]
    rw [unquoted_append, hlast, List.getLast?_concat, List.getLast?_concat]

/-- A character that stays stands outside. -/
theorem exists_of_unquoted {inside : Bool} {s a z : List Char} {d : Char} (hd : d ≠ '"')
    (h : unquoted inside s = a ++ d :: z) :
    ∃ before after, s = before ++ d :: after ∧ unquoted inside before = a ∧ insideAfter inside before = false ∧
      unquoted false after = z := by
  induction s generalizing inside a with
  | nil => simp [unquoted] at h
  | cons c s ih =>
    -- What is found in the rest is found in the whole, with one character more before it.
    have hbehind : ∀ {b a'}, b = (if c = '"' then !inside else inside) → unquoted b s = a' ++ d :: z →
        unquoted inside [c] ++ a' = a → ∃ before after, c :: s = before ++ d :: after ∧ unquoted inside before = a ∧
          insideAfter inside before = false ∧ unquoted false after = z := by
      rintro b a' rfl hs rfl
      obtain ⟨before, after, rfl, rfl, hstate, hz⟩ := ih hs
      refine ⟨c :: before, after, rfl, ?_, hstate, hz⟩
      exact unquoted_append inside [c] before
    rw [unquoted] at h
    by_cases hc : c = '"'
    · rw [if_pos hc] at h
      cases a with
      | nil => exact absurd ((List.cons.inj h).1.symm.trans hc) hd
      | cons e a =>
        obtain ⟨rfl, hs⟩ := List.cons.inj h
        exact hbehind (by rw [if_pos hc]) hs (by simp [unquoted, hc])
    rw [if_neg hc] at h
    cases inside with
    -- Inside a quotation the character is dropped.
    | true => exact hbehind (by rw [if_neg hc]) h (by simp [unquoted, hc])
    | false =>
      cases a with
      | nil =>
        obtain ⟨rfl, hz⟩ := List.cons.inj h
        exact ⟨[], s, rfl, rfl, rfl, hz⟩
      | cons e a =>
        obtain ⟨rfl, hs⟩ := List.cons.inj h
        exact hbehind (by rw [if_neg hc]) hs (by simp [unquoted, hc])

end Lookout.Text

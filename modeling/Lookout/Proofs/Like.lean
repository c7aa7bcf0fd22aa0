import Lookout.Like
import Mathlib.Data.List.Infix

/-! What patterns match. A pattern is read into its parts, and a backslash at its end is an error. The pattern of
    the texts that contain `s` is read without error and matches exactly the texts in which `s` occurs, also
    when the case of letters does not matter. A matcher that reads the pattern as it goes along the text comes to
    the same outcome for every pattern without error. -/

namespace Lookout.Like

/-- A part of a pattern. -/
inductive Part where
  /-- Any text. -/
  | any
  /-- Any one character. -/
  | one
  | char (c : Char)
  deriving Repr, DecidableEq

/-- The parts of a pattern. -/
def parts? : List Char → Option (List Part)
  | [] => some []
  | '%' :: rest => (parts? rest).map (.any :: ·)
  | '_' :: rest => (parts? rest).map (.one :: ·)
  | ['\\'] => none
  | '\\' :: c :: rest => (parts? rest).map (.char c :: ·)
  | c :: rest => (parts? rest).map (.char c :: ·)

/-- The text consists of what the parts stand for. -/
def fits : List Part → List Char → Bool
  | [], t => t.isEmpty
  | .any :: ps, t => t.tails.any (fits ps)
  | .one :: _, [] => false
  | .one :: ps, _ :: t => fits ps t
  | .char _ :: _, [] => false
  | .char c :: ps, x :: t => x == c && fits ps t

/-- The text is like the pattern, unless that is in error. -/
def like? (pattern t : List Char) : Option Bool := (parts? pattern).map (fits · t)

/-- A way to make letters of any case equal, character by character. The special characters of patterns are
    left alone. -/
structure Folding where
  fold : Char → Char
  special : ∀ c, isSpecial (fold c) = isSpecial c
  fixed : ∀ c, isSpecial c = true → fold c = c

namespace Folding

/-- The text is like the pattern in any case. -/
def ilike? (φ : Folding) (pattern t : List Char) : Option Bool := like? (pattern.map φ.fold) (t.map φ.fold)

/-- `s` occurs in `t` in any case. -/
def Occurs (φ : Folding) (s t : List Char) : Prop := s.map φ.fold <:+: t.map φ.fold

instance (φ : Folding) (s t : List Char) : Decidable (φ.Occurs s t) :=
  inferInstanceAs (Decidable (s.map φ.fold <:+: t.map φ.fold))

end Folding

theorem isSpecial_toLower (c : Char) : isSpecial c.toLower = isSpecial c := by
  by_cases h : c.val ≥ 'A'.val ∧ c.val ≤ 'Z'.val
  · have htable : ∀ n ∈ List.range' 65 26, isSpecial (Char.ofNat n).toLower = isSpecial (Char.ofNat n) := by decide
    have hupper : c.toNat ∈ List.range' 65 26 := by
      have hlower : 65 ≤ c.toNat := UInt32.le_iff_toNat_le.mp h.1
      have hbound : c.toNat ≤ 90 := UInt32.le_iff_toNat_le.mp h.2
      rw [List.mem_range'_1]
      omega
    simpa only [Char.ofNat_toNat] using htable c.toNat hupper
  · have hsame : c.toLower = c := dif_neg h
    rw [hsame]

/-- The letters of the Latin alphabet are equal to those of the other case. -/
def Folding.latin : Folding where
  fold := Char.toLower
  special := isSpecial_toLower
  fixed c h := by
    simp only [isSpecial, Bool.or_eq_true, beq_iff_eq] at h
    rcases h with (rfl | rfl) | rfl <;> rfl

/-! ### The pattern of the texts that contain a text -/

theorem parts?_char {c : Char} (h : isSpecial c = false) (rest : List Char) :
    parts? (c :: rest) = (parts? rest).map (.char c :: ·) := by
  simp only [isSpecial, escapeChar, Bool.or_eq_false_iff, beq_eq_false_iff_ne] at h
  obtain ⟨⟨hany, hone⟩, hescape⟩ := h
  rw [parts?] <;> simp_all

/-- An escaped text stands for itself. -/
theorem parts?_escape (s rest : List Char) :
    parts? (escape s ++ rest) = (parts? rest).map (s.map Part.char ++ ·) := by
  induction s with
  | nil => simp
  | cons c s ih =>
    have hcons : parts? (escape (c :: s) ++ rest) = (parts? (escape s ++ rest)).map (.char c :: ·) := by
      rw [escape_cons]
      cases hc : isSpecial c with
      | true => rfl
      | false => exact parts?_char hc _
    rw [hcons, ih, Option.map_map]
    rfl

theorem parts?_containing (s : List Char) : parts? (containing s) = some (.any :: s.map .char ++ [.any]) := by
  have hrest : parts? (escape s ++ ['%']) = some (s.map .char ++ [.any]) := parts?_escape s ['%']
  rw [containing, List.cons_append, parts?, hrest]
  rfl

theorem fits_any (t : List Char) : fits [.any] t = true := by
  rw [fits, List.any_eq_true]
  exact ⟨[], (List.mem_tails _ _).mpr (List.nil_suffix), rfl⟩

theorem fits_chars_any (s t : List Char) : fits (s.map .char ++ [.any]) t = true ↔ s <+: t := by
  induction s generalizing t with
  | nil => simpa using fits_any t
  | cons c s ih =>
    cases t with
    | nil => simp [fits]
    | cons x t =>
      rw [List.map_cons, List.cons_append, fits, Bool.and_eq_true, ih, beq_iff_eq, List.cons_prefix_cons, eq_comm]

theorem fits_containing (s t : List Char) : fits (.any :: s.map .char ++ [.any]) t = true ↔ s <:+: t := by
  rw [List.cons_append, fits, List.any_eq_true, List.infix_iff_prefix_suffix]
  constructor
  · rintro ⟨u, hu, hs⟩
    exact ⟨u, (fits_chars_any s u).mp hs, (List.mem_tails _ _).mp hu⟩
  · rintro ⟨u, hs, hu⟩
    exact ⟨u, (List.mem_tails _ _).mpr hu, (fits_chars_any s u).mpr hs⟩

theorem like?_containing (s t : List Char) : like? (containing s) t = some (decide (s <:+: t)) := by
  have hfits : fits (.any :: s.map .char ++ [.any]) t = decide (s <:+: t) := by
    rw [Bool.eq_iff_iff, fits_containing, decide_eq_true_iff]
  rw [like?, parts?_containing, Option.map_some, hfits]

/-! ### Letters of any case -/

namespace Folding

variable (φ : Folding)

theorem map_escape (s : List Char) : (escape s).map φ.fold = escape (s.map φ.fold) := by
  induction s with
  | nil => rfl
  | cons c s ih =>
    rw [List.map_cons, escape_cons, escape_cons, List.map_append, ih, φ.special]
    cases hc : isSpecial c with
    | true => simp [φ.fixed c hc, φ.fixed escapeChar rfl]
    | false => rfl

theorem map_containing (s : List Char) : (containing s).map φ.fold = containing (s.map φ.fold) := by
  simp [containing, φ.map_escape, φ.fixed '%' rfl]

/-- In any case, a text is like the pattern of `s` exactly if `s` occurs in it. -/
theorem ilike?_containing (s t : List Char) : φ.ilike? (containing s) t = some (decide (φ.Occurs s t)) := by
  rw [ilike?, map_containing, like?_containing]
  rfl

end Folding

/-! ### Going back in the text -/

/-- The outcome of a matcher that goes along the pattern and the text at once. At a `%` it tries the ends of the
    text in turn, and it meets a backslash at the end of the pattern only if it gets there. -/
def walk? : List Char → List Char → Option Bool
  | [], t => some t.isEmpty
  | '%' :: rest, t => t.tails.anyM (walk? rest)
  | '_' :: _, [] => some false
  | '_' :: rest, _ :: t => walk? rest t
  | ['\\'], _ => none
  | '\\' :: _ :: _, [] => some false
  | '\\' :: c :: rest, x :: t => if x = c then walk? rest t else some false
  | _ :: _, [] => some false
  | c :: rest, x :: t => if x = c then walk? rest t else some false

/-- A pattern without error has the same outcome, whether its parts are known before or not. -/
theorem walk?_of_parts? {pattern : List Char} {ps : List Part} (h : parts? pattern = some ps) (t : List Char) :
    walk? pattern t = some (fits ps t) := by
  fun_induction parts? pattern generalizing ps t with
  | case1 =>
    obtain rfl := Option.some.inj h
    rfl
  | case2 rest ih =>
    obtain ⟨qs, hqs, rfl⟩ := Option.map_eq_some_iff.mp h
    -- The rest has no error wherever it starts, so trying all starts has none.
    have hrest : walk? rest = fun u => pure (fits qs u) := funext fun u => ih hqs u
    rw [walk?, fits, hrest, List.anyM_pure]
    rfl
  | case3 rest ih =>
    obtain ⟨qs, hqs, rfl⟩ := Option.map_eq_some_iff.mp h
    cases t with
    | nil => rfl
    | cons x t => exact ih hqs t
  | case4 => cases h
  | case5 c rest ih =>
    obtain ⟨qs, hqs, rfl⟩ := Option.map_eq_some_iff.mp h
    cases t with
    | nil => rfl
    | cons x t =>
      rw [walk?, fits, ih hqs]
      by_cases hx : x = c <;> simp [hx]
  | case6 c rest hany hone hend hescape ih =>
    obtain ⟨qs, hqs, rfl⟩ := Option.map_eq_some_iff.mp h
    cases t with
    | nil => rw [walk?] <;> simp_all [fits]
    | cons x t =>
      have hstep : walk? (c :: rest) (x :: t) = if x = c then walk? rest t else some false := by
        rw [walk?] <;> simp_all
      rw [hstep, fits, ih hqs]
      by_cases hx : x = c <;> simp [hx]

theorem walk?_of_like? {pattern t : List Char} {b : Bool} (h : like? pattern t = some b) : walk? pattern t = some b := by
  obtain ⟨ps, hps, rfl⟩ := Option.map_eq_some_iff.mp h
  exact walk?_of_parts? hps t

/-- The pattern of `s` is without error, and a text is like it exactly if `s` occurs in the text, with the case of
    letters and without it, for both ways to match. -/
theorem like_containing_iff_occurs (s t : List Char) :
    (like? (containing s) t = some (decide (s <:+: t)) ∧ walk? (containing s) t = some (decide (s <:+: t))) ∧
      ∀ φ : Folding, φ.ilike? (containing s) t = some (decide (φ.Occurs s t)) ∧
        walk? ((containing s).map φ.fold) (t.map φ.fold) = some (decide (φ.Occurs s t)) := by
  have hplain := like?_containing s t
  refine ⟨⟨hplain, walk?_of_like? hplain⟩, fun φ => ?_⟩
  have hfolded := φ.ilike?_containing s t
  exact ⟨hfolded, walk?_of_like? hfolded⟩

end Lookout.Like

import Lookout.Json.Tree
import Mathlib.Data.List.TakeWhile

/-! Numerals at the start of a text. What is read as a numeral up to the end of a text is read so in front of anything
    that no numeral goes on with. -/

namespace Lookout.Json

/-- No numeral goes on with the character. -/
def endsNumeral (c : Char) : Bool := !c.isDigit && c != '.' && c != 'e' && c != 'E'

/-- A numeral that stands before this text ends where the text starts. -/
def EndsNumeral (s : List Char) : Prop := ∀ c ∈ s.head?, endsNumeral c = true

theorem EndsNumeral.cons {c : Char} {s : List Char} (h : EndsNumeral (c :: s)) :
    c.isDigit = false ∧ c ≠ '.' ∧ c ≠ 'e' ∧ c ≠ 'E' := by
  have hc := h c rfl
  simpa [endsNumeral, and_assoc] using hc

section
variable {s r rest : List Char}

theorem digits_of_ends (h : EndsNumeral rest) : digits rest = ([], rest) := by
  cases rest with
  | nil => rfl
  | cons c s =>
    obtain ⟨hc, -⟩ := h.cons
    rw [digits, List.takeWhile_cons_of_neg (by simp [hc]), List.dropWhile_cons_of_neg (by simp [hc])]

theorem fraction?_of_ends (h : EndsNumeral rest) : fraction? rest = some ([], rest) := by
  cases rest with
  | nil => rfl
  | cons c s => exact fraction?.eq_2 _ fun r hr => h.cons.2.1 (List.cons.inj hr).1

theorem exponent?_of_ends (h : EndsNumeral rest) : exponent? rest = some (none, rest) := by
  cases rest with
  | nil => rfl
  | cons c s =>
    obtain ⟨-, -, he, hE⟩ := h.cons
    simp [exponent?, he, hE]

theorem digits_extend (h : EndsNumeral rest) (s : List Char) :
    digits (s ++ rest) = ((digits s).1, (digits s).2 ++ rest) := by
  induction s with
  | nil => exact digits_of_ends h
  | cons c s ih =>
    rw [digits, Prod.mk.injEq] at ih
    obtain ⟨htake, hdrop⟩ := ih
    by_cases hc : c.isDigit = true
    · simp [digits, hc, htake, hdrop]
    · simp [digits, hc]

theorem fraction?_point (s : List Char) :
    fraction? ('.' :: s) = if (digits s).1 = [] then none else some (digits s) := by
  rw [fraction?]
  split
  · next heq => rw [heq, if_pos rfl]
  · next hne => exact (if_neg fun hnil => hne (digits s).2 (by rw [← hnil])).symm

theorem fraction?_extend (h : EndsNumeral rest) {f : List Char} (hs : fraction? s = some (f, r)) :
    fraction? (s ++ rest) = some (f, r ++ rest) := by
  cases s with
  | nil =>
    cases hs
    exact fraction?_of_ends h
  | cons c s =>
    by_cases hc : c = '.'
    · subst hc
      rw [fraction?_point, Option.ite_none_left_eq_some] at hs
      obtain ⟨hne, heq⟩ := hs
      rw [List.cons_append, fraction?_point, digits_extend h, if_neg hne, Option.some.inj heq]
    · rw [fraction?.eq_2 _ fun t ht => hc (List.cons.inj ht).1] at hs
      obtain ⟨rfl, rfl⟩ := Prod.mk.inj (Option.some.inj hs)
      exact fraction?.eq_2 _ fun t ht => hc (List.cons.inj ht).1

theorem exponentDigits?_eq (negative : Bool) (s : List Char) :
    exponentDigits? negative s =
      if (digits s).1 = [] then none else some (some (negative, (digits s).1), (digits s).2) := by
  rw [exponentDigits?]
  split
  · next heq => rw [heq, if_pos rfl]
  · next ds r hne heq => rw [heq, if_neg fun hnil => hne hnil]

theorem exponentDigits?_extend (h : EndsNumeral rest) {negative : Bool} {e : Option (Bool × List Char)}
    (hs : exponentDigits? negative s = some (e, r)) : exponentDigits? negative (s ++ rest) = some (e, r ++ rest) := by
  rw [exponentDigits?_eq, Option.ite_none_left_eq_some] at hs
  obtain ⟨hne, heq⟩ := hs
  obtain ⟨rfl, rfl⟩ := Prod.mk.inj (Option.some.inj heq)
  rw [exponentDigits?_eq, digits_extend h, if_neg hne]

theorem exponent?_of_not_mark {c : Char} (hmark : ¬ (c == 'e' || c == 'E') = true) (s : List Char) :
    exponent? (c :: s) = some (none, c :: s) := by
  unfold exponent?
  exact if_neg hmark

theorem exponent?_extend (h : EndsNumeral rest) {e : Option (Bool × List Char)} (hs : exponent? s = some (e, r)) :
    exponent? (s ++ rest) = some (e, r ++ rest) := by
  rcases s with _ | ⟨c, s⟩
  · cases hs
    exact exponent?_of_ends h
  by_cases hmark : (c == 'e' || c == 'E') = true
  · rcases s with _ | ⟨d, s⟩
    · rw [exponent?.eq_3 _ _ (by simp) (by simp), if_pos hmark] at hs
      cases hs
    by_cases hminus : d = '-'
    · subst hminus
      rw [exponent?, if_pos hmark] at hs
      rw [List.cons_append, List.cons_append, exponent?, if_pos hmark]
      exact exponentDigits?_extend h hs
    by_cases hplus : d = '+'
    · subst hplus
      rw [exponent?, if_pos hmark] at hs
      rw [List.cons_append, List.cons_append, exponent?, if_pos hmark]
      exact exponentDigits?_extend h hs
    -- Without a sign the digits start behind the mark.
    have hskip : ∀ t, exponent? (c :: d :: t) = exponentDigits? false (d :: t) := fun t => by
      rw [exponent?.eq_3 _ _ (fun r hr => hminus (List.cons.inj hr).1) fun r hr => hplus (List.cons.inj hr).1,
        if_pos hmark]
    rw [hskip] at hs
    rw [List.cons_append, List.cons_append, hskip]
    exact exponentDigits?_extend h hs
  · rw [exponent?_of_not_mark hmark] at hs
    obtain ⟨rfl, rfl⟩ := Prod.mk.inj (Option.some.inj hs)
    exact exponent?_of_not_mark hmark _

/-- The digits before the point. -/
def whole? : List Char → Option (List Char × List Char)
  | '0' :: s => some (['0'], s)
  | s => if (digits s).1 = [] then none else some (digits s)

theorem unsigned?_eq (negative : Bool) (s : List Char) :
    unsigned? negative s = (whole? s).bind fun w => (fraction? w.2).bind fun f => (exponent? f.2).map fun e =>
      (⟨negative, w.1, f.1, e.1⟩, e.2) := by
  by_cases hzero : ∃ t, s = '0' :: t
  · obtain ⟨t, rfl⟩ := hzero
    simp only [unsigned?, whole?, Option.map_eq_bind, Option.bind_some]
    rfl
  · have hs : ∀ t, s = '0' :: t → False := fun t ht => hzero ⟨t, ht⟩
    rw [unsigned?.eq_2 _ _ hs, whole?.eq_2 _ hs]
    rcases digits s with ⟨_ | ⟨d, ds⟩, r⟩
    · rfl
    · simp only [Option.map_eq_bind, Option.bind_some, reduceCtorEq, if_false]
      rfl

theorem whole?_extend (h : EndsNumeral rest) {w : List Char} (hs : whole? s = some (w, r)) :
    whole? (s ++ rest) = some (w, r ++ rest) := by
  by_cases hzero : ∃ t, s = '0' :: t
  · obtain ⟨t, rfl⟩ := hzero
    cases hs
    rfl
  · have hhead : ∀ t, s = '0' :: t → False := fun t ht => hzero ⟨t, ht⟩
    rw [whole?.eq_2 _ hhead, Option.ite_none_left_eq_some] at hs
    obtain ⟨hne, heq⟩ := hs
    have hhead' : ∀ t, s ++ rest = '0' :: t → False := by
      cases s with
      | nil => exact absurd rfl hne
      | cons c s => exact fun t ht => hhead s (by rw [(List.cons.inj ht).1])
    rw [whole?.eq_2 _ hhead', digits_extend h, if_neg hne, Option.some.inj heq]

theorem unsigned?_extend (h : EndsNumeral rest) {negative : Bool} {n : Numeral}
    (hs : unsigned? negative s = some (n, r)) : unsigned? negative (s ++ rest) = some (n, r ++ rest) := by
  rw [unsigned?_eq] at hs
  obtain ⟨⟨w, s₁⟩, hw, hs⟩ := Option.bind_eq_some_iff.mp hs
  obtain ⟨⟨f, s₂⟩, hf, hs⟩ := Option.bind_eq_some_iff.mp hs
  obtain ⟨⟨e, s₃⟩, he, hs⟩ := Option.map_eq_some_iff.mp hs
  obtain ⟨rfl, rfl⟩ := Prod.mk.inj hs
  rw [unsigned?_eq, whole?_extend h hw, Option.bind_some, fraction?_extend h hf, Option.bind_some,
    exponent?_extend h he, Option.map_some]

theorem exists_of_unsigned? {negative : Bool} {n : Numeral} (hs : unsigned? negative s = some (n, r)) :
    ∃ c t, s = c :: t ∧ c.isDigit = true := by
  rw [unsigned?_eq] at hs
  obtain ⟨w, hw, -⟩ := Option.bind_eq_some_iff.mp hs
  rcases s with _ | ⟨c, t⟩
  · cases hw
  refine ⟨c, t, rfl, ?_⟩
  by_cases hzero : c = '0'
  · rw [hzero]
    rfl
  · rw [whole?.eq_2 _ fun r hr => hzero (List.cons.inj hr).1, Option.ite_none_left_eq_some] at hw
    by_contra hc
    exact hw.1 (List.takeWhile_cons_of_neg hc)

/-- A numeral begins with a minus sign or a digit. -/
theorem exists_of_numeral? {n : Numeral} (hs : numeral? s = some (n, r)) :
    ∃ c t, s = c :: t ∧ (c = '-' ∨ c.isDigit = true) := by
  by_cases hminus : ∃ t, s = '-' :: t
  · obtain ⟨t, rfl⟩ := hminus
    exact ⟨'-', t, rfl, Or.inl rfl⟩
  · rw [numeral?.eq_2 _ fun t ht => hminus ⟨t, ht⟩] at hs
    obtain ⟨c, t, rfl, hc⟩ := exists_of_unsigned? hs
    exact ⟨c, t, rfl, Or.inr hc⟩

theorem numeral?_extend (h : EndsNumeral rest) {n : Numeral} (hs : numeral? s = some (n, r)) :
    numeral? (s ++ rest) = some (n, r ++ rest) := by
  by_cases hminus : ∃ t, s = '-' :: t
  · obtain ⟨t, rfl⟩ := hminus
    exact unsigned?_extend h hs
  · rw [numeral?.eq_2 _ fun t ht => hminus ⟨t, ht⟩] at hs
    obtain ⟨c, t, rfl, -⟩ := exists_of_unsigned? hs
    rw [numeral?.eq_2 _ fun r hr => hminus ⟨t, by rw [(List.cons.inj hr).1]⟩]
    exact unsigned?_extend h hs

/-! ### Digits -/

/-- All that stands before and behind the point is digits. -/
def Numeral.IsDecimal (n : Numeral) : Prop :=
  (∀ c ∈ n.whole, c.isDigit = true) ∧ ∀ c ∈ n.fraction, c.isDigit = true

theorem isDigit_of_mem_digits {c : Char} (hc : c ∈ (digits s).1) : c.isDigit = true := List.mem_takeWhile_imp hc

theorem isDigit_of_whole? {w : List Char} (hs : whole? s = some (w, r)) : ∀ c ∈ w, c.isDigit = true := by
  by_cases hzero : ∃ t, s = '0' :: t
  · obtain ⟨t, rfl⟩ := hzero
    cases hs
    intro c hc
    rw [List.mem_singleton.mp hc]
    rfl
  · rw [whole?.eq_2 _ fun t ht => hzero ⟨t, ht⟩, Option.ite_none_left_eq_some] at hs
    obtain ⟨-, heq⟩ := hs
    intro c hc
    rw [← (Prod.mk.inj (Option.some.inj heq)).1] at hc
    exact isDigit_of_mem_digits hc

theorem isDigit_of_fraction? {f : List Char} (hs : fraction? s = some (f, r)) : ∀ c ∈ f, c.isDigit = true := by
  by_cases hpoint : ∃ t, s = '.' :: t
  · obtain ⟨t, rfl⟩ := hpoint
    rw [fraction?_point, Option.ite_none_left_eq_some] at hs
    obtain ⟨-, heq⟩ := hs
    intro c hc
    rw [← (Prod.mk.inj (Option.some.inj heq)).1] at hc
    exact isDigit_of_mem_digits hc
  · rw [fraction?.eq_2 _ fun t ht => hpoint ⟨t, ht⟩] at hs
    cases hs
    simp

theorem isDecimal_of_unsigned? {negative : Bool} {n : Numeral} (hs : unsigned? negative s = some (n, r)) :
    n.IsDecimal := by
  rw [unsigned?_eq] at hs
  obtain ⟨⟨w, s₁⟩, hw, hs⟩ := Option.bind_eq_some_iff.mp hs
  obtain ⟨⟨f, s₂⟩, hf, hs⟩ := Option.bind_eq_some_iff.mp hs
  obtain ⟨⟨e, s₃⟩, -, hs⟩ := Option.map_eq_some_iff.mp hs
  rw [← (Prod.mk.inj hs).1]
  exact ⟨isDigit_of_whole? hw, isDigit_of_fraction? hf⟩

theorem isDecimal_of_numeral? {n : Numeral} (hs : numeral? s = some (n, r)) : n.IsDecimal := by
  by_cases hminus : ∃ t, s = '-' :: t
  · obtain ⟨t, rfl⟩ := hminus
    exact isDecimal_of_unsigned? hs
  · rw [numeral?.eq_2 _ fun t ht => hminus ⟨t, ht⟩] at hs
    exact isDecimal_of_unsigned? hs

end

end Lookout.Json

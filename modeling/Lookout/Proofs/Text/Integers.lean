import Lookout.Text.Digits
import Mathlib.Tactic.Ring

/-! Integers in decimal digits. The text of an integer is read as the integer, and nothing but a sign and digits
    stands in it. -/

namespace Lookout.Text

/-! ### Values of digits -/

theorem digit_le_nine {d : Char} (hd : d.isDigit = true) : d.toNat - '0'.toNat ≤ 9 := by
  have hhigh : d.toNat ≤ '9'.toNat := (Char.isDigit_iff_toNat.mp hd).2
  exact Nat.sub_le_sub_right hhigh _

/-- Digits behind a number stay below what the next number has in front of as many digits. -/
theorem ofDigitChars_between {ds : List Char} (hdigits : ∀ d ∈ ds, d.isDigit = true) (n : Nat) :
    n * 10 ^ ds.length ≤ Nat.ofDigitChars 10 ds n ∧ Nat.ofDigitChars 10 ds n < (n + 1) * 10 ^ ds.length := by
  induction ds generalizing n with
  | nil => simp
  | cons d ds ih =>
    obtain ⟨hd, hds⟩ := List.forall_mem_cons.mp hdigits
    obtain ⟨hlow, hhigh⟩ := ih hds (10 * n + (d.toNat - '0'.toNat))
    have hnine := digit_le_nine hd
    rw [Nat.ofDigitChars_cons, List.length_cons]
    generalize d.toNat - '0'.toNat = digit at hlow hhigh hnine ⊢
    constructor
    · calc n * 10 ^ (ds.length + 1) = 10 * n * 10 ^ ds.length := by ring
        _ ≤ (10 * n + digit) * 10 ^ ds.length := Nat.mul_le_mul_right _ (Nat.le_add_right _ _)
        _ ≤ _ := hlow
    · calc _ < (10 * n + digit + 1) * 10 ^ ds.length := hhigh
        _ ≤ (10 * n + 10) * 10 ^ ds.length := Nat.mul_le_mul_right _ (by omega)
        _ = (n + 1) * 10 ^ (ds.length + 1) := by ring

theorem ofDecimal_lt {ds : List Char} (hdigits : ∀ d ∈ ds, d.isDigit = true) : ofDecimal ds < 10 ^ ds.length := by
  have h := (ofDigitChars_between hdigits 0).2
  rwa [Nat.zero_add, Nat.one_mul] at h

/-! ### Texts of integers -/

/-- A number that is not zero has no zero in front. -/
theorem head_decimal_ne_zero {n : Nat} (hn : 0 < n) : (decimal n).head? ≠ some '0' := by
  induction n using Nat.strongRecOn with
  | ind n ih =>
    by_cases hlt : n < 10
    · rw [decimal, Nat.toDigits_of_lt_base hlt]
      intro h
      have hall : ∀ k < 10, 0 < k → Nat.digitChar k ≠ '0' := by decide
      exact hall n hlt hn (Option.some.inj h)
    · have hsplit : decimal n = decimal (n / 10) ++ [Nat.digitChar (n % 10)] :=
        Nat.toDigits_of_base_le (by decide) (by omega)
      obtain ⟨c, s, hs⟩ := List.exists_cons_of_ne_nil (decimal_ne_nil (n / 10))
      have hhead := ih (n / 10) (by omega) (by omega)
      rw [hs] at hsplit hhead
      rw [hsplit]
      exact hhead

/-- An integer begins with a minus sign or a digit, and nothing but digits follows. -/
theorem exists_signedDecimal (i : Int) :
    ∃ c s, signedDecimal i = c :: s ∧ (c = '-' ∨ c.isDigit = true) ∧ ∀ d ∈ s, d.isDigit = true := by
  cases i with
  | ofNat n =>
    obtain ⟨c, s, hs⟩ := List.exists_cons_of_ne_nil (decimal_ne_nil n)
    have hdigit : ∀ d ∈ c :: s, d.isDigit = true := fun d hd => isDigit_of_mem_decimal (hs ▸ hd)
    obtain ⟨hc, hdigits⟩ := List.forall_mem_cons.mp hdigit
    exact ⟨c, s, hs, Or.inr hc, hdigits⟩
  | negSucc n => exact ⟨'-', decimal (n + 1), rfl, Or.inl rfl, fun d hd => isDigit_of_mem_decimal hd⟩

theorem mem_signedDecimal {i : Int} {c : Char} (h : c ∈ signedDecimal i) : c = '-' ∨ c.isDigit = true := by
  obtain ⟨d, s, hs, hd, hdigits⟩ := exists_signedDecimal i
  rw [hs] at h
  cases h with
  | head => exact hd
  | tail _ h => exact Or.inr (hdigits c h)

theorem natural?_decimal (n : Nat) : natural? (decimal n) = some n := by
  have hne : (decimal n).isEmpty = false := List.isEmpty_eq_false_iff.mpr (decimal_ne_nil n)
  have hall : (decimal n).all Char.isDigit = true := List.all_eq_true.mpr fun c hc => isDigit_of_mem_decimal hc
  simp [natural?, hne, hall, ofDecimal_decimal]

/-- The text of an integer is read as the integer. -/
theorem integer?_signedDecimal (i : Int) : integer? (signedDecimal i) = some i := by
  cases i with
  | negSucc n => simp [signedDecimal, integer?, natural?_decimal, Int.negSucc_eq]
  | ofNat n =>
    obtain ⟨c, s, hs⟩ := List.exists_cons_of_ne_nil (decimal_ne_nil n)
    have hc : c.isDigit = true := isDigit_of_mem_decimal (n := n) (hs ▸ List.mem_cons_self)
    have hminus : c ≠ '-' := by rintro rfl; exact absurd hc (by decide)
    have hplus : c ≠ '+' := by rintro rfl; exact absurd hc (by decide)
    rw [signedDecimal, hs, integer?.eq_3 _ (by simp [hminus]) (by simp [hplus]), ← hs, natural?_decimal]
    rfl

theorem int64?_toInt (i : Int64) : int64? i.toInt = some i := by
  have hlow := i.le_toInt
  have hhigh := i.toInt_lt
  rw [int64?, if_pos ⟨by omega, by omega⟩, Int64.ofInt_toInt]

theorem readInt64?_signedDecimal (i : Int64) : readInt64? (signedDecimal i.toInt) = some i := by
  rw [readInt64?, integer?_signedDecimal, Option.bind_some, int64?_toInt]

/-! ### What is read as an integer -/

/-- One or more digits behind at most one sign, and the integer that they write. -/
inductive IsInteger : List Char → Int → Prop
  | digits {ds : List Char} (hne : ds ≠ []) (hds : ∀ d ∈ ds, d.isDigit = true) : IsInteger ds (ofDecimal ds)
  | plus {ds : List Char} (hne : ds ≠ []) (hds : ∀ d ∈ ds, d.isDigit = true) : IsInteger ('+' :: ds) (ofDecimal ds)
  | minus {ds : List Char} (hne : ds ≠ []) (hds : ∀ d ∈ ds, d.isDigit = true) : IsInteger ('-' :: ds) (-ofDecimal ds)

theorem natural?_eq_some {ds : List Char} {n : Nat} :
    natural? ds = some n ↔ ds ≠ [] ∧ (∀ d ∈ ds, d.isDigit = true) ∧ ofDecimal ds = n := by
  simp [natural?, and_assoc]

theorem integer?_eq_some {s : List Char} {i : Int} : integer? s = some i ↔ IsInteger s i := by
  constructor
  · intro h
    unfold integer? at h
    split at h
    · obtain ⟨_, hn, rfl⟩ := Option.map_eq_some_iff.mp h
      obtain ⟨n, hn, he⟩ := Option.bind_eq_some_iff.mp hn
      obtain ⟨hne, hds, rfl⟩ := natural?_eq_some.mp hn
      cases he
      exact .minus hne hds
    · obtain ⟨n, hn, rfl⟩ := Option.map_eq_some_iff.mp h
      obtain ⟨hne, hds, rfl⟩ := natural?_eq_some.mp hn
      exact .plus hne hds
    · obtain ⟨n, hn, rfl⟩ := Option.map_eq_some_iff.mp h
      obtain ⟨hne, hds, rfl⟩ := natural?_eq_some.mp hn
      exact .digits hne hds
  · intro h
    cases h with
    | minus hne hds =>
      rw [integer?, natural?_eq_some.mpr ⟨hne, hds, rfl⟩]
      rfl
    | plus hne hds =>
      rw [integer?, natural?_eq_some.mpr ⟨hne, hds, rfl⟩]
      rfl
    | digits hne hds =>
      -- A digit is no sign, so the third case of the reader applies.
      have hhead : ∀ c r, s = c :: r → c.isDigit = true := fun c r hs => hds c (hs ▸ List.mem_cons_self)
      rw [integer?.eq_3 _ (fun r hr => absurd (hhead _ r hr) (by decide)) fun r hr => absurd (hhead _ r hr) (by decide),
        natural?_eq_some.mpr ⟨hne, hds, rfl⟩]
      rfl

/-- Nothing but signs and digits stands in an integer. -/
theorem IsInteger.mem {s : List Char} {i : Int} (h : IsInteger s i) {c : Char} (hc : c ∈ s) :
    c = '-' ∨ c = '+' ∨ c.isDigit = true := by
  cases h with
  | digits _ hds => exact Or.inr (Or.inr (hds c hc))
  | plus _ hds =>
    rcases List.mem_cons.mp hc with rfl | hc
    · exact Or.inr (Or.inl rfl)
    · exact Or.inr (Or.inr (hds c hc))
  | minus _ hds =>
    rcases List.mem_cons.mp hc with rfl | hc
    · exact Or.inl rfl
    · exact Or.inr (Or.inr (hds c hc))

end Lookout.Text

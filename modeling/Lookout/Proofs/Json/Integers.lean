import Lookout.Proofs.Json.Written
import Lookout.Proofs.Text.Integers

/-! Integers in JSON texts. The digits of an integer are read as the integer, so the text of a list of integers is read
    as the list. -/

namespace Lookout.Json

open Text (decimal signedDecimal)

/-! ### Numerals -/

/-- The numeral of an integer: a sign if it is negative, and its digits. -/
def Numeral.ofInt (i : Int) : Numeral := ⟨decide (i < 0), decimal i.natAbs, [], none⟩

theorem digits_decimal (n : Nat) : digits (decimal n) = (decimal n, []) := by
  have hdigits : ∀ d ∈ decimal n, d.isDigit = true := fun d hd => Text.isDigit_of_mem_decimal hd
  rw [digits, List.takeWhile_eq_self_iff.mpr hdigits, List.dropWhile_eq_nil_iff.mpr hdigits]

/-- The digits of a number are a numeral, since none but zero itself begins with a zero. -/
theorem unsigned?_decimal (negative : Bool) (n : Nat) :
    unsigned? negative (decimal n) = some (⟨negative, decimal n, [], none⟩, []) := by
  have hwhole : whole? (decimal n) = some (decimal n, []) := by
    rcases Nat.eq_zero_or_pos n with rfl | hn
    · rfl
    · have hhead : ∀ r, decimal n = '0' :: r → False := fun r hr =>
        Text.head_decimal_ne_zero hn (by rw [hr]; rfl)
      rw [whole?.eq_2 _ hhead, digits_decimal, if_neg (Text.decimal_ne_nil n)]
  rw [unsigned?_eq, hwhole]
  rfl

theorem numeral?_signedDecimal (i : Int) : numeral? (signedDecimal i) = some (Numeral.ofInt i, []) := by
  cases i with
  | negSucc n =>
    rw [signedDecimal, numeral?, unsigned?_decimal, Numeral.ofInt, decide_eq_true (Int.negSucc_lt_zero n)]
    rfl
  | ofNat n =>
    have hhead : ∀ r, decimal n = '-' :: r → False := fun r hr =>
      absurd (Text.isDigit_of_mem_decimal (n := n) (hr ▸ List.mem_cons_self)) (by decide)
    have hsign : decide (Int.ofNat n < 0) = false := decide_eq_false (Int.not_lt.mpr (Int.natCast_nonneg n))
    rw [signedDecimal, numeral?.eq_2 _ hhead, unsigned?_decimal, Numeral.ofInt, hsign]
    rfl

/-! ### The number of a numeral -/

/-- Digits of a number that fits 64 bits are all taken up. -/
theorem takeFitting_eq {ds : List Char} (n : Nat) (h : Nat.ofDigitChars 10 ds n < 18446744073709551616) :
    takeFitting n ds = (Nat.ofDigitChars 10 ds n, []) := by
  induction ds generalizing n with
  | nil => rfl
  | cons d ds ih =>
    rw [Nat.ofDigitChars_cons] at h ⊢
    have hle : 10 * n + (d.toNat - '0'.toNat) ≤ Nat.ofDigitChars 10 ds (10 * n + (d.toNat - '0'.toNat)) := by
      rw [Nat.ofDigitChars_eq_ofDigitChars_zero]
      have := Nat.le_mul_of_pos_left (10 * n + (d.toNat - '0'.toNat)) (Nat.pow_pos (n := ds.length) (a := 10) (by decide))
      omega
    rw [takeFitting, if_pos (by omega), ih _ h]

theorem toNat_toUInt64 {i : Int64} (h : 0 ≤ i.toInt) : i.toUInt64.toNat = i.toInt.natAbs := by
  have hle : 0 ≤ i := Int64.le_iff_toInt_le.mpr h
  rw [Int64.toNat_toUInt64_of_le hle, Int64.toNatClampNeg]
  omega

theorem takeFitting_decimal {n : Nat} (h : n < 18446744073709551616) : takeFitting 0 (decimal n) = (n, []) := by
  have hvalue : Nat.ofDigitChars 10 (decimal n) 0 = n := Text.ofDecimal_decimal n
  rw [takeFitting_eq 0 (by rwa [hvalue]), hvalue]

theorem number?_natural (n : UInt64) : (Numeral.ofInt n.toNat).number? = some (.natural n) := by
  have hsign : decide ((n.toNat : Int) < 0) = false := decide_eq_false (Int.not_lt.mpr (Int.natCast_nonneg _))
  rw [Numeral.number?, Numeral.ofInt, hsign, Int.natAbs_natCast, takeFitting_decimal n.toNat_lt]
  simp

/-- A 64-bit integer is read as itself, and not as a float. -/
theorem number?_ofInt (i : Int64) : (Numeral.ofInt i.toInt).number? = some (Number.ofInt64 i) := by
  have hsign : i < 0 ↔ i.toInt < 0 := Int64.lt_iff_toInt_lt
  by_cases hneg : i.toInt < 0
  · have hlow := i.le_toInt
    obtain ⟨n, hn⟩ : ∃ n, n = i.toInt.natAbs := ⟨_, rfl⟩
    have hint : Int64.ofInt (-n) = i := by rw [hn, show -(i.toInt.natAbs : Int) = i.toInt by omega, Int64.ofInt_toInt]
    rw [Numeral.number?, Numeral.ofInt, takeFitting_decimal (by omega), Number.ofInt64]
    simp [← hn, hneg, hsign, hint, show n ≠ 0 by omega, show ¬ 9223372036854775808 < n by omega]
  · have hnat := toNat_toUInt64 (Int.not_lt.mp hneg)
    rw [Number.ofInt64, if_neg (mt hsign.mp hneg), ← number?_natural, hnat, Int.natAbs_of_nonneg (Int.not_lt.mp hneg)]

theorem text_ofInt64 (i : Int64) : (Number.ofInt64 i).text = signedDecimal i.toInt := by
  rw [Number.ofInt64]
  split
  · rfl
  · next h =>
    have hpos : 0 ≤ i.toInt := by rw [Int64.lt_iff_toInt_lt] at h; exact Int.not_lt.mp h
    rw [Number.text, toNat_toUInt64 hpos]
    obtain ⟨n, hn⟩ := Int.eq_ofNat_of_zero_le hpos
    rw [hn]
    rfl

/-! ### Arrays of integers -/

/-- The number that stands for an integer of this width. -/
def Tree.ofInt64 (i : Int64) : Tree := .number (.ofInt i.toInt)

theorem numeral?_ofInt64 (i : Int64) : (Number.ofInt64 i).numeral? = some (.ofInt i.toInt) := by
  rw [Number.numeral?, text_ofInt64, numeral?_signedDecimal]

theorem numeral?_natural (n : UInt64) : (Number.natural n).numeral? = some (.ofInt n.toNat) := by
  rw [Number.numeral?, Number.text, show decimal n.toNat = signedDecimal n.toNat from rfl, numeral?_signedDecimal]

theorem tree?_ofInt64 (i : Int64) : (Value.ofInt64 i).tree? = some (.ofInt64 i) := by
  rw [Value.ofInt64, Value.tree?, numeral?_ofInt64]
  rfl

theorem trees?_integers (is : List Int64) : Value.trees? (is.map Value.ofInt64) = some (is.map Tree.ofInt64) := by
  induction is with
  | nil => rfl
  | cons i is ih =>
    rw [List.map_cons, Value.trees?, tree?_ofInt64, Option.bind_some, ih]
    rfl

theorem toValues?_integers (ofText? : List Char → Option Value) (depth : Nat) (is : List Int64) :
    Tree.toValues? ofText? depth (is.map Tree.ofInt64) = some (is.map Value.ofInt64) := by
  induction is with
  | nil => rfl
  | cons i is ih =>
    rw [List.map_cons, List.map_cons, Tree.toValues?, Tree.ofInt64, Tree.toValue?, number?_ofInt, ih]
    rfl

theorem Value.ofText?_integers (is : List Int64) :
    Value.ofText? (Value.array (is.map Value.ofInt64)).compact = some (.array (is.map Value.ofInt64)) := by
  have htree : (Value.array (is.map Value.ofInt64)).tree? = some (.array (is.map Tree.ofInt64)) := by
    rw [Value.tree?, trees?_integers]
    rfl
  rw [Value.ofText?, Value.ofTextWithin?, Tree.ofText?_compact htree, Option.bind_some, Tree.toValue?,
    toValues?_integers]
  rfl

/-! ### Arrays and other values -/

theorem mem_of_skipSpace {c : Char} {s r : List Char} (h : skipSpace s = c :: r) : c ∈ s := by
  have hc : c ∈ skipSpace s := h ▸ List.mem_cons_self
  exact (List.dropWhile_sublist _).mem hc

/-- What a value that was read can be, and where its parts were read from. -/
theorem value?_inv {n : Nat} {s r : List Char} {t : Tree} (h : value? (n + 1) s = some (t, r)) :
    t = .null ∨ (∃ b, t = .bool b) ∨ (∃ parts, t = .string parts) ∨
      (∃ items, t = .array items ∧ '[' ∈ s ∧ (items = [] ∨ ∃ r', items? n r' = some (items, r))) ∨
      (∃ fields, t = .object fields ∧ '{' ∈ s) ∨
      ∃ m, t = .number m ∧ numeral? (skipSpace s) = some (m, r) := by
  rw [value?] at h
  split at h
  · cases h
    exact Or.inl rfl
  · cases h
    exact Or.inr (Or.inl ⟨true, rfl⟩)
  · cases h
    exact Or.inr (Or.inl ⟨false, rfl⟩)
  · obtain ⟨⟨parts, _⟩, _, he⟩ := Option.map_eq_some_iff.mp h
    cases he
    exact Or.inr (Or.inr (Or.inl ⟨parts, rfl⟩))
  -- An array starts at its bracket, which is a character of the text.
  · next heq =>
    refine Or.inr (Or.inr (Or.inr (Or.inl ?_)))
    split at h
    · cases h
      exact ⟨[], rfl, mem_of_skipSpace heq, Or.inl rfl⟩
    · obtain ⟨⟨items, _⟩, hitems, he⟩ := Option.map_eq_some_iff.mp h
      cases he
      exact ⟨items, rfl, mem_of_skipSpace heq, Or.inr ⟨_, hitems⟩⟩
  · next heq =>
    refine Or.inr (Or.inr (Or.inr (Or.inr (Or.inl ?_))))
    split at h
    · cases h
      exact ⟨[], rfl, mem_of_skipSpace heq⟩
    · obtain ⟨⟨fields, _⟩, _, he⟩ := Option.map_eq_some_iff.mp h
      cases he
      exact ⟨fields, rfl, mem_of_skipSpace heq⟩
  · obtain ⟨⟨m, _⟩, hm, he⟩ := Option.map_eq_some_iff.mp h
    cases he
    exact Or.inr (Or.inr (Or.inr (Or.inr (Or.inr ⟨m, rfl, hm⟩))))

theorem exists_value?_of_ofText? {s : List Char} {t : Tree} (h : Tree.ofText? s = some t) :
    ∃ n r, value? (n + 1) s = some (t, r) := by
  obtain ⟨⟨t', r⟩, hread, hend⟩ := Option.bind_eq_some_iff.mp h
  obtain ⟨-, ht⟩ := Option.ite_none_right_eq_some.mp hend
  exact ⟨_, r, Option.some.inj ht ▸ hread⟩

theorem isDecimal_of_value? {n : Nat} {s r : List Char} {m : Numeral} (h : value? n s = some (.number m, r)) :
    m.IsDecimal := by
  cases n with
  | zero => cases h
  | succ n =>
    rcases value?_inv h with he | ⟨_, he⟩ | ⟨_, he⟩ | ⟨_, he, _⟩ | ⟨_, he, _⟩ | ⟨_, he, hm⟩
    all_goals cases he
    exact isDecimal_of_numeral? hm

theorem isDecimal_of_items? {n : Nat} {s r : List Char} {ts : List Tree} (h : items? n s = some (ts, r)) :
    ∀ m, .number m ∈ ts → m.IsDecimal := by
  induction n generalizing s ts with
  | zero => cases h
  | succ n ih =>
    rw [items?] at h
    obtain ⟨⟨t, r'⟩, ht, h⟩ := Option.bind_eq_some_iff.mp h
    have hhead : ∀ m, t = .number m → m.IsDecimal := fun m he => isDecimal_of_value? (he ▸ ht)
    intro m hm
    simp only at h
    split at h
    · cases h
      exact hhead m (List.mem_singleton.mp hm).symm
    · obtain ⟨⟨items, _⟩, hitems, he⟩ := Option.map_eq_some_iff.mp h
      cases he
      rcases List.mem_cons.mp hm with hm | hm
      · exact hhead m hm.symm
      · exact ih hitems m hm
    · cases h

/-- An array begins with a bracket, and the numbers in it are digits before and behind the point. -/
theorem ofText?_array {s : List Char} {items : List Tree} (h : Tree.ofText? s = some (.array items)) :
    '[' ∈ s ∧ ∀ m, .number m ∈ items → m.IsDecimal := by
  obtain ⟨n, r, hread⟩ := exists_value?_of_ofText? h
  rcases value?_inv hread with he | ⟨_, he⟩ | ⟨_, he⟩ | ⟨_, he, hmem, hitems⟩ | ⟨_, he, _⟩ | ⟨_, he, _⟩
  all_goals cases he
  refine ⟨hmem, fun m hm => ?_⟩
  rcases hitems with rfl | ⟨r', hitems⟩
  · cases hm
  · exact isDecimal_of_items? hitems m hm

/-- The value of a text without an opening bracket or brace is no array. -/
theorem Value.ofText?_ne_array {s : List Char} (harray : '[' ∉ s) (hobject : '{' ∉ s) (items : List Value) :
    Value.ofText? s ≠ some (.array items) := by
  intro h
  rw [Value.ofText?, Value.ofTextWithin?] at h
  obtain ⟨t, ht, hvalue⟩ := Option.bind_eq_some_iff.mp h
  obtain ⟨n, r, hread⟩ := exists_value?_of_ofText? ht
  rcases value?_inv hread with rfl | ⟨b, rfl⟩ | ⟨parts, rfl⟩ | ⟨_, rfl, hmem, _⟩ | ⟨_, rfl, hmem⟩ | ⟨m, rfl, _⟩
  · cases hvalue
  · cases hvalue
  · obtain ⟨_, _, he⟩ := Option.map_eq_some_iff.mp hvalue
    cases he
  · exact harray hmem
  · exact hobject hmem
  · obtain ⟨_, _, he⟩ := Option.map_eq_some_iff.mp hvalue
    cases he

end Lookout.Json

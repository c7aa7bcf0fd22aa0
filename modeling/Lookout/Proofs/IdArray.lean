import Lookout.Proofs.IdList
import Lookout.Proofs.Json.Exact

/-! Arrays of stored ids. An id that was read is the number that its element writes, wherever reading the element as a
    64-bit number changes no value; a string is read digit by digit and never changed. -/

namespace Lookout.IdList

open Json (Tree Value Numeral)

/-! ### Numbers -/

theorem int64?_eq_some {i : ℤ} {id : Int64} : Text.int64? i = some id ↔ i = id.toInt := by
  constructor
  · intro h
    obtain ⟨⟨hlow, hhigh⟩, he⟩ := Option.ite_none_right_eq_some.mp h
    rw [← Option.some.inj he, Int64.toInt_ofInt_of_le hlow hhigh]
  · rintro rfl
    exact Text.int64?_toInt id

theorem readInt64?_eq_some {s : List Char} {id : Int64} :
    Text.readInt64? s = some id ↔ Text.IsInteger s id.toInt := by
  simp only [Text.readInt64?, Option.bind_eq_some_iff, Text.integer?_eq_some, int64?_eq_some, exists_eq_right]

theorem abs_toInt_le (id : Int64) : |id.toInt| ≤ 2 ^ 63 := by
  have hlow := id.le_toInt
  have hhigh := id.toInt_lt
  rw [abs_le]
  omega

theorem ofNumber?_float {x : Binary64} {r : ℚ} (h : Json.Keeps x r) (negative : Bool) (id : Int64) :
    ofNumber? (.float (if negative then x.neg else x)) = some id ↔ (if negative then -1 else 1) * r = id.toInt := by
  rw [ofNumber?, ← h.toInt?_eq_some negative (abs_toInt_le id)]
  simp only [Option.bind_eq_some_iff, int64?_eq_some]
  constructor
  · rintro ⟨i, hi, rfl⟩
    exact hi
  · intro hi
    exact ⟨_, hi, rfl⟩

variable {n : Numeral} {num : Json.Number}

theorem ofNumber?_integer (hn : n.IsInteger) (hsmall : n.coefficient < 18446744073709551616) (h : n.Faithful)
    (hnum : n.number? = some num) (id : Int64) : ofNumber? num = some id ↔ n.toRat = id.toInt := by
  rw [Numeral.number?_integer hn hsmall] at hnum
  rw [Numeral.toRat_eq, Numeral.size_of_integer hn, ← Option.some.inj hnum]
  cases hnegative : n.negative with
  | false =>
    simp only [Bool.not_false, if_true, Bool.false_eq_true, if_false, one_mul, ofNumber?,
      UInt64.toNat_ofNat_of_lt' hsmall, int64?_eq_some]
    exact_mod_cast Iff.rfl
  | true =>
    by_cases hfloat : n.coefficient = 0 ∨ 9223372036854775808 < n.coefficient
    -- The minus zero and what lies below the least integer are read as floats.
    · have hkeeps : Json.Keeps (.ofNat n.coefficient) n.coefficient := by
        rcases hfloat with hzero | hbig
        · rw [hzero, Nat.cast_zero]
          exact Json.keeps_zero
        · exact Json.keeps_ofNat (h.lt_coefficient hn hnegative hbig) hsmall
      have hread := ofNumber?_float hkeeps true id
      simpa [hfloat] using hread
    · have hrange : Text.int64? (-(n.coefficient : ℤ)) = some (Int64.ofInt (-(n.coefficient : ℤ))) :=
        if_pos ⟨by omega, by omega⟩
      simp only [Bool.not_true, Bool.false_eq_true, if_false, Bool.or_eq_true, decide_eq_true_eq, hfloat, if_true,
        ofNumber?, ← hrange, int64?_eq_some]
      rw [neg_one_mul]
      exact_mod_cast Iff.rfl

/-- The id of a numeral that keeps its value is the integer that it writes. -/
theorem ofNumber?_eq_some_iff (hdecimal : n.IsDecimal) (h : n.Faithful) (hnum : n.number? = some num) (id : Int64) :
    ofNumber? num = some id ↔ n.toRat = id.toInt := by
  by_cases hfits : n.IsInteger ∧ n.coefficient < 18446744073709551616
  · exact ofNumber?_integer hfits.1 hfits.2 h hnum id
  · rw [Numeral.number?_float hdecimal hfits] at hnum
    obtain ⟨y, hy, rfl⟩ := Option.map_eq_some_iff.mp hnum
    obtain ⟨x, rfl, hx⟩ := Numeral.exists_keeps hdecimal h hfits hy
    rw [ofNumber?_float hx, Numeral.toRat_eq]

/-! ### Elements -/

/-- What an element that was decoded to an id writes. An object may stand for a text of its own. -/
inductive Stores : Tree → Int64 → Prop
  | number {n : Numeral} {id : Int64} (h : n.Faithful → n.toRat = id.toInt) : Stores (.number n) id
  | string {parts : List Json.StringPart} {s : List Char} {id : Int64} (hs : Json.stringText? parts = some s)
      (h : Text.IsInteger (Text.trim s) id.toInt) : Stores (.string parts) id
  | object (fields : List (List Json.StringPart × Tree)) (id : Int64) : Stores (.object fields) id

section
variable {read : List Char → Option Value} {depth : ℕ} {t : Tree} {v : Value} {id : Int64}

theorem ofItem_number (num : Json.Number) : ofItem (.number num) = .ok id ↔ ofNumber? num = some id := by
  rw [ofItem]
  cases ofNumber? num <;> simp

theorem ofItem_string (s : List Char) : ofItem (.string s) = .ok id ↔ Text.IsInteger (Text.trim s) id.toInt := by
  rw [← readInt64?_eq_some, ofItem]
  cases Text.readInt64? (Text.trim s) <;> simp

theorem stores_of_ofItem (hdecimal : ∀ n, t = .number n → n.IsDecimal) (ht : t.toValue? read depth = some v)
    (hv : ofItem v = .ok id) : Stores t id := by
  cases t with
  | null =>
    cases ht
    cases hv
  | bool b =>
    cases ht
    cases hv
  | number n =>
    obtain ⟨num, hnum, rfl⟩ := Option.map_eq_some_iff.mp ht
    exact .number fun h => (ofNumber?_eq_some_iff (hdecimal n rfl) h hnum id).mp ((ofItem_number num).mp hv)
  | string parts =>
    obtain ⟨s, hs, rfl⟩ := Option.map_eq_some_iff.mp ht
    exact .string hs ((ofItem_string s).mp hv)
  | array items =>
    cases depth with
    | zero => cases ht
    | succ depth =>
      obtain ⟨vs, -, rfl⟩ := Option.map_eq_some_iff.mp ht
      cases hv
  | object fields => exact .object fields id

end

/-! ### Arrays -/

section
variable {raw : List Char} {items : List Tree} {ids : List Int64}

theorem ofStored_eq_ok : ofStored (some raw) = .ok ids ↔ elements raw = ids.map .ok := by
  refine ⟨fun h => ?_, ofStored_of_elements⟩
  rw [ofStored, ofText] at h
  cases hread : (elements raw).mapM id with
  | error e =>
    rw [hread] at h
    cases h
  | ok ids' =>
    rw [hread] at h
    cases h
    rw [← mapM_eq_ok.mp hread, List.map_id]

theorem ofStored_ok_or_error (raw : List Char) :
    (∃ ids, ofStored (some raw) = .ok ids) ∨ ∃ element, ofStored (some raw) = .error ⟨raw, element⟩ := by
  rw [ofStored, ofText]
  cases (elements raw).mapM id with
  | error e => exact Or.inr ⟨e, rfl⟩
  | ok ids => exact Or.inl ⟨ids, rfl⟩

/-- A text with a bracket in it is no list of integers between commas. -/
theorem not_ok_of_bracket (hbracket : '[' ∈ Text.trim raw)
    (h : ∀ items, Value.ofText? (Text.trim raw) ≠ some (.array items)) : ofStored (some raw) ≠ .ok ids := by
  intro hok
  -- The bracket is in one of the pieces between commas, and trimming leaves it there.
  rw [ofStored_eq_ok, elements_of_not_array h] at hok
  have hflat : '[' ∈ (Text.cut (· == ',') raw).flatten := by
    rw [Text.flatten_cut]
    exact List.mem_filter.mpr ⟨Text.mem_of_mem_trim hbracket, rfl⟩
  obtain ⟨piece, hpiece, hmem⟩ := List.mem_flatten.mp hflat
  have htrim : '[' ∈ Text.trim piece := Text.mem_trim_of_mem (by decide) hmem
  have hlisted : ofPiece (Text.trim piece) ∈ ids.map Except.ok := by
    rw [← hok]
    refine List.mem_map_of_mem (List.mem_filter.mpr ⟨List.mem_map_of_mem hpiece, ?_⟩)
    simpa using List.ne_nil_of_mem htrim
  obtain ⟨id, -, hid⟩ := List.mem_map.mp hlisted
  rw [ofPiece, Text.readInt64?] at hid
  cases hi : Text.integer? (Text.trim piece) with
  | none =>
    rw [hi] at hid
    cases hid
  | some i =>
    rcases (Text.integer?_eq_some.mp hi).mem htrim with hc | hc | hc <;> exact absurd hc (by decide)

theorem forall₂_of_toValues? {read : List Char → Option Value} {depth : ℕ} {vs : List Value}
    (h : Tree.toValues? read depth items = some vs) :
    List.Forall₂ (fun t v => Tree.toValue? read depth t = some v) items vs := by
  induction items generalizing vs with
  | nil =>
    cases h
    exact .nil
  | cons t items ih =>
    obtain ⟨v, hv, h⟩ := Option.bind_eq_some_iff.mp h
    obtain ⟨ws, hws, he⟩ := Option.bind_eq_some_iff.mp h
    cases he
    exact .cons hv (ih hws)

theorem ofText?_of_array {s : List Char} (h : Tree.ofText? s = some (.array items)) {v : Value}
    (hv : Value.ofText? s = some v) :
    ∃ read depth vs, v = .array vs ∧ List.Forall₂ (fun t v => Tree.toValue? read depth t = some v) items vs := by
  rw [Value.ofText?, Value.ofTextWithin?, h, Option.bind_some, Tree.toValue?] at hv
  obtain ⟨vs, hvs, rfl⟩ := Option.map_eq_some_iff.mp hv
  exact ⟨_, _, vs, rfl, forall₂_of_toValues? hvs⟩

theorem stores_of_ok (h : Tree.ofText? (Text.trim raw) = some (.array items)) (hok : ofStored (some raw) = .ok ids) :
    List.Forall₂ Stores items ids := by
  obtain ⟨hbracket, hdecimal⟩ := Json.ofText?_array h
  cases hvalue : Value.ofText? (Text.trim raw) with
  | none => exact absurd hok (not_ok_of_bracket hbracket (by simp [hvalue]))
  | some v =>
    obtain ⟨read, depth, vs, rfl, hvs⟩ := ofText?_of_array h hvalue
    rw [ofStored_eq_ok, elements_of_array hvalue] at hok
    clear h hbracket hvalue
    induction hvs generalizing ids with
    | nil =>
      obtain rfl : ids = [] := List.map_eq_nil_iff.mp hok.symm
      exact .nil
    | @cons t v items vs hv _ ih =>
      obtain ⟨id, ids, rfl, hid, hids⟩ := List.map_eq_cons_iff.mp hok.symm
      refine .cons (stores_of_ofItem (fun n hn => hdecimal n (hn ▸ List.mem_cons_self)) hv hid.symm) (ih ?_ hids.symm)
      exact fun n hn => hdecimal n (List.mem_cons_of_mem t hn)

theorem exists_stores (h : List.Forall₂ Stores items ids) {t : Tree} (ht : t ∈ items) : ∃ id, Stores t id :=
  exists_forall₂_iff.mp ⟨ids, h⟩ t ht

/-- A number that keeps its value, or another value that stands for no text of its own. -/
def IsPlain (t : Tree) : Prop := (∀ n, t = .number n → n.Faithful) ∧ ∀ fields, t ≠ .object fields

theorem ofItem_of_stores {read : List Char → Option Value} {depth : ℕ} {t : Tree} {v : Value} {id : Int64}
    (hplain : IsPlain t) (hdecimal : ∀ n, t = .number n → n.IsDecimal) (ht : t.toValue? read depth = some v)
    (h : Stores t id) : ofItem v = .ok id := by
  cases h with
  | @number n id hn =>
    obtain ⟨num, hnum, rfl⟩ := Option.map_eq_some_iff.mp ht
    have hfaithful := hplain.1 n rfl
    exact (ofItem_number num).mpr ((ofNumber?_eq_some_iff (hdecimal n rfl) hfaithful hnum id).mpr (hn hfaithful))
  | string hs hread =>
    obtain ⟨s, hs', rfl⟩ := Option.map_eq_some_iff.mp ht
    obtain rfl : s = _ := Option.some.inj (hs'.symm.trans hs)
    exact (ofItem_string s).mpr hread
  | object fields => exact absurd rfl (hplain.2 fields)

theorem ok_of_stores (h : Tree.ofText? (Text.trim raw) = some (.array items))
    (hvalue : (Value.ofText? (Text.trim raw)).isSome = true) (hplain : ∀ t ∈ items, IsPlain t)
    (hstores : List.Forall₂ Stores items ids) : ofStored (some raw) = .ok ids := by
  obtain ⟨-, hdecimal⟩ := Json.ofText?_array h
  obtain ⟨v, hv⟩ := Option.isSome_iff_exists.mp hvalue
  obtain ⟨read, depth, vs, rfl, hvs⟩ := ofText?_of_array h hv
  rw [ofStored_eq_ok, elements_of_array hv]
  clear h hvalue hv
  induction hvs generalizing ids with
  | nil =>
    cases hstores
    rfl
  | @cons t v items vs hv _ ih =>
    cases hstores with
    | cons hid hids =>
      obtain ⟨ht, hts⟩ := List.forall_mem_cons.mp hplain
      rw [List.map_cons, List.map_cons, ih hts hids fun n hn => hdecimal n (List.mem_cons_of_mem t hn)]
      rw [ofItem_of_stores ht (fun n hn => hdecimal n (hn ▸ List.mem_cons_self)) hv hid]

/-- An array of numbers and strings is decoded to the ids that they write, as long as its numbers keep their values when
    they are read; an element that writes no id makes decoding fail. -/
theorem ofStored_array (raw : List Char) (items : List Tree) (h : Tree.ofText? (Text.trim raw) = some (.array items)) :
    (∀ ids, ofStored (some raw) = .ok ids → List.Forall₂ Stores items ids) ∧
      (∀ t ∈ items, (∀ id, ¬ Stores t id) → ∃ element, ofStored (some raw) = .error ⟨raw, element⟩) ∧
      ((Value.ofText? (Text.trim raw)).isSome = true → (∀ t ∈ items, IsPlain t) →
        ∀ ids, List.Forall₂ Stores items ids → ofStored (some raw) = .ok ids) := by
  refine ⟨fun ids hok => stores_of_ok h hok, fun t ht hnone => ?_, fun hvalue hplain ids => ok_of_stores h hvalue hplain⟩
  refine (ofStored_ok_or_error raw).resolve_left fun ⟨ids, hok⟩ => ?_
  obtain ⟨id, hid⟩ := exists_stores (stores_of_ok h hok) ht
  exact hnone id hid

end

/-- A string with a sign and a blank, a decimal without a fraction, the least id, and a number close to zero. -/
theorem ofStored_array_mixed :
    (Numeral.Faithful ⟨false, ['4'], ['0'], none⟩ ∧ Numeral.Faithful ⟨true, "9223372036854775808".toList, [], none⟩ ∧
      List.Forall₂ Stores [.string (Json.partsOf ['+', '2', ' ']), .number ⟨false, ['4'], ['0'], none⟩,
        .number ⟨true, "9223372036854775808".toList, [], none⟩] [2, 4, -9223372036854775808]) ∧
    ∃ element, ofStored (some "[1.5e-300]".toList) = .error ⟨"[1.5e-300]".toList, element⟩ := by
  have hmixed : Tree.ofText? (Text.trim "\t[\"+2 \", 4.0,-9223372036854775808]".toList) =
      some (.array [.string (Json.partsOf ['+', '2', ' ']), .number ⟨false, ['4'], ['0'], none⟩,
        .number ⟨true, "9223372036854775808".toList, [], none⟩]) := by
    simp only [String.reduceToList]
    rfl
  have hsmall : Tree.ofText? (Text.trim "[1.5e-300]".toList) =
      some (.array [.number ⟨false, ['1'], ['5'], some (true, ['3', '0', '0'])⟩]) := by
    simp only [String.reduceToList]
    rfl
  refine ⟨⟨.short (by decide) (by decide), .integer ⟨rfl, rfl⟩ (Or.inr (by decide +kernel)),
    (ofStored_array _ _ hmixed).1 _ (by decide +kernel)⟩, (ofStored_array _ _ hsmall).2.1 _ List.mem_cons_self ?_⟩
  rintro id ⟨h⟩
  have hvalue := h (.short (by decide +kernel) (by decide))
  exact Json.ne_intCast (by decide +kernel) (by decide +kernel) id.toInt hvalue

/-- Numbers that are rounded when they are read: one that is too small for a float becomes zero, one below the least id
    becomes that id, and one with more than 53 binary digits becomes its neighbour. -/
theorem ofStored_rounds :
    (∃ n, Tree.ofText? "[1e-400]".toList = some (.array [.number n]) ∧ (∀ id : Int64, n.toRat ≠ id.toInt) ∧
      ofStored (some "[1e-400]".toList) = .ok [0]) ∧
    (∃ n, Tree.ofText? "[-9223372036854775809]".toList = some (.array [.number n]) ∧ n.toRat = -9223372036854775809 ∧
      ofStored (some "[-9223372036854775809]".toList) = .ok [-9223372036854775808]) ∧
    ∃ n, Tree.ofText? "[9007199254740993.0]".toList = some (.array [.number n]) ∧ n.toRat = 9007199254740993 ∧
      ofStored (some "[9007199254740993.0]".toList) = .ok [9007199254740994] := by
  simp only [String.reduceToList]
  refine ⟨⟨⟨false, ['1'], [], some (true, ['4', '0', '0'])⟩, rfl, ?_, by decide +kernel⟩,
    ⟨⟨true, "9223372036854775809".toList, [], none⟩, rfl, by decide +kernel, by decide +kernel⟩,
    ⟨⟨false, "9007199254740993".toList, ['0'], none⟩, rfl, by decide +kernel, by decide +kernel⟩⟩
  exact fun id => Json.ne_intCast (by decide +kernel) (by decide +kernel) id.toInt

end Lookout.IdList

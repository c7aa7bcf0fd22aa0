import Lookout.IdList
import Lookout.Proofs.Checked
import Lookout.Proofs.Json.Integers
import Lookout.Proofs.Text.Trim

/-! The two ways in which lists of ids are stored. The text of a list is read as the array that it writes. The
    older texts hold no bracket, so none of them is read as an array, and cutting them at the commas finds the ids
    between blanks. -/

namespace Lookout.IdList

open Text (isBlank isBlankText signedDecimal)

/-- The pieces between the commas of an older text that holds these ids: each id stands in a piece of its own,
    between blanks, and there may be further pieces that are blank. -/
inductive Pieces : List Int64 → List (List Char) → Prop where
  | nil : Pieces [] []
  | blank {b : List Char} {ids : List Int64} {pieces : List (List Char)} (hb : isBlankText b = true)
      (rest : Pieces ids pieces) : Pieces ids (b :: pieces)
  | id {b b' : List Char} {i : Int64} {ids : List Int64} {pieces : List (List Char)} (hb : isBlankText b = true)
      (hb' : isBlankText b' = true) (rest : Pieces ids pieces) :
      Pieces (i :: ids) ((b ++ signedDecimal i.toInt ++ b') :: pieces)

/-! ### Reading the elements -/

theorem ne_comma_of_isBlank (c : Char) (h : isBlank c = true) : (c == ',') = false :=
  beq_eq_false_iff_ne.mpr fun he => absurd (he ▸ h) (by decide)

/-- What is no array is read piece by piece. -/
theorem elements_of_not_array {raw : List Char}
    (h : ∀ items, Json.Value.ofText? (Text.trim raw) ≠ some (.array items)) :
    elements raw = (((Text.cut (· == ',') raw).map Text.trim).filter (!·.isEmpty)).map ofPiece := by
  rw [← Text.map_trim_cut_trim ne_comma_of_isBlank, elements]
  by_cases hempty : Text.trim raw = []
  · rw [hempty]
    rfl
  · rw [if_neg (by simpa using hempty)]
    split
    · next items heq => exact absurd heq (h items)
    · rfl

theorem elements_of_array {raw : List Char} {items : List Json.Value}
    (h : Json.Value.ofText? (Text.trim raw) = some (.array items)) : elements raw = items.map ofItem := by
  have hempty : Text.trim raw ≠ [] := fun hnil => by
    rw [hnil] at h
    cases h
  rw [elements, if_neg (by simpa using hempty), h]

theorem ofStored_of_elements {raw : List Char} {ids : List Int64} (h : elements raw = ids.map .ok) :
    ofStored (some raw) = .ok ids := by
  have hread : (elements raw).mapM id = Except.ok ids := mapM_eq_ok.mpr (by rw [List.map_id, h])
  rw [ofStored, ofText, hread]
  rfl

/-! ### Arrays -/

theorem ofNumber?_ofInt64 (i : Int64) : ofNumber? (.ofInt64 i) = some i := by
  rw [Json.Number.ofInt64]
  split
  · rfl
  · next h =>
    have hpos : 0 ≤ i.toInt := Int.not_lt.mp fun hneg => h (Int64.lt_iff_toInt_lt.mpr hneg)
    rw [ofNumber?, Json.toNat_toUInt64 hpos, Int.natAbs_of_nonneg hpos, Text.int64?_toInt]

theorem ofItem_ofInt64 (i : Int64) : ofItem (.ofInt64 i) = .ok i := by
  rw [Json.Value.ofInt64, ofItem, ofNumber?_ofInt64]

theorem getLast?_compactItems (vs : List Json.Value) : (Json.Value.compactItems vs).getLast? = some ']' := by
  induction vs with
  | nil => rfl
  | cons v vs ih => rw [Json.Value.compactItems, List.getLast?_append, ih, Option.some_or]

/-- The text of a list begins and ends with a bracket, so trimming it takes nothing away. -/
theorem trim_text (ids : List Int64) : Text.trim (text ids) = text ids := by
  have hends : (text ids).head? = some '[' ∧ (text ids).getLast? = some ']' := by
    cases ids with
    | nil => exact ⟨rfl, rfl⟩
    | cons i ids =>
      refine ⟨rfl, ?_⟩
      rw [text, List.map_cons, Json.Value.compact, List.getLast?_append, getLast?_compactItems, Option.some_or]
  refine Text.trim_of_ends (fun c hc => ?_) fun c hc => ?_
  · rw [hends.1] at hc
    cases hc
    rfl
  · rw [hends.2] at hc
    cases hc
    rfl

theorem ofStored_text {b b' : List Char} (hb : isBlankText b = true) (hb' : isBlankText b' = true)
    (ids : List Int64) : ofStored (some (b ++ text ids ++ b')) = .ok ids := by
  have hread : Json.Value.ofText? (Text.trim (b ++ text ids ++ b')) = some (.array (ids.map .ofInt64)) := by
    rw [Text.trim_between hb hb', trim_text]
    exact Json.Value.ofText?_integers ids
  refine ofStored_of_elements ?_
  rw [elements_of_array hread, List.map_map]
  exact List.map_congr_left fun i _ => ofItem_ofInt64 i

/-! ### Pieces between commas -/

theorem ofPiece_signedDecimal (i : Int64) : ofPiece (signedDecimal i.toInt) = .ok i := by
  rw [ofPiece, Text.readInt64?_signedDecimal]

theorem trim_signedDecimal (i : Int) : Text.trim (signedDecimal i) = signedDecimal i := by
  have hplain : ∀ c ∈ signedDecimal i, isBlank c = false := by
    intro c hc
    rw [Bool.eq_false_iff]
    intro hblank
    rcases Text.mem_signedDecimal hc with rfl | hdigit
    · exact absurd hblank (by decide)
    · exact absurd hdigit (by simp [Text.isDigit_of_isBlank hblank])
  exact Text.trim_of_ends (fun c hc => hplain c (List.mem_of_mem_head? hc))
    fun c hc => hplain c (List.mem_of_mem_getLast? hc)

section
variable {ids : List Int64} {pieces : List (List Char)}

theorem Pieces.trimmed (h : Pieces ids pieces) :
    (pieces.map Text.trim).filter (!·.isEmpty) = ids.map fun i => signedDecimal i.toInt := by
  induction h with
  | nil => rfl
  | blank hb _ ih => simp [Text.trim_of_blank hb, ih]
  | @id b b' i ids pieces hb hb' _ ih =>
    have hne : signedDecimal i.toInt ≠ [] := by
      obtain ⟨c, s, hs, -⟩ := Text.exists_signedDecimal i.toInt
      simp [hs]
    rw [List.map_cons, List.map_cons, Text.trim_between hb hb', trim_signedDecimal,
      List.filter_cons_of_pos (by simpa using hne), ih]

/-- Nothing but blanks, signs and digits stands between the commas. -/
theorem Pieces.plain (h : Pieces ids pieces) :
    ∀ piece ∈ pieces, ∀ c ∈ piece, isBlank c = true ∨ c = '-' ∨ c.isDigit = true := by
  induction h with
  | nil => intro piece hp; cases hp
  | blank hb _ ih =>
    refine List.forall_mem_cons.mpr ⟨fun c hc => Or.inl (List.all_eq_true.mp hb c hc), ih⟩
  | id hb hb' _ ih =>
    refine List.forall_mem_cons.mpr ⟨fun c hc => ?_, ih⟩
    rcases List.mem_append.mp hc with hc | hc
    · rcases List.mem_append.mp hc with hc | hc
      · exact Or.inl (List.all_eq_true.mp hb c hc)
      · exact Or.inr (Text.mem_signedDecimal hc)
    · exact Or.inl (List.all_eq_true.mp hb' c hc)

/-- A character that is neither blank nor part of an integer stands in none of the pieces. -/
theorem Pieces.not_mem (h : Pieces ids pieces) {c : Char}
    (hc : isBlank c = false ∧ c ≠ '-' ∧ c.isDigit = false) : ∀ piece ∈ pieces, c ∉ piece := by
  intro piece hp hmem
  rcases h.plain piece hp c hmem with hblank | hminus | hdigit
  · exact absurd hblank (by simp [hc.1])
  · exact hc.2.1 hminus
  · exact absurd hdigit (by simp [hc.2.2])

/-- An older text is never taken for an array, since no bracket stands in it. -/
theorem Pieces.not_array (h : Pieces ids pieces) (items : List Json.Value) :
    Json.Value.ofText? (Text.trim ([','].intercalate pieces)) ≠ some (.array items) := by
  have hfree : ∀ {c : Char}, c ≠ ',' → isBlank c = false ∧ c ≠ '-' ∧ c.isDigit = false →
      c ∉ Text.trim ([','].intercalate pieces) := by
    intro c hcomma hc hmem
    rcases Text.mem_intercalate (Text.mem_of_mem_trim hmem) with hsep | ⟨piece, hp, hmem⟩
    · exact hcomma (List.mem_singleton.mp hsep)
    · exact h.not_mem hc piece hp hmem
  exact Json.Value.ofText?_ne_array (hfree (by decide) (by decide)) (hfree (by decide) (by decide)) items

theorem Pieces.ofStored (h : Pieces ids pieces) : ofStored (some ([','].intercalate pieces)) = .ok ids := by
  have hcut : ((Text.cut (· == ',') ([','].intercalate pieces)).map Text.trim).filter (!·.isEmpty)
      = ids.map fun i => signedDecimal i.toInt := by
    cases hp : pieces with
    | nil =>
      rw [hp] at h
      cases h
      rfl
    | cons piece rest =>
      rw [← hp, Text.cut_intercalate (by simp [hp]) (h.not_mem (by decide)), h.trimmed]
  refine ofStored_of_elements ?_
  rw [elements_of_not_array h.not_array, hcut, List.map_map]
  exact List.map_congr_left fun i _ => ofPiece_signedDecimal i

end

/-! ### Both encodings -/

/-- Both encodings of a list of ids are read as the list: its text, between any blanks, and any older text that
    holds the ids between commas, which is never taken for an array. -/
theorem ofStored_either (ids : List Int64) :
    (∀ b b', isBlankText b = true → isBlankText b' = true → ofStored (some (b ++ text ids ++ b')) = .ok ids) ∧
      ∀ pieces, Pieces ids pieces →
        (∀ items, Json.Value.ofText? (Text.trim ([','].intercalate pieces)) ≠ some (.array items)) ∧
          ofStored (some ([','].intercalate pieces)) = .ok ids :=
  ⟨fun _ _ hb hb' => ofStored_text hb hb' ids, fun _ h => ⟨h.not_array, h.ofStored⟩⟩

/-- The least and the greatest id, an id twice, spaces of several kinds and pieces without an id. -/
theorem ofStored_extremes :
    ofStored (some "\u2003[-9223372036854775808,7,7,9223372036854775807]\n".toList)
        = .ok [-9223372036854775808, 7, 7, 9223372036854775807] ∧
      ofStored (some " ,-9223372036854775808\u2003,,7,\t7 ,9223372036854775807".toList)
        = .ok [-9223372036854775808, 7, 7, 9223372036854775807] := by
  obtain ⟨harray, hcommas⟩ := ofStored_either [-9223372036854775808, 7, 7, 9223372036854775807]
  refine ⟨harray ['\u2003'] ['\n'] (by decide) (by decide), ?_⟩
  have hpieces : Pieces [-9223372036854775808, 7, 7, 9223372036854775807] _ :=
    .blank (b := [' ']) (by decide) <| @Pieces.id [] ['\u2003'] _ _ _ (by decide) (by decide) <|
      .blank (b := []) (by decide) <| @Pieces.id [] [] _ _ _ (by decide) (by decide) <|
        @Pieces.id ['\t'] [' '] _ _ _ (by decide) (by decide) <| @Pieces.id [] [] _ _ _ (by decide) (by decide) .nil
  refine Eq.trans (congrArg (fun s => ofStored (some s)) ?_) (hcommas _ hpieces).2
  decide +kernel

end Lookout.IdList

import Lookout.Proofs.Service.Rows

/-! The hits of a page, row by row. Main statement: a page has hits exactly if the list of ids of each row is decoded,
    and they are those of its rows; else the error is that of the first row whose list is not. What makes a list decodable
    is told element by element. -/

namespace Lookout.Service

/-- A stored value is decoded exactly if each of its elements is an id on its own, and then to these ids. Else the error
    holds the text as it is stored and the first element that is no id. The hits of a page are those of its rows, and
    the error is that of the first row that has one. -/
theorem decoding_blames_first :
    (∀ stored, ∃ es, (∀ other, IdList.HasElements stored other ↔ other = es) ∧
      (∀ ids, IdList.ofStored stored = .ok ids ↔ List.Forall₂ IdList.Coerces es ids) ∧
      ((∃ ids, IdList.ofStored stored = .ok ids) ↔ ∀ e ∈ es, ∃ id, IdList.Coerces e id) ∧
      ∀ err, IdList.ofStored stored = .error err ↔
        ∃ before e after, es = before ++ e :: after ∧ (∀ x ∈ before, ∃ id, IdList.Coerces x id) ∧
          (∀ id, ¬ IdList.Coerces e id) ∧ stored = some err.raw ∧ err.element = e.text) ∧
    ∀ rows, (∀ hits, hitsOfRows rows = .ok hits ↔
        List.Forall₂ (fun row hit => row.toHit = .ok hit ∧ row.ids = .ok hit.detectionIds) rows hits) ∧
      ((∃ hits, hitsOfRows rows = .ok hits) ↔ ∀ row ∈ rows, ∃ ids, row.ids = .ok ids) ∧
      ∀ err, hitsOfRows rows = .error err ↔
        ∃ before row after, rows = before ++ row :: after ∧ (∀ r ∈ before, ∃ ids, r.ids = .ok ids) ∧
          row.ids = .error err := by
  refine ⟨fun stored => ?_, fun rows => ⟨fun hits => ?_, ?_, fun err => ?_⟩⟩
  · obtain ⟨es, hes⟩ := IdList.exists_hasElements stored
    refine ⟨es, fun other => ⟨fun h => h.unique hes, fun he => he ▸ hes⟩, fun ids => hes.ofStored_eq_ok, ?_,
      fun err => hes.ofStored_eq_error⟩
    simp only [hes.ofStored_eq_ok, exists_forall₂_iff]
  · have hids : ∀ (row : FoundRow) (hit : Hit), row.toHit = .ok hit → row.ids = .ok hit.detectionIds :=
      fun _ _ h => (toHit_eq_ok.mp h).detectionIds
    simp only [hitsOfRows, mapM_eq_ok_iff_forall₂, and_iff_left_of_imp (hids _ _)]
  · simp only [hitsOfRows_eq_ok, exists_forall₂_iff, exists_shows_iff]
  · simp only [hitsOfRows, mapM_eq_error_iff, toHit_eq_ok, exists_shows_iff, toHit_eq_error]

/-- A list with an id, a string that is none and a null, stored behind a blank: the string is named. -/
theorem decoding_blames_first_mixed :
    let raw := " [7, \" x \", null]".toList
    IdList.HasElements (some raw) [.item (.number (.natural 7)), .item (.string " x ".toList), .item .null] ∧
      IdList.ofStored (some raw) = .error ⟨raw, ['x']⟩ := by
  intro raw
  have hraw : IdList.HasElements (some raw)
      [.item (.number (.natural 7)), .item (.string " x ".toList), .item .null] := by
    refine @IdList.HasElements.array raw [.number (.natural 7), .string " x ".toList, .null] ?_
    simp only [raw, String.reduceToList]
    rfl
  obtain ⟨es, hes, -, -, herror⟩ := decoding_blames_first.1 (some raw)
  refine ⟨hraw, (herror ⟨raw, ['x']⟩).mpr ⟨[.item (.number (.natural 7))], .item (.string " x ".toList),
    [.item .null], ((hes _).mp hraw).symm, ?_, fun id hid => ?_, rfl, by decide⟩⟩
  · exact List.forall_mem_singleton.mpr ⟨7, .natural (by decide)⟩
  · cases hid with
    | string h =>
      have hx := h.mem (show 'x' ∈ Text.trim " x ".toList by decide)
      exact absurd hx (by decide)

end Lookout.Service

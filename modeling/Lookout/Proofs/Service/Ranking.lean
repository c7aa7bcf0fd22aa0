import Lookout.Proofs.Search.Score
import Lookout.Proofs.Service.Rows

/-! What becomes of the rows of a page. Each row gives one hit, in its place and with its fields, and a score is moved
    into the range from 0 to 1. Main statement: this neither changes a score of the range nor turns the order around;
    and the exact scores of the statement are in the range, so the hits stand as the database ordered them. -/

namespace Lookout.Service

namespace Shows

variable {row : FoundRow} {hit : Hit}

/-- A list as long as a computer holds is counted. -/
theorem toNat_detectionCount (h : Shows row hit) (hlength : hit.detectionIds.length < UInt64.size) :
    hit.detectionCount.toNat = hit.detectionIds.length := by
  rw [h.detectionCount, UInt64.toNat_ofNat_of_lt' hlength]

theorem relevance_eq (h : Shows row hit) (hscore : row.score.InUnit) : hit.relevance = row.score :=
  h.relevance.trans (Binary64.clampUnit_of_inUnit hscore)

end Shows

theorem forall₂_shows {rows : List FoundRow} {hits : List Hit} (h : hitsOfRows rows = .ok hits) :
    List.Forall₂ Shows rows hits :=
  hitsOfRows_eq_ok.mp h

section
variable {rows : List FoundRow} {hits : List Hit} (h : List.Forall₂ Shows rows hits)
include h

theorem relevances_eq : hits.map Hit.relevance = rows.map fun row => row.score.clampUnit := by
  induction h with
  | nil => rfl
  | cons hshows _ ih => rw [List.map_cons, List.map_cons, hshows.relevance, ih]

theorem inUnit_relevance {hit : Hit} (hhit : hit ∈ hits) : hit.relevance.InUnit := by
  have hmem : hit.relevance ∈ rows.map fun row => row.score.clampUnit := by
    rw [← relevances_eq h]
    exact List.mem_map_of_mem hhit
  obtain ⟨row, -, hrow⟩ := List.mem_map.mp hmem
  exact hrow ▸ Binary64.inUnit_clampUnit row.score

theorem pairwise_relevance (hfinite : ∀ row ∈ rows, row.score.isFinite = true)
    (hordered : rows.Pairwise fun a b => b.score.toRat ≤ a.score.toRat) :
    hits.Pairwise fun a b => b.relevance.toRat ≤ a.relevance.toRat := by
  have hclamped : (rows.map fun row => row.score.clampUnit).Pairwise fun x y => y.toRat ≤ x.toRat := by
    refine List.pairwise_map.mpr (hordered.imp_of_mem fun ha hb hle => ?_)
    exact Binary64.clampUnit_mono (hfinite _ hb) (hfinite _ ha) hle
  rw [← relevances_eq h] at hclamped
  exact List.pairwise_map.mp hclamped

theorem relevances_eq_scores (hscores : ∀ row ∈ rows, row.score.InUnit) :
    hits.map Hit.relevance = rows.map FoundRow.score := by
  rw [relevances_eq h]
  exact List.map_congr_left fun row hrow => Binary64.clampUnit_of_inUnit (hscores row hrow)

end

/-- Each row of a page gives one hit, in the same place, whose relevance is a number from 0 to 1, and the score itself
    if that is one already. So finite scores that do not grow give relevances that do not. The score that stands in the
    statement has such a value for every rank, with settings that pass the check: 0 for a missing rank, and none less
    for a greater one. Rows with these scores keep them. -/
theorem mapping_keeps_ranking (settings : Settings) (query : String) (filters : Filters) (limit offset : UInt32)
    (rows : List FoundRow) (hits : List Hit) :
    let plan := Search.Plan.ofRequest settings.search query filters
    let score := Search.exactScore plan limit offset
    (hitsOfRows rows = .ok hits →
      List.Forall₂ (fun row hit => Shows row hit ∧ (row.score.InUnit → hit.relevance = row.score) ∧
        (hit.detectionIds.length < UInt64.size → hit.detectionCount.toNat = hit.detectionIds.length)) rows hits ∧
      (∀ hit ∈ hits, hit.relevance.InUnit ∧ hit.relevance.isNaN = false) ∧
      ((∀ row ∈ rows, row.score.isFinite = true) → (rows.Pairwise fun a b => b.score.toRat ≤ a.score.toRat) →
        hits.Pairwise fun a b => b.relevance.toRat ≤ a.relevance.toRat)) ∧
    (∃ rest, Sql.tokens (Search.pageStatement plan limit offset).sql.toList =
      "SELECT" :: (Search.columnTokens ++ ((Search.scoreFrom plan.text).scalar.tokens ++
        "AS" :: "relevance_score" :: "FROM" :: rest))) ∧
    (settings.fault? = none →
      score none = some 0 ∧
      (∀ rank : Option ℚ, (∀ r ∈ rank, 0 ≤ r) → ∃ s, score rank = some s ∧ 0 ≤ s ∧ s ≤ 1) ∧
      (∀ r r' : ℚ, r ≤ r' → ∃ s s', score (some r) = some s ∧ score (some r') = some s' ∧ s ≤ s') ∧
      (hitsOfRows rows = .ok hits →
        (∀ row ∈ rows, row.score.isFinite = true ∧
          ∃ rank : Option ℚ, (∀ r ∈ rank, 0 ≤ r) ∧ score rank = some row.score.toRat) →
        hits.map Hit.relevance = rows.map FoundRow.score)) := by
  intro plan score
  refine ⟨fun h => ?_, Search.exists_tokens_score plan limit offset, fun hvalid => ?_⟩
  · have hshows := forall₂_shows h
    refine ⟨hshows.imp fun _ _ hs => ⟨hs, hs.relevance_eq, hs.toNat_detectionCount⟩, fun hit hhit => ?_,
      pairwise_relevance hshows⟩
    have hrange := inUnit_relevance hshows hhit
    exact ⟨hrange, hrange.not_isNaN⟩
  · obtain ⟨hfinite, hpos⟩ : plan.settings.rankScale.isFinite = true ∧ 0 < plan.settings.rankScale.toRat :=
      Settings.rankScale_pos hvalid
    have hbetween : ∀ rank : Option ℚ, (∀ r ∈ rank, 0 ≤ r) → ∃ s, score rank = some s ∧ 0 ≤ s ∧ s ≤ 1 := fun _ =>
      Search.exists_exactScore hfinite hpos limit offset
    refine ⟨Search.exactScore_none hfinite limit offset, hbetween, fun r r' hle => ?_, fun h hrows => ?_⟩
    · exact Search.exactScore_mono hfinite hpos limit offset hle
    -- A score that the statement computes lies between 0 and 1, where the mapping keeps it.
    · refine relevances_eq_scores (forall₂_shows h) fun row hrow => ?_
      obtain ⟨hscore, rank, hrank, heq⟩ := hrows row hrow
      obtain ⟨s, hs, hnonneg, hle⟩ := hbetween rank hrank
      obtain rfl := Option.some.inj (heq.symm.trans hs)
      exact ⟨hscore, hnonneg, hle⟩

/-- An event of the highest score before one that has no rank. -/
theorem mapping_keeps_ranking_unranked :
    let settings : Settings := ⟨"info", "postgres://localhost/events", 4, ⟨"english", .one⟩⟩
    let row (ids : Option String) (score : Binary64) : FoundRow :=
      ⟨7, "front", "Front door", ⟨0⟩, none, none, none, none, none, false, none, ids, score⟩
    let rows := [row (some "[1, 2]") .one, row none .zero]
    settings.fault? = none ∧ ∃ hits, hitsOfRows rows = .ok hits ∧ hits.map Hit.relevance = [.one, .zero] ∧
      hits.Pairwise fun a b => b.relevance.toRat ≤ a.relevance.toRat := by
  intro settings row rows
  have hvalid : settings.fault? = none := by decide +kernel
  have hrows : hitsOfRows rows = .ok _ := rfl
  obtain ⟨hmapped, -, hscores⟩ := mapping_keeps_ranking settings "person" .unset 20 0 rows _
  obtain ⟨-, -, hordered⟩ := hmapped hrows
  obtain ⟨hnull, -, -, hkept⟩ := hscores hvalid
  refine ⟨hvalid, _, hrows, hkept hrows ?_, hordered ?_ ?_⟩
  · refine List.forall_mem_cons.mpr ⟨⟨rfl, some 1, ?_, ?_⟩, List.forall_mem_singleton.mpr ⟨rfl, none, nofun, ?_⟩⟩
    · rintro r ⟨⟩
      exact zero_le_one
    · have htext : (Search.Plan.ofRequest settings.search "person" .unset).text.isSome = true := by decide +kernel
      rw [Search.exactScore_eq _ rfl, if_pos htext]
      change some (min (1 * Binary64.one.toRat) 1) = some Binary64.one.toRat
      rw [Binary64.toRat_one, one_mul, min_self]
    · exact hnull.trans (congrArg some Binary64.toRat_zero.symm)
  · exact List.forall_mem_cons.mpr ⟨rfl, List.forall_mem_singleton.mpr rfl⟩
  · refine List.pairwise_pair.mpr ?_
    change Binary64.zero.toRat ≤ Binary64.one.toRat
    rw [Binary64.toRat_zero, Binary64.toRat_one]
    exact zero_le_one

end Lookout.Service

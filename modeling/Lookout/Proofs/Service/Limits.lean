import Lookout.Proofs.Search.Values
import Lookout.Proofs.Service.Outcome
import Lookout.Settings.Basic

/-! What a search sends, against what the database refuses for its form alone. Main statement: every statement of a
    search is accepted exactly if the texts of the request do without the character of code 0 and its values, with
    those that a page adds, are not too many. -/

namespace Lookout

namespace Settings

/-- The name of a text search configuration that passes the check does without the character. -/
theorem nul_notMem_of_fault? {s : Settings} (h : s.fault? = none) : nul ∉ s.search.textSearchConfig.toList := by
  obtain ⟨-, -, -, -, hchars, -⟩ := fault?_eq_none.mp h
  exact fun hmem => absurd (hchars _ hmem) (by decide)

end Settings

namespace Service

open Search (Clean Shape)

theorem mem_statements {settings : Search.Settings} {query : String} {filters : Filters} {limit offset : UInt32}
    {script : Dialogue.Script} {s : Sql.Statement} :
    let plan := Search.Plan.ofRequest settings query filters
    s ∈ ((search settings query filters limit offset).run.replay script).statements →
      plan.conditions.all isSendable = true ∧
        (s = Search.countStatement plan ∨ (limit ≠ 0 ∧ s = Search.pageStatement plan limit offset)) := by
  intro plan hs
  by_cases hsendable : plan.conditions.all isSendable = true
  · refine ⟨hsendable, ?_⟩
    rw [replay_search hsendable, Dialogue.statements_noted, Dialogue.statements_sent] at hs
    rcases List.mem_cons.mp hs with rfl | hs
    · exact .inl rfl
    cases hread : readTotal script.reply.1 with
    | error e =>
      rw [hread] at hs
      cases hs
    | ok total =>
      simp only [hread] at hs
      by_cases hempty : limit = 0 ∨ total ≤ offset.toUInt64
      · rw [(replay_empty hempty _ _).1] at hs
        cases hs
      · rw [(replay_page hempty _ _).1] at hs
        exact .inr ⟨fun h => hempty (.inl h), List.mem_singleton.mp hs⟩
  · rw [run_search, if_neg hsendable] at hs
    cases hs

theorem count_mem_statements {settings : Search.Settings} {query : String} {filters : Filters}
    (h : (Search.Plan.ofRequest settings query filters).conditions.all isSendable = true) (limit offset : UInt32)
    (script : Dialogue.Script) :
    Search.countStatement (.ofRequest settings query filters) ∈
      ((search settings query filters limit offset).run.replay script).statements := by
  rw [replay_search h]
  exact List.mem_cons_self

/-- Some answer to the count makes a search send the page as well, unless the page is to be empty. -/
theorem exists_replay_page {settings : Search.Settings} {query : String} {filters : Filters}
    (h : (Search.Plan.ofRequest settings query filters).conditions.all isSendable = true) {limit : UInt32}
    (hlimit : limit ≠ 0) (offset : UInt32) :
    let plan := Search.Plan.ofRequest settings query filters
    ∃ script, ((search settings query filters limit offset).run.replay script).statements =
      [Search.countStatement plan, Search.pageStatement plan limit offset] := by
  intro plan
  -- More events than any offset passes over.
  let row : Sql.Row := [("count", .int 4294967296)]
  have htotal : Totals (.rows [row]) 4294967296 := @Totals.row row [] 4294967296 rfl (by decide)
  have hoffset : ¬ (limit = 0 ∨ (4294967296 : UInt64) ≤ offset.toUInt64) := by
    rintro (hzero | hle)
    · exact hlimit hzero
    · have hlt := offset.toNat_lt
      rw [UInt64.le_iff_toNat_le, UInt32.toNat_toUInt64] at hle
      exact absurd hle (Nat.not_le.mpr hlt)
  let script : Dialogue.Script := ⟨[.rows [row]], []⟩
  have hread : readTotal script.reply.1 = .ok 4294967296 := readTotal_eq_ok htotal
  refine ⟨script, ?_⟩
  rw [replay_search h, Dialogue.statements_noted, Dialogue.statements_sent]
  simp only [hread]
  rw [(replay_page hoffset _ _).1]

/-- The count is accepted exactly if the request is clean and has at most 65535 values, and the page if it leaves room
    for those that the page adds. So all that a search sends is accepted, whatever the answers are, exactly if that
    holds of its count and, unless the limit is 0, of its page. A search whose dates lie behind the calendar sends
    nothing. -/
theorem statements_acceptable_iff (settings : Search.Settings) (hconfig : nul ∉ settings.textSearchConfig.toList)
    (query : String) (filters : Filters) (limit offset : UInt32) :
    let plan := Search.Plan.ofRequest settings query filters
    let shape := Shape.ofRequest query filters
    ((Search.countStatement plan).Acceptable ↔ Clean query filters ∧ shape.values ≤ 65535) ∧
    ((Search.pageStatement plan limit offset).Acceptable ↔
      Clean query filters ∧ shape.values + shape.pageValues ≤ 65535) ∧
    ((∀ script, ∀ s ∈ ((search settings query filters limit offset).run.replay script).statements, s.Acceptable) ↔
      (plan.conditions.all isSendable = true →
        Clean query filters ∧ shape.values + (if limit = 0 then 0 else shape.pageValues) ≤ 65535)) := by
  intro plan shape
  have hcount := Search.countStatement_acceptable_iff hconfig query filters
  have hpage := Search.pageStatement_acceptable_iff hconfig query filters limit offset
  refine ⟨hcount, hpage, fun h hsendable => ?_, fun h script s hs => ?_⟩
  · by_cases hlimit : limit = 0
    · rw [if_pos hlimit]
      exact hcount.mp (h ⟨[], []⟩ _ (count_mem_statements hsendable limit offset _))
    -- With some answers the search does send its page.
    · rw [if_neg hlimit]
      obtain ⟨script, hstatements⟩ := exists_replay_page hsendable hlimit offset
      refine hpage.mp (h script _ ?_)
      rw [hstatements]
      exact List.mem_cons_of_mem _ List.mem_cons_self
  · obtain ⟨hsendable, hs⟩ := mem_statements hs
    obtain ⟨hclean, hvalues⟩ := h hsendable
    rcases hs with rfl | ⟨hlimit, rfl⟩
    · exact hcount.mpr ⟨hclean, Nat.le_trans (Nat.le_add_right _ _) hvalues⟩
    · rw [if_neg hlimit] at hvalues
      exact hpage.mpr ⟨hclean, hvalues⟩

/-- A query of signs alone is not sent, and neither is the character in it. -/
theorem statements_acceptable_signs :
    let settings : Settings := ⟨"info", "postgres://localhost/events", 4, ⟨"english", .one⟩⟩
    let filters := Filters.ofChoices [.camera "front", .objectType "dog", .objectType " "]
    settings.fault? = none ∧
      ∀ script, ∀ s ∈ ((search settings.search "!\x00!" filters 20 40).run.replay script).statements, s.Acceptable := by
  intro settings filters
  have hvalid : settings.fault? = none := by decide +kernel
  refine ⟨hvalid, ?_⟩
  obtain ⟨-, -, hruns⟩ :=
    statements_acceptable_iff settings.search (Settings.nul_notMem_of_fault? hvalid) "!\x00!" filters 20 40
  refine hruns.mpr fun _ => ⟨⟨fun hterms => absurd ?_ hterms, ?_, ?_, ?_⟩, by decide +kernel⟩
  · decide +kernel
  · exact List.forall_mem_singleton.mpr (by decide)
  · exact List.forall_mem_nil _
  · exact fun name hname => by
      rcases List.mem_pair.mp hname with rfl | rfl <;> decide

/-- The first texts of a's, each of which stands before the longer ones. -/
def manyNames (n : Nat) : TextSet where
  toList := (List.range n).map fun k => String.ofList (List.replicate (k + 1) 'a')
  ascending := by
    have hlonger : ∀ {m n : Nat}, m < n → List.replicate m 'a' < List.replicate n 'a' := by
      intro m n h
      induction m generalizing n with
      | zero =>
        cases n with
        | zero => cases h
        | succ n => exact List.nil_lt_cons _ _
      | succ m ih =>
        cases n with
        | zero => cases h
        | succ n => exact List.cons_lt_cons_iff.mpr (.inr ⟨rfl, ih (Nat.lt_of_succ_lt_succ h)⟩)
    refine List.pairwise_map.mpr (List.pairwise_lt_range.imp fun h => ?_)
    rw [String.lt_iff, String.toList_ofList, String.toList_ofList]
    exact hlonger (Nat.succ_lt_succ h)

theorem values_manyNames (n : Nat) :
    (Shape.ofRequest "" ⟨none, none, .empty, .empty, manyNames n, none⟩).values = n := by
  have hnames : (manyNames n).toList.countP (fun name => !Text.isBlankText name.toList) = n := by
    rw [manyNames, List.countP_map, List.countP_eq_length.mpr, List.length_range]
    intro k _
    rw [Function.comp_apply, String.toList_ofList]
    rfl
  simp only [Shape.values, Shape.ofRequest, hnames]
  exact Nat.zero_add n

theorem clean_manyNames (n : Nat) : Clean "" ⟨none, none, .empty, .empty, manyNames n, none⟩ := by
  refine ⟨fun hterms => absurd rfl hterms, List.forall_mem_nil _, List.forall_mem_nil _, fun name hname => ?_⟩
  obtain ⟨k, -, rfl⟩ := List.mem_map.mp hname
  rw [String.toList_ofList]
  exact fun hmem => absurd (List.eq_of_mem_replicate hmem) (by decide)

theorem refuses_manyNames {n : Nat} (hn : Sql.maxParams < n) (limit offset : UInt32) (script : Dialogue.Script) :
    let filters : Filters := ⟨none, none, .empty, .empty, manyNames n, none⟩
    let count := Search.countStatement (.ofRequest ⟨"english", .one⟩ "" filters)
    count ∈ ((search ⟨"english", .one⟩ "" filters limit offset).run.replay script).statements ∧
      ¬ count.Acceptable := by
  intro filters count
  have hsendable : (Search.Plan.ofRequest ⟨"english", .one⟩ "" filters).conditions.all isSendable = true := by
    refine all_isSendable ?_ ?_ <;> rintro t ⟨⟩
  refine ⟨count_mem_statements hsendable limit offset script, fun h => ?_⟩
  have hvalues := h.length_le
  rw [Search.length_params_countStatement, values_manyNames] at hvalues
  exact Nat.not_le.mpr hn hvalues

/-- A query with the character in a word, and too many object types: each search sends a count that is refused. -/
theorem statements_refused :
    (∀ limit offset script,
      let count := Search.countStatement (.ofRequest ⟨"english", .one⟩ "a\x00b" .unset)
      count ∈ ((search ⟨"english", .one⟩ "a\x00b" .unset limit offset).run.replay script).statements ∧
        ¬ count.Acceptable) ∧
    ∃ filters, Clean "" filters ∧ ∀ limit offset script,
      let count := Search.countStatement (.ofRequest ⟨"english", .one⟩ "" filters)
      count ∈ ((search ⟨"english", .one⟩ "" filters limit offset).run.replay script).statements ∧
        ¬ count.Acceptable := by
  refine ⟨fun limit offset script => ⟨count_mem_statements rfl limit offset script, fun h => ?_⟩,
    ⟨none, none, .empty, .empty, manyNames 65536, none⟩, clean_manyNames 65536, refuses_manyNames (by decide)⟩
  obtain ⟨hclean, -⟩ := (Search.countStatement_acceptable_iff (by decide) "a\x00b" .unset).mp h
  exact hclean.query (by decide +kernel) (by decide)

end Service
end Lookout

import Lookout.Proofs.Search.Database

/-! The listing of a search: all events that it wants, the better before the others, then the later, then the one
    recorded later. A database answers the two statements of the search with the length of the listing and with
    a part of it. -/

namespace Lookout.Search

open Sql (Formula Writes Statement Reply)

variable {ν κ : Type}

namespace Engine

/-- The index query of a search, if its query has words. -/
def indexQuery? (engine : Engine ν κ) (settings : Settings) (query : String) : Option κ :=
  (TextMatch.ofPredicate? (.ofQuery query.toList) query).map fun t =>
    engine.read (indexFunction t.mode) settings.textSearchConfig t.indexQuery

/-- The search finds this vector. -/
def found (engine : Engine ν κ) (settings : Settings) (query : String) (v : ν) : Bool :=
  (engine.indexQuery? settings query).any (engine.finds v)

/-- The score of an event in the search. Without words all events have the same. -/
def relevance (engine : Engine ν κ) (settings : Settings) (query : String) (row : EventRow ν) : Binary64 :=
  (engine.indexQuery? settings query).elim .zero fun q => engine.score settings.rankScale q row.vector

end Engine

/-- The first event comes before the second one: by its score, by its start if the scores are equal, and by its id if
    the starts are equal too. -/
def Before (score : EventRow ν → Binary64) (a b : EventRow ν) : Prop :=
  floatPlace (score b) < floatPlace (score a) ∨ floatPlace (score a) = floatPlace (score b) ∧
    (b.startedAt < a.startedAt ∨ a.startedAt = b.startedAt ∧ b.eventId.toInt < a.eventId.toInt)

instance (score : EventRow ν → Binary64) (a b : EventRow ν) : Decidable (Before score a b) :=
  inferInstanceAs (Decidable (_ ∨ _))

/-- The list holds the events that a search wants, each once and in their order. -/
structure IsListing (db : Database ν κ) (settings : Settings) (query : String) (filters : Filters)
    (listing : List (EventRow ν)) : Prop where
  ordered : listing.Pairwise (Before (db.engine.relevance settings query))
  mem_iff : ∀ row, row ∈ listing ↔
    row ∈ db.rows ∧ Wanted db.engine.folding (db.engine.found settings query) query filters row

variable {db : Database ν κ} {settings : Settings} {query : String} {filters : Filters}

theorem Before.asymm {score : EventRow ν → Binary64} {a b : EventRow ν} (h : Before score a b) :
    ¬ Before score b a := by
  unfold Before at *
  omega

namespace IsListing

theorem nodup {listing : List (EventRow ν)} (h : IsListing db settings query filters listing) : listing.Nodup := by
  refine h.ordered.imp fun {a b} hab he => ?_
  subst he
  exact hab.asymm hab

theorem unique {l₁ l₂ : List (EventRow ν)} (h₁ : IsListing db settings query filters l₁)
    (h₂ : IsListing db settings query filters l₂) : l₁ = l₂ := by
  have hperm : l₁.Perm l₂ := (List.perm_ext_iff_of_nodup h₁.nodup h₂.nodup).mpr fun row => by
    rw [h₁.mem_iff, h₂.mem_iff]
  refine hperm.eq_of_pairwise (fun a b _ _ hab hba => ?_) h₁.ordered h₂.ordered
  exact absurd hba hab.asymm

end IsListing

/-! ### The events that the condition selects -/

theorem indexQuery?_eq (engine : Engine ν κ) (settings : Settings) (query : String) (filters : Filters) :
    engine.indexQuery? settings query = (Plan.ofRequest settings query filters).text.map fun t =>
      engine.read (indexFunction t.mode) settings.textSearchConfig t.indexQuery := by
  rw [Engine.indexQuery?, Plan.ofRequest]

theorem decides_wanted (engine : Engine ν κ) (settings : Settings) (query : String) (filters : Filters)
    (row : EventRow ν) :
    Formula.Decides (row.scope engine (engine.indexQuery? settings query))
      (Plan.ofRequest settings query filters).formula
      (Wanted engine.folding (engine.found settings query) query filters row) := by
  have hquery := indexQuery?_eq engine settings query filters
  cases ht : (Plan.ofRequest settings query filters).text with
  | none =>
    have hdecides := decides_formula settings query filters engine (engine.read "" "" "") row
    simp only [ht, Option.map_none] at hquery hdecides
    rw [hquery]
    refine hdecides.congr ?_
    simp only [wanted_iff, Plan.text_eq_none.mp ht, true_or]
  | some t =>
    let q := engine.read (indexFunction t.mode) settings.textSearchConfig t.indexQuery
    have hdecides := decides_formula settings query filters engine q row
    simp only [ht, Option.map_some] at hquery hdecides
    have hfound : engine.found settings query = (engine.finds · q) := by
      funext v
      rw [Engine.found, hquery, Option.any_some]
    rw [hquery, hfound]
    exact hdecides

theorem mem_selected {row : EventRow ν} :
    row ∈ db.selected (db.engine.indexQuery? settings query) (Plan.ofRequest settings query filters).formula ↔
      row ∈ db.rows ∧ Wanted db.engine.folding (db.engine.found settings query) query filters row := by
  obtain ⟨t, ht, hwanted⟩ := decides_wanted db.engine settings query filters row
  rw [Database.selected, List.mem_filter, ht, beq_iff_eq, Option.some_inj, hwanted]

/-! ### The order of the statement -/

theorem score?_score (engine : Engine ν κ) (settings : Settings) (query : String) (filters : Filters) :
    (engine.score? (engine.indexQuery? settings query) ·
        (score settings (Plan.ofRequest settings query filters).text)) =
      fun row => some (engine.relevance settings query row) := by
  funext row
  rw [Engine.relevance, indexQuery?_eq engine settings query filters]
  cases (Plan.ofRequest settings query filters).text <;> rfl

/-- The keys of a page put the events in order: where they leave the score out, all events have the same. -/
theorem before_of_precedes {relevance : EventRow ν → Binary64} {text : Option TextMatch} {a b : EventRow ν}
    (h : Database.Precedes (fun row => some (relevance row)) (orderKeys text) a b)
    (hnone : text = none → relevance a = relevance b) (hne : a.eventId ≠ b.eventId) : Before relevance a b := by
  have hid : a.eventId.toInt ≠ b.eventId.toInt := fun he => hne (Int64.toInt_inj.mp he)
  cases text with
  | none =>
    have hle : ¬ [a.startedAt, a.eventId.toInt].Lex (· < ·) [b.startedAt, b.eventId.toInt] := h _ _ rfl rfl
    rw [Before, hnone rfl]
    simp only [List.cons_lex_cons_iff, List.not_lex_nil] at hle
    omega
  | some t =>
    have hle : ¬ [floatPlace (relevance a), a.startedAt, a.eventId.toInt].Lex (· < ·)
        [floatPlace (relevance b), b.startedAt, b.eventId.toInt] := h _ _ rfl rfl
    rw [Before]
    simp only [List.cons_lex_cons_iff, List.not_lex_nil] at hle
    omega

/-! ### The listing -/

variable {listing : List (EventRow ν)}

theorem pairwise_ne_selected (db : Database ν κ) (tsq : Option κ) (F : Formula Sql.Param) :
    (db.selected tsq F).Pairwise fun a b => a.eventId ≠ b.eventId :=
  (List.pairwise_map.mp db.distinct).sublist List.filter_sublist

/-- The events that the statements select, in the order of their keys, are the listing. -/
theorem isListing_of_perm
    (hperm : listing.Perm
      (db.selected (db.engine.indexQuery? settings query) (Plan.ofRequest settings query filters).formula))
    (hordered : listing.Pairwise (Database.Precedes
      (db.engine.score? (db.engine.indexQuery? settings query) ·
        (score settings (Plan.ofRequest settings query filters).text))
      (orderKeys (Plan.ofRequest settings query filters).text))) :
    IsListing db settings query filters listing := by
  refine ⟨?_, fun row => hperm.mem_iff.trans mem_selected⟩
  have hids : listing.Pairwise fun a b => a.eventId ≠ b.eventId :=
    (pairwise_ne_selected db _ _).perm hperm.symm Ne.symm
  have hnone : (Plan.ofRequest settings query filters).text = none → ∀ a b : EventRow ν,
      db.engine.relevance settings query a = db.engine.relevance settings query b := by
    intro htext a b
    simp only [Engine.relevance, indexQuery?_eq db.engine settings query filters, htext, Option.map_none,
      Option.elim_none]
  rw [score?_score] at hordered
  exact (hordered.and hids).imp fun ⟨hab, hne⟩ => before_of_precedes hab (fun htext => hnone htext _ _) hne

theorem exists_isListing (db : Database ν κ) (settings : Settings) (query : String) (filters : Filters) :
    ∃ listing, IsListing db settings query filters listing :=
  ⟨_, isListing_of_perm (Database.sorted_perm _ _ _) (Database.sorted_pairwise _ _ _)⟩

theorem IsListing.perm_selected (h : IsListing db settings query filters listing) :
    listing.Perm
      (db.selected (db.engine.indexQuery? settings query) (Plan.ofRequest settings query filters).formula) := by
  have hselected := (pairwise_ne_selected db (db.engine.indexQuery? settings query)
    (Plan.ofRequest settings query filters).formula).imp fun {a b} hne (he : a = b) => hne (he ▸ rfl)
  exact (List.perm_ext_iff_of_nodup h.nodup hselected).mpr fun row => (h.mem_iff row).trans mem_selected.symm

theorem IsListing.length_lt (h : IsListing db settings query filters listing) :
    listing.length < 9223372036854775808 := by
  rw [h.perm_selected.length_eq]
  exact Nat.lt_of_le_of_lt (List.length_filter_le _ _) db.countable

/-! ### The answers to the statements -/

theorem query?_call (engine : Engine ν κ) (settings : Settings) (query : String) (filters : Filters) :
    let p := Plan.ofRequest settings query filters
    engine.query? (p.text.map (call p.settings)) = some (engine.indexQuery? settings query) := by
  intro p
  rw [indexQuery?_eq engine settings query filters]
  change engine.query? (p.text.map (call settings)) = _
  cases (Plan.ofRequest settings query filters).text <;> rfl

theorem isSome_truth? (row : EventRow ν) :
    ((Plan.ofRequest settings query filters).formula.truth?
      (row.scope db.engine (db.engine.indexQuery? settings query))).isSome := by
  obtain ⟨t, ht, -⟩ := decides_wanted db.engine settings query filters row
  rw [ht]
  rfl

variable {answer : Statement → Reply}

theorem Database.Answers.count (h : db.Answers answer) (hlisting : IsListing db settings query filters listing) :
    answer (countStatement (Plan.ofRequest settings query filters)) = .rows [[("count", .int listing.length)]] := by
  obtain ⟨s, hread, hbind⟩ := reads_countStatement (writes_ofRequest settings query filters)
  have hreply := h _ _ _ hread hbind _ (query?_call db.engine settings query filters) fun row _ => isSome_truth? row
  rw [hlisting.perm_selected.length_eq]
  exact hreply

theorem Database.Answers.page (h : db.Answers answer) (hlisting : IsListing db settings query filters listing)
    (limit offset : UInt32) {rows : List Sql.Row}
    (hrows : (window limit.toNat offset.toNat listing).mapM
      (fun row => row.returned? (db.engine.relevance settings query row) columnNames) = some rows) :
    answer (pageStatement (Plan.ofRequest settings query filters) limit offset) = .rows rows := by
  obtain ⟨s, hread, hbind⟩ := reads_pageStatement (writes_ofRequest settings query filters) limit offset
  have hreply := h _ _ _ hread hbind _ (query?_call db.engine settings query filters) fun row _ => isSome_truth? row
  obtain ⟨found, hperm, hordered, hpage⟩ := hreply _ _ rfl rfl
  obtain rfl := (isListing_of_perm hperm hordered).unique hlisting
  refine hpage rows ?_
  have hscore : ∀ row, db.engine.score? (db.engine.indexQuery? settings query) row
      (score settings (Plan.ofRequest settings query filters).text) = some (db.engine.relevance settings query row) :=
    congrFun (score?_score db.engine settings query filters)
  have hlimit := Int64.toNatClampNeg_ofNat_of_lt (Nat.lt_trans limit.toNat_lt (by decide))
  have hoffset := Int64.toNatClampNeg_ofNat_of_lt (Nat.lt_trans offset.toNat_lt (by decide))
  rw [hlimit, hoffset, ← hrows]
  refine congrArg (List.mapM · _) (funext fun row => ?_)
  exact congrArg (·.bind fun x => row.returned? x columnNames) (hscore row)

end Lookout.Search

import Lookout.Proofs.Search.Mode
import Lookout.Proofs.Search.Shape

/-! The values of the statements of a search: how many there are, and which texts are among them. The texts of a request
    are sent as they are, the query only if it has a term, and each object type has a value of its own. So what the
    database refuses for its form, a text with the character of code 0 or too many values, can be told from the
    request. -/

namespace Lookout

/-- The character that no text of the database holds. -/
def nul : Char := '\x00'

namespace Sql

/-- The texts of a value. -/
def Param.texts : Param → List String
  | .text s => [s]
  | .textArray xs => xs
  | _ => []

/-- The number of values that a statement may have. -/
def maxParams : Nat := 65535

/-- No text of the value has the character that no text in the database can have. -/
def Param.Clean (v : Param) : Prop := ∀ t ∈ v.texts, nul ∉ t.toList

/-- The statement has no more values than can be bound to one, and each of them can be stored. -/
structure Statement.Acceptable (s : Statement) : Prop where
  length_le : s.params.length ≤ maxParams
  clean : ∀ v ∈ s.params, v.Clean

@[simp] theorem clean_text {s : String} : (Param.text s).Clean ↔ nul ∉ s.toList := List.forall_mem_singleton

theorem clean_of_texts {v : Param} (h : v.texts = []) : v.Clean := fun t ht => by
  rw [h] at ht
  cases ht

theorem valuesOf_flatMap {α : Type} (separator : String) (f : α → List Piece) (xs : List α) :
    valuesOf (xs.flatMap fun x => .raw separator :: f x) = xs.flatMap fun x => valuesOf (f x) := by
  induction xs with
  | nil => rfl
  | cons x xs ih => rw [List.flatMap_cons, valuesOf_append, valuesOf_raw, ih, List.flatMap_cons]

theorem valuesOf_separated (separator : String) (groups : List (List Piece)) :
    valuesOf (separated separator groups) = groups.flatMap valuesOf := by
  cases groups with
  | nil => rfl
  | cons g gs => rw [separated_cons, valuesOf_append, valuesOf_flatMap separator (fun g => g), List.flatMap_cons]

end Sql

/-! ### Texts that are sent -/

theorem Like.nul_mem_containing {s : List Char} : nul ∈ containing s ↔ nul ∈ s := by
  have hescape : nul ∈ escape s ↔ nul ∈ s := by
    induction s with
    | nil => rfl
    | cons c s ih =>
      rw [escape_cons, List.mem_append, ih, List.mem_cons]
      refine or_congr_left ?_
      split
      · simp [nul, escapeChar]
      · exact List.mem_singleton
  rw [containing, List.cons_append, List.mem_cons, List.mem_append, hescape]
  simp [nul]

theorem Text.nul_mem_trim {s : List Char} : nul ∈ trim s ↔ nul ∈ s := ⟨mem_of_mem_trim, mem_trim_of_mem rfl⟩

theorem Query.Predicate.nul_notMem_text (raw : List Char) : nul ∉ (ofQuery raw).text := by
  by_cases hterms : (ofQuery raw).terms = []
  · rw [text_ofQuery_eq_nil.mpr hterms]
    exact List.not_mem_nil
  obtain ⟨-, hgroups⟩ := (proper_ofQuery hterms).groups
  rw [text, join_eq, runs_clauses]
  refine notMem_runsText (by decide) (by decide) (by decide) fun g hg x hx => ?_
  obtain ⟨terms, hmem, rfl⟩ := List.mem_map.mp hg
  obtain ⟨t, ht, rfl⟩ := List.mem_map.mp hx
  exact ((hgroups terms hmem).2 t ht).notMem rfl (by decide)

namespace Search

open Sql (Param valuesOf)

/-! ### The values of a plan -/

/-- The values that are bound for the text of a plan. -/
def textValues (settings : Settings) : Option TextMatch → List Param
  | none => []
  | some t => [.text settings.textSearchConfig, .text t.indexQuery] ++ fallbackColumns.map fun _ => .text t.fallbackPattern

/-- The values that are bound for a condition of a plan. -/
def conditionValues : Condition → List Param
  | .startedAtOrAfter t => [.timestamptz t.toMicros]
  | .startedBefore t => [.timestamptz t.toMicros]
  | .cameraIn ids => [.textArray ids]
  | .severityIn levels => [.textArray levels]
  | .objectTypeMatchesAny patterns => patterns.map .text
  | .reviewed b => [.bool b]

theorem valuesOf_conditionPieces (c : Condition) : valuesOf (conditionPieces c) = conditionValues c := by
  cases c with
  | startedAtOrAfter t => rfl
  | startedBefore t => rfl
  | cameraIn ids => rfl
  | severityIn levels => rfl
  | reviewed b => rfl
  | objectTypeMatchesAny patterns =>
    rw [conditionPieces, List.cons_append, Sql.valuesOf_raw, Sql.valuesOf_append, Sql.valuesOf_separated,
      Sql.valuesOf_raw, Sql.valuesOf_nil, List.append_nil, List.flatMap_map]
    exact List.map_eq_flatMap.symm

theorem valuesOf_tailPieces (p : Plan) :
    valuesOf (tailPieces p) = textValues p.settings p.text ++ p.conditions.flatMap conditionValues := by
  have htext : valuesOf (textSource p.settings p.text) ++ valuesOf (textCondition p.text) =
      textValues p.settings p.text := by
    cases p.text <;> rfl
  rw [tailPieces, wherePieces, List.cons_append, List.cons_append, Sql.valuesOf_raw, Sql.valuesOf_append,
    Sql.valuesOf_raw, Sql.valuesOf_append, Sql.valuesOf_flatMap, ← List.append_assoc, htext]
  simp only [valuesOf_conditionPieces]

/-! ### How many there are -/

/-- The number of values of a count: five for a text side, one for each object type and at most one for each of the
    other constraints. -/
def Shape.values (s : Shape) : Nat :=
  (if s.mode.isSome then 5 else 0) + s.startDate.toNat + s.endDate.toNat + s.cameras.toNat + s.severity.toNat +
    s.objectTypes + s.reviewed.toNat

/-- The number of values that a page adds: its bounds, and the scale of a score. -/
def Shape.pageValues (s : Shape) : Nat := if s.mode.isSome then 3 else 2

theorem length_conditions_values (filters : Filters) (query : String) :
    (filters.conditions.flatMap conditionValues).length + (if (Shape.ofRequest query filters).mode.isSome then 5 else 0) =
      (Shape.ofRequest query filters).values := by
  have hoption : ∀ {α : Type} (condition : α → Condition), (∀ a, (conditionValues (condition a)).length = 1) →
      ∀ o : Option α, ((o.toList.map condition).flatMap conditionValues).length = o.isSome.toNat := by
    intro α condition h o
    cases o with
    | none => rfl
    | some a => simp [h]
  -- A list is bound as one value, however many members it has.
  have hlist : ∀ condition : List String → Condition, (∀ xs, (conditionValues (condition xs)).length = 1) →
      ∀ xs, ((Filters.onList condition xs).flatMap conditionValues).length = (!xs.isEmpty).toNat := by
    intro condition h xs
    cases xs with
    | nil => rfl
    | cons x xs => simp [Filters.onList, h]
  have htypes : ((Filters.onList .objectTypeMatchesAny filters.objectTypePatterns).flatMap conditionValues).length =
      (Shape.ofRequest query filters).objectTypes := by
    rw [Shape.ofRequest, ← length_objectTypePatterns]
    cases filters.objectTypePatterns with
    | nil => rfl
    | cons p ps => simp [Filters.onList, conditionValues]
  simp only [Filters.conditions, List.flatMap_append, List.length_append, htypes,
    hoption .startedAtOrAfter fun _ => rfl, hoption .startedBefore fun _ => rfl, hoption .reviewed fun _ => rfl,
    hlist .cameraIn fun _ => rfl, hlist .severityIn fun _ => rfl, Shape.values]
  simp only [Shape.ofRequest, TextSet.isEmpty]
  omega

section
variable (settings : Settings) (query : String) (filters : Filters)

theorem length_textValues :
    (textValues settings (Plan.ofRequest settings query filters).text).length =
      if (Shape.ofRequest query filters).mode.isSome then 5 else 0 := by
  rw [← mode_ofRequest settings, Plan.mode]
  cases (Plan.ofRequest settings query filters).text <;> rfl

theorem length_params_countStatement :
    (countStatement (Plan.ofRequest settings query filters)).params.length = (Shape.ofRequest query filters).values := by
  rw [params_countStatement, valuesOf_tailPieces, List.length_append, ← length_conditions_values, Nat.add_comm]
  exact congrArg _ (length_textValues settings query filters)

theorem length_params_pageStatement (limit offset : UInt32) :
    (pageStatement (Plan.ofRequest settings query filters) limit offset).params.length =
      (Shape.ofRequest query filters).values + (Shape.ofRequest query filters).pageValues := by
  have hscore : (scoreValues settings (Plan.ofRequest settings query filters).text).length + 2 =
      (Shape.ofRequest query filters).pageValues := by
    rw [Shape.pageValues, ← mode_ofRequest settings, Plan.mode]
    cases (Plan.ofRequest settings query filters).text <;> rfl
  rw [params_pageStatement, List.length_append, List.length_append, length_params_countStatement, ← hscore,
    Nat.add_right_comm, Nat.add_comm]
  rfl

end

/-! ### Which texts they hold -/

/-- No text of the request that is sent holds the character. A query without terms is not sent. -/
structure Clean (query : String) (filters : Filters) : Prop where
  query : (Query.Predicate.ofQuery query.toList).terms ≠ [] → nul ∉ query.toList
  cameras : ∀ id ∈ filters.cameraIds, nul ∉ id.toList
  severity : ∀ level ∈ filters.severity, nul ∉ level.toList
  objectTypes : ∀ name ∈ filters.objectTypes, nul ∉ name.toList

theorem clean_objectTypePatterns {filters : Filters} :
    (∀ p ∈ filters.objectTypePatterns, nul ∉ p.toList) ↔ ∀ name ∈ filters.objectTypes, nul ∉ name.toList := by
  simp only [objectTypePatterns_eq, List.forall_mem_map, List.mem_filter, and_imp, String.toList_ofList,
    Like.nul_mem_containing, Text.nul_mem_trim]
  constructor
  · intro h name hname hnul
    refine h name hname ?_ hnul
    simpa using List.ne_nil_of_mem (Text.nul_mem_trim.mpr hnul)
  · intro h name hname _
    exact h name hname

theorem clean_conditions {filters : Filters} :
    (∀ v ∈ filters.conditions.flatMap conditionValues, v.Clean) ↔
      (∀ id ∈ filters.cameraIds, nul ∉ id.toList) ∧ (∀ level ∈ filters.severity, nul ∉ level.toList) ∧
        ∀ name ∈ filters.objectTypes, nul ∉ name.toList := by
  have hnonempty : ∀ {xs : List String}, (xs ≠ [] → ∀ x ∈ xs, nul ∉ x.toList) ↔ ∀ x ∈ xs, nul ∉ x.toList :=
    ⟨fun h x hx => h (List.ne_nil_of_mem hx) x hx, fun h _ => h⟩
  have htimestamp : ∀ {t : Time.Instant}, (Param.timestamptz t.toMicros).Clean := Sql.clean_of_texts rfl
  have hbool : ∀ {b : Bool}, (Param.bool b).Clean := Sql.clean_of_texts rfl
  rw [List.forall_mem_flatMap, forall_conditions, ← hnonempty.trans clean_objectTypePatterns]
  simp only [conditionValues, List.forall_mem_singleton, List.forall_mem_map, Sql.clean_text, htimestamp, hbool,
    implies_true, true_and, and_true]
  exact and_congr hnonempty (and_congr_left' hnonempty)

theorem clean_textValues {settings : Settings} (hconfig : nul ∉ settings.textSearchConfig.toList) (query : String)
    (filters : Filters) :
    (∀ v ∈ textValues settings (Plan.ofRequest settings query filters).text, v.Clean) ↔
      ((Query.Predicate.ofQuery query.toList).terms ≠ [] → nul ∉ query.toList) := by
  cases ht : (Plan.ofRequest settings query filters).text with
  | none => simp [textValues, Plan.text_ofRequest_eq_none.mp ht]
  | some t =>
    have hterms : (Query.Predicate.ofQuery query.toList).terms ≠ [] := Plan.terms_of_text ht
    have hindex : nul ∉ query.toList → nul ∉ t.indexQuery.toList := by
      rw [(Plan.eq_of_text ht).2.2]
      cases (Query.Predicate.ofQuery query.toList).mode with
      | explicitBoolean => simp [Query.Predicate.nul_notMem_text]
      | implicitText => exact id
    have hpattern : nul ∈ t.fallbackPattern.toList ↔ nul ∈ query.toList := by
      rw [Plan.fallbackPattern_eq ht, String.toList_ofList, Like.nul_mem_containing, Text.nul_mem_trim]
    simp only [textValues, fallbackColumns, List.forall_mem_append, List.forall_mem_cons, List.forall_mem_map,
      Sql.clean_text, hconfig, hpattern, not_false_eq_true, true_and, List.not_mem_nil, false_implies, implies_true,
      and_true, ne_eq, hterms, true_implies, and_self, and_iff_right_iff_imp]
    exact hindex

theorem clean_iff {settings : Settings} (hconfig : nul ∉ settings.textSearchConfig.toList) (query : String)
    (filters : Filters) :
    (∀ v ∈ (countStatement (Plan.ofRequest settings query filters)).params, v.Clean) ↔ Clean query filters := by
  rw [params_countStatement, valuesOf_tailPieces, List.forall_mem_append]
  refine (and_congr (clean_textValues hconfig query filters) clean_conditions).trans ⟨?_, ?_⟩
  · rintro ⟨hquery, hcameras, hseverity, htypes⟩
    exact ⟨hquery, hcameras, hseverity, htypes⟩
  · rintro ⟨hquery, hcameras, hseverity, htypes⟩
    exact ⟨hquery, hcameras, hseverity, htypes⟩

/-- What a page adds holds no text. -/
theorem clean_page_iff (p : Plan) (limit offset : UInt32) :
    (∀ v ∈ (pageStatement p limit offset).params, v.Clean) ↔ ∀ v ∈ (countStatement p).params, v.Clean := by
  have hscore : ∀ v ∈ scoreValues p.settings p.text, v.Clean := by
    cases p.text with
    | none => exact List.forall_mem_nil _
    | some t => exact List.forall_mem_singleton.mpr (Sql.clean_of_texts rfl)
  have hbound : ∀ i : Int64, (Param.int8 i).Clean := fun _ => Sql.clean_of_texts rfl
  rw [params_pageStatement, List.forall_mem_append, List.forall_mem_append, and_iff_right hscore,
    List.forall_mem_cons, List.forall_mem_singleton, and_iff_right (hbound _)]
  exact and_iff_left (hbound _)

section
variable {settings : Settings} (hconfig : nul ∉ settings.textSearchConfig.toList) (query : String) (filters : Filters)

include hconfig in
theorem countStatement_acceptable_iff :
    (countStatement (Plan.ofRequest settings query filters)).Acceptable ↔
      Clean query filters ∧ (Shape.ofRequest query filters).values ≤ Sql.maxParams := by
  rw [← clean_iff hconfig, ← length_params_countStatement settings]
  exact ⟨fun h => ⟨h.clean, h.length_le⟩, fun h => ⟨h.2, h.1⟩⟩

include hconfig in
theorem pageStatement_acceptable_iff (limit offset : UInt32) :
    (pageStatement (Plan.ofRequest settings query filters) limit offset).Acceptable ↔
      Clean query filters ∧
        (Shape.ofRequest query filters).values + (Shape.ofRequest query filters).pageValues ≤ Sql.maxParams := by
  rw [← clean_iff hconfig, ← clean_page_iff _ limit offset, ← length_params_pageStatement settings]
  exact ⟨fun h => ⟨h.clean, h.length_le⟩, fun h => ⟨h.2, h.1⟩⟩

end

end Search

end Lookout

import Lookout.Proofs.Search.Reading
import Lookout.Proofs.Text.Trim

/-! What the text of a statement depends on. A value leaves a gap in the text, which its number fills, so two lists of
    pieces with the same gaps have the same text. The statements of a search have the text of a plan in which every
    value is left blank, and that plan is told by the shape of the request: which constraints there are, and how many
    patterns. -/

namespace Lookout.Sql

/-! ### Gaps -/

/-- The texts of pieces, with a gap for each value. -/
def gapped (pieces : List Piece) : List (Option String) :=
  pieces.map fun
    | .raw s => some s
    | .value _ => none

/-- The text of pieces depends on their texts and gaps alone. -/
theorem renderFrom_congr {ps qs : List Piece} (h : gapped ps = gapped qs) (n : Nat) :
    renderFrom n ps = renderFrom n qs := by
  induction ps generalizing n qs with
  | nil =>
    cases qs with
    | nil => rfl
    | cons q qs => cases h
  | cons p ps ih =>
    cases qs with
    | nil => cases h
    | cons q qs =>
      obtain ⟨hpq, hrest⟩ := List.cons.inj h
      cases p with
      | raw s =>
        cases q with
        | raw t =>
          obtain rfl := Option.some.inj hpq
          rw [renderFrom, renderFrom, ih hrest]
        | value w => cases hpq
      | value v =>
        cases q with
        | raw t => cases hpq
        | value w => rw [renderFrom, renderFrom, ih hrest]

@[simp] theorem gapped_raw (s : String) (rest : List Piece) : gapped (.raw s :: rest) = some s :: gapped rest := rfl

@[simp] theorem gapped_value (v : Param) (rest : List Piece) : gapped (.value v :: rest) = none :: gapped rest := rfl

@[simp] theorem gapped_append (ps qs : List Piece) : gapped (ps ++ qs) = gapped ps ++ gapped qs := List.map_append

/-- Groups with the same gaps have them also with a separator between any two. -/
theorem gapped_separated {separator : String} {gs hs : List (List Piece)} (h : gs.map gapped = hs.map gapped) :
    gapped (separated separator gs) = gapped (separated separator hs) := by
  have hflat : ∀ groups : List (List Piece), gapped (groups.flatMap fun g => .raw separator :: g) =
      (groups.map gapped).flatMap fun g => some separator :: g := by
    intro groups
    induction groups with
    | nil => rfl
    | cons g groups ih =>
      rw [List.flatMap_cons, gapped_append, ih]
      rfl
  cases gs with
  | nil =>
    obtain rfl := List.map_eq_nil_iff.mp h.symm
    rfl
  | cons x xs =>
    cases hs with
    | nil => cases h
    | cons y ys =>
      obtain ⟨hxy, hrest⟩ := List.cons.inj h
      rw [separated_cons, separated_cons, gapped_append, gapped_append, hxy, hflat, hflat, hrest]

/-- A statement has one `$` for each of its values. -/
theorem count_dollar_renderFrom {pieces : List Piece} (h : Parted pieces) (n : Nat) :
    (renderFrom n pieces).count '$' = (valuesOf pieces).length := by
  induction pieces generalizing n with
  | nil => rfl
  | cons p rest ih =>
    cases p with
    | raw s =>
      rw [renderFrom, List.count_append, ih h.tail, List.count_eq_zero.mpr (h.notMem List.mem_cons_self), Nat.zero_add,
        valuesOf_raw]
    | value v =>
      have hdigits : (Text.decimal n).count '$' = 0 := List.count_eq_zero.mpr fun hmem =>
        absurd (Text.isDigit_of_mem_decimal hmem) (by decide)
      rw [renderFrom, List.count_append, List.count_cons_self, hdigits, ih h.tail, valuesOf_value, List.length_cons,
        Nat.add_comm]

end Lookout.Sql

namespace Lookout.Search

open Sql (Parted Piece gapped)

/-! ### Plans without values -/

/-- A condition of the same shape whose values are fixed. -/
def blankCondition : Condition → Condition
  | .startedAtOrAfter _ => .startedAtOrAfter ⟨0⟩
  | .startedBefore _ => .startedBefore ⟨0⟩
  | .cameraIn _ => .cameraIn []
  | .severityIn _ => .severityIn []
  | .objectTypeMatchesAny patterns => .objectTypeMatchesAny (List.replicate patterns.length "")
  | .reviewed _ => .reviewed false

/-- A text of the same match mode with nothing in it. -/
def blankText (mode : Query.MatchMode) : TextMatch := ⟨mode, "", ""⟩

/-- A plan of the same shape whose values are fixed. -/
def Plan.blank (p : Plan) : Plan := ⟨p.mode.map blankText, ⟨"", .zero⟩, p.conditions.map blankCondition⟩

theorem gapped_conditionPieces (c : Condition) :
    gapped (conditionPieces (blankCondition c)) = gapped (conditionPieces c) := by
  cases c with
  | startedAtOrAfter t => rfl
  | startedBefore t => rfl
  | cameraIn ids => rfl
  | severityIn levels => rfl
  | reviewed b => rfl
  | objectTypeMatchesAny patterns =>
    have hlikes : ((List.replicate patterns.length "").map (likePieces "e.object_types")).map gapped =
        (patterns.map (likePieces "e.object_types")).map gapped := by
      rw [List.map_replicate, List.map_replicate, List.map_map]
      exact (List.map_eq_replicate_iff.mpr fun pattern _ => rfl).symm
    simp only [blankCondition, conditionPieces, Sql.gapped_raw, List.cons_append, Sql.gapped_append,
      Sql.gapped_separated hlikes]

theorem gapped_textSource (settings settings' : Settings) (text : Option TextMatch) :
    gapped (textSource settings' ((text.map TextMatch.mode).map blankText)) = gapped (textSource settings text) := by
  cases text <;> rfl

theorem gapped_textCondition (text : Option TextMatch) :
    gapped (textCondition ((text.map TextMatch.mode).map blankText)) = gapped (textCondition text) := by
  cases text <;> rfl

theorem gapped_scorePieces (settings settings' : Settings) (text : Option TextMatch) :
    gapped (scorePieces settings' ((text.map TextMatch.mode).map blankText)) = gapped (scorePieces settings text) := by
  cases text <;> rfl

theorem orderText_blank (text : Option TextMatch) :
    orderText ((text.map TextMatch.mode).map blankText) = orderText text := by
  cases text <;> rfl

theorem gapped_tailPieces (p : Plan) : gapped (tailPieces p.blank) = gapped (tailPieces p) := by
  have hconditions : gapped (p.blank.conditions.flatMap fun c => .raw " AND " :: conditionPieces c) =
      gapped (p.conditions.flatMap fun c => .raw " AND " :: conditionPieces c) := by
    rw [Plan.blank]
    induction p.conditions with
    | nil => rfl
    | cons c cs ih =>
      rw [List.map_cons, List.flatMap_cons, List.flatMap_cons, Sql.gapped_append, Sql.gapped_append, ih,
        Sql.gapped_raw, Sql.gapped_raw, gapped_conditionPieces]
  simp only [tailPieces, wherePieces, List.cons_append, Sql.gapped_raw, Sql.gapped_append, hconditions]
  rw [Plan.blank, Plan.mode, gapped_textSource p.settings, gapped_textCondition]

theorem sql_countStatement_blank (p : Plan) : (countStatement p.blank).sql = (countStatement p).sql := by
  refine congrArg String.ofList (Sql.renderFrom_congr ?_ 1)
  rw [Sql.gapped_raw, Sql.gapped_raw, gapped_tailPieces]

theorem sql_pageStatement_blank (p : Plan) (limit offset : UInt32) :
    (pageStatement p.blank 0 0).sql = (pageStatement p limit offset).sql := by
  refine congrArg String.ofList (Sql.renderFrom_congr ?_ 1)
  simp only [List.cons_append, Sql.gapped_raw, Sql.gapped_append, gapped_tailPieces, amount, Sql.gapped_value]
  rw [Plan.blank, Plan.mode, gapped_scorePieces p.settings, orderText_blank]

/-! ### The shape of a request -/

/-- What the text of a search depends on. -/
structure Shape where
  /-- The mode of the predicate, if the query has one. -/
  mode : Option Query.MatchMode
  startDate : Bool
  endDate : Bool
  cameras : Bool
  severity : Bool
  /-- The number of object types that are not blank. -/
  objectTypes : Nat
  reviewed : Bool
  deriving Repr, DecidableEq

/-- The shape of a request. -/
def Shape.ofRequest (query : String) (filters : Filters) : Shape where
  mode := let predicate := Query.Predicate.ofQuery query.toList
    if predicate.isEmpty then none else some predicate.mode
  startDate := filters.startDate.isSome
  endDate := filters.endDate.isSome
  cameras := !filters.cameraIds.isEmpty
  severity := !filters.severity.isEmpty
  objectTypes := filters.objectTypes.toList.countP fun name => !Text.isBlankText name.toList
  reviewed := filters.reviewed.isSome

/-- The plan of a shape. Its values are left blank. -/
def Shape.plan (s : Shape) : Plan where
  text := s.mode.map blankText
  settings := ⟨"", .zero⟩
  conditions :=
    (if s.startDate then [.startedAtOrAfter ⟨0⟩] else []) ++ (if s.endDate then [.startedBefore ⟨0⟩] else [])
      ++ (if s.cameras then [.cameraIn []] else []) ++ (if s.severity then [.severityIn []] else [])
      ++ Filters.onList .objectTypeMatchesAny (List.replicate s.objectTypes "")
      ++ (if s.reviewed then [.reviewed false] else [])

theorem mode_ofRequest (settings : Settings) (query : String) (filters : Filters) :
    (Plan.ofRequest settings query filters).mode = (Shape.ofRequest query filters).mode := by
  rw [Plan.mode, Plan.ofRequest, TextMatch.ofPredicate?, Shape.ofRequest]
  split
  · next h => simp [h]
  · next h => simp [h]

theorem length_objectTypePatterns (filters : Filters) :
    filters.objectTypePatterns.length = filters.objectTypes.toList.countP fun name => !Text.isBlankText name.toList := by
  rw [Filters.objectTypePatterns, List.length_filterMap_eq_countP]
  refine List.countP_congr fun name _ => ?_
  rw [Filters.objectTypePattern?]
  split
  · next h => simp [Text.trim_eq_nil_iff.mp h]
  · next h =>
    have hne : Text.isBlankText name.toList ≠ true := fun hb => h (Text.trim_of_blank hb)
    simp [hne]

theorem blank_onList (condition : List String → Condition) (blanked : Condition)
    (h : ∀ xs, blankCondition (condition xs) = blanked) (xs : List String) :
    (Filters.onList condition xs).map blankCondition = if !xs.isEmpty then [blanked] else [] := by
  cases xs <;> simp [Filters.onList, h]

/-- Without its values, the plan of a request is that of its shape. -/
theorem blank_ofRequest (settings : Settings) (query : String) (filters : Filters) :
    (Plan.ofRequest settings query filters).blank = (Shape.ofRequest query filters).plan := by
  have hoption : ∀ {α : Type} (condition : α → Condition) (blanked : Condition),
      (∀ a, blankCondition (condition a) = blanked) → ∀ o : Option α,
      (o.toList.map condition).map blankCondition = if o.isSome then [blanked] else [] := by
    intro α condition blanked h o
    cases o <;> simp [h]
  have htypes : (Filters.onList .objectTypeMatchesAny filters.objectTypePatterns).map blankCondition =
      Filters.onList .objectTypeMatchesAny (List.replicate (Shape.ofRequest query filters).objectTypes "") := by
    rw [Shape.ofRequest, ← length_objectTypePatterns]
    cases filters.objectTypePatterns <;> rfl
  rw [Plan.blank, mode_ofRequest, Shape.plan]
  simp only [Plan.ofRequest, Filters.conditions, List.map_append, htypes,
    hoption .startedAtOrAfter (.startedAtOrAfter ⟨0⟩) fun _ => rfl,
    hoption .startedBefore (.startedBefore ⟨0⟩) fun _ => rfl, hoption .reviewed (.reviewed false) fun _ => rfl,
    blank_onList .cameraIn (.cameraIn []) fun _ => rfl, blank_onList .severityIn (.severityIn []) fun _ => rfl]
  rfl

/-- The placeholders of both statements are numbered from left to right, one for each value and no other `$` beside
    them; and the texts of the statements are those of every request of the same shape, whatever its values are. -/
theorem text_of_shape (settings : Settings) (query : String) (filters : Filters) (limit offset : UInt32) :
    let plan := Plan.ofRequest settings query filters
    (∀ s ∈ [countStatement plan, pageStatement plan limit offset],
      Sql.placeholders s.sql.toList = List.range' 1 s.params.length ∧ s.sql.toList.count '$' = s.params.length) ∧
    ∀ (settings' : Settings) (query' : String) (filters' : Filters) (limit' offset' : UInt32),
      Shape.ofRequest query' filters' = Shape.ofRequest query filters →
      let plan' := Plan.ofRequest settings' query' filters'
      (countStatement plan').sql = (countStatement plan).sql ∧
        (pageStatement plan' limit' offset').sql = (pageStatement plan limit offset).sql := by
  intro plan
  have hnumbered : ∀ {pieces : List Piece}, Parted pieces →
      Sql.placeholders (Sql.Statement.ofPieces pieces).sql.toList =
          List.range' 1 (Sql.Statement.ofPieces pieces).params.length ∧
        (Sql.Statement.ofPieces pieces).sql.toList.count '$' = (Sql.Statement.ofPieces pieces).params.length := by
    intro pieces h
    rw [Sql.Statement.ofPieces, String.toList_ofList]
    exact ⟨Sql.placeholders_renderFrom h 1, Sql.count_dollar_renderFrom h 1⟩
  constructor
  · intro s hs
    rcases List.mem_pair.mp hs with rfl | rfl
    · exact hnumbered (parted_countPieces plan)
    · exact hnumbered (parted_pagePieces plan limit offset)
  · intro settings' query' filters' limit' offset' hshape plan'
    -- A blank plan depends on the shape only, and no value is part of a text.
    have hblank : plan'.blank = plan.blank := by
      rw [blank_ofRequest, blank_ofRequest, hshape]
    constructor
    · rw [← sql_countStatement_blank plan', hblank, sql_countStatement_blank]
    · rw [← sql_pageStatement_blank plan' limit' offset', hblank, sql_pageStatement_blank]

/-- A query and filters that try to become part of the statement have the statements of harmless ones. -/
theorem text_of_hostile_request :
    let hostile := Plan.ofRequest ⟨"'; --", .one⟩ "x') OR $9 --" (.ofChoices [.camera "$1", .objectType "%' OR 1=1 --"])
    let harmless := Plan.ofRequest ⟨"english", .zero⟩ "red car" (.ofChoices [.objectType "dog", .camera "b", .camera "a"])
    (countStatement hostile).sql = (countStatement harmless).sql ∧
      (pageStatement hostile 20 40).sql = (pageStatement harmless 5 0).sql :=
  (text_of_shape ⟨"english", .zero⟩ "red car" (.ofChoices [.objectType "dog", .camera "b", .camera "a"]) 5 0).2
    ⟨"'; --", .one⟩ "x') OR $9 --" (.ofChoices [.camera "$1", .objectType "%' OR 1=1 --"]) 20 40 (by decide +kernel)

end Lookout.Search

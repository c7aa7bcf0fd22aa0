import Lookout.Proofs.Sql.Clause
import Lookout.Proofs.Text.Words

/-! Statements that select events, read: what they return, the index query that joins their source, their
    condition, and the order and bounds of a page. The parts are found by the words before them, each of
    which stands in a statement once. -/

namespace Lookout.Sql

/-- An index query that joins the source: the function that reads it, and what this is given. -/
structure Call (β : Type) where
  function : String
  config : β
  text : β
  deriving Repr, DecidableEq

/-- How the score of a row comes about. -/
inductive Score (β : Type) where
  | zero
  /-- The rank of the vector times a number, but no more than 1. A missing rank counts as zero. -/
  | scaled (scale : β)
  deriving Repr, DecidableEq

/-- What a statement returns. -/
inductive Output (β : Type) where
  /-- The number of rows. -/
  | count
  /-- Some of the rows in descending order of the keys. Their columns come under these names. -/
  | page (columns : List (String × String)) (score : Score β) (order : List String) (limit offset : β)
  deriving Repr, DecidableEq

/-- A statement, read. Its values are of the type `β`. -/
structure Select (β : Type) where
  output : Output β
  call : Option (Call β)
  condition : Formula β
  deriving Repr, DecidableEq

/-! ### Reading -/

/-- The source of a search: the events with their cameras. -/
def sourceTokens : List String := ["events", "e", "JOIN", "cameras", "c", "ON", "c.camera_id", "=", "e.camera_id"]

/-- The call of some tokens. There need not be one. -/
def Call.read? : List String → Option (Option (Call Nat))
  | [] => some none
  | ["CROSS", "JOIN", function, "(", config, "::", "regconfig", ",", text, ")", "AS", "q", "(", "tsq", ")"] =>
    (placeholder? config.toList).bind fun c => (placeholder? text.toList).map fun t => some ⟨function, c, t⟩
  | _ => none

/-- The tables from which a statement selects, and the call next to them. -/
def source? (ts : List String) : Option (Option (Call Nat)) := (sourceTokens.isPrefixOf? ts).bind Call.read?

theorem source?_append (rest : List String) : source? (sourceTokens ++ rest) = Call.read? rest := by
  simp [source?, sourceTokens, List.isPrefixOf?]

/-- The score of some tokens. -/
def Score.read? : List String → Option (Score Nat)
  | ["0.0", "::", "float8", "AS", "relevance_score"] => some .zero
  | ["LEAST", "(", "COALESCE", "(", "ts_rank", "(", "e.search_vector", ",", "q.tsq", ")", ",", "0", ")", "::", "float8",
      "*", scale, ",", "1.0", "::", "float8", ")", "AS", "relevance_score"] =>
    (placeholder? scale.toList).map .scaled
  | _ => none

/-- The name of a column without that of its table. -/
def unqualified (column : String) : String := String.ofList ((column.toList.dropWhile (· != '.')).drop 1)

/-- The columns with their names, and behind them the score. -/
def columns? : List String → Option (List (String × String) × Score Nat)
  | column :: "," :: rest =>
    if isQualified column then (columns? rest).map fun r => ((column, unqualified column) :: r.1, r.2) else none
  | column :: "AS" :: name :: "," :: rest =>
    if isQualified column then (columns? rest).map fun r => ((column, name) :: r.1, r.2) else none
  | ts => (Score.read? ts).map ([], ·)

/-- A key of a descending order, from the tokens between two commas. -/
def key? : List String → Option String
  | [key, "DESC"] => some key
  | _ => none

/-- What a page returns, from the tokens of its columns, its order and its bounds. -/
def Output.ofPage? (columns order bounds : List String) : Option (Output Nat) := do
  let (columns, score) ← columns? columns
  let order ← (Text.cut (· == ",") order).mapM key?
  match bounds with
  | [limit, "OFFSET", offset] =>
    return .page columns score order (← placeholder? limit.toList) (← placeholder? offset.toList)
  | _ => none

/-- What a statement returns, from what stands before its source and behind its condition. -/
def Output.read? : List String → List (List String) → Option (Output Nat)
  | ["SELECT", "COUNT", "(", "*", ")"], [] => some .count
  | "SELECT" :: columns, ["BY" :: rest] =>
    match Text.cut (· == "LIMIT") rest with
    | [order, bounds] => ofPage? columns order bounds
    | _ => none
  | _, _ => none

namespace Select

/-- The selection of some tokens, cut at the words that start its parts. -/
def ofTokens? (ts : List String) : Option (Select Nat) :=
  match Text.cut (· == "FROM") ts with
  | [returned, rest] =>
    match Text.cut (· == "WHERE") rest with
    | [source, rest] =>
      match Text.cut (· == "ORDER") rest with
      | condition :: behind => do
        return ⟨← Output.read? returned behind, ← source? source, ← Formula.operators.read? condition⟩
      | [] => none
    | _ => none
  | _ => none

/-- What a text selects. -/
def read? (s : List Char) : Option (Select Nat) := ofTokens? (tokens s)

end Select

/-! ### Values -/

/-- A call with its values in the place of their numbers. -/
def Call.bind? (params : List Param) (c : Call Nat) : Option (Call Param) :=
  (valueAt? params c.config).bind fun config => (valueAt? params c.text).map fun text => ⟨c.function, config, text⟩

/-- A score with its value in the place of its number. -/
def Score.bind? (params : List Param) : Score Nat → Option (Score Param)
  | .zero => some .zero
  | .scaled scale => (valueAt? params scale).map .scaled

/-- What is returned, with the values in the place of their numbers. -/
def Output.bind? (params : List Param) : Output Nat → Option (Output Param)
  | .count => some .count
  | .page columns score order limit offset =>
    (score.bind? params).bind fun score => (valueAt? params limit).bind fun limit =>
      (valueAt? params offset).map fun offset => .page columns score order limit offset

/-- The index query, if there is one, with its values. -/
def bindCall? (params : List Param) : Option (Call Nat) → Option (Option (Call Param))
  | none => some none
  | some c => (c.bind? params).map some

/-- A selection with its values in the place of their numbers. -/
def Select.bind? (params : List Param) (s : Select Nat) : Option (Select Param) :=
  (s.output.bind? params).bind fun output => (bindCall? params s.call).bind fun call =>
    (s.condition.bind? params).map fun condition => ⟨output, call, condition⟩

/-! ### The words between the parts -/

/-- The words before the parts of a statement. -/
def partWords : List String := ["FROM", "WHERE", "ORDER", "LIMIT"]

theorem notMem_partWords {t : String} (h : isQualified t = true ∨ ∃ k, placeholder? t.toList = some k) :
    t ∉ partWords := by
  have htable : ∀ s ∈ partWords, isQualified s = false ∧ placeholder? s.toList = none := by decide
  intro hmem
  rcases h with hq | ⟨k, hk⟩
  · exact Bool.false_ne_true ((htable t hmem).1.symm.trans hq)
  · rw [(htable t hmem).2] at hk
    cases hk

/-- No word between the parts stands in a condition. -/
theorem notMem_of_sentence {ts : List String} {f : Formula Nat} (h : Formula.operators.Sentence ts f) :
    ∀ word ∈ partWords, word ∉ ts := by
  have hsigns : ∀ t ∈ "(" :: ")" :: Formula.operators.binary.map Prod.fst, t ∉ partWords := by decide
  have hatoms : ∀ {ts f}, Formula.atom? ts = some f → ∀ t ∈ ts, t ∉ partWords := by
    intro ts f hf
    rcases Formula.atom?_eq_some hf with rfl | ⟨column, rest, hc, rfl, hrest⟩
    · decide
    · refine List.forall_mem_cons.mpr ⟨notMem_partWords (.inl hc), ?_⟩
      rcases hrest with rfl | ⟨query, hq, rfl⟩ | ⟨r, value, k, hk, rfl⟩
      · decide
      · simpa [partWords] using notMem_partWords (.inl hq)
      · have hvalue := notMem_partWords (.inr ⟨k, hk⟩)
        cases r <;> simpa [Comparison.tokens, partWords] using hvalue
  have hunary : ∀ {t f}, Formula.operators.unary? t = some f → t ∉ partWords := fun {t f} ht => by
    simp only [Formula.operators, Option.ite_none_right_eq_some] at ht
    rw [ht.1]
    decide
  exact fun word hword hmem => h.forall_mem hsigns hunary hatoms List.suffix_rfl word hmem hword

theorem cut_at_word {before behind : List String} {word : String} (h : word ∉ before) (hbehind : word ∉ behind) :
    Text.cut (· == word) (before ++ word :: behind) = [before, behind] := by
  have hfalse : ∀ {ts : List String}, word ∉ ts → ∀ t ∈ ts, (t == word) = false := fun hts t ht =>
    beq_eq_false_iff_ne.mpr fun he => hts (he ▸ ht)
  rw [Text.cut_append_cons (hfalse h) (beq_self_eq_true word), Text.cut_of_forall (hfalse hbehind)]

/-- A statement is read from its parts. -/
theorem Select.ofTokens?_eq {returned source condition ending : List String} {behind : List (List String)}
    {output : Output Nat} {call : Option (Call Nat)} {f : Formula Nat}
    (hreturned : "FROM" ∉ returned) (hsource : "FROM" ∉ source ∧ "WHERE" ∉ source)
    (hcondition : Formula.operators.Sentence condition f) (hending : "FROM" ∉ ending ∧ "WHERE" ∉ ending)
    (hbehind : Text.cut (· == "ORDER") (condition ++ ending) = condition :: behind)
    (houtput : Output.read? returned behind = some output) (hcall : source? source = some call) :
    ofTokens? (returned ++ "FROM" :: (source ++ "WHERE" :: (condition ++ ending))) = some ⟨output, call, f⟩ := by
  have hwords := notMem_of_sentence hcondition
  have hfrom : "FROM" ∉ source ++ "WHERE" :: (condition ++ ending) := by
    simp [hsource.1, hwords "FROM" (by decide), hending.1]
  have hwhere : "WHERE" ∉ condition ++ ending := by
    simp [hwords "WHERE" (by decide), hending.2]
  have hread : Formula.operators.read? condition = some f :=
    (Text.Operators.sentence_iff_read? Formula.operators_lawful).mp hcondition
  simp only [ofTokens?, cut_at_word hreturned hfrom, cut_at_word hsource.2 hwhere, hbehind, houtput, hcall, hread]
  rfl

end Lookout.Sql

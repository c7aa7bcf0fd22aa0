import Lookout.Proofs.Like
import Lookout.Proofs.Sql.Lexemes
import Lookout.Proofs.Text.Operators
import Lookout.Sql.Reply

/-! Conditions of statements: their grammar, and their value in a row. `NOT` binds tightest, then `AND` and `OR`,
    and there are parentheses. A condition is true, false or unknown, and a row is selected if it is true
    there; a condition whose types do not agree has no value. Last, what pieces write: a condition that is
    read in their text, and whose placeholders stand for their values. -/

namespace Lookout.Sql

/-- How a column is compared with a value. -/
inductive Comparison where
  | atLeast
  | below
  | equal
  /-- The column equals a member of the value. -/
  | among
  /-- The column is like the value in any case, with a backslash as the escape character. -/
  | like
  deriving Repr, DecidableEq

/-- How two conditions are joined. -/
inductive Connective where
  | and
  | or
  deriving Repr, DecidableEq

/-- A condition, read. Its values are of the type `β`: the numbers of placeholders, or what these stand for. -/
inductive Formula (β : Type) where
  | truth
  | isNull (column : String)
  /-- The vector in a column is found by an index query. -/
  | finds (column query : String)
  | compare (r : Comparison) (column : String) (value : β)
  | neg (f : Formula β)
  | join (c : Connective) (f g : Formula β)
  deriving Repr, DecidableEq

/-! ### Grammar -/

/-- The tokens of a text. -/
def tokens (s : List Char) : List String := (Text.lexemes glues s).map String.ofList

/-- The token is the name of a column behind that of its table. -/
def isQualified (t : String) : Bool := t.toList.head?.any Char.isAlpha && t.toList.contains '.'

namespace Comparison

/-- The tokens of a comparison behind its column. -/
def tokens (value : String) : Comparison → List String
  | .atLeast => [">=", value]
  | .below => ["<", value]
  | .equal => ["=", value]
  | .among => ["=", "ANY", "(", value, ")"]
  | .like => ["ILIKE", value, "ESCAPE", "'\\'"]

/-- The comparison of some tokens, with the number of its placeholder. -/
def read? : List String → Option (Comparison × Nat)
  | [">=", value] => (placeholder? value.toList).map (.atLeast, ·)
  | ["<", value] => (placeholder? value.toList).map (.below, ·)
  | ["=", value] => (placeholder? value.toList).map (.equal, ·)
  | ["=", "ANY", "(", value, ")"] => (placeholder? value.toList).map (.among, ·)
  | ["ILIKE", value, "ESCAPE", "'\\'"] => (placeholder? value.toList).map (.like, ·)
  | _ => none

end Comparison

namespace Formula

/-- The reading of a condition without connectives. -/
def atom? : List String → Option (Formula Nat)
  | ["TRUE"] => some .truth
  | [column, "IS", "NULL"] => if isQualified column then some (.isNull column) else none
  | [column, "@@", query] => if isQualified column && isQualified query then some (.finds column query) else none
  | column :: rest =>
    if isQualified column then (Comparison.read? rest).map fun r => .compare r.1 column r.2 else none
  | [] => none

/-- The operators of conditions, from the loosest to the tightest. -/
def operators : Text.Operators String (Formula Nat) where
  opening := "("
  closing := ")"
  binary := [("OR", .join .or), ("AND", .join .and)]
  unary? t := if t = "NOT" then some .neg else none
  atom? := atom?

/-- The text is a condition, which reads as `f`. -/
def Sentence (s : List Char) (f : Formula Nat) : Prop := operators.Sentence (tokens s) f

end Formula

theorem Comparison.eq_tokens_of_read? {ts : List String} {r : Comparison} {k : Nat}
    (h : Comparison.read? ts = some (r, k)) : ∃ value, ts = r.tokens value ∧ placeholder? value.toList = some k := by
  unfold Comparison.read? at h
  split at h
  all_goals try cases h
  all_goals
    obtain ⟨j, hj, he⟩ := Option.map_eq_some_iff.mp h
    obtain ⟨rfl, rfl⟩ := Prod.mk.inj he
    exact ⟨_, rfl, hj⟩

theorem Comparison.read?_tokens (r : Comparison) {value : String} {k : Nat} (h : placeholder? value.toList = some k) :
    Comparison.read? (r.tokens value) = some (r, k) := by
  cases r <;> simp [Comparison.read?, Comparison.tokens, h]

namespace Formula

/-- The shapes of a condition without connectives. -/
theorem atom?_eq_some {ts : List String} {f : Formula Nat} (h : atom? ts = some f) :
    ts = ["TRUE"] ∨ ∃ column rest, isQualified column = true ∧ ts = column :: rest ∧
      (rest = ["IS", "NULL"] ∨ (∃ query, isQualified query = true ∧ rest = ["@@", query]) ∨
        ∃ r value k, placeholder? value.toList = some k ∧ rest = Comparison.tokens value r) := by
  unfold atom? at h
  split at h
  · exact .inl rfl
  · next column =>
    split at h
    · next hq => exact .inr ⟨column, _, hq, rfl, .inl rfl⟩
    · cases h
  · next column query =>
    split at h
    · next hq =>
      obtain ⟨hc, hq⟩ := (Bool.and_eq_true _ _).mp hq
      exact .inr ⟨column, _, hc, rfl, .inr (.inl ⟨query, hq, rfl⟩)⟩
    · cases h
  · next column rest _ _ _ =>
    split at h
    · next hq =>
      obtain ⟨⟨r, k⟩, hr, -⟩ := Option.map_eq_some_iff.mp h
      obtain ⟨value, hvalue, hk⟩ := Comparison.eq_tokens_of_read? hr
      exact .inr ⟨column, rest, hq, rfl, .inr (.inr ⟨r, value, k, hk, hvalue⟩)⟩
    · cases h
  · cases h

theorem atom?_comparison (r : Comparison) {column value : String} {k : Nat} (hcolumn : isQualified column = true)
    (hvalue : placeholder? value.toList = some k) :
    atom? (column :: r.tokens value) = some (.compare r column k) := by
  have hread := Comparison.read?_tokens r hvalue
  cases r <;> simp_all [atom?, Comparison.tokens]

/-- The tokens that belong to the grammar and are no part of an atom. -/
def signs : List String := ["(", ")", "OR", "AND", "NOT"]

theorem notMem_signs_of_isQualified {t : String} (h : isQualified t = true) : t ∉ signs := by
  have htable : ∀ s ∈ signs, isQualified s = false := by decide
  exact fun hmem => Bool.false_ne_true ((htable t hmem).symm.trans h)

theorem notMem_signs_of_placeholder? {t : String} {k : Nat} (h : placeholder? t.toList = some k) : t ∉ signs := by
  have htable : ∀ s ∈ signs, placeholder? s.toList = none := by decide
  exact fun hmem => by
    rw [htable t hmem] at h
    cases h

theorem depth_of_notMem {t : String} (h : t ∉ signs) (d : Nat) : operators.depth d t = d := by
  simp only [signs, List.mem_cons, not_or] at h
  exact Text.Operators.depth_of_ne h.1 h.2.1

/-- The tokens of a comparison close their parentheses and hold no connective. -/
theorem nest_comparison (r : Comparison) {value : String} (h : value ∉ signs) (d : Nat) :
    operators.nest d (r.tokens value) = d := by
  have hfixed : ∀ t ∈ [">=", "<", "=", "ANY", "ILIKE", "ESCAPE", "'\\'"], t ∉ signs := by decide
  have hopening : operators.depth d "(" = d + 1 := Text.Operators.depth_opening
  have hclosing : operators.depth (d + 1) ")" = d := rfl
  cases r <;>
    simp [Comparison.tokens, Text.Operators.nest, depth_of_notMem h, depth_of_notMem (hfixed _ _), hopening, hclosing]

theorem connective_notMem_comparison (r : Comparison) {value op : String} (h : value ∉ signs)
    (hop : op ∈ operators.binary.map Prod.fst) : op ∉ r.tokens value := by
  have hop : op = "OR" ∨ op = "AND" := by simpa [operators] using hop
  have hvalue : op ≠ value := by
    rintro rfl
    rcases hop with rfl | rfl <;> simp [signs] at h
  rcases hop with rfl | rfl <;> cases r <;> simp [Comparison.tokens, hvalue]

theorem operators_lawful : operators.Lawful := by
  refine ⟨by decide, fun {t f} h => ?_, fun {ts f} h => ?_, fun {ts f} h d => ?_, fun {ts f} h op hop => ?_⟩
  · simp only [operators, Option.ite_none_right_eq_some] at h
    rw [h.1]
    decide
  · rcases atom?_eq_some h with rfl | ⟨column, rest, hc, rfl, -⟩
    · exact ⟨"TRUE", [], rfl, by decide, rfl⟩
    · have hc := notMem_signs_of_isQualified hc
      simp only [signs, List.mem_cons, not_or] at hc
      exact ⟨column, rest, rfl, hc.1, if_neg hc.2.2.2.2.1⟩
  · rcases atom?_eq_some h with rfl | ⟨column, rest, hc, rfl, hrest⟩
    · rfl
    · rw [Text.Operators.nest_cons, depth_of_notMem (notMem_signs_of_isQualified hc)]
      rcases hrest with rfl | ⟨query, hq, rfl⟩ | ⟨r, value, k, hk, rfl⟩
      · rfl
      · have hsign : operators.depth d "@@" = d := rfl
        rw [Text.Operators.nest_cons, hsign, Text.Operators.nest_cons,
          depth_of_notMem (notMem_signs_of_isQualified hq)]
        rfl
      · exact nest_comparison r (notMem_signs_of_placeholder? hk) d
  -- No column, value or word of an atom is a connective.
  · have hsign : op ∈ signs := by
      simp only [operators, List.map_cons, List.map_nil, List.mem_cons, List.not_mem_nil, or_false] at hop
      rcases hop with rfl | rfl <;> decide
    have hne : ∀ {t}, t ∉ signs → op ≠ t := fun ht he => ht (he ▸ hsign)
    rcases atom?_eq_some h with rfl | ⟨column, rest, hc, rfl, hrest⟩
    · simpa using hne (t := "TRUE") (by decide)
    · refine List.not_mem_cons_of_ne_of_not_mem (hne (notMem_signs_of_isQualified hc)) ?_
      rcases hrest with rfl | ⟨query, hq, rfl⟩ | ⟨r, value, k, hk, rfl⟩
      · simp [hne (t := "IS") (by decide), hne (t := "NULL") (by decide)]
      · simp [hne (t := "@@") (by decide), hne (notMem_signs_of_isQualified hq)]
      · exact connective_notMem_comparison r (notMem_signs_of_placeholder? hk) hop

theorem Sentence.unique {s : List Char} {f g : Formula Nat} (hf : Sentence s f) (hg : Sentence s g) : f = g :=
  Option.some.inj (((Text.Operators.sentence_iff_read? operators_lawful).mp hf).symm.trans
    ((Text.Operators.sentence_iff_read? operators_lawful).mp hg))

end Formula

/-! ### Values -/

/-- The value of a condition: true, false, or unknown. -/
abbrev Truth := Option Bool

namespace Truth

/-- Whether both hold. One that is false decides, whatever the other one is. -/
def and : Truth → Truth → Truth
  | some false, _ => some false
  | _, some false => some false
  | some true, b => b
  | none, _ => none

/-- Whether one of them holds. One that is true decides, whatever the other one is. -/
def or : Truth → Truth → Truth
  | some true, _ => some true
  | _, some true => some true
  | some false, b => b
  | none, _ => none

/-- Whether it does not hold. -/
def not (a : Truth) : Truth := Option.map (!·) a

theorem and_eq_true {a b : Truth} : a.and b = some true ↔ a = some true ∧ b = some true := by
  rcases a with _ | _ | _ <;> rcases b with _ | _ | _ <;> simp [and]

theorem or_eq_true {a b : Truth} : a.or b = some true ↔ a = some true ∨ b = some true := by
  rcases a with _ | _ | _ <;> rcases b with _ | _ | _ <;> simp [or]

end Truth

/-- The truth of two joined conditions. -/
def Connective.apply : Connective → Truth → Truth → Truth
  | .and => Truth.and
  | .or => Truth.or

/-- What a column holds: a value, or a vector of the text index, which may be null too. -/
inductive Datum (ν : Type) where
  | cell (c : Cell)
  | vector (v : Option ν)

/-- The column holds nothing. -/
def Datum.isNull {ν : Type} : Datum ν → Bool
  | .cell c => c == .null
  | .vector v => v.isNone

/-- What the names of a condition stand for in a row. The vectors are of the type `ν`, the index queries of `κ`. -/
structure Scope (ν κ : Type) where
  column? : String → Option (Datum ν)
  query? : String → Option κ
  /-- The vector is found by the index query. -/
  finds : ν → κ → Bool
  folding : Like.Folding

/-- Whether a comparison of a value that is not null holds, if the types agree. -/
def Comparison.holds? (φ : Like.Folding) : Comparison → Cell → Param → Option Bool
  | .atLeast, .int t, .timestamptz b => some (b ≤ t)
  | .below, .int t, .timestamptz b => some (t < b)
  | .equal, .bool x, .bool b => some (x == b)
  | .among, .text s, .textArray xs => some (xs.contains s)
  | .like, .text s, .text pattern => φ.ilike? pattern.toList s.toList
  | _, _, _ => none

/-- The value of a comparison, which is unknown if one of its sides is null. -/
def Comparison.truth? (φ : Like.Folding) (r : Comparison) : Cell → Param → Option Truth
  | .null, _ => some none
  | _, .null _ => some none
  | c, p => (r.holds? φ c p).map some

namespace Formula

/-- The condition with the values of its placeholders. -/
def bind? (params : List Param) : Formula Nat → Option (Formula Param)
  | .truth => some .truth
  | .isNull column => some (.isNull column)
  | .finds column query => some (.finds column query)
  | .compare r column k => (valueAt? params k).map (.compare r column)
  | .neg f => (f.bind? params).map .neg
  | .join c f g => (f.bind? params).bind fun f => (g.bind? params).map (.join c f)

/-- The value of a condition in a row, unless a name stands for nothing or types do not agree. -/
def truth? {ν κ : Type} (Γ : Scope ν κ) : Formula Param → Option Truth
  | .truth => some (some true)
  | .isNull column => (Γ.column? column).map fun d => some d.isNull
  | .finds column query =>
    match Γ.column? column, Γ.query? query with
    | some (.vector v), some q => some (v.map (Γ.finds · q))
    | _, _ => none
  | .compare r column p =>
    match Γ.column? column with
    | some (.cell c) => r.truth? Γ.folding c p
    | _ => none
  | .neg f => (f.truth? Γ).map Truth.not
  | .join c f g => (f.truth? Γ).bind fun a => (g.truth? Γ).map (c.apply a)

/-- The condition has a value in the row, and is true exactly if `P` holds. -/
def Decides {ν κ : Type} (Γ : Scope ν κ) (F : Formula Param) (P : Prop) : Prop :=
  ∃ t, F.truth? Γ = some t ∧ (t = some true ↔ P)

namespace Decides

variable {ν κ α : Type} {Γ : Scope ν κ} {F G : Formula Param} {P Q : Prop} {Φ : α → Formula Param} {R : α → Prop}
  {xs : List α}

theorem congr (h : Decides Γ F P) (hPQ : P ↔ Q) : Decides Γ F Q := by
  obtain ⟨t, ht, hP⟩ := h
  exact ⟨t, ht, hP.trans hPQ⟩

theorem and (hF : Decides Γ F P) (hG : Decides Γ G Q) : Decides Γ (.join .and F G) (P ∧ Q) := by
  obtain ⟨a, ha, hP⟩ := hF
  obtain ⟨b, hb, hQ⟩ := hG
  refine ⟨a.and b, ?_, by rw [Truth.and_eq_true, hP, hQ]⟩
  rw [truth?, ha, hb]
  rfl

theorem or (hF : Decides Γ F P) (hG : Decides Γ G Q) : Decides Γ (.join .or F G) (P ∨ Q) := by
  obtain ⟨a, ha, hP⟩ := hF
  obtain ⟨b, hb, hQ⟩ := hG
  refine ⟨a.or b, ?_, by rw [Truth.or_eq_true, hP, hQ]⟩
  rw [truth?, ha, hb]
  rfl

theorem all (hF : Decides Γ F P) (hxs : ∀ x ∈ xs, Decides Γ (Φ x) (R x)) :
    Decides Γ (xs.foldl (fun F x => .join .and F (Φ x)) F) (P ∧ ∀ x ∈ xs, R x) := by
  induction xs generalizing F P with
  | nil => exact hF.congr (by simp)
  | cons x xs ih =>
    obtain ⟨hx, hrest⟩ := List.forall_mem_cons.mp hxs
    exact (ih (hF.and hx) hrest).congr (by simp [and_assoc])

theorem any (hF : Decides Γ F P) (hxs : ∀ x ∈ xs, Decides Γ (Φ x) (R x)) :
    Decides Γ (xs.foldl (fun F x => .join .or F (Φ x)) F) (P ∨ ∃ x ∈ xs, R x) := by
  induction xs generalizing F P with
  | nil => exact hF.congr (by simp)
  | cons x xs ih =>
    obtain ⟨hx, hrest⟩ := List.forall_mem_cons.mp hxs
    exact (ih (hF.or hx) hrest).congr (by simp [or_assoc])

end Decides
end Formula
end Lookout.Sql

import Lookout.Proofs.Binary64.Order
import Lookout.Proofs.Search.Reading
import Lookout.Settings.Basic

/-! The score of a page, computed exactly. It stands in the statement as an expression of the rank and one value, whose
    tokens are those of the statement, and NULL goes through it by the rules of the database. With settings that pass
    the check it has a value from 0 to 1 for every rank, is 0 for a missing one, and does not fall as the rank grows. -/

namespace Lookout

namespace Sql

/-- An expression of numbers. Its bound values are of the type `β`. -/
inductive Scalar (β : Type) where
  /-- The rank of the vector of an event by the index query. -/
  | rank
  | whole (n : Nat)
  /-- A whole number with a point and a zero. -/
  | pointed (n : Nat)
  | value (v : β)
  | float8 (x : Scalar β)
  | coalesce (x y : Scalar β)
  | least (x y : Scalar β)
  | times (x y : Scalar β)
  deriving Repr, DecidableEq

namespace Scalar

/-- The tokens of an expression whose values are known by their numbers. -/
def tokens : Scalar Nat → List String
  | rank => ["ts_rank", "(", "e.search_vector", ",", "q.tsq", ")"]
  | whole n => [String.ofList (Text.decimal n)]
  | pointed n => [String.ofList (Text.decimal n ++ ['.', '0'])]
  | value k => [valueToken k]
  | float8 x => x.tokens ++ ["::", "float8"]
  | coalesce x y => ["COALESCE", "("] ++ x.tokens ++ "," :: y.tokens ++ [")"]
  | least x y => ["LEAST", "("] ++ x.tokens ++ "," :: y.tokens ++ [")"]
  | times x y => x.tokens ++ "*" :: y.tokens

/-- The exact value of an expression, none if it is NULL. The least number is that of the operands that are not NULL. -/
def exact {β : Type} (r : Option ℚ) (σ : β → Option ℚ) : Scalar β → Option ℚ
  | rank => r
  | whole n => some n
  | pointed n => some n
  | value v => σ v
  | float8 x => x.exact r σ
  | coalesce x y => (x.exact r σ).or (y.exact r σ)
  | least x y => (x.exact r σ).merge min (y.exact r σ)
  | times x y => (x.exact r σ).bind fun a => (y.exact r σ).map (a * ·)

end Scalar

/-- The expression that a score is read from. -/
def Score.scalar {β : Type} : Score β → Scalar β
  | .zero => .float8 (.pointed 0)
  | .scaled scale => .least (.times (.float8 (.coalesce .rank (.whole 0))) (.value scale)) (.float8 (.pointed 1))

/-- The number that a value is, if it is one. -/
def Param.number? : Param → Option ℚ
  | .float8 x => if x.isFinite then some x.toRat else none
  | _ => none

end Sql

namespace Search

open Sql (Param)

theorem scoreTokens_eq (text : Option TextMatch) :
    scoreTokens text = (scoreFrom text).scalar.tokens ++ ["AS", "relevance_score"] := by
  cases text <;> rfl

/-- The score stands in the statement behind the columns, with its own tokens. -/
theorem exists_tokens_score (p : Plan) (limit offset : UInt32) :
    ∃ rest, Sql.tokens (pageStatement p limit offset).sql.toList =
      "SELECT" :: (columnTokens ++ ((scoreFrom p.text).scalar.tokens ++ "AS" :: "relevance_score" :: "FROM" :: rest)) := by
  obtain ⟨rest, hrest⟩ : ∃ rest, Sql.tokensFrom ((scoreValues p.settings p.text).length + 1) (tailPieces p) =
      "FROM" :: rest := by
    rw [tailPieces, Sql.tokensFrom_append, tokensFrom_source]
    exact ⟨_, rfl⟩
  rw [tokens_pageStatement p limit offset rfl rfl, hrest, scoreTokens_eq]
  simp only [List.append_assoc, List.cons_append, List.nil_append]
  exact ⟨_, rfl⟩

/-- The exact score of an event with this rank, none standing for NULL, by the statement of a page. -/
def exactScore (p : Plan) (limit offset : UInt32) (rank : Option ℚ) : Option ℚ :=
  (scoreFrom p.text).scalar.exact rank fun k => (Sql.valueAt? (pageStatement p limit offset).params k).bind Param.number?

theorem exactScore_eq (p : Plan) (hscale : p.settings.rankScale.isFinite = true) (limit offset : UInt32)
    (rank : Option ℚ) :
    exactScore p limit offset rank =
      some (if p.text.isSome then min (rank.getD 0 * p.settings.rankScale.toRat) 1 else 0) := by
  rw [exactScore, params_pageStatement]
  cases p.text with
  | none => simp [scoreFrom, Sql.Score.scalar, Sql.Scalar.exact]
  | some t =>
    have hvalue : (Sql.valueAt? (scoreValues p.settings (some t) ++ (countStatement p).params ++
        [.int8 (Int64.ofNat limit.toNat), .int8 (Int64.ofNat offset.toNat)]) 1).bind Param.number? =
          some p.settings.rankScale.toRat := by
      simp [scoreValues, Sql.valueAt?, Param.number?, hscale]
    simp only [scoreFrom, Sql.Score.scalar, Sql.Scalar.exact, hvalue]
    cases rank <;> simp

section
variable {p : Plan} (hfinite : p.settings.rankScale.isFinite = true) (hpos : 0 < p.settings.rankScale.toRat)
  (limit offset : UInt32)
include hfinite

theorem exactScore_none : exactScore p limit offset none = some 0 := by
  rw [exactScore_eq p hfinite]
  split <;> simp

include hpos

theorem exists_exactScore {rank : Option ℚ} (h : ∀ r ∈ rank, 0 ≤ r) :
    ∃ s, exactScore p limit offset rank = some s ∧ 0 ≤ s ∧ s ≤ 1 := by
  rw [exactScore_eq p hfinite]
  refine ⟨_, rfl, ?_⟩
  have hrank : 0 ≤ rank.getD 0 := by
    cases rank with
    | none => exact le_refl 0
    | some r => exact h r rfl
  split
  · exact ⟨le_min (mul_nonneg hrank hpos.le) zero_le_one, min_le_right _ _⟩
  · exact ⟨le_refl 0, zero_le_one⟩

theorem exactScore_mono {r r' : ℚ} (hle : r ≤ r') :
    ∃ s s', exactScore p limit offset (some r) = some s ∧ exactScore p limit offset (some r') = some s' ∧ s ≤ s' := by
  rw [exactScore_eq p hfinite, exactScore_eq p hfinite]
  refine ⟨_, _, rfl, rfl, ?_⟩
  split
  · exact min_le_min_right 1 (mul_le_mul_of_nonneg_right hle hpos.le)
  · exact le_refl 0

end

end Search

theorem Settings.rankScale_pos {s : Settings} (h : s.fault? = none) :
    s.search.rankScale.isFinite = true ∧ 0 < s.search.rankScale.toRat := by
  obtain ⟨-, -, -, -, -, hfinite, hpos⟩ := fault?_eq_none.mp h
  exact ⟨hfinite, Binary64.rank_pos_iff.mp hpos⟩

end Lookout

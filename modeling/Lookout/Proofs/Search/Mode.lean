import Lookout.Proofs.Query.Joined
import Lookout.Proofs.Search.Reading

/-! The mode of a query, and what a search hands to the text index. The mode looks for operators in the text of the
    predicate. All of these were written there with the terms or between them, since a word holds none. Main
    statement: the mode tells several terms, a word to be absent and a phrase of several words from all other queries,
    and it decides which function the statements of a search call, and with which text. -/

namespace Lookout

theorem Text.contains_iff_infix {part s : List Char} : Text.contains part s = true ↔ part <:+: s := by
  induction s with
  | nil => simp [Text.contains]
  | cons c s ih => rw [Text.contains, Bool.or_eq_true, List.isPrefixOf_iff_prefix, ih, List.infix_cons_iff]

namespace Query

/-! ### Operators in a text -/

theorem MatchMode.hasOperator_iff {s : List Char} :
    hasOperator s = true ↔ "<->".toList <:+: s ∨ '&' ∈ s ∨ '|' ∈ s ∨ '!' ∈ s := by
  rw [hasOperator, Bool.or_eq_true, Text.contains_iff_infix, List.any_eq_true]
  simp only [Bool.or_eq_true, beq_iff_eq, or_assoc, and_or_left, exists_or, exists_eq_right]

theorem MatchMode.hasOperator_eq_false {s : List Char} (h : ∀ c ∈ ['<', '&', '|', '!'], c ∉ s) :
    hasOperator s = false := by
  simp only [List.forall_mem_cons, List.not_mem_nil, false_implies, implies_true, and_true] at h
  obtain ⟨hadjacent, hand, hor, hnot⟩ := h
  rw [Bool.eq_false_iff, ne_eq, hasOperator_iff]
  rintro (hpart | hmem | hmem | hmem)
  · exact hadjacent (hpart.subset (by decide))
  · exact hand hmem
  · exact hor hmem
  · exact hnot hmem

/-- The shape of a term: its kind, and the number of words of a phrase. -/
inductive Form where
  | word
  | negation
  | phrase (words : Nat)
  deriving Repr, DecidableEq

/-- The form of a term. -/
def Term.form : Term → Form
  | .word _ => .word
  | .negation _ => .negation
  | .phrase ws => .phrase ws.length

/-- A term of this form is written with an operator. -/
def Form.isCompound : Form → Bool
  | .word => false
  | .negation => true
  | .phrase n => 2 ≤ n

/-- The match mode of terms of these forms: that of plain text if there is at most one term and it is not compound. -/
def MatchMode.ofForms : List Form → MatchMode
  | [] => .implicitText
  | [f] => if f.isCompound then .explicitBoolean else .implicitText
  | _ :: _ :: _ => .explicitBoolean

theorem Term.WellFormed.hasOperator_text {t : Term} (h : t.WellFormed) :
    MatchMode.hasOperator t.text = t.form.isCompound := by
  have hfree : ∀ {w : List Char}, (∀ c ∈ w, Text.isWordChar c = true) → ∀ c ∈ ['<', '&', '|', '!'], c ∉ w := by
    intro w hw c hc hmem
    have hsigns : ['<', '&', '|', '!'].all (!Text.isWordChar ·) = true := by decide
    have hsign := List.all_eq_true.mp hsigns c hc
    rw [hw c hmem] at hsign
    cases hsign
  cases t with
  | word w => exact MatchMode.hasOperator_eq_false (hfree h.2)
  | negation w => exact MatchMode.hasOperator_iff.mpr (.inr (.inr (.inr List.mem_cons_self)))
  | phrase ws =>
    match ws, h with
    | [w], h =>
      -- Parentheses stand around the word, and these are no operators.
      refine MatchMode.hasOperator_eq_false fun c hc => ?_
      have hw := hfree (h.2 w List.mem_cons_self).2 c hc
      simp only [List.mem_cons, List.not_mem_nil, or_false] at hc
      rcases hc with rfl | rfl | rfl | rfl <;> simpa [text] using hw
    | v :: w :: ws, _ =>
      refine MatchMode.hasOperator_iff.mpr (.inl ?_)
      refine ⟨'(' :: v ++ [' '], ' ' :: " <-> ".toList.intercalate (w :: ws) ++ [')'], ?_⟩
      simp [text, List.intercalate_cons_cons]

/-- A sign stands between any two texts that are joined: `|` inside a run, and `&` between runs. -/
theorem hasOperator_join (x y : Linked (List Char)) (rest : List (Linked (List Char))) :
    MatchMode.hasOperator (join (x :: y :: rest)) = true := by
  rw [join_eq, MatchMode.hasOperator_iff]
  obtain ⟨run, groups, hruns⟩ := exists_runs_cons y rest
  rw [runs, hruns]
  split
  · cases groups with
    | nil => exact .inr (.inr (.inl (by simp [runsText, List.intercalate_cons_cons])))
    | cons g groups => exact .inr (.inl (mem_runsText _ g groups))
  · exact .inr (.inl (mem_runsText _ _ groups))

namespace Predicate

/-- The mode of a query depends on the forms of its terms only. -/
theorem mode_ofQuery (raw : List Char) :
    (ofQuery raw).mode = .ofForms ((ofQuery raw).terms.map (·.item.form)) := by
  have hwell := wellFormed_ofQuery raw
  rw [mode, MatchMode.ofPredicate, text]
  generalize (ofQuery raw).terms = terms at hwell ⊢
  rcases terms with _ | ⟨x, _ | ⟨y, rest⟩⟩
  · rfl
  · have hone : join ([x].map (·.map Term.text)) = x.item.text := List.intercalate_singleton
    rw [hone, (hwell x List.mem_cons_self).hasOperator_text]
    rfl
  · rw [List.map_cons, List.map_cons, hasOperator_join]
    rfl

variable {raw : List Char}

theorem isEmpty_ofQuery : (ofQuery raw).isEmpty = true ↔ (ofQuery raw).terms = [] := by
  rw [isEmpty, List.isEmpty_iff, text_ofQuery_eq_nil]

theorem mode_eq_explicitBoolean : (ofQuery raw).mode = .explicitBoolean ↔
    2 ≤ (ofQuery raw).terms.length ∨ (∃ w mark, (ofQuery raw).terms = [⟨.negation w, mark⟩]) ∨
      ∃ ws mark, (ofQuery raw).terms = [⟨.phrase ws, mark⟩] ∧ 2 ≤ ws.length := by
  rw [mode_ofQuery]
  match (ofQuery raw).terms with
  | [] => simp [MatchMode.ofForms]
  | [⟨.word w, mark⟩] => simp [MatchMode.ofForms, Term.form, Form.isCompound]
  | [⟨.negation w, mark⟩] => simp [MatchMode.ofForms, Term.form, Form.isCompound]
  | [⟨.phrase ws, mark⟩] =>
    by_cases hlength : 2 ≤ ws.length
    · simp [MatchMode.ofForms, Term.form, Form.isCompound, hlength]
    · simp [MatchMode.ofForms, Term.form, Form.isCompound, hlength]
  | x :: y :: rest => simp [MatchMode.ofForms]

theorem mode_eq_implicitText : (ofQuery raw).mode = .implicitText ↔
    (ofQuery raw).terms = [] ∨ (∃ w mark, (ofQuery raw).terms = [⟨.word w, mark⟩]) ∨
      ∃ w mark, (ofQuery raw).terms = [⟨.phrase [w], mark⟩] := by
  have hwell := wellFormed_ofQuery raw
  rw [mode_ofQuery]
  match (ofQuery raw).terms, hwell with
  | [], _ => simp [MatchMode.ofForms]
  | [⟨.word w, mark⟩], _ => simp [MatchMode.ofForms, Term.form, Form.isCompound]
  | [⟨.negation w, mark⟩], _ => simp [MatchMode.ofForms, Term.form, Form.isCompound]
  | [⟨.phrase ws, mark⟩], hwell =>
    have hne : ws ≠ [] := (hwell _ List.mem_cons_self).1
    match ws, hne with
    | [w], _ => simp [MatchMode.ofForms, Term.form, Form.isCompound]
    | v :: w :: ws, _ => simp [MatchMode.ofForms, Term.form, Form.isCompound]
  | x :: y :: rest, _ => simp [MatchMode.ofForms]

end Predicate
end Query

namespace Search

open Query (Predicate MatchMode)
open Sql (Call Param Select)

theorem Plan.text_ofRequest_eq_none {settings : Settings} {query : String} {filters : Filters} :
    (Plan.ofRequest settings query filters).text = none ↔ (Predicate.ofQuery query.toList).terms = [] :=
  Plan.text_eq_none.trans Predicate.isEmpty_ofQuery

theorem Plan.terms_of_text {settings : Settings} {query : String} {filters : Filters} {t : TextMatch}
    (h : (Plan.ofRequest settings query filters).text = some t) : (Predicate.ofQuery query.toList).terms ≠ [] := by
  intro hnil
  rw [Plan.text_ofRequest_eq_none.mpr hnil] at h
  cases h

/-- What a search hands to the text index: nothing without terms, and else the predicate of the query or the query as
    it was written. -/
theorem call_ofRequest (settings : Settings) (query : String) (filters : Filters) :
    let p := Predicate.ofQuery query.toList
    let handed := (Plan.ofRequest settings query filters).text.map (call settings)
    (handed = none ↔ p.terms = []) ∧
      (handed = some ⟨"to_tsquery", .text settings.textSearchConfig, .text (String.ofList p.text)⟩ ↔
        p.mode = .explicitBoolean) ∧
      (handed = some ⟨"websearch_to_tsquery", .text settings.textSearchConfig, .text query⟩ ↔
        p.terms ≠ [] ∧ p.mode = .implicitText) := by
  intro p handed
  have hnone : handed = none ↔ p.terms = [] := Option.map_eq_none_iff.trans Plan.text_ofRequest_eq_none
  by_cases hterms : p.terms = []
  · have hmode : p.mode = .implicitText := Predicate.mode_eq_implicitText.mpr (.inl hterms)
    simp [hnone.mpr hterms, hterms, hmode]
  · have htext : p.isEmpty = false := Bool.eq_false_iff.mpr (mt Predicate.isEmpty_ofQuery.mp hterms)
    have hhanded : handed = (TextMatch.ofPredicate? p query).map (call settings) := rfl
    rw [TextMatch.ofPredicate?, htext] at hhanded
    cases hmode : p.mode with
    | explicitBoolean => simp [hhanded, hmode, hterms, call, indexFunction]
    | implicitText => simp [hhanded, hmode, hterms, call, indexFunction]

/-- The mode of a query follows from the forms of its terms, whatever signs the query holds. A search has a text side
    if there are terms, and then both of its statements call one function of the text index: in the one mode with the
    predicate, and in the other one with the query as it was written. -/
theorem mode_follows_terms (settings : Settings) (query : String) (filters : Filters) (limit offset : UInt32) :
    let p := Predicate.ofQuery query.toList
    let plan := Plan.ofRequest settings query filters
    (p.mode = .explicitBoolean ↔
      2 ≤ p.terms.length ∨ (∃ w mark, p.terms = [⟨.negation w, mark⟩]) ∨
        ∃ ws mark, p.terms = [⟨.phrase ws, mark⟩] ∧ 2 ≤ ws.length) ∧
    (p.mode = .implicitText ↔
      p.terms = [] ∨ (∃ w mark, p.terms = [⟨.word w, mark⟩]) ∨ ∃ w mark, p.terms = [⟨.phrase [w], mark⟩]) ∧
    (∀ raw, (Predicate.ofQuery raw).terms.map (·.item.form) = p.terms.map (·.item.form) →
      (Predicate.ofQuery raw).mode = p.mode) ∧
    (plan.text = none ↔ p.terms = []) ∧
    ∀ s ∈ [countStatement plan, pageStatement plan limit offset],
      ∃ read bound, Select.read? s.sql.toList = some read ∧ read.bind? s.params = some bound ∧
        (bound.call = none ↔ p.terms = []) ∧
        (bound.call = some ⟨"to_tsquery", .text settings.textSearchConfig, .text (String.ofList p.text)⟩ ↔
          p.mode = .explicitBoolean) ∧
        (bound.call = some ⟨"websearch_to_tsquery", .text settings.textSearchConfig, .text query⟩ ↔
          p.terms ≠ [] ∧ p.mode = .implicitText) := by
  intro p plan
  have hcall := call_ofRequest settings query filters
  refine ⟨Predicate.mode_eq_explicitBoolean, Predicate.mode_eq_implicitText, fun raw hforms => ?_,
    Plan.text_ofRequest_eq_none, fun s hs => ?_⟩
  · rw [Predicate.mode_ofQuery, hforms, ← Predicate.mode_ofQuery]
  -- Both statements are read back, and they call the same function.
  · have hwrites := writes_ofRequest settings query filters
    rcases List.mem_pair.mp hs with rfl | rfl
    · obtain ⟨read, hread, hbound⟩ := reads_countStatement hwrites
      exact ⟨read, _, hread, hbound, hcall⟩
    · obtain ⟨read, hread, hbound⟩ := reads_pageStatement hwrites limit offset
      exact ⟨read, _, hread, hbound, hcall⟩

/-- Signs inside a quotation and behind it leave the mode of the one word that is left, and reach the text index as
    they were written. -/
theorem mode_follows_terms_signs :
    let query := "\"ca&t|s\" (<->)!"
    let count := countStatement (Plan.ofRequest ⟨"english", .one⟩ query (.ofChoices []))
    (Predicate.ofQuery "\"dog\"".toList).mode = (Predicate.ofQuery query.toList).mode ∧
      ∃ read bound, Select.read? count.sql.toList = some read ∧ read.bind? count.params = some bound ∧
        bound.call = some ⟨"websearch_to_tsquery", .text "english", .text query⟩ := by
  intro query count
  obtain ⟨-, himplicit, hforms, -, hstatements⟩ :=
    mode_follows_terms ⟨"english", .one⟩ query (.ofChoices []) 10 0
  have hterms : (Predicate.ofQuery query.toList).terms = [⟨.phrase ["cats".toList], false⟩] := by decide +kernel
  obtain ⟨read, bound, hread, hbound, -, -, hcall⟩ := hstatements count List.mem_cons_self
  refine ⟨hforms _ (by rw [hterms]; decide +kernel), read, bound, hread, hbound, hcall.mpr ⟨?_, ?_⟩⟩
  · rw [hterms]
    exact List.cons_ne_nil _ _
  · exact himplicit.mpr (.inr (.inr ⟨_, _, hterms⟩))

end Search
end Lookout

import Lookout.Proofs.Query.IndexQuery
import Lookout.Proofs.Query.Items

/-! What a query means. Its terms fall into runs, the longest ones with an OR between any two neighbours, and
    it asks for one term of each run. Main statement: the predicate of a query is empty if the query has no
    term, and else it is a sentence of the text index that means the same. -/

namespace Lookout.Query

namespace Term

/-- The value of a term, when `σ` gives the values of words and of phrases of several words. -/
def holds (σ : List (List Char) → Bool) : Term → Bool
  | .word w => σ [w]
  | .negation w => !σ [w]
  | .phrase ws => σ ws

/-- The words of the term are runs of word characters, and there is one. -/
def WellFormed : Term → Prop
  | .word w => w ≠ [] ∧ ∀ c ∈ w, Text.isWordChar c = true
  | .negation w => w ≠ [] ∧ ∀ c ∈ w, Text.isWordChar c = true
  | .phrase ws => ws ≠ [] ∧ ∀ w ∈ ws, w ≠ [] ∧ ∀ c ∈ w, Text.isWordChar c = true

/-- The index query of a term. -/
def query : Term → IndexQuery
  | .word w => .word w
  | .negation w => .absent (.word w)
  | .phrase ws => .ofPhrase ws

theorem WellFormed.operand {t : Term} (h : t.WellFormed) : IndexQuery.Operand t.text t.query := by
  cases t with
  | word w => exact IndexQuery.operand_word h.1 h.2
  | negation w => exact IndexQuery.operand_absent (IndexQuery.operand_word h.1 h.2)
  | phrase ws => exact IndexQuery.operand_phrase h.1 h.2

theorem WellFormed.holds?_query {t : Term} (h : t.WellFormed) (σ : List (List Char) → Bool) :
    t.query.holds? σ = some (t.holds σ) := by
  cases t with
  | word w => rfl
  | negation w => rfl
  | phrase ws => exact IndexQuery.holds?_of_words? (IndexQuery.words?_ofPhrase h.1)

end Term

theorem Item.wellFormed_of_term? {previous : Option Item} {x : Item} {t : Term} (h : x.term? previous = some t) :
    t.WellFormed := by
  have hchars : ∀ {w : List Char}, w.any Text.isWordChar = true →
      Text.wordChars w ≠ [] ∧ ∀ c ∈ Text.wordChars w, Text.isWordChar c = true := fun hw =>
    ⟨wordChars_ne_nil.mpr hw, fun c hc => Text.isWordChar_of_mem_wordChars hc⟩
  cases x with
  | quotation content =>
    rw [Item.term?_quotation, Option.ite_none_right_eq_some] at h
    obtain ⟨hc, ht⟩ := h
    obtain rfl := Option.some.inj ht
    refine ⟨phraseWords_ne_nil.mpr hc, fun w hw => ?_⟩
    obtain ⟨hmem, hne⟩ := List.mem_filter.mp hw
    obtain ⟨v, -, rfl⟩ := List.mem_map.mp hmem
    exact ⟨by simpa using hne, fun c hc => Text.isWordChar_of_mem_wordChars hc⟩
  | token w =>
    rw [Item.term?_token] at h
    split at h
    · cases h
    split at h
    · cases h
    next hw =>
    have hw : w.any Text.isWordChar = true := by simpa using hw
    split at h <;> obtain rfl := Option.some.inj h <;> exact hchars hw

theorem wellFormed_of_mem_placedTerms (before : Option Item) (items : List Item) {e : Nat × Term}
    (h : e ∈ placedTerms before items) : e.2.WellFormed := by
  obtain ⟨i, -, hi⟩ := List.mem_filterMap.mp h
  obtain ⟨t, ht, rfl⟩ := Option.map_eq_some_iff.mp hi
  obtain ⟨x, -, hx⟩ := Option.bind_eq_some_iff.mp ht
  exact Item.wellFormed_of_term? hx

/-! ### Runs -/

theorem splitBy_cons_cons {α : Type} (r : α → α → Bool) (a b : α) (l : List α) :
    (a :: b :: l).splitBy r =
      if r a b then ((b :: l).splitBy r).modifyHead (a :: ·) else [a] :: (b :: l).splitBy r := by
  by_cases h : r a b = true
  · rw [if_pos h]
    obtain ⟨g, gs, hg⟩ := List.exists_cons_of_ne_nil (List.splitBy_ne_nil (r := r).mpr (List.cons_ne_nil b l))
    obtain ⟨hflat, hne, hchain, hseams⟩ := List.splitBy_eq_iff.mp hg
    obtain ⟨c, g, rfl⟩ := List.exists_cons_of_ne_nil fun hnil => hne (hnil ▸ List.mem_cons_self)
    obtain ⟨rfl, -⟩ := List.cons.inj hflat
    rw [hg, List.modifyHead_cons, List.splitBy_eq_iff]
    refine ⟨by rw [hflat]; rfl, by simpa using hne, fun m hm => ?_, ?_⟩
    · rcases List.mem_cons.mp hm with rfl | hm
      · exact List.isChain_cons_cons.mpr ⟨h, hchain _ List.mem_cons_self⟩
      · exact hchain m (List.mem_cons_of_mem _ hm)
    · cases gs with
      | nil => exact List.isChain_singleton _
      | cons g' gs =>
        obtain ⟨⟨_, hb, hseam⟩, hrest⟩ := List.isChain_cons_cons.mp hseams
        refine List.isChain_cons_cons.mpr ⟨⟨List.cons_ne_nil _ _, hb, ?_⟩, hrest⟩
        rwa [List.getLast_cons_cons]
  -- The first element stays alone, since it does not belong with the second.
  · rw [if_neg h]
    exact List.splitBy_append_cons (l := [a]) l fun x hx => by
      obtain rfl := Option.some.inj hx
      exact Bool.eq_false_iff.mpr h

/-- The runs of the terms: an OR stands between any two neighbours in a run, and none between two runs. -/
def placedRuns (items : List Item) : List (List (Nat × Term)) :=
  (placedTerms none items).splitBy fun a b => orBetween items a.1 b.1

theorem map_modifyHead_cons {α β : Type} (f : α → β) (a : α) (xs : List (List α)) :
    (xs.modifyHead (a :: ·)).map (·.map f) = (xs.map (·.map f)).modifyHead (f a :: ·) := by
  cases xs <;> rfl

theorem runs_linked (items : List Item) (ts : List (Nat × Term)) :
    runs (linked items ts) = (ts.splitBy fun a b => orBetween items a.1 b.1).map (·.map Prod.snd) := by
  induction ts with
  | nil => rfl
  | cons e ts ih =>
    cases ts with
    | nil => rfl
    | cons e' ts =>
      have hruns : runs (linked items (e :: e' :: ts)) =
          if orBetween items e.1 e'.1 then (runs (linked items (e' :: ts))).modifyHead (e.2 :: ·)
          else [e.2] :: runs (linked items (e' :: ts)) := rfl
      rw [splitBy_cons_cons, hruns, ih]
      split
      · rw [map_modifyHead_cons]
      · rfl

theorem runs_map {α β : Type} (f : α → β) (xs : List (Linked α)) :
    runs (xs.map (·.map f)) = (runs xs).map (·.map f) := by
  induction xs with
  | nil => rfl
  | cons x xs ih =>
    cases xs with
    | nil => rfl
    | cons y xs =>
      have hruns : runs ((x :: y :: xs).map (·.map f)) =
          if x.orNext then (runs ((y :: xs).map (·.map f))).modifyHead (f x.item :: ·)
          else [f x.item] :: runs ((y :: xs).map (·.map f)) := rfl
      rw [hruns, ih, runs]
      split
      · rw [map_modifyHead_cons]
      · rfl

/-! ### Meaning -/

/-- The value of a query that consists of the items: each run has a term that holds. -/
def meaning (σ : List (List Char) → Bool) (items : List Item) : Bool :=
  (placedRuns items).all fun run => run.any fun e => e.2.holds σ

theorem runs_texts {items : List Item} {p : Predicate} (hp : p.terms = linked items (placedTerms none items)) :
    runs (p.terms.map (·.map Term.text)) = (placedRuns items).map (·.map fun e => e.2.text) := by
  rw [runs_map, hp, runs_linked, List.map_map]
  simp [placedRuns, Function.comp_def]

/-- The text of a predicate with terms is a sentence that has their value. -/
theorem sentence_of_placedTerms {items : List Item} {p : Predicate} (hp : p.terms = linked items (placedTerms none items))
    (hne : placedTerms none items ≠ []) :
    IndexQuery.Sentence p.text (.ofAll ((placedRuns items).map fun run => .ofAny (run.map fun e => e.2.query))) ∧
      ∀ σ, (IndexQuery.ofAll ((placedRuns items).map fun run => .ofAny (run.map fun e => e.2.query))).holds? σ =
        some (meaning σ items) := by
  have hruns : placedRuns items ≠ [] := List.splitBy_ne_nil.mpr hne
  have hrun : ∀ run ∈ placedRuns items, run ≠ [] ∧ ∀ e ∈ run, e.2.WellFormed := fun run h => by
    refine ⟨List.ne_nil_of_mem_splitBy h, fun e he => wellFormed_of_mem_placedTerms none items ?_⟩
    rw [← List.flatten_splitBy (fun a b => orBetween items a.1 b.1) (placedTerms none items)]
    exact List.mem_flatten.mpr ⟨run, h, he⟩
  constructor
  · exact IndexQuery.sentence_join (runs_texts hp) hruns fun run h =>
      ⟨(hrun run h).1, fun e he => ((hrun run h).2 e he).operand⟩
  · intro σ
    refine IndexQuery.holds?_ofAll hruns fun run h => ?_
    exact IndexQuery.holds?_ofAny (hrun run h).1 fun e he => ((hrun run h).2 e he).holds?_query σ

/-- The predicate of a query is empty if the query has no term. Else it is a sentence of the text index, read in
    one way, which has the value of the query under every assignment. -/
theorem sentence_of_ofQuery (raw : List Char) :
    ∃ items, (∀ others, ConsistsOf (raw.filter (· != slotChar)) others ↔ others = items) ∧
      ((Predicate.ofQuery raw).text = [] ↔ placedTerms none items = []) ∧
      (placedTerms none items ≠ [] →
        ∃ q, (∀ other, IndexQuery.Sentence (Predicate.ofQuery raw).text other ↔ other = q) ∧
          ∀ σ, q.holds? σ = some (meaning σ items)) := by
  obtain ⟨items, hitems, hterms⟩ := Outline.terms_ofQuery raw
  refine ⟨items, fun others => ⟨fun h => h.unique hitems, fun h => h ▸ hitems⟩, ?_⟩
  have hempty : placedTerms none items = [] → (Predicate.ofQuery raw).text = [] := fun h => by
    rw [Predicate.text, Predicate.ofQuery, hterms, h]
    rfl
  have hfull : placedTerms none items ≠ [] → ∃ q, IndexQuery.Sentence (Predicate.ofQuery raw).text q ∧
      ∀ σ, q.holds? σ = some (meaning σ items) := fun h => by
    obtain ⟨hsentence, hholds⟩ := sentence_of_placedTerms (p := Predicate.ofQuery raw) hterms h
    exact ⟨_, hsentence, hholds⟩
  refine ⟨⟨fun h => ?_, hempty⟩, fun h => ?_⟩
  · by_contra hne
    obtain ⟨q, hq, -⟩ := hfull hne
    exact hq.ne_nil h
  · obtain ⟨q, hq, hholds⟩ := hfull h
    exact ⟨q, fun other => ⟨fun ho => ho.unique hq, fun ho => ho ▸ hq⟩, hholds⟩

end Lookout.Query

import Lookout.Proofs.Query.Joined
import Lookout.Proofs.Query.Pieces

/-! Two queries joined by AND. If every quotation of the first one is closed, the second one is cut on its own, and the
    AND takes the effect of a NOT that stands before it. So nothing crosses the seam but an OR, which marks the last
    term of the first query when it stands in front of the terms of the second. Main statement: the terms of the joined
    query are those of both, up to this mark; where there is none, so are the groups, and the joined predicate holds
    exactly if both do. -/

namespace Lookout.Query

/-! ### Outlines -/

/-- The outline that begins with the words and quotations of another one, with an AND between them. -/
def Outline.both (o o' : Outline) : Outline := ⟨o.words ++ ['A', 'N', 'D'] :: o'.words, o.phrases ++ o'.phrases⟩

theorem words_and (s t : List Char) :
    Text.words (s ++ (" AND ".toList ++ t)) = Text.words s ++ ['A', 'N', 'D'] :: Text.words t := by
  have hblank : Text.isBlank ' ' = true := by decide
  have hand : Text.words ['A', 'N', 'D'] = [['A', 'N', 'D']] := by decide
  calc Text.words (s ++ (" AND ".toList ++ t))
      = Text.words (s ++ ' ' :: (['A', 'N', 'D'] ++ ' ' :: t)) := by simp
    _ = Text.words s ++ (Text.words ['A', 'N', 'D'] ++ Text.words t) := by
      rw [Text.words_append_blank hblank, Text.words_append_blank hblank]
    _ = Text.words s ++ ['A', 'N', 'D'] :: Text.words t := by rw [hand]; rfl

theorem Outline.ofPieces_cons_cons (p q : List Char) {rest : List (List Char)} (hne : rest ≠ []) :
    ofPieces (p :: q :: rest) = ⟨Text.words p ++ slot :: (ofPieces rest).words, q :: (ofPieces rest).phrases⟩ :=
  ofPieces.eq_4 p q rest hne

/-- Pieces of which an even number stands before the seam give both outlines. -/
theorem Outline.ofPieces_seam {init : List (List Char)} (heven : init.length % 2 = 0) (last first : List Char)
    (rest : List (List Char)) :
    ofPieces (init ++ (last ++ (" AND ".toList ++ first)) :: rest) =
      (ofPieces (init ++ [last])).both (ofPieces (first :: rest)) := by
  match init, heven with
  | [], _ =>
    match rest with
    | [] => rw [List.nil_append, List.nil_append, ofPieces, ofPieces, ofPieces, words_and, both]; rfl
    | [q] =>
      rw [List.nil_append, List.nil_append, ofPieces, ofPieces, ofPieces, both, List.append_assoc, List.append_assoc,
        words_and]
      rfl
    | q :: r :: rest =>
      rw [List.nil_append, List.nil_append, ofPieces, ofPieces_cons_cons _ _ (List.cons_ne_nil _ _),
        ofPieces_cons_cons _ _ (List.cons_ne_nil _ _), words_and, both]
      simp
  -- The first piece and the quotation behind it are the same on both sides.
  | p :: q :: init, heven =>
    have hinit : init.length % 2 = 0 := by
      simp only [List.length_cons] at heven
      omega
    have ih := ofPieces_seam hinit last first rest
    rw [List.cons_append, List.cons_append, ofPieces_cons_cons p q (by simp), ih, List.cons_append, List.cons_append,
      ofPieces_cons_cons p q (by simp)]
    simp [both]

theorem Outline.ofQuery_and {a : List Char} (heven : a.count '"' % 2 = 0) (b : List Char) :
    ofQuery (a ++ " AND ".toList ++ b) = (ofQuery a).both (ofQuery b) := by
  have hand : ∀ c ∈ " AND ".toList, (c == '"') = false := by simp
  have hfilter : (a ++ " AND ".toList ++ b).filter (· != slotChar) =
      a.filter (· != slotChar) ++ (" AND ".toList ++ b.filter (· != slotChar)) := by
    rw [List.filter_append, List.filter_append, List.append_assoc]
    rfl
  obtain ⟨first, rest, hb, handb⟩ := Text.exists_cut_prepend hand (b.filter (· != slotChar))
  obtain ⟨init, last, first', rest', ha, handb', hcut⟩ :=
    Text.exists_cut_seam (p := (· == '"')) (a.filter (· != slotChar)) (" AND ".toList ++ b.filter (· != slotChar))
  obtain ⟨rfl, rfl⟩ := List.cons.inj (handb.symm.trans handb')
  have hlength := Text.length_cut (· == '"') (a.filter (· != slotChar))
  have hcount : (a.filter (· != slotChar)).countP (· == '"') = a.count '"' := List.count_filter rfl
  rw [ha, List.length_append, List.length_singleton, hcount] at hlength
  rw [ofQuery, ofQuery, ofQuery, hfilter, hcut, ha, hb]
  exact ofPieces_seam (by omega) last first rest

/-! ### Stretches -/

section
variable {α : Type}

/-- The members, of which the last one is marked too if the mark is set. -/
def linkLast (mark : Bool) : List (Linked α) → List (Linked α)
  | [] => []
  | [x] => [⟨x.item, x.orNext || mark⟩]
  | x :: y :: xs => x :: linkLast mark (y :: xs)

theorem linkLast_concat (mark : Bool) (init : List (Linked α)) (x : Linked α) :
    linkLast mark (init ++ [x]) = init ++ [⟨x.item, x.orNext || mark⟩] := by
  induction init with
  | nil => rfl
  | cons y init ih => cases init <;> simp_all [linkLast]

end

namespace Stretch

/-- What two stretches contribute, one behind the other. An OR in front of the second one's terms stands behind those
    of the first. -/
def append (s s' : Stretch) : Stretch :=
  ⟨s.orFirst || s.terms.isEmpty && s'.orFirst, linkLast s'.orFirst s.terms ++ s'.terms⟩

theorem append_cons (t : Option Term) (s s' : Stretch) : (s.cons t).append s' = (s.append s').cons t := by
  cases t with
  | none => rfl
  | some t =>
    obtain ⟨orFirst, terms⟩ := s
    cases terms <;> simp [cons, append, linkLast]

theorem append_or (s s' : Stretch) :
    ({ s with orFirst := true } : Stretch).append s' = { s.append s' with orFirst := true } := by
  simp [append]

/-- An AND takes the effect of a NOT before it, and as many slots as quotations leave the others to what follows. -/
theorem ofWords_both {negated : Bool} {phrases words : List (List Char)} (h : words.count slot = phrases.length)
    (phrases' words' : List (List Char)) :
    ofWords negated (phrases ++ phrases') (words ++ ['A', 'N', 'D'] :: words') =
      (ofWords negated phrases words).append (ofWords false phrases' words') := by
  induction words generalizing negated phrases with
  | nil =>
    obtain rfl := List.length_eq_zero_iff.mp h.symm
    have hand : Token.ofWord ['A', 'N', 'D'] = .conj := by decide
    simp [ofWords, hand, append, linkLast]
  | cons w words ih =>
    rw [List.cons_append, ofWords_cons, ofWords_cons]
    by_cases hw : w = slot
    · -- The quotation of the slot is one of the first query's, since there are as many of them as slots.
      subst hw
      obtain ⟨q, phrases, rfl⟩ : ∃ q qs, phrases = q :: qs := List.exists_cons_of_length_pos (by rw [← h]; simp)
      have hor : spells "or" slot = false := by decide
      rw [List.count_cons_self, List.length_cons, Nat.add_right_cancel_iff] at h
      simp only [if_true, List.cons_append, List.tail_cons, ih h, hor, Bool.false_eq_true, if_false, append_cons]
      rfl
    · rw [List.count_cons_of_ne hw] at h
      have hfirst : first? negated (phrases ++ phrases') w = first? negated phrases w := by simp [first?, hw]
      simp only [hw, if_false, ih h, hfirst]
      split
      · rw [append_or]
      · rw [append_cons]

end Stretch

/-! ### The OR behind the last term -/

theorem exists_last_place {β : Type} {f : Nat → Option β} {n : Nat} {init : List β} {y : β}
    (h : (List.range n).filterMap f = init ++ [y]) : ∃ p < n, f p = some y ∧ ∀ r < n, p < r → f r = none := by
  induction n with
  | zero => simp at h
  | succ n ih =>
    rw [List.range_succ, List.filterMap_append] at h
    cases hn : f n with
    | none =>
      simp only [List.filterMap_cons, hn, List.filterMap_nil, List.append_nil] at h
      obtain ⟨p, hp, hy, hnone⟩ := ih h
      refine ⟨p, Nat.lt_succ_of_lt hp, hy, fun r hr hlt => ?_⟩
      rcases Nat.lt_succ_iff_lt_or_eq.mp hr with hr | rfl
      · exact hnone r hr hlt
      · exact hn
    | some z =>
      simp only [List.filterMap_cons, hn, List.filterMap_nil] at h
      obtain ⟨-, hz⟩ := List.append_inj' h rfl
      exact ⟨n, Nat.lt_succ_self n, hn.trans (congrArg some (List.cons.inj hz).1), fun r hr hlt => absurd hr (by omega)⟩

namespace Outline

/-- An OR stands behind all places that give a term. -/
def EndsInOr (o : Outline) : Prop :=
  ∃ q < o.words.length, o.words[q]?.any (spells "or") = true ∧ ∀ r < o.words.length, q ≤ r → o.textAt r = none

instance (o : Outline) : Decidable o.EndsInOr := by
  unfold EndsInOr
  infer_instance

theorem orFirst_eq (o : Outline) : (Stretch.ofWords false o.phrases o.words).orFirst = decide (o.OrFrom 0) :=
  (clauses_drop (o := o) (p := 0) (Nat.zero_add _)).2

/-- The mark of the last term tells whether an OR stands behind it. -/
theorem orNext_last {o : Outline} {init : List (Linked Term)} {x : Linked Term} (h : o.terms = init ++ [x]) :
    x.orNext = true ↔ o.EndsInOr := by
  have hclauses := (clauses_drop (o := o) (p := 0) (Nat.zero_add _)).1
  change o.terms.map _ = _ at hclauses
  rw [h, List.map_append, ← List.range_eq_range'] at hclauses
  obtain ⟨p, hp, hclause, hbehind⟩ := exists_last_place hclauses.symm
  obtain ⟨s, hs, hmark⟩ := Option.map_eq_some_iff.mp hclause
  have hnone : ∀ r < o.words.length, p < r → o.textAt r = none := fun r hr hlt =>
    Option.map_eq_none_iff.mp (hbehind r hr hlt)
  have horNext : x.orNext = decide (o.OrFrom (p + 1)) := (congrArg Linked.orNext hmark).symm
  rw [horNext, decide_eq_true_eq]
  constructor
  · rintro ⟨q, hq, hle, hor, -⟩
    exact ⟨q, hq, hor, fun r hr hqr => hnone r hr (by omega)⟩
  · -- The place of the last term is no place from `q` on, as those give none.
    rintro ⟨q, hq, hor, hend⟩
    have hlt : p < q := by
      by_contra hle
      rw [hend p hp (by omega)] at hs
      cases hs
    exact ⟨q, hq, hlt, hor, fun r hr hpr => hnone r (by omega) hpr⟩

end Outline

/-! ### The seam -/

section
variable {a : List Char} (heven : a.count '"' % 2 = 0) (b : List Char)
include heven

/-- The terms of both queries, of which the last one of the first is marked if an OR stands in front of the second's. -/
theorem Outline.terms_and :
    (ofQuery (a ++ " AND ".toList ++ b)).terms =
      linkLast (decide ((ofQuery b).OrFrom 0)) (ofQuery a).terms ++ (ofQuery b).terms := by
  have hslots : (ofQuery a).words.count slot = (ofQuery a).phrases.length :=
    (separates_ofPieces (by simp) (cutsInto_iff.mpr rfl)).slotCount
  rw [← orFirst_eq, terms, ofQuery_and heven, both, Stretch.ofWords_both hslots]
  rfl

/-- Where no OR crosses the seam, no group does. -/
theorem Predicate.groups_and (hend : ¬ (Outline.ofQuery a).EndsInOr) (hfirst : ¬ (Outline.ofQuery b).OrFrom 0)
    (hne : (ofQuery a).terms ≠ []) :
    (ofQuery (a ++ " AND ".toList ++ b)).groups = (ofQuery a).groups ++ (ofQuery b).groups := by
  obtain ⟨init, x, hlast⟩ : ∃ init x, (ofQuery a).terms = init ++ [x] := ⟨_, _, (List.dropLast_concat_getLast hne).symm⟩
  have hx : x.orNext = false := Bool.eq_false_iff.mpr (mt (Outline.orNext_last hlast).mp hend)
  have hterms : (ofQuery (a ++ " AND ".toList ++ b)).terms = (ofQuery a).terms ++ (ofQuery b).terms := by
    have hmarked := Outline.terms_and heven b
    rw [show (Outline.ofQuery a).terms = init ++ [x] from hlast, linkLast_concat, decide_eq_false hfirst,
      Bool.or_false] at hmarked
    exact hlast ▸ hmarked
  have hseam : ∀ y ∈ (ofQuery a).terms.getLast?, ∀ z ∈ (ofQuery b).terms.head?, (fun y _ => y.orNext) y z = false := by
    intro y hy z _
    rw [hlast, List.getLast?_concat] at hy
    obtain rfl := Option.some.inj hy
    exact hx
  rw [groups, hterms, List.splitBy_append hseam, List.map_append, groups, groups]

end

/-- A query whose quotations are closed and another one, joined by AND, have the terms of both. Only an OR crosses the
    seam: one in front of the second query's terms marks the last term of the first. Where none does, the groups are
    those of both, and the joined predicate holds exactly if both do. -/
theorem and_joins_terms (a b : List Char) (heven : a.count '"' % 2 = 0) :
    let joined := a ++ " AND ".toList ++ b
    ((Outline.ofQuery a).terms = [] → (Outline.ofQuery joined).terms = (Outline.ofQuery b).terms) ∧
      (∀ init x, (Outline.ofQuery a).terms = init ++ [x] →
        (Outline.ofQuery joined).terms =
          init ++ ⟨x.item, x.orNext || decide ((Outline.ofQuery b).OrFrom 0)⟩ :: (Outline.ofQuery b).terms) ∧
      (¬ (Outline.ofQuery a).EndsInOr → ¬ (Outline.ofQuery b).OrFrom 0 →
        (Predicate.ofQuery a).text ≠ [] → (Predicate.ofQuery b).text ≠ [] →
        (Predicate.ofQuery joined).groups = (Predicate.ofQuery a).groups ++ (Predicate.ofQuery b).groups ∧
        ∃ p q r, (∀ other, IndexQuery.Sentence (Predicate.ofQuery a).text other ↔ other = p) ∧
          (∀ other, IndexQuery.Sentence (Predicate.ofQuery b).text other ↔ other = q) ∧
          (∀ other, IndexQuery.Sentence (Predicate.ofQuery joined).text other ↔ other = r) ∧
          ∀ σ, ∃ v w, p.holds? σ = some v ∧ q.holds? σ = some w ∧ r.holds? σ = some (v && w)) := by
  intro joined
  have hterms : (Outline.ofQuery joined).terms = _ := Outline.terms_and heven b
  refine ⟨fun hnil => ?_, fun init x hlast => ?_, fun hend hfirst ha hb => ?_⟩
  · rw [hterms, hnil]
    rfl
  · rw [hterms, hlast, linkLast_concat, List.append_assoc]
    rfl
  · have hane : (Predicate.ofQuery a).terms ≠ [] := mt Predicate.text_ofQuery_eq_nil.mpr ha
    have hbne : (Predicate.ofQuery b).terms ≠ [] := mt Predicate.text_ofQuery_eq_nil.mpr hb
    have hjoined : (Predicate.ofQuery joined).terms ≠ [] := by
      rw [show (Predicate.ofQuery joined).terms = _ from hterms]
      exact List.append_ne_nil_of_right_ne_nil _ hbne
    -- No OR crosses the seam, so no group does.
    have hgroups : (Predicate.ofQuery joined).groups = _ := Predicate.groups_and heven b hend hfirst hane
    have pa := Predicate.proper_ofQuery hane
    have pb := Predicate.proper_ofQuery hbne
    have pj := Predicate.proper_ofQuery hjoined
    refine ⟨hgroups, _, _, _, pa.sentence_iff, pb.sentence_iff, pj.sentence_iff, fun σ => ?_⟩
    refine ⟨_, _, pa.holds?_query σ, pb.holds?_query σ, ?_⟩
    rw [pj.holds?_query, Predicate.holds, hgroups, List.all_append]
    rfl

/-- Quotations on both sides of the seam, a NOT at the end of the first, and in the second part an OR that
    stands in front of its terms. -/
theorem and_joins_terms_mixed :
    let a := "cat OR \"front door\" not".toList
    a.count '"' % 2 = 0 ∧
      (Outline.ofQuery (a ++ " AND ".toList ++ "or \"\" dog \"back".toList)).terms =
        [⟨.word "cat".toList, true⟩, ⟨.phrase ["front".toList, "door".toList], true⟩, ⟨.word "dog".toList, false⟩,
          ⟨.word "back".toList, false⟩] ∧
      (Predicate.ofQuery (a ++ " AND ".toList ++ "dog OR horse".toList)).groups =
        (Predicate.ofQuery a).groups ++ (Predicate.ofQuery "dog OR horse".toList).groups := by
  intro a
  have heven : a.count '"' % 2 = 0 := by decide
  have hlast : (Outline.ofQuery a).terms =
      [⟨.word "cat".toList, true⟩] ++ [⟨.phrase ["front".toList, "door".toList], false⟩] := by decide +kernel
  refine ⟨heven, ?_, ?_⟩
  · rw [(and_joins_terms a _ heven).2.1 _ _ hlast]
    decide +kernel
  · exact ((and_joins_terms a _ heven).2.2 (by decide +kernel) (by decide +kernel) (by decide +kernel)
      (by decide +kernel)).1

end Lookout.Query

import Lookout.Proofs.Query.Meaning
import Lookout.Proofs.Text.Grouping

/-! Joined terms, read back. The text of terms is a sentence of the text index, and every way to read it gives one
    choice for each longest run of terms that OR marks link, all of which have to hold. Main statement: that, and
    that terms with the same text have the same texts one by one and the same marks, the last one apart. -/

namespace Lookout

/-! ### Reading with any grouping -/

namespace IndexQuery

/-- The text reads as `q`, when operands between equal signs may be grouped in any way. -/
def Reads (s : List Char) (q : IndexQuery) : Prop := operators.Reads operators.binary (Text.lexemes glues s) q

theorem Reads.regroups {s : List Char} {q r : IndexQuery} (h : Reads s q) (hr : Sentence s r) : operators.Regroups q r :=
  Text.Operators.Reads.regroups operators_lawful h hr

/-- Grouping changes neither the words that stand side by side nor the value. -/
theorem holds?_of_regroups {q r : IndexQuery} (h : operators.Regroups q r) :
    q.words? = r.words? ∧ ∀ σ, q.holds? σ = r.holds? σ := by
  induction h with
  | refl => exact ⟨rfl, fun _ => rfl⟩
  | symm _ ih => exact ⟨ih.1.symm, fun σ => (ih.2 σ).symm⟩
  | trans _ _ ihq ihr => exact ⟨ihq.1.trans ihr.1, fun σ => (ihq.2 σ).trans (ihr.2 σ)⟩
  | assoc ho a b c =>
    simp only [operators, List.mem_cons, List.not_mem_nil, or_false] at ho
    rcases ho with rfl | rfl | rfl
    · refine ⟨rfl, fun σ => ?_⟩
      cases ha : a.holds? σ <;> cases hb : b.holds? σ <;> cases hc : c.holds? σ <;> simp [holds?, ha, hb, hc, Bool.or_assoc]
    · refine ⟨rfl, fun σ => ?_⟩
      cases ha : a.holds? σ <;> cases hb : b.holds? σ <;> cases hc : c.holds? σ <;> simp [holds?, ha, hb, hc, Bool.and_assoc]
    -- Words side by side hold together or not at all, so only their sequence counts.
    · have hwords : (adjacent (adjacent a b) c).words? = (adjacent a (adjacent b c)).words? := by
        cases ha : a.words? <;> cases hb : b.words? <;> cases hc : c.words? <;> simp [words?, ha, hb, hc]
      exact ⟨hwords, fun σ => congrArg (Option.map σ) hwords⟩
  | binary ho _ _ iha ihb =>
    simp only [operators, List.mem_cons, List.not_mem_nil, or_false] at ho
    rcases ho with rfl | rfl | rfl
    · exact ⟨rfl, fun σ => by simp only [holds?, iha.2, ihb.2]⟩
    · exact ⟨rfl, fun σ => by simp only [holds?, iha.2, ihb.2]⟩
    · have hwords := congrArg₂ (fun x y : Option (List (List Char)) => x.bind fun ws => y.map (ws ++ ·)) iha.1 ihb.1
      exact ⟨hwords, fun σ => congrArg (Option.map σ) hwords⟩
  | unary ht _ ih =>
    simp only [operators] at ht
    split at ht
    · cases ht
      exact ⟨rfl, fun σ => by simp only [holds?, ih.2]⟩
    · cases ht

end IndexQuery

namespace Query

/-! ### Runs -/

section
variable {α : Type}

theorem runs_eq_splitBy (xs : List (Linked α)) :
    runs xs = (xs.splitBy fun x _ => x.orNext).map (·.map Linked.item) := by
  induction xs with
  | nil => rfl
  | cons x xs ih =>
    cases xs with
    | nil => rfl
    | cons y xs =>
      rw [splitBy_cons_cons, runs, ih]
      split
      · rw [map_modifyHead_cons]
      · rfl

/-- The first run begins with the first member. -/
theorem exists_runs_cons (x : Linked α) (xs : List (Linked α)) : ∃ run rest, runs (x :: xs) = (x.item :: run) :: rest := by
  induction xs generalizing x with
  | nil => exact ⟨[], [], rfl⟩
  | cons y xs ih =>
    obtain ⟨run, rest, hruns⟩ := ih y
    rw [runs, hruns]
    split
    · exact ⟨y.item :: run, rest, rfl⟩
    · exact ⟨[], (y.item :: run) :: rest, rfl⟩

theorem runs_ne_nil {xs : List (Linked α)} (hne : xs ≠ []) : runs xs ≠ [] := by
  obtain ⟨x, xs, rfl⟩ := List.exists_cons_of_ne_nil hne
  obtain ⟨run, rest, hruns⟩ := exists_runs_cons x xs
  rw [hruns]
  exact List.cons_ne_nil _ _

/-- The runs tell the members and their marks, but for the mark of the last. -/
theorem runs_inj {xs ys : List (Linked α)} (h : runs xs = runs ys) :
    xs.map Linked.item = ys.map Linked.item ∧ (xs.map Linked.orNext).dropLast = (ys.map Linked.orNext).dropLast := by
  induction xs generalizing ys with
  | nil =>
    cases ys with
    | nil => exact ⟨rfl, rfl⟩
    | cons y ys => exact absurd h.symm (runs_ne_nil (List.cons_ne_nil y ys))
  | cons x xs ih =>
    cases ys with
    | nil => exact absurd h (runs_ne_nil (List.cons_ne_nil x xs))
    | cons y ys =>
      cases xs with
      | nil =>
        cases ys with
        | nil => simpa [runs] using h
        -- One member is one run with one member, but these are two members at least.
        | cons y' ys =>
          obtain ⟨run, rest, hruns⟩ := exists_runs_cons y' ys
          rw [runs, runs, hruns] at h
          split at h <;> simp at h
      | cons x' xs =>
        obtain ⟨run, rest, hruns⟩ := exists_runs_cons x' xs
        cases ys with
        | nil =>
          rw [runs, runs, hruns] at h
          split at h <;> simp at h
        | cons y' ys =>
          obtain ⟨run', rest', hruns'⟩ := exists_runs_cons y' ys
          -- The first run has one member exactly if the first mark is off.
          have hmark : x.orNext = y.orNext := by
            rw [runs, runs, hruns, hruns'] at h
            split at h <;> split at h <;> simp_all
          have hcons : x.item = y.item ∧ runs (x' :: xs) = runs (y' :: ys) := by
            rw [hruns, hruns']
            rw [runs, runs, hruns, hruns', hmark] at h
            split at h <;> simp_all
          obtain ⟨hitem, hrest⟩ := hcons
          obtain ⟨hitems, hmarks⟩ := ih hrest
          refine ⟨by rw [List.map_cons, List.map_cons (l := y' :: ys), hitem, hitems], ?_⟩
          simp only [List.map_cons, List.dropLast_cons_cons] at hmarks ⊢
          rw [hmark, hmarks]

end

/-! ### Texts of runs -/

/-- Texts with a separator between any two are told by the text, if they do not hold a character that the separator
    holds once. -/
theorem intercalate_inj {a : Char} {s t : List Char} (hs : a ∉ s) {xs ys : List (List Char)} (hxne : xs ≠ [])
    (hyne : ys ≠ []) (hxs : ∀ x ∈ xs, a ∉ x) (hys : ∀ y ∈ ys, a ∉ y)
    (h : (s ++ a :: t).intercalate xs = (s ++ a :: t).intercalate ys) : xs = ys := by
  induction xs generalizing ys with
  | nil => exact absurd rfl hxne
  | cons x xs ih =>
    obtain ⟨y, ys, rfl⟩ := List.exists_cons_of_ne_nil hyne
    obtain ⟨hx, hxs⟩ := List.forall_mem_cons.mp hxs
    obtain ⟨hy, hys⟩ := List.forall_mem_cons.mp hys
    cases xs with
    | nil =>
      cases ys with
      | nil => simpa using h
      | cons y' ys =>
        rw [List.intercalate_singleton, List.intercalate_cons_cons] at h
        exact absurd (h ▸ by simp) hx
    | cons x' xs =>
      cases ys with
      | nil =>
        rw [List.intercalate_singleton, List.intercalate_cons_cons] at h
        exact absurd (h ▸ by simp) hy
      | cons y' ys =>
        -- The first such character on each side is that of the first separator, so the first members agree.
        have hcut : (x ++ s) ++ a :: (t ++ (s ++ a :: t).intercalate (x' :: xs)) =
            (y ++ s) ++ a :: (t ++ (s ++ a :: t).intercalate (y' :: ys)) := by
          simpa [List.intercalate_cons_cons] using h
        obtain ⟨hfirst, hrest⟩ := append_cons_inj_first (by simp [hx, hs]) (by simp [hy, hs]) hcut
        rw [List.append_cancel_right hfirst,
          ih (List.cons_ne_nil _ _) (List.cons_ne_nil _ _) hxs hys (List.append_cancel_left hrest)]

theorem runText_inj {xs ys : List (List Char)} (hxne : xs ≠ []) (hyne : ys ≠ []) (hxs : ∀ x ∈ xs, '|' ∉ x)
    (hys : ∀ y ∈ ys, '|' ∉ y) (h : runText xs = runText ys) : xs = ys := by
  have hmany : ∀ z z' (zs : List (List Char)), '|' ∈ runText (z :: z' :: zs) := fun z z' zs => by
    simp [runText, List.intercalate_cons_cons]
  match xs, ys with
  | [x], [y] => exact congrArg (· :: []) h
  | [x], y :: y' :: ys =>
    have hsign : '|' ∈ runText [x] := h ▸ hmany y y' ys
    exact absurd hsign (hxs x List.mem_cons_self)
  | x :: x' :: xs, [y] =>
    have hsign : '|' ∈ runText [y] := h ▸ hmany x x' xs
    exact absurd hsign (hys y List.mem_cons_self)
  | x :: x' :: xs, y :: y' :: ys =>
    have hinner := List.append_cancel_right (List.cons.inj h).2
    exact intercalate_inj (s := [' ']) (t := [' ']) (by decide) hxne hyne hxs hys hinner

theorem notMem_intercalate {a : Char} {separator : List Char} (hseparator : a ∉ separator) {xs : List (List Char)}
    (hxs : ∀ x ∈ xs, a ∉ x) : a ∉ separator.intercalate xs := fun h => by
  rcases Text.mem_intercalate h with hmem | ⟨x, hx, hmem⟩
  · exact hseparator hmem
  · exact hxs x hx hmem

theorem notMem_runText {a : Char} (hsigns : a ∉ ['(', ')']) (hor : a ∉ " | ".toList) {xs : List (List Char)}
    (hxs : ∀ x ∈ xs, a ∉ x) : a ∉ runText xs := by
  have hgroup : a ∉ '(' :: " | ".toList.intercalate xs ++ [')'] := by
    simp only [List.mem_cons, List.mem_append, List.cons_append, List.not_mem_nil, or_false, not_or] at hsigns ⊢
    exact ⟨hsigns.1, notMem_intercalate hor hxs, hsigns.2⟩
  match xs with
  | [] => exact hgroup
  | [x] => exact hxs x List.mem_cons_self
  | x :: x' :: xs => exact hgroup

/-- The text of runs, as in `join`. -/
def runsText : List (List (List Char)) → List Char
  | [members] => " | ".toList.intercalate members
  | groups => " & ".toList.intercalate (groups.map runText)

theorem mem_runsText (g g' : List (List Char)) (gs : List (List (List Char))) : '&' ∈ runsText (g :: g' :: gs) := by
  simp [runsText, List.intercalate_cons_cons]

theorem notMem_runsText {a : Char} (hsigns : a ∉ ['(', ')']) (hor : a ∉ " | ".toList) (hand : a ∉ " & ".toList)
    {groups : List (List (List Char))} (h : ∀ g ∈ groups, ∀ x ∈ g, a ∉ x) : a ∉ runsText groups := by
  have hmany : a ∉ " & ".toList.intercalate (groups.map runText) := by
    refine notMem_intercalate hand fun x hx => ?_
    obtain ⟨g, hg, rfl⟩ := List.mem_map.mp hx
    exact notMem_runText hsigns hor (h g hg)
  match groups with
  | [] => exact hmany
  | [g] => exact notMem_intercalate hor (h g List.mem_cons_self)
  | g :: g' :: gs => exact hmany

theorem join_eq (xs : List (Linked (List Char))) : join xs = runsText (runs xs) := by
  unfold join
  split
  · next heq => rw [heq]; rfl
  · next hmany =>
    rw [runsText]
    exact hmany

/-- Runs of texts in which no sign stands that joins terms. -/
def PlainRuns (groups : List (List (List Char))) : Prop :=
  ∀ g ∈ groups, g ≠ [] ∧ ∀ x ∈ g, '|' ∉ x ∧ '&' ∉ x

theorem runText_map_inj {gs hs : List (List (List Char))} (hgs : PlainRuns gs) (hhs : PlainRuns hs)
    (h : gs.map runText = hs.map runText) : gs = hs := by
  induction gs generalizing hs with
  | nil => exact (List.map_eq_nil_iff.mp h.symm).symm
  | cons g gs ih =>
    cases hs with
    | nil => cases h
    | cons k hs =>
      obtain ⟨⟨hgne, hg⟩, hgs⟩ := List.forall_mem_cons.mp hgs
      obtain ⟨⟨hkne, hk⟩, hhs⟩ := List.forall_mem_cons.mp hhs
      obtain ⟨hfirst, hrest⟩ := List.cons.inj h
      rw [runText_inj hgne hkne (fun x hx => (hg x hx).1) (fun x hx => (hk x hx).1) hfirst, ih hgs hhs hrest]

/-- Runs are told by their text. A sign between runs stands in the text exactly if there are several. -/
theorem runsText_inj {gs hs : List (List (List Char))} (hgne : gs ≠ []) (hhne : hs ≠ []) (hgs : PlainRuns gs)
    (hhs : PlainRuns hs) (h : runsText gs = runsText hs) : gs = hs := by
  have hone : ∀ {g}, PlainRuns [g] → '&' ∉ runsText [g] := fun hg =>
    notMem_intercalate (by decide) fun x hx => ((hg _ List.mem_cons_self).2 x hx).2
  match gs, hs with
  | [g], [k] =>
    obtain ⟨hgne, hg⟩ := hgs g List.mem_cons_self
    obtain ⟨hkne, hk⟩ := hhs k List.mem_cons_self
    have heq := intercalate_inj (s := [' ']) (t := [' ']) (by decide) hgne hkne (fun x hx => (hg x hx).1)
      (fun x hx => (hk x hx).1) h
    rw [heq]
  | [g], k :: k' :: hs => exact absurd (h ▸ mem_runsText k k' hs) (hone hgs)
  | g :: g' :: gs, [k] => exact absurd (h ▸ mem_runsText g g' gs) (hone hhs)
  | g :: g' :: gs, k :: k' :: hs =>
    have hfree : ∀ {gs : List (List (List Char))}, PlainRuns gs → ∀ t ∈ gs.map runText, '&' ∉ t := fun hgs t ht => by
      obtain ⟨g, hg, rfl⟩ := List.mem_map.mp ht
      exact notMem_runText (by decide) (by decide) fun x hx => ((hgs g hg).2 x hx).2
    have htexts := intercalate_inj (s := [' ']) (t := [' ']) (by decide) (by simp) (by simp) (hfree hgs) (hfree hhs) h
    exact runText_map_inj hgs hhs htexts

/-! ### Terms -/

theorem Term.WellFormed.notMem {t : Term} (h : t.WellFormed) {c : Char} (hword : Text.isWordChar c = false)
    (hsign : c ∉ ['!', '(', ')', ' ', '<', '-', '>']) : c ∉ t.text := by
  have hfree : ∀ {w : List Char}, (∀ d ∈ w, Text.isWordChar d = true) → c ∉ w := fun hw hc => by
    rw [hw c hc] at hword
    cases hword
  simp only [List.mem_cons, List.not_mem_nil, or_false, not_or] at hsign
  cases t with
  | word w => exact hfree h.2
  | negation w => simp [Term.text, hsign, hfree h.2]
  | phrase ws =>
    have hwords : c ∉ " <-> ".toList.intercalate ws := fun hc => by
      rcases Text.mem_intercalate hc with hsep | ⟨w, hw, hc⟩
      · simp [hsign] at hsep
      · exact hfree (h.2 w hw).2 hc
    simpa [Term.text, hsign] using hwords

namespace Predicate

/-- The longest runs of terms in which an OR mark links each to the next. -/
def groups (p : Predicate) : List (List Term) := (p.terms.splitBy fun x _ => x.orNext).map (·.map Linked.item)

/-- One term of each group. -/
def query (p : Predicate) : IndexQuery := .ofAll (p.groups.map fun g => .ofAny (g.map Term.query))

/-- There are terms, and their words are runs of word characters. -/
structure Proper (p : Predicate) : Prop where
  ne_nil : p.terms ≠ []
  wellFormed : ∀ x ∈ p.terms, x.item.WellFormed

variable {p : Predicate}

theorem runs_clauses (p : Predicate) : runs (p.terms.map (·.map Term.text)) = p.groups.map (·.map Term.text) := by
  rw [runs_map, runs_eq_splitBy, groups]

theorem Proper.groups (h : p.Proper) : p.groups ≠ [] ∧ ∀ g ∈ p.groups, g ≠ [] ∧ ∀ t ∈ g, t.WellFormed := by
  refine ⟨by simpa [Predicate.groups] using h.ne_nil, fun g hg => ?_⟩
  obtain ⟨run, hrun, rfl⟩ := List.mem_map.mp hg
  refine ⟨by simpa using List.ne_nil_of_mem_splitBy hrun, fun t ht => ?_⟩
  obtain ⟨x, hx, rfl⟩ := List.mem_map.mp ht
  refine h.wellFormed x ?_
  rw [← List.flatten_splitBy (fun x _ => x.orNext) p.terms]
  exact List.mem_flatten.mpr ⟨run, hrun, hx⟩

theorem Proper.sentence (h : p.Proper) : IndexQuery.Sentence p.text p.query := by
  obtain ⟨hne, hgroups⟩ := h.groups
  exact IndexQuery.sentence_join p.runs_clauses hne fun g hg =>
    ⟨(hgroups g hg).1, fun t ht => ((hgroups g hg).2 t ht).operand⟩

theorem Proper.sentence_iff (h : p.Proper) (q : IndexQuery) : IndexQuery.Sentence p.text q ↔ q = p.query :=
  ⟨fun hq => hq.unique h.sentence, fun he => he ▸ h.sentence⟩

/-- The value of a predicate: each group has a term that holds. -/
def holds (σ : List (List Char) → Bool) (p : Predicate) : Bool := p.groups.all fun g => g.any (Term.holds σ)

theorem Proper.holds?_query (h : p.Proper) (σ : List (List Char) → Bool) : p.query.holds? σ = some (p.holds σ) := by
  obtain ⟨hne, hgroups⟩ := h.groups
  refine IndexQuery.holds?_ofAll hne fun g hg => ?_
  exact IndexQuery.holds?_ofAny (hgroups g hg).1 fun t ht => ((hgroups g hg).2 t ht).holds?_query σ

theorem Proper.plainRuns (h : p.Proper) : PlainRuns (runs (p.terms.map (·.map Term.text))) := by
  rw [runs_clauses]
  intro texts htexts
  obtain ⟨g, hg, rfl⟩ := List.mem_map.mp htexts
  obtain ⟨hne, hwell⟩ := h.groups.2 g hg
  refine ⟨by simpa using hne, fun s hs => ?_⟩
  obtain ⟨t, ht, rfl⟩ := List.mem_map.mp hs
  exact ⟨(hwell t ht).notMem (by decide) (by decide), (hwell t ht).notMem (by decide) (by decide)⟩

theorem Proper.runs_eq {p' : Predicate} (h : p.Proper) (h' : p'.Proper) (htext : p.text = p'.text) :
    runs (p.terms.map (·.map Term.text)) = runs (p'.terms.map (·.map Term.text)) := by
  rw [text, text, join_eq, join_eq] at htext
  exact runsText_inj (runs_ne_nil (by simpa using h.ne_nil)) (runs_ne_nil (by simpa using h'.ne_nil)) h.plainRuns
    h'.plainRuns htext

/-! ### The predicate of a query -/

theorem wellFormed_ofQuery (raw : List Char) : ∀ x ∈ (ofQuery raw).terms, x.item.WellFormed := by
  obtain ⟨items, -, hterms⟩ := Outline.terms_ofQuery raw
  have hlinked : (ofQuery raw).terms.map Linked.item = (placedTerms none items).map Prod.snd := by
    rw [show (ofQuery raw).terms = linked items (placedTerms none items) from hterms]
    induction placedTerms none items with
    | nil => rfl
    | cons e ts ih => rw [linked, List.map_cons, List.map_cons, ih]
  intro x hx
  obtain ⟨e, he, hitem⟩ := List.mem_map.mp (hlinked ▸ List.mem_map_of_mem (f := Linked.item) hx)
  rw [← hitem]
  exact wellFormed_of_mem_placedTerms none items he

theorem proper_ofQuery {raw : List Char} (h : (ofQuery raw).terms ≠ []) : (ofQuery raw).Proper :=
  ⟨h, wellFormed_ofQuery raw⟩

theorem text_ofQuery_eq_nil {raw : List Char} : (ofQuery raw).text = [] ↔ (ofQuery raw).terms = [] := by
  constructor
  · intro h
    by_contra hne
    exact (proper_ofQuery hne).sentence.ne_nil h
  · intro h
    rw [text, h]
    rfl

/-! ### Reading the text -/

/-- The text of terms is read as one of each group, in any grouping of the operands, and with one value. No other
    texts and marks give it, the mark of the last term apart. -/
theorem text_reads_as_groups (h : p.Proper) :
    IndexQuery.operators.read? (Text.lexemes IndexQuery.glues p.text) = some p.query ∧
      (∀ q, IndexQuery.Reads p.text q →
        IndexQuery.operators.Regroups q p.query ∧ ∀ σ, q.holds? σ = p.query.holds? σ) ∧
      ∀ p' : Predicate, p'.Proper → p.text = p'.text →
        p.terms.map (·.item.text) = p'.terms.map (·.item.text) ∧
          (p.terms.map (·.orNext)).dropLast = (p'.terms.map (·.orNext)).dropLast := by
  refine ⟨(Text.Operators.sentence_iff_read? IndexQuery.operators_lawful).mp h.sentence, fun q hq => ?_,
    fun p' h' htext => ?_⟩
  · have hregroup := hq.regroups h.sentence
    exact ⟨hregroup, (IndexQuery.holds?_of_regroups hregroup).2⟩
  · have hruns := runs_inj (h.runs_eq h' htext)
    rw [List.map_map, List.map_map, List.map_map, List.map_map] at hruns
    exact hruns

theorem text_reads_as_groups_mixed :
    let p : Predicate :=
      ⟨[⟨.word "front".toList, true⟩, ⟨.phrase ["back".toList, "door".toList], false⟩, ⟨.negation "cat".toList, true⟩]⟩
    let q : IndexQuery := .both
      (.either (.word "front".toList) (.adjacent (.word "back".toList) (.word "door".toList)))
      (.absent (.word "cat".toList))
    p.Proper ∧ p.text = "(front | (back <-> door)) & !cat".toList ∧
      IndexQuery.operators.read? (Text.lexemes IndexQuery.glues p.text) = some q := by
  intro p q
  have hword : ∀ {w : List Char}, (!w.isEmpty && w.all Text.isWordChar) = true →
      w ≠ [] ∧ ∀ c ∈ w, Text.isWordChar c = true := fun h => by simpa using h
  have hproper : p.Proper := by
    refine ⟨List.cons_ne_nil _ _, ?_⟩
    simp only [p, List.forall_mem_cons, List.not_mem_nil, false_implies, implies_true, and_true]
    refine ⟨hword rfl, ⟨List.cons_ne_nil _ _, ?_⟩, hword rfl⟩
    simp only [List.forall_mem_cons, List.not_mem_nil, false_implies, implies_true, and_true]
    exact ⟨hword rfl, hword rfl⟩
  have hquery : p.query = q := rfl
  have htext : p.text = "(front | (back <-> door)) & !cat".toList := rfl
  exact ⟨hproper, htext, hquery ▸ (text_reads_as_groups hproper).1⟩

end Predicate
end Query
end Lookout

import Lookout.Query.Predicate
import Mathlib.Data.List.Basic

/-! The terms of an outline, place by place. What the word at a place gives depends on that word, on whether the
    word before it is NOT, and, for a slot, on the number of slots before it; its OR mark depends on the words from
    the next place on. Main statement: the terms of any outline are those that its places give, in order. -/

namespace Lookout.Query

/-- The word is the operator of this name, in any mixture of ASCII cases. -/
def spells (name : String) (w : List Char) : Bool := w.map Char.toLower == name.toList

/-- The text of a quotation: its words side by side, each less the characters that no word has. -/
def quotationText? (phrase : List Char) : Option (List Char) :=
  let ws := ((Text.words phrase).map (·.filter Text.isWordChar)).filter (!·.isEmpty)
  if ws = [] then none else some ('(' :: " <-> ".toList.intercalate ws ++ [')'])

/-- The text of a word that is no operator: what is left of it without the characters that no word has. -/
def wordText? (negated : Bool) (w : List Char) : Option (List Char) :=
  let kept := w.filter Text.isWordChar
  if spells "and" w || spells "or" w || spells "not" w then none
  else if kept = [] then none
  else some (if negated then '!' :: kept else kept)

namespace Outline

variable (o : Outline)

/-- The word before the place is NOT. -/
def negatedAt : Nat → Bool
  | 0 => false
  | p + 1 => o.words[p]?.any (spells "not")

/-- How many quotations stand before a place. -/
def slotsBefore (p : Nat) : Nat := (o.words.take p).count slot

/-- The text of the term that the place gives. -/
def textAt (p : Nat) : Option (List Char) :=
  o.words[p]?.bind fun w =>
    if w = slot then o.phrases[o.slotsBefore p]?.bind quotationText? else wordText? (o.negatedAt p) w

/-- An OR stands at the place or behind it, and no place that gives a term comes between. -/
def OrFrom (p : Nat) : Prop :=
  ∃ q < o.words.length, p ≤ q ∧ o.words[q]?.any (spells "or") = true ∧ ∀ r < q, p ≤ r → o.textAt r = none

instance (p : Nat) : Decidable (o.OrFrom p) := by
  unfold OrFrom
  infer_instance

/-- The fragment of the term at a place, with whether an `OR` follows it before the next term. -/
def clauseAt (p : Nat) : Option (Linked (List Char)) := (o.textAt p).map fun s => ⟨s, decide (o.OrFrom (p + 1))⟩

end Outline

/-! ### The kinds of words -/

theorem spells_inj {w : List Char} {a b : String} (ha : spells a w = true) (hb : spells b w = true) : a = b :=
  String.toList_inj.mp ((beq_iff_eq.mp ha).symm.trans (beq_iff_eq.mp hb))

theorem Token.ofWord_slot : Token.ofWord Query.slot = .slot := rfl

theorem Token.ofWord_of_ne {w : List Char} (hw : w ≠ Query.slot) :
    Token.ofWord w =
      if spells "and" w then .conj else if spells "or" w then .disj else if spells "not" w then .neg else .word w := by
  simp [Token.ofWord, hw, spells]

/-! ### One word -/

namespace Stretch

/-- The term that the first of the words that are left gives. -/
def first? (negated : Bool) (phrases : List (List Char)) (w : List Char) : Option Term :=
  if w = slot then phrases.head?.bind Term.ofPhrase?
  else if spells "and" w || spells "or" w || spells "not" w then none
  else Term.ofWord? negated w

/-- A word gives its term, or an OR to what stands before it, and is what the next word has before it. -/
theorem ofWords_cons (negated : Bool) (phrases : List (List Char)) (w : List Char) (rest : List (List Char)) :
    ofWords negated phrases (w :: rest) =
      let s := ofWords (spells "not" w) (if w = slot then phrases.tail else phrases) rest
      if spells "or" w then { s with orFirst := true } else s.cons (first? negated phrases w) := by
  by_cases hw : w = slot
  · have hnot : spells "not" slot = false := by decide
    have hor : spells "or" slot = false := by decide
    subst hw
    rw [ofWords, Token.ofWord_slot]
    simp [first?, hnot, hor]
  rw [ofWords, Token.ofWord_of_ne hw]
  by_cases hand : spells "and" w = true
  · have hor : spells "or" w = false := Bool.eq_false_iff.mpr fun h => absurd (spells_inj hand h) (by decide)
    have hnot : spells "not" w = false := Bool.eq_false_iff.mpr fun h => absurd (spells_inj hand h) (by decide)
    simp [first?, cons, hw, hand, hor, hnot]
  by_cases hor : spells "or" w = true
  · have hnot : spells "not" w = false := Bool.eq_false_iff.mpr fun h => absurd (spells_inj hor h) (by decide)
    simp [hw, hand, hor, hnot]
  by_cases hnot : spells "not" w = true
  · simp [first?, cons, hw, hand, hor, hnot]
  · simp [first?, hw, hand, hor, hnot]

theorem text_first? (negated : Bool) (phrases : List (List Char)) (w : List Char) :
    (first? negated phrases w).map Term.text =
      if w = slot then phrases.head?.bind quotationText? else wordText? negated w := by
  have hphrase : ∀ phrase, (Term.ofPhrase? phrase).map Term.text = quotationText? phrase := fun phrase => by
    change _ = if phraseWords phrase = [] then none else some (Term.text (.phrase (phraseWords phrase)))
    rw [Term.ofPhrase?]
    cases phraseWords phrase <;> simp
  have hword : (Term.ofWord? negated w).map Term.text =
      if Text.wordChars w = [] then none
      else some (if negated then '!' :: Text.wordChars w else Text.wordChars w) := by
    rw [Term.ofWord?]
    cases Text.wordChars w <;> cases negated <;> simp [Term.text]
  have hwordText : wordText? negated w =
      if spells "and" w || spells "or" w || spells "not" w then none else (Term.ofWord? negated w).map Term.text := by
    rw [hword]
    rfl
  rw [first?, hwordText]
  split
  · cases phrases.head? with
    | none => rfl
    | some phrase => exact hphrase phrase
  · split <;> rfl

theorem first?_eq_none_of_or {negated : Bool} {phrases : List (List Char)} {w : List Char}
    (h : spells "or" w = true) : first? negated phrases w = none := by
  have hw : w ≠ slot := fun he => absurd (he ▸ h) (by decide)
  simp [first?, hw, h]

end Stretch

/-! ### The words from a place on -/

namespace Outline

variable {o : Outline} {p : Nat} {w : List Char}

theorem slotsBefore_succ (hw : o.words[p]? = some w) :
    o.slotsBefore (p + 1) = o.slotsBefore p + if w = slot then 1 else 0 := by
  obtain ⟨hp, rfl⟩ := List.getElem?_eq_some_iff.mp hw
  rw [slotsBefore, List.take_succ_eq_append_getElem hp, List.count_append, List.count_singleton, slotsBefore]
  simp

theorem negatedAt_succ (hw : o.words[p]? = some w) : o.negatedAt (p + 1) = spells "not" w := by
  rw [negatedAt, hw, Option.any_some]

theorem textAt_eq (hw : o.words[p]? = some w) :
    o.textAt p = (Stretch.first? (o.negatedAt p) (o.phrases.drop (o.slotsBefore p)) w).map Term.text := by
  rw [textAt, hw, Option.bind_some, Stretch.text_first?, List.head?_drop]

theorem orFrom_iff (hw : o.words[p]? = some w) :
    o.OrFrom p ↔ spells "or" w = true ∨ o.textAt p = none ∧ o.OrFrom (p + 1) := by
  obtain ⟨hp, -⟩ := List.getElem?_eq_some_iff.mp hw
  constructor
  · rintro ⟨q, hq, hle, hor, hnone⟩
    rcases Nat.eq_or_lt_of_le hle with rfl | hlt
    · rw [hw] at hor
      exact Or.inl hor
    · exact Or.inr ⟨hnone p hlt (Nat.le_refl p), q, hq, hlt, hor, fun r hr hpr => hnone r hr (by omega)⟩
  · rintro (hor | ⟨hnow, q, hq, hle, hor, hnone⟩)
    · exact ⟨p, hp, Nat.le_refl p, by rwa [hw], fun r hr hpr => absurd hr (by omega)⟩
    · refine ⟨q, hq, by omega, hor, fun r hr hpr => ?_⟩
      rcases Nat.eq_or_lt_of_le hpr with rfl | hlt
      · exact hnow
      · exact hnone r hr hlt

/-- The words from a place on, with the quotations that have no slot before it, give what their places give. -/
theorem clauses_drop {k : Nat} (hk : p + k = o.words.length) :
    let s := Stretch.ofWords (o.negatedAt p) (o.phrases.drop (o.slotsBefore p)) (o.words.drop p)
    s.terms.map (·.map Term.text) = (List.range' p k).filterMap o.clauseAt ∧ s.orFirst = decide (o.OrFrom p) := by
  induction k generalizing p with
  | zero =>
    have hnone : ¬ o.OrFrom p := fun ⟨q, hq, hle, _⟩ => by omega
    have hnil : o.words.drop p = [] := List.drop_eq_nil_of_le (by omega)
    simp [hnil, hnone, Stretch.ofWords]
  | succ k ih =>
    obtain ⟨hclauses, hfirst⟩ := ih (p := p + 1) (by omega)
    have hp : p < o.words.length := by omega
    have hw : o.words[p]? = some o.words[p] := List.getElem?_eq_getElem hp
    have htext := textAt_eq hw
    have hfrom := orFrom_iff hw
    -- A slot takes the next quotation, and any other word leaves them as they are.
    have hphrases : o.phrases.drop (o.slotsBefore (p + 1)) =
        if o.words[p] = slot then (o.phrases.drop (o.slotsBefore p)).tail else o.phrases.drop (o.slotsBefore p) := by
      rw [slotsBefore_succ hw]
      split <;> simp
    rw [List.drop_eq_getElem_cons hp, Stretch.ofWords_cons, ← hphrases, ← negatedAt_succ hw, List.range'_succ,
      List.filterMap_cons, clauseAt]
    -- An OR at this place decides for what stands before it, and gives no term itself.
    by_cases hor : spells "or" o.words[p] = true
    · rw [Stretch.first?_eq_none_of_or hor] at htext
      simp [hor, htext, hfrom, hclauses]
    · cases ht : Stretch.first? (o.negatedAt p) (o.phrases.drop (o.slotsBefore p)) o.words[p] with
      | none =>
        rw [ht] at htext
        simp [hor, htext, hfrom, hclauses, hfirst, Stretch.cons]
      | some t =>
        rw [ht] at htext
        have hhead : ∀ b, Linked.map Term.text ⟨t, b⟩ = ⟨t.text, b⟩ := fun _ => rfl
        simp [hor, htext, hfrom, hclauses, hfirst, Stretch.cons, hhead]

/-- The terms of an outline, of any words and quotations, are those that its places give, in order. -/
theorem terms_by_place (o : Outline) :
    o.terms.map (·.map Term.text) = (List.range o.words.length).filterMap o.clauseAt := by
  have hall := (clauses_drop (o := o) (p := 0) (Nat.zero_add _)).1
  rw [← List.range_eq_range'] at hall
  exact hall

end Outline
end Lookout.Query

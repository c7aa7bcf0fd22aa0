import Lookout.Proofs.Query.Places
import Lookout.Proofs.Text.Words
import Mathlib.Data.List.Basic
import Mathlib.Data.List.SplitBy

/-! What a query consists of, item by item: closed quotations, and the words outside them. Each item gives at
    most one term, by itself and the item before it, and an OR between two terms joins them. Main statements:
    a text consists of one list of items, and its predicate has the terms of these items, with the marks
    that tell whether an OR stands behind each of them. -/

namespace Lookout.Query

/-- What the words of an outline stand for. -/
inductive Item where
  /-- A closed quotation. -/
  | quotation (content : List Char)
  /-- A word outside the closed quotations. -/
  | token (w : List Char)
  deriving Repr, DecidableEq

/-- The text consists of the items. A double quote that no other one closes is an ordinary character. -/
inductive ConsistsOf : List Char → List Item → Prop
  | plain {s : List Char} (h : s.count '"' ≤ 1) : ConsistsOf s ((Text.words s).map .token)
  | quotation {before content after : List Char} {items : List Item} (hb : '"' ∉ before) (hc : '"' ∉ content)
      (h : ConsistsOf after items) :
      ConsistsOf (before ++ '"' :: (content ++ '"' :: after))
        ((Text.words before).map .token ++ .quotation content :: items)

/-- A list is cut in one way at the first place of a member. -/
theorem append_cons_inj_first {α : Type} {a : α} {x x' z z' : List α} (hx : a ∉ x) (hx' : a ∉ x')
    (h : x ++ a :: z = x' ++ a :: z') : x = x' ∧ z = z' := by
  induction x generalizing x' with
  | nil =>
    cases x' with
    | nil => exact ⟨rfl, (List.cons.inj h).2⟩
    | cons b x' => exact absurd ((List.cons.inj h).1 ▸ List.mem_cons_self) hx'
  | cons b x ih =>
    cases x' with
    | nil => exact absurd ((List.cons.inj h).1 ▸ List.mem_cons_self) hx
    | cons c x' =>
      obtain ⟨rfl, htail⟩ := List.cons.inj h
      obtain ⟨rfl, hz⟩ :=
        ih (fun hm => hx (List.mem_cons_of_mem _ hm)) (fun hm => hx' (List.mem_cons_of_mem _ hm)) htail
      exact ⟨rfl, hz⟩

theorem ConsistsOf.unique {s : List Char} {xs ys : List Item} (hx : ConsistsOf s xs) (hy : ConsistsOf s ys) :
    xs = ys := by
  induction hx generalizing ys with
  | plain h =>
    cases hy with
    | plain => rfl
    | quotation =>
      simp only [List.count_append, List.count_cons_self] at h
      omega
  | @quotation before content after items hb hc _ ih =>
    generalize hs : before ++ '"' :: (content ++ '"' :: after) = s at hy
    cases hy with
    | plain h =>
      subst hs
      simp only [List.count_append, List.count_cons_self] at h
      omega
    | @quotation before' content' after' items' hb' hc' h' =>
      obtain ⟨rfl, hrest⟩ := append_cons_inj_first hb hb' hs
      obtain ⟨rfl, rfl⟩ := append_cons_inj_first hc hc' hrest
      rw [ih h']

namespace Item

/-- The word of the outline that stands for an item. Quotations leave their slot in it. -/
def word : Item → List Char
  | .quotation _ => slot
  | .token w => w

/-- The content of a quotation. -/
def content? : Item → Option (List Char)
  | .quotation content => some content
  | .token _ => none

/-- The item is the operator of this name, in any mixture of ASCII cases. -/
def isOperator (name : String) : Item → Bool
  | .quotation _ => false
  | .token w => w.map Char.toLower == name.toList

/-- The term of an item. A NOT directly before a word makes it one to be absent. -/
def term? (previous : Option Item) : Item → Option Term
  | .quotation content =>
    if content.any Text.isWordChar then
      some (.phrase (((Text.words content).map (·.filter Text.isWordChar)).filter (!·.isEmpty)))
    else none
  | .token w =>
    if isOperator "and" (.token w) || isOperator "or" (.token w) || isOperator "not" (.token w) then none
    else if !w.any Text.isWordChar then none
    else if previous.any (isOperator "not") then some (.negation (w.filter Text.isWordChar))
    else some (.word (w.filter Text.isWordChar))

end Item

/-- The outline of pieces between double quotes is that of the items of their text. -/
theorem Outline.ofPieces_eq (pieces : List (List Char)) (hne : pieces ≠ []) (hp : ∀ p ∈ pieces, '"' ∉ p) :
    ∃ items, ConsistsOf (['"'].intercalate pieces) items ∧
      Outline.ofPieces pieces = ⟨items.map Item.word, items.filterMap Item.content?⟩ := by
  have hwords : ∀ s, ((Text.words s).map Item.token).map Item.word = Text.words s := fun s => by
    simp [Function.comp_def, Item.word]
  have hcontent : ∀ s, ((Text.words s).map Item.token).filterMap Item.content? = [] := fun s => by
    simp [Item.content?]
  fun_induction Outline.ofPieces pieces with
  | case1 => cases hne rfl
  | case2 p =>
    refine ⟨_, .plain ?_, by rw [List.intercalate_singleton, hwords, hcontent]⟩
    simp [List.count_eq_zero_of_not_mem (hp p List.mem_cons_self)]
  | case3 p q =>
    have hs : ['"'].intercalate [p, q] = p ++ '"' :: q := by simp [List.intercalate_cons_cons]
    refine ⟨_, .plain ?_, by rw [hs, hwords, hcontent]⟩
    simp [hs, List.count_eq_zero_of_not_mem (hp p List.mem_cons_self), List.count_eq_zero_of_not_mem (hp q (by simp))]
  | case4 p q rest hrest tail ih =>
    obtain ⟨items, hitems, hoff⟩ := ih (by simpa using hrest) fun r hr => hp r (by simp [hr])
    obtain ⟨r, rest, rfl⟩ := List.exists_cons_of_ne_nil (by simpa using hrest)
    have hs : ['"'].intercalate (p :: q :: r :: rest) = p ++ '"' :: (q ++ '"' :: ['"'].intercalate (r :: rest)) := by
      simp [List.intercalate_cons_cons]
    refine ⟨(Text.words p).map .token ++ .quotation q :: items, ?_, ?_⟩
    · rw [hs]
      exact .quotation (hp p (by simp)) (hp q (by simp)) hitems
    show (⟨Text.words p ++ slot :: tail.words, q :: tail.phrases⟩ : Outline) = _
    rw [show tail = _ from hoff, List.map_append, List.filterMap_append, hwords, hcontent]
    rfl

/-! ### Terms by place -/

/-- The term of the item at place `i`. The item `before` stands in front of the first. -/
def termAt (before : Option Item) (items : List Item) (i : Nat) : Option Term :=
  items[i]?.bind (Item.term? (before :: items.map some)[i]?.join)

/-- The terms of items, with their places. -/
def placedTerms (before : Option Item) (items : List Item) : List (Nat × Term) :=
  (List.range items.length).filterMap fun i => (termAt before items i).map (i, ·)

/-- An OR stands between two places. -/
def orBetween (items : List Item) (i j : Nat) : Bool := ((items.take j).drop (i + 1)).any (Item.isOperator "or")

/-- The place of the first term, or the end of the items. -/
def firstPlace (items : List Item) (ts : List (Nat × Term)) : Nat := (ts.head?.map Prod.fst).getD items.length

/-- Terms with the marks of the ORs that stand between each of them and the next, or behind the last. -/
def linked (items : List Item) : List (Nat × Term) → List (Linked Term)
  | [] => []
  | (i, t) :: rest => ⟨t, orBetween items i (firstPlace items rest)⟩ :: linked items rest

/-- A term, with its place counted from one item further to the front. -/
def shift (e : Nat × Term) : Nat × Term := (e.1 + 1, e.2)

theorem placedTerms_cons (before : Option Item) (x : Item) (items : List Item) :
    placedTerms before (x :: items) = (x.term? before).toList.map (0, ·) ++ (placedTerms (some x) items).map shift := by
  have hzero : termAt before (x :: items) 0 = x.term? before := rfl
  have hsucc : ∀ i, termAt before (x :: items) (i + 1) = termAt (some x) items i := fun i => rfl
  rw [placedTerms, List.length_cons, List.range_succ_eq_map, List.filterMap_cons, hzero, List.filterMap_map,
    placedTerms, List.map_filterMap]
  simp only [Function.comp_def, Nat.succ_eq_add_one, hsucc, Option.map_map]
  cases x.term? before <;> rfl

theorem firstPlace_shift (x : Item) (items : List Item) (ts : List (Nat × Term)) :
    firstPlace (x :: items) (ts.map shift) = firstPlace items ts + 1 := by
  cases ts <;> rfl

theorem orBetween_shift (x : Item) (items : List Item) (i j : Nat) :
    orBetween (x :: items) (i + 1) (j + 1) = orBetween items i j := by
  simp [orBetween]

theorem linked_shift (x : Item) (items : List Item) (ts : List (Nat × Term)) :
    linked (x :: items) (ts.map shift) = linked items ts := by
  induction ts with
  | nil => rfl
  | cons e ts ih =>
    obtain ⟨i, t⟩ := e
    rw [List.map_cons, shift, linked, firstPlace_shift, orBetween_shift, ih, linked]

/-! ### The terms of a query -/

theorem wordChars_ne_nil {w : List Char} : Text.wordChars w ≠ [] ↔ w.any Text.isWordChar = true := by
  rw [ne_eq, Text.wordChars_eq_nil, Bool.not_eq_false]

theorem phraseWords_ne_nil {content : List Char} :
    phraseWords content ≠ [] ↔ content.any Text.isWordChar = true := by
  rw [← Text.any_isWordChar_words, List.any_eq_true, phraseWords, ne_eq, List.filter_eq_nil_iff]
  simp [wordChars_ne_nil]

theorem Item.term?_quotation (previous : Option Item) (content : List Char) :
    (quotation content).term? previous =
      if content.any Text.isWordChar then some (.phrase (phraseWords content)) else none := rfl

theorem Item.term?_token (previous : Option Item) (w : List Char) :
    (token w).term? previous =
      if isOperator "and" (.token w) || isOperator "or" (.token w) || isOperator "not" (.token w) then none
      else if !w.any Text.isWordChar then none
      else if previous.any (isOperator "not") then some (.negation (Text.wordChars w))
      else some (.word (Text.wordChars w)) := rfl

theorem Term.ofPhrase?_eq (previous : Option Item) (content : List Char) :
    Term.ofPhrase? content = (Item.quotation content).term? previous := by
  rw [Term.ofPhrase?, Item.term?_quotation]
  by_cases hc : content.any Text.isWordChar = true
  · obtain ⟨w, ws, hws⟩ := List.exists_cons_of_ne_nil (phraseWords_ne_nil.mpr hc)
    rw [hws, if_pos hc]
  · have hnil : phraseWords content = [] := not_ne_iff.mp (mt phraseWords_ne_nil.mp hc)
    rw [hnil, if_neg hc]

theorem Item.term?_eq_none_of_or {previous : Option Item} {x : Item} (h : x.isOperator "or" = true) :
    x.term? previous = none := by
  cases x with
  | quotation content => cases h
  | token w => simp [Item.term?, h]

theorem Stretch.first?_eq (before : Option Item) {x : Item} (hx : x ≠ .token slot) (phrases : List (List Char)) :
    Stretch.first? (before.any (Item.isOperator "not")) (x.content?.toList ++ phrases) x.word = x.term? before := by
  cases x with
  | quotation content => simp [Stretch.first?, Item.word, Item.content?, Term.ofPhrase?_eq before]
  | token w =>
    have hw : w ≠ slot := fun he => hx (he ▸ rfl)
    have hspells : ∀ name, Item.isOperator name (.token w) = spells name w := fun _ => rfl
    rw [Item.word, Stretch.first?, if_neg hw, Item.term?_token, hspells, hspells, hspells, Term.ofWord?]
    by_cases hc : w.any Text.isWordChar = true
    · obtain ⟨c, cs, hcs⟩ := List.exists_cons_of_ne_nil (wordChars_ne_nil.mpr hc)
      simp only [hc, hcs, Bool.not_true, Bool.false_eq_true, if_false]
      split <;> [rfl; split <;> rfl]
    · have hnil : Text.wordChars w = [] := not_ne_iff.mp (mt wordChars_ne_nil.mp hc)
      simp [hc, hnil]

/-- The first item of a stretch gives its term, or is an OR, and is what stands before the next item. -/
theorem Stretch.ofWords_item (before : Option Item) {x : Item} (hx : x ≠ .token slot)
    (phrases words : List (List Char)) :
    Stretch.ofWords (before.any (Item.isOperator "not")) (x.content?.toList ++ phrases) (x.word :: words) =
      if x.isOperator "or" then { Stretch.ofWords (x.isOperator "not") phrases words with orFirst := true }
      else (Stretch.ofWords (x.isOperator "not") phrases words).cons (x.term? before) := by
  rw [Stretch.ofWords_cons, Stretch.first?_eq before hx]
  cases x with
  | quotation content => rfl
  | token w =>
    have hw : w ≠ slot := fun he => hx (he ▸ rfl)
    simp [Item.word, Item.content?, Item.isOperator, spells, hw]

/-- The stretch of items has their terms with their marks, and says whether an OR stands before the first. -/
theorem Stretch.ofWords_items (before : Option Item) (items : List Item) (hslot : ∀ x ∈ items, x ≠ .token slot) :
    Stretch.ofWords (before.any (Item.isOperator "not")) (items.filterMap Item.content?) (items.map Item.word) =
      ⟨(items.take (firstPlace items (placedTerms before items))).any (Item.isOperator "or"),
        linked items (placedTerms before items)⟩ := by
  induction items generalizing before with
  | nil => rfl
  | cons x items ih =>
    have hitem := Stretch.ofWords_item before (hslot x List.mem_cons_self) (items.filterMap Item.content?)
      (items.map Item.word)
    have hrest := ih (some x) fun y hy => hslot y (List.mem_cons_of_mem _ hy)
    rw [Option.any_some] at hrest
    have hcontents : (x :: items).filterMap Item.content? = x.content?.toList ++ items.filterMap Item.content? := by
      cases x <;> rfl
    rw [hcontents, List.map_cons, hitem, hrest, placedTerms_cons]
    by_cases hor : x.isOperator "or" = true
    · have hterm : x.term? before = none := Item.term?_eq_none_of_or hor
      simp [hor, hterm, linked_shift, firstPlace_shift]
    · cases hterm : x.term? before with
      | none => simp [hor, linked_shift, firstPlace_shift, Stretch.cons]
      | some t =>
        -- The mark of the first term is an OR before the place of the next one.
        have hbetween : orBetween (x :: items) 0 (firstPlace items (placedTerms (some x) items) + 1) =
            (items.take (firstPlace items (placedTerms (some x) items))).any (Item.isOperator "or") := by
          simp [orBetween]
        simp [hor, linked, linked_shift, firstPlace_shift, hbetween, Stretch.cons]
        simp [firstPlace]

theorem ConsistsOf.ne_slot {s : List Char} {items : List Item} (h : ConsistsOf s items) (hs : slotChar ∉ s) :
    ∀ x ∈ items, x ≠ .token slot := by
  have hplain : ∀ t : List Char, slotChar ∉ t → ∀ x ∈ (Text.words t).map Item.token, x ≠ .token slot := by
    rintro t ht x hx rfl
    obtain ⟨w, hw, hslot⟩ := List.mem_map.mp hx
    exact ht (Text.mem_of_mem_words hw (by rw [Item.token.inj hslot]; exact List.mem_cons_self))
  induction h with
  | plain => exact hplain _ hs
  | @quotation before content after items _ _ _ ih =>
    simp only [List.mem_append, List.mem_cons, not_or] at hs
    intro x hx
    rcases List.mem_append.mp hx with hx | hx
    · exact hplain before hs.1 x hx
    · rcases List.mem_cons.mp hx with rfl | hx
      · exact Item.noConfusion
      · exact ih hs.2.2.2.2 x hx

/-- The terms of a query are those of its items, with their marks. -/
theorem Outline.terms_ofQuery (raw : List Char) :
    ∃ items, ConsistsOf (raw.filter (· != slotChar)) items ∧
      (Outline.ofQuery raw).terms = linked items (placedTerms none items) := by
  obtain ⟨items, hitems, hpieces⟩ := Outline.ofPieces_eq (Text.cut (· == '"') (raw.filter (· != slotChar)))
    (Text.cut_ne_nil _ _) fun p hp hq => by simpa using Text.not_of_mem_cut hp hq
  rw [Text.intercalate_cut] at hitems
  have hslot := hitems.ne_slot (by simp)
  refine ⟨items, hitems, ?_⟩
  have hwords := Stretch.ofWords_items none items hslot
  rw [Option.any_none] at hwords
  rw [Outline.terms, Outline.ofQuery, hpieces, hwords]

end Lookout.Query

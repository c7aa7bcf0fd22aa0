import Lookout.Proofs.Query.Conjunction
import Lookout.Proofs.Search.Mode
import Lookout.Proofs.Text.Quotes

/-! A minus in a query of one word. The index reads such a query as it was written, and there a minus directly before a
    word negates it, while the predicate of the query drops the minus and asks for the word. Main statement: the index
    is asked for the absence of a word exactly if some word of the query, with its quotations emptied, begins with a
    minus and a word character; and what is negated then is the beginning of the very word that the predicate has. -/

namespace Lookout

namespace Query

/-! ### Words behind a minus -/

/-- The text begins with a minus directly before a word character. -/
def hasMinus : List Char → Bool
  | '-' :: c :: _ => Text.isWordChar c
  | _ => false

/-- A minus stands directly before the word, at the start of the text or behind a blank, and outside double quotes. -/
structure NegatedBetween (before w after : List Char) : Prop where
  outside : before.count '"' % 2 = 0
  start : Text.EndsBlank before
  nonempty : w ≠ []
  chars : ∀ c ∈ w, Text.isWordChar c = true
  /-- The word goes as far as its characters do. -/
  stop : ∀ c ∈ after.head?, Text.isWordChar c = false

/-- A sign stands before the word somewhere in the text and negates it there. -/
def Negates (s w : List Char) : Prop := ∃ before after, s = before ++ '-' :: (w ++ after) ∧ NegatedBetween before w after

theorem exists_negates {before after : List Char} {c : Char} (houtside : before.count '"' % 2 = 0)
    (hstart : Text.EndsBlank before) (hc : Text.isWordChar c = true) : ∃ w, Negates (before ++ '-' :: c :: after) w := by
  refine ⟨c :: after.takeWhile Text.isWordChar, before, after.dropWhile Text.isWordChar, ?_, houtside, hstart,
    List.cons_ne_nil _ _, ?_, ?_⟩
  · rw [List.cons_append, List.takeWhile_append_dropWhile]
  · exact List.forall_mem_cons.mpr ⟨hc, fun d hd => List.mem_takeWhile_imp hd⟩
  · intro d hd
    have hhead := List.head?_dropWhile_not Text.isWordChar after
    rw [Option.mem_def.mp hd] at hhead
    simpa using hhead

theorem hasMinus_eq_true {s : List Char} : hasMinus s = true ↔ ∃ c r, s = '-' :: c :: r ∧ Text.isWordChar c = true := by
  constructor
  · intro h
    unfold hasMinus at h
    split at h
    · exact ⟨_, _, rfl, h⟩
    · cases h
  · rintro ⟨c, r, rfl, hc⟩
    exact hc

theorem notQuote_of_isWordChar {c : Char} (hc : Text.isWordChar c = true) : c ≠ '"' := by
  rintro rfl
  exact absurd hc (by decide)

theorem exists_mem_words_hasMinus {s : List Char} :
    (∃ x ∈ Text.words s, hasMinus x = true) ↔
      ∃ a c z, s = a ++ '-' :: c :: z ∧ Text.EndsBlank a ∧ Text.isWordChar c = true := by
  constructor
  · rintro ⟨x, hx, hminus⟩
    obtain ⟨a, z, rfl, ha⟩ := Text.split_of_mem_words hx
    obtain ⟨c, r, rfl, hc⟩ := hasMinus_eq_true.mp hminus
    exact ⟨a, c, r ++ z, rfl, ha, hc⟩
  · rintro ⟨a, c, z, rfl, ha, hc⟩
    have hplain : ∀ d ∈ ['-', c], Text.isBlank d = false :=
      List.forall_mem_cons.mpr ⟨by decide, List.forall_mem_singleton.mpr (Text.isBlank_of_isWordChar hc)⟩
    obtain ⟨r, rest, hwords⟩ := Text.exists_words_cons (List.cons_ne_nil '-' [c]) hplain z
    refine ⟨['-', c] ++ r, ?_, hasMinus_eq_true.mpr ⟨c, r, rfl, hc⟩⟩
    rw [ha.words_append, show '-' :: c :: z = ['-', c] ++ z from rfl, hwords]
    exact List.mem_append_right _ List.mem_cons_self

/-- Words are negated exactly if there is one that begins with a minus, outside the quotations. -/
theorem exists_negates_iff {s : List Char} :
    (∃ w, Negates s w) ↔ ∃ x ∈ Text.words (Text.unquoted false s), hasMinus x = true := by
  rw [exists_mem_words_hasMinus]
  constructor
  · rintro ⟨w, before, after, rfl, h⟩
    obtain ⟨c, w, rfl⟩ := List.exists_cons_of_ne_nil h.nonempty
    have hc := h.chars c List.mem_cons_self
    have hstate := Text.insideAfter_eq_false.mpr h.outside
    refine ⟨Text.unquoted false before, c, Text.unquoted false (w ++ after), ?_, ?_, hc⟩
    · rw [Text.unquoted_append, hstate]
      simp [Text.unquoted, notQuote_of_isWordChar hc]
    · rw [Text.EndsBlank, Text.getLast_unquoted hstate]
      exact h.start
  · rintro ⟨a, c, z, h, ha, hc⟩
    obtain ⟨before, after, rfl, rfl, hstate, hz⟩ := Text.exists_of_unquoted (by decide) h
    cases after with
    | nil => cases hz
    | cons d after =>
      have hd : d = c := by
        rw [Text.unquoted] at hz
        split at hz <;> exact (List.cons.inj hz).1
      subst hd
      rw [Text.EndsBlank, Text.getLast_unquoted hstate] at ha
      exact exists_negates (Text.insideAfter_eq_false.mp hstate) ha hc

/-! ### The term of a word behind a minus -/

theorem spells_minus {name : String} (hname : '-' ∉ name.toList) (w : List Char) : spells name ('-' :: w) = false := by
  rw [spells, beq_eq_false_iff_ne]
  intro h
  refine hname (h ▸ ?_)
  exact List.mem_cons_self

theorem Stretch.exists_of_minus {w : List Char} (hw : Text.wordChars w ≠ []) {words : List (List Char)}
    (h : '-' :: w ∈ words) (negated : Bool) (phrases : List (List Char)) :
    ∃ x ∈ (ofWords negated phrases words).terms,
      x.item = .word (Text.wordChars w) ∨ x.item = .negation (Text.wordChars w) := by
  have hand : spells "and" ('-' :: w) = false := spells_minus (by decide) w
  have hor : spells "or" ('-' :: w) = false := spells_minus (by decide) w
  have hnot : spells "not" ('-' :: w) = false := spells_minus (by decide) w
  -- The words before it tell only whether a `not` stands directly before it, and how many quotations are used up.
  induction words generalizing negated phrases with
  | nil => cases h
  | cons v words ih =>
    rw [ofWords_cons]
    rcases List.mem_cons.mp h with rfl | hmem
    · have hslot : '-' :: w ≠ slot := fun he => absurd (List.cons.inj he).1 (by decide)
      have hchars : Text.wordChars ('-' :: w) = Text.wordChars w := List.filter_cons_of_neg (by decide)
      obtain ⟨c, cs, hcs⟩ := List.exists_cons_of_ne_nil hw
      have hfirst : first? negated phrases ('-' :: w) =
          some (if negated then .negation (Text.wordChars w) else .word (Text.wordChars w)) := by
        simp [first?, hslot, hand, hor, hnot, Term.ofWord?, hchars, hcs]
      rw [hfirst, hor]
      cases negated
      · exact ⟨_, List.mem_cons_self, .inl rfl⟩
      · exact ⟨_, List.mem_cons_self, .inr rfl⟩
    · obtain ⟨x, hx, hitem⟩ := ih hmem (spells "not" v) (if v = slot then phrases.tail else phrases)
      refine ⟨x, ?_, hitem⟩
      by_cases hv : spells "or" v = true
      · rw [if_pos hv]
        exact hx
      · rw [if_neg hv]
        cases first? negated phrases v with
        | none => exact hx
        | some t => exact List.mem_cons_of_mem _ hx

/-- A piece outside the quotations gives its words, and a quote behind it that stays open belongs to its end. -/
theorem Outline.exists_mem_words_ofPieces {init : List (List Char)} (heven : init.length % 2 = 0) (p : List Char)
    (rest : List (List Char)) : ∃ t, ∀ w ∈ Text.words (p ++ t), w ∈ (ofPieces (init ++ p :: rest)).words := by
  match init, heven with
  | [], _ =>
    match rest with
    | [] => exact ⟨[], fun w hw => by simpa [ofPieces] using hw⟩
    | [q] => exact ⟨'"' :: q, fun w hw => hw⟩
    | q :: r :: rest =>
      refine ⟨[], fun w hw => ?_⟩
      rw [List.append_nil] at hw
      rw [List.nil_append, ofPieces_cons_cons _ _ (List.cons_ne_nil _ _)]
      exact List.mem_append_left _ hw
  -- A piece outside and a quotation go before the rest together.
  | a :: b :: init, heven =>
    have hinit : init.length % 2 = 0 := by
      simp only [List.length_cons] at heven
      omega
    obtain ⟨t, ht⟩ := exists_mem_words_ofPieces hinit p rest
    refine ⟨t, fun w hw => ?_⟩
    rw [List.cons_append, List.cons_append, ofPieces_cons_cons a b (by simp)]
    exact List.mem_append_right _ (List.mem_cons_of_mem _ (ht w hw))

/-- The piece that the minus stands in is outside the quotations, and the minus begins it or stands behind a blank. -/
theorem NegatedBetween.last_piece {before w after : List Char} (h : NegatedBetween before w after)
    {init : List (List Char)} {last : List Char}
    (hcut : Text.cut (· == '"') (before.filter (· != slotChar)) = init ++ [last]) :
    init.length % 2 = 0 ∧ Text.EndsBlank last := by
  constructor
  · have hlength := Text.length_cut (· == '"') (before.filter (· != slotChar))
    have hcount : (before.filter (· != slotChar)).countP (· == '"') = before.count '"' := List.count_filter rfl
    have houtside := h.outside
    rw [hcut, List.length_append, List.length_singleton, hcount] at hlength
    omega
  · refine (h.start.filter fun c hc => ?_).last_piece (fun c hc => ?_) hcut
    · exact bne_iff_ne.mpr fun he => absurd (he ▸ hc) (by decide)
    · exact beq_eq_false_iff_ne.mpr fun he => absurd (he ▸ hc) (by decide)

/-- A word that is negated begins, behind its minus, a word of the outline. -/
theorem NegatedBetween.exists_mem_words {before w after : List Char} (h : NegatedBetween before w after) :
    ∃ r, '-' :: (w ++ r) ∈ (Outline.ofQuery (before ++ '-' :: (w ++ after))).words := by
  have hslot : ∀ c ∈ '-' :: w, (c != slotChar) = true := by
    refine List.forall_mem_cons.mpr ⟨by decide, fun c hc => bne_iff_ne.mpr ?_⟩
    rintro rfl
    exact absurd (h.chars _ hc) (by decide +kernel)
  have hquote : ∀ c ∈ '-' :: w, (c == '"') = false :=
    List.forall_mem_cons.mpr ⟨by decide, fun c hc => beq_eq_false_iff_ne.mpr (notQuote_of_isWordChar (h.chars c hc))⟩
  have hblank : ∀ c ∈ '-' :: w, Text.isBlank c = false :=
    List.forall_mem_cons.mpr ⟨by decide, fun c hc => Text.isBlank_of_isWordChar (h.chars c hc)⟩
  have hfilter : (before ++ '-' :: (w ++ after)).filter (· != slotChar) =
      before.filter (· != slotChar) ++ ('-' :: w ++ after.filter (· != slotChar)) := by
    rw [List.filter_append, ← List.cons_append, List.filter_append, List.filter_eq_self.mpr hslot]
  obtain ⟨f, rest, -, hcut⟩ := Text.exists_cut_prepend hquote (after.filter (· != slotChar))
  obtain ⟨init, last, first, rest', hbefore, hcut', hseam⟩ :=
    Text.exists_cut_seam (p := (· == '"')) (before.filter (· != slotChar)) ('-' :: w ++ after.filter (· != slotChar))
  obtain ⟨rfl, rfl⟩ := List.cons.inj (hcut.symm.trans hcut')
  -- The minus stands outside quotations, so the pieces before it are even in number.
  obtain ⟨heven, hlast⟩ := h.last_piece hbefore
  obtain ⟨t, ht⟩ := Outline.exists_mem_words_ofPieces heven (last ++ ('-' :: w ++ f)) rest
  obtain ⟨r, others, hwords⟩ := Text.exists_words_cons (List.cons_ne_nil '-' w) hblank (f ++ t)
  refine ⟨r, ?_⟩
  rw [Outline.ofQuery, hfilter, hseam]
  refine ht _ ?_
  rw [List.append_assoc, List.append_assoc, hlast.words_append, hwords]
  exact List.mem_append_right _ List.mem_cons_self

/-- A word that is negated is the beginning of a word that the predicate asks for, or asks to be absent. -/
theorem Negates.exists_term {s w : List Char} (h : Negates s w) :
    ∃ x ∈ (Predicate.ofQuery s).terms, ∃ v, w <+: v ∧ (x.item = .word v ∨ x.item = .negation v) := by
  obtain ⟨before, after, rfl, h⟩ := h
  obtain ⟨r, hmem⟩ := h.exists_mem_words
  have hchars : Text.wordChars (w ++ r) = w ++ Text.wordChars r := by
    rw [Text.wordChars_append]
    exact congrArg (· ++ Text.wordChars r) (List.filter_eq_self.mpr h.chars)
  have hne : Text.wordChars (w ++ r) ≠ [] := by
    rw [hchars]
    exact List.append_ne_nil_of_left_ne_nil h.nonempty _
  obtain ⟨x, hx, hitem⟩ := Stretch.exists_of_minus hne hmem false _
  exact ⟨x, hx, _, hchars ▸ List.prefix_append w _, hitem⟩

end Query

namespace Search

open Query (Predicate)

/-- A query that is handed to the index as it was written asks for one word. The index is told to do without a word
    exactly if some word of the query, with its quotations emptied, begins with a minus and a word character. The word
    that is negated then is a beginning of the one that the predicate asks for. -/
theorem index_negates_iff (settings : Settings) (query : String) (filters : Filters)
    (h : (Plan.ofRequest settings query filters).mode = some .implicitText) :
    ∃ t w mark, (Plan.ofRequest settings query filters).text = some t ∧
      call settings t = ⟨"websearch_to_tsquery", .text settings.textSearchConfig, .text t.indexQuery⟩ ∧
      ((Predicate.ofQuery query.toList).terms = [⟨.word w, mark⟩] ∨
        (Predicate.ofQuery query.toList).terms = [⟨.phrase [w], mark⟩]) ∧
      ((∀ v, ¬ Query.Negates t.indexQuery.toList v) ↔
        ∀ x ∈ Text.words (Text.unquoted false query.toList), Query.hasMinus x = false) ∧
      ∀ v, Query.Negates t.indexQuery.toList v →
        v <+: w ∧ (Predicate.ofQuery query.toList).terms = [⟨.word w, mark⟩] := by
  obtain ⟨t, ht, hmode⟩ := Option.map_eq_some_iff.mp h
  obtain ⟨htmode, -, hindex⟩ := Plan.eq_of_text ht
  rw [← htmode, hmode] at hindex
  have hcall : call settings t = ⟨"websearch_to_tsquery", .text settings.textSearchConfig, .text t.indexQuery⟩ := by
    rw [call, hmode]
    rfl
  have hnegates : (∀ v, ¬ Query.Negates t.indexQuery.toList v) ↔
      ∀ x ∈ Text.words (Text.unquoted false query.toList), Query.hasMinus x = false := by
    rw [hindex, ← not_exists, Query.exists_negates_iff]
    simp
  rcases Predicate.mode_eq_implicitText.mp (htmode.symm.trans hmode) with hnil | ⟨w, mark, hword⟩ | ⟨w, mark, hphrase⟩
  · exact absurd hnil (Plan.terms_of_text ht)
  · refine ⟨t, w, mark, ht, hcall, .inl hword, hnegates, fun v hv => ⟨?_, hword⟩⟩
    obtain ⟨x, hx, v', hprefix, hitem⟩ := (hindex ▸ hv).exists_term
    rw [hword] at hx
    obtain rfl := List.mem_singleton.mp hx
    rcases hitem with hitem | hitem
    · exact Query.Term.word.inj hitem ▸ hprefix
    · cases hitem
  · -- A word in quotes is not negated.
    refine ⟨t, w, mark, ht, hcall, .inr hphrase, hnegates, fun v hv => ?_⟩
    obtain ⟨x, hx, v', -, hitem⟩ := (hindex ▸ hv).exists_term
    rw [hphrase] at hx
    obtain rfl := List.mem_singleton.mp hx
    rcases hitem with hitem | hitem <;> cases hitem

/-- A minus inside a word, and one inside quotes, negate nothing. -/
theorem index_negates_iff_hyphen :
    let plan := Plan.ofRequest ⟨"english", .one⟩ "well-lit \"-\"" .unset
    plan.mode = some .implicitText ∧ ∃ t, plan.text = some t ∧ ∀ v, ¬ Query.Negates t.indexQuery.toList v := by
  intro plan
  have hmode : plan.mode = some .implicitText := by decide +kernel
  obtain ⟨t, -, -, ht, -, -, hiff, -⟩ := index_negates_iff ⟨"english", .one⟩ "well-lit \"-\"" .unset hmode
  exact ⟨hmode, t, ht, hiff.mpr (by decide +kernel)⟩

/-- The predicate asks for the word behind a minus, also beside another word, and the index for its absence. -/
theorem index_negates_bare_word :
    let plan := Plan.ofRequest ⟨"english", .one⟩ "-cat" .unset
    plan.mode = some .implicitText ∧ (Predicate.ofQuery "-cat".toList).terms = [⟨.word "cat".toList, false⟩] ∧
      (∃ t, plan.text = some t ∧ Query.Negates t.indexQuery.toList "cat".toList) ∧
      (Predicate.ofQuery "-cat dog".toList).text = "cat & dog".toList := by
  intro plan
  refine ⟨by decide +kernel, by decide +kernel, ⟨_, rfl, [], [], ?_, ?_⟩, by decide +kernel⟩
  · decide +kernel
  · exact ⟨rfl, Text.endsBlank_nil, by decide, List.all_eq_true.mp (by decide), nofun⟩

end Search
end Lookout

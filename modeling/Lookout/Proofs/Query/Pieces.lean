import Lookout.Proofs.Query.Items
import Lookout.Proofs.Text.Trim

/-! The outline of a query, by the pieces into which double quotes cut the query. Every second piece that a quote
    closes is a quotation, and all else is outside. Main statement: the outline has the quotations as they stand,
    and the words of what is outside, with a slot in the place of each quotation; nothing but these slots holds the
    slot character, and no character is lost but blanks. -/

namespace Lookout.Query

/-- Double quotes cut the text into the pieces. -/
def CutsInto (s : List Char) (pieces : List (List Char)) : Prop :=
  pieces ≠ [] ∧ ['"'].intercalate pieces = s ∧ ∀ p ∈ pieces, '"' ∉ p

theorem cutsInto_iff {s : List Char} {pieces : List (List Char)} :
    CutsInto s pieces ↔ pieces = Text.cut (· == '"') s := by
  constructor
  · rintro ⟨hne, rfl, hfree⟩
    exact (Text.cut_intercalate hne hfree).symm
  · rintro rfl
    exact ⟨Text.cut_ne_nil _ _, Text.intercalate_cut '"' s, fun p hp hq => by simpa using Text.not_of_mem_cut hp hq⟩

/-- The number of quotations, when there is one double quote less than pieces. -/
def closedCount (pieces : List (List Char)) : Nat := (pieces.length - 1) / 2

/-- The contents of the closed quotations. -/
def quoted (pieces : List (List Char)) : List (List Char) :=
  (List.range (closedCount pieces)).map fun k => pieces.getD (2 * k + 1) []

/-- The end of a text behind its last closed quotation, with a double quote that no other one closes. -/
def ending (pieces : List (List Char)) : List Char :=
  let m := closedCount pieces
  pieces.getD (2 * m) [] ++ if (pieces.length - 1) % 2 = 1 then '"' :: pieces.getD (2 * m + 1) [] else []

/-- The texts before, between and behind the closed quotations. -/
def outside (pieces : List (List Char)) : List (List Char) :=
  (List.range (closedCount pieces)).map (fun k => pieces.getD (2 * k) []) ++ [ending pieces]

/-! ### Two pieces at a time -/

section
variable {p q : List Char} {rest : List (List Char)}

theorem closedCount_cons_cons (hne : rest ≠ []) : closedCount (p :: q :: rest) = closedCount rest + 1 := by
  have hpos : 0 < rest.length := List.length_pos_iff.mpr hne
  simp only [closedCount, List.length_cons]
  omega

theorem quoted_cons_cons (hne : rest ≠ []) : quoted (p :: q :: rest) = q :: quoted rest := by
  rw [quoted, closedCount_cons_cons hne, List.range_succ_eq_map, List.map_cons, List.map_map]
  rfl

theorem outside_cons_cons (hne : rest ≠ []) : outside (p :: q :: rest) = p :: outside rest := by
  have hpos : 0 < rest.length := List.length_pos_iff.mpr hne
  have hending : ending (p :: q :: rest) = ending rest := by
    have hodd : (rest.length + 1 + 1 - 1) % 2 = (rest.length - 1) % 2 := by omega
    rw [ending, closedCount_cons_cons hne, List.length_cons, List.length_cons, hodd]
    rfl
  rw [outside, closedCount_cons_cons hne, List.range_succ_eq_map, List.map_cons, List.map_map, hending]
  rfl

end

theorem outside_ne_nil (pieces : List (List Char)) : outside pieces ≠ [] := by simp [outside]

/-- The outline of pieces has the words of the texts outside, with a slot between any two, and the quotations. -/
theorem Outline.ofPieces_eq_pieces {pieces : List (List Char)} (hne : pieces ≠ []) :
    Outline.ofPieces pieces = ⟨[slot].intercalate ((outside pieces).map Text.words), quoted pieces⟩ := by
  fun_induction Outline.ofPieces pieces with
  | case1 => exact absurd rfl hne
  | case2 p => simp [outside, quoted, closedCount, ending]
  | case3 p q => simp [outside, quoted, closedCount, ending]
  | case4 p q rest hrest tail ih =>
    have hrest : rest ≠ [] := by simpa using hrest
    obtain ⟨t, ts, hts⟩ := List.exists_cons_of_ne_nil (outside_ne_nil rest)
    have htail : tail = ⟨[slot].intercalate ((outside rest).map Text.words), quoted rest⟩ := ih hrest
    rw [htail, quoted_cons_cons hrest, outside_cons_cons hrest, hts]
    simp [List.intercalate_cons_cons]

theorem words_append_slot (s t : List Char) :
    Text.words (s ++ [' ', slotChar, ' '] ++ t) = Text.words s ++ [slot] ++ Text.words t := by
  have hslot : Text.words [slotChar] = [slot] := by decide
  have hblank : Text.isBlank ' ' = true := by decide
  calc Text.words (s ++ [' ', slotChar, ' '] ++ t)
      = Text.words (s ++ ' ' :: ([slotChar] ++ ' ' :: t)) := by simp
    _ = Text.words s ++ (Text.words [slotChar] ++ Text.words t) := by
      rw [Text.words_append_blank hblank, Text.words_append_blank hblank]
    _ = Text.words s ++ [slot] ++ Text.words t := by rw [hslot, List.append_assoc]

/-- The words of texts with a slot between any two are those of the text in which the slots stand between blanks. -/
theorem words_intercalate_slot (texts : List (List Char)) :
    Text.words ([' ', slotChar, ' '].intercalate texts) = [slot].intercalate (texts.map Text.words) := by
  induction texts with
  | nil => rfl
  | cons t ts ih =>
    cases ts with
    | nil => simp
    | cons u us =>
      rw [List.intercalate_cons_cons, words_append_slot, ih]
      simp [List.intercalate_cons_cons]

/-! ### Slots among the words -/

section
variable {α : Type} [BEq α] [LawfulBEq α] {a : α} {lists : List (List α)}

theorem count_intercalate (hne : lists ≠ []) (ha : ∀ l ∈ lists, a ∉ l) :
    ([a].intercalate lists).count a + 1 = lists.length := by
  induction lists with
  | nil => exact absurd rfl hne
  | cons l ls ih =>
    obtain ⟨hl, hls⟩ := List.forall_mem_cons.mp ha
    cases ls with
    | nil => simp [List.count_eq_zero_of_not_mem hl]
    | cons m ms =>
      have hrest := ih (List.cons_ne_nil m ms) hls
      rw [List.intercalate_cons_cons, List.count_append, List.count_append, List.count_singleton_self,
        List.count_eq_zero_of_not_mem hl, List.length_cons]
      omega

theorem filter_intercalate (ha : ∀ l ∈ lists, a ∉ l) : ([a].intercalate lists).filter (· != a) = lists.flatten := by
  have hkeep : ∀ {l : List α}, a ∉ l → l.filter (· != a) = l := fun hl =>
    List.filter_eq_self.mpr fun b hb => by simpa using fun he : b = a => hl (he ▸ hb)
  induction lists with
  | nil => rfl
  | cons l ls ih =>
    obtain ⟨hl, hls⟩ := List.forall_mem_cons.mp ha
    cases ls with
    | nil => simpa using hkeep hl
    | cons m ms =>
      rw [List.intercalate_cons_cons, List.filter_append, List.filter_append, hkeep hl, ih hls]
      simp

end

theorem mem_getD {pieces : List (List Char)} {k : Nat} {c : Char} (h : c ∈ pieces.getD k []) :
    ∃ p ∈ pieces, c ∈ p := by
  rw [List.getD_eq_getElem?_getD] at h
  cases hk : pieces[k]? with
  | none =>
    rw [hk] at h
    cases h
  | some p =>
    rw [hk] at h
    exact ⟨p, List.mem_of_getElem? hk, h⟩

theorem mem_quoted {pieces : List (List Char)} {q : List Char} (hq : q ∈ quoted pieces) {c : Char} (hc : c ∈ q) :
    ∃ p ∈ pieces, c ∈ p := by
  obtain ⟨k, -, rfl⟩ := List.mem_map.mp hq
  exact mem_getD hc

theorem mem_outside {pieces : List (List Char)} {t : List Char} (ht : t ∈ outside pieces) {c : Char} (hc : c ∈ t) :
    c = '"' ∨ ∃ p ∈ pieces, c ∈ p := by
  rcases List.mem_append.mp ht with ht | ht
  · obtain ⟨k, -, rfl⟩ := List.mem_map.mp ht
    exact Or.inr (mem_getD hc)
  · obtain rfl := List.mem_singleton.mp ht
    rcases List.mem_append.mp hc with hc | hc
    · exact Or.inr (mem_getD hc)
    · split at hc
      · rcases List.mem_cons.mp hc with rfl | hc
        · exact Or.inl rfl
        · exact Or.inr (mem_getD hc)
      · cases hc

/-! ### The outline of a query -/

/-- What the outline of a text consists of, when double quotes cut the text into the pieces. -/
structure Outline.Separates (s : List Char) (pieces : List (List Char)) (o : Outline) : Prop where
  phrases : o.phrases = quoted pieces
  words : o.words = [slot].intercalate ((outside pieces).map Text.words)
  /-- The words are those of the text with a slot between blanks in the place of each quotation. -/
  rewritten : o.words = Text.words ([' ', slotChar, ' '].intercalate (outside pieces))
  phraseCount : o.phrases.length = s.count '"' / 2
  slotCount : o.words.count slot = o.phrases.length
  unforged : (∀ w ∈ o.words, w ≠ slot → slotChar ∉ w) ∧ ∀ q ∈ o.phrases, slotChar ∉ q
  unquoted : ∀ q ∈ o.phrases, '"' ∉ q
  solid : ∀ w ∈ o.words, w ≠ [] ∧ ∀ c ∈ w, Text.isBlank c = false
  /-- The other words hold what is outside the quotations, in order and without the blanks. -/
  kept : (o.words.filter (· != slot)).flatten = (outside pieces).flatten.filter (!Text.isBlank ·)

theorem Outline.separates_ofPieces {s : List Char} {pieces : List (List Char)} (hs : slotChar ∉ s)
    (h : CutsInto s pieces) : (Outline.ofPieces pieces).Separates s pieces := by
  have hcut := cutsInto_iff.mp h
  obtain ⟨hne, -, hfree⟩ := h
  have hpieces : ∀ p ∈ pieces, slotChar ∉ p := by
    intro p hp hc
    have hflat : slotChar ∈ (Text.cut (· == '"') s).flatten := List.mem_flatten.mpr ⟨p, hcut ▸ hp, hc⟩
    rw [Text.flatten_cut] at hflat
    exact hs (List.mem_filter.mp hflat).1
  have houtside : ∀ t ∈ outside pieces, slotChar ∉ t := by
    intro t ht hc
    rcases mem_outside ht hc with hquote | ⟨p, hp, hc⟩
    · cases hquote
    · exact hpieces p hp hc
  -- No word of the query spells a slot, so the slots of the outline are those that it puts between the pieces.
  have hslot : ∀ ws ∈ (outside pieces).map Text.words, slot ∉ ws := by
    intro ws hws hmem
    obtain ⟨t, ht, rfl⟩ := List.mem_map.mp hws
    exact houtside t ht (Text.mem_of_mem_words hmem List.mem_cons_self)
  have hword : ∀ w ∈ [slot].intercalate ((outside pieces).map Text.words),
      w = slot ∨ ∃ t ∈ outside pieces, w ∈ Text.words t := by
    intro w hw
    rcases Text.mem_intercalate hw with hsep | ⟨ws, hws, hw⟩
    · exact Or.inl (List.mem_singleton.mp hsep)
    · obtain ⟨t, ht, rfl⟩ := List.mem_map.mp hws
      exact Or.inr ⟨t, ht, hw⟩
  rw [Outline.ofPieces_eq_pieces hne]
  constructor
  case phrases => rfl
  case words => rfl
  case rewritten => exact (words_intercalate_slot _).symm
  case phraseCount =>
    have hlength : pieces.length = s.count '"' + 1 := by
      rw [hcut, Text.length_cut]
      rfl
    simp [quoted, closedCount, hlength]
  -- The quotations lie between the pieces outside, of which there is one more.
  case slotCount =>
    have hcount := count_intercalate (by simp [outside_ne_nil]) hslot
    simp only [List.length_map, outside, List.length_append, List.length_singleton, quoted, List.length_range] at hcount ⊢
    omega
  case unforged =>
    refine ⟨fun w hw hne hc => ?_, fun q hq hc => ?_⟩
    · rcases hword w hw with rfl | ⟨t, ht, hw⟩
      · exact hne rfl
      · exact houtside t ht (Text.mem_of_mem_words hw hc)
    · obtain ⟨p, hp, hc⟩ := mem_quoted hq hc
      exact hpieces p hp hc
  case unquoted =>
    intro q hq hc
    obtain ⟨p, hp, hc⟩ := mem_quoted hq hc
    exact hfree p hp hc
  case solid =>
    intro w hw
    rcases hword w hw with rfl | ⟨t, -, hw⟩
    · refine ⟨List.cons_ne_nil _ _, fun c hc => ?_⟩
      obtain rfl := List.mem_singleton.mp hc
      rfl
    · exact Text.word_of_mem_words hw
  -- Cutting into words takes away blanks only, and the slots are filtered out again.
  case kept =>
    rw [filter_intercalate hslot, List.flatten_flatten, List.map_map, List.filter_flatten]
    exact congrArg List.flatten (List.map_congr_left fun t _ => Text.flatten_words t)

/-- Double quotes cut a query, without the slot characters in it, into pieces in one way, and these give its
    outline. -/
theorem Outline.separates_ofQuery (raw : List Char) :
    ∃ pieces, (∀ others, CutsInto (raw.filter (· != slotChar)) others ↔ others = pieces) ∧
      (Outline.ofQuery raw).Separates (raw.filter (· != slotChar)) pieces := by
  refine ⟨Text.cut (· == '"') (raw.filter (· != slotChar)), fun others => cutsInto_iff, ?_⟩
  exact Outline.separates_ofPieces (by simp) (cutsInto_iff.mpr rfl)

end Lookout.Query

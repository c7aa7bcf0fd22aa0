import Lookout.Proofs.Query.Meaning
import Lookout.Proofs.Search.Mode
import Lookout.Proofs.Text.Trim
import Lookout.Proofs.TextSet

/-! Patterns and lists of a search. A pattern searches for one text, which stands in it between two `%` and with its
    special characters escaped. Main statement: this text is never blank, and the lists in conditions are never empty.
    So no pattern is like every text, and no group of alternatives is without a member. -/

namespace Lookout

/-! ### What a pattern searches for -/

namespace Like

/-- The text without the escape characters, if nothing else in it is special. -/
def unescape? : List Char → Option (List Char)
  | [] => some []
  | '\\' :: c :: rest => (unescape? rest).map (c :: ·)
  | c :: rest => if isSpecial c then none else (unescape? rest).map (c :: ·)

/-- The text between the outer `%` of a pattern, without the escape characters. -/
def literal? : List Char → Option (List Char)
  | '%' :: rest => if rest.getLast? = some '%' then unescape? rest.dropLast else none
  | _ => none

theorem unescape?_escape (s : List Char) : unescape? (escape s) = some s := by
  induction s with
  | nil => rfl
  | cons c s ih =>
    rw [escape_cons]
    cases hc : isSpecial c with
    | true =>
      change (unescape? (escape s)).map (c :: ·) = some (c :: s)
      rw [ih, Option.map_some]
    | false =>
      have hne : c ≠ '\\' := by
        rintro rfl
        cases hc
      rw [if_neg Bool.false_ne_true, List.singleton_append, unescape?, hc, ih]
      · rfl
      · rintro d rest rfl
        exact absurd rfl hne

theorem literal?_containing (s : List Char) : literal? (containing s) = some s := by
  rw [containing, List.cons_append, literal?, if_pos List.getLast?_concat, List.dropLast_concat, unescape?_escape]

/-- The pattern searches for this text, which is not empty and has no blanks at its ends. -/
structure Searches (pattern : String) (s : List Char) : Prop where
  literal : literal? pattern.toList = some s
  nonempty : s ≠ []
  head : ∀ c ∈ s.head?, Text.isBlank c = false
  last : ∀ c ∈ s.getLast?, Text.isBlank c = false
  /-- The empty text is not like it, in any case of letters. -/
  selective : ∀ φ : Folding, φ.ilike? pattern.toList [] = some false

theorem searches_trim {s : List Char} (h : Text.trim s ≠ []) :
    Searches (String.ofList (containing (Text.trim s))) (Text.trim s) := by
  refine ⟨?_, h, Text.head_trim s, Text.getLast_trim s, fun φ => ?_⟩
  · rw [String.toList_ofList, literal?_containing]
  · have hoccurs : ¬ φ.Occurs (Text.trim s) [] := fun hinfix =>
      h (List.map_eq_nil_iff.mp (List.eq_nil_of_infix_nil hinfix))
    rw [String.toList_ofList, φ.ilike?_containing, decide_eq_false hoccurs]

end Like

/-! ### A query with a term has a word character -/

namespace Query

/-- The characters of an item. -/
def Item.chars : Item → List Char
  | .quotation content => content
  | .token w => w

theorem ConsistsOf.mem {s : List Char} {items : List Item} (h : ConsistsOf s items) :
    ∀ x ∈ items, ∀ c ∈ x.chars, c ∈ s := by
  have htoken : ∀ {t : List Char}, ∀ x ∈ (Text.words t).map Item.token, ∀ c ∈ x.chars, c ∈ t := by
    intro t x hx c hc
    obtain ⟨w, hw, rfl⟩ := List.mem_map.mp hx
    exact Text.mem_of_mem_words hw hc
  induction h with
  | plain _ => exact htoken
  | @quotation before content after items _ _ _ ih =>
    intro x hx c hc
    rcases List.mem_append.mp hx with hx | hx
    · exact List.mem_append_left _ (htoken x hx c hc)
    rcases List.mem_cons.mp hx with rfl | hx
    · have hcontent : c ∈ content := hc
      simp [hcontent]
    · simp [ih x hx c hc]

theorem Item.any_of_term? {previous : Option Item} {x : Item} {t : Term} (h : x.term? previous = some t) :
    x.chars.any Text.isWordChar = true := by
  cases x with
  | quotation content =>
    rw [Item.term?_quotation, Option.ite_none_right_eq_some] at h
    exact h.1
  | token w =>
    rw [Item.term?_token] at h
    split at h
    · cases h
    split at h
    · cases h
    next hw =>
    change w.any Text.isWordChar = true
    simpa using hw

theorem exists_wordChar_of_terms {raw : List Char} (h : (Predicate.ofQuery raw).terms ≠ []) :
    ∃ c ∈ raw, Text.isWordChar c = true := by
  obtain ⟨items, hitems, hterms⟩ := Outline.terms_ofQuery raw
  have hplaced : placedTerms none items ≠ [] := fun hnil => h (by rw [Predicate.ofQuery, hterms, hnil]; rfl)
  obtain ⟨e, he⟩ := List.exists_mem_of_ne_nil _ hplaced
  obtain ⟨i, -, hi⟩ := List.mem_filterMap.mp he
  obtain ⟨t, ht, -⟩ := Option.map_eq_some_iff.mp hi
  obtain ⟨x, hx, hterm⟩ := Option.bind_eq_some_iff.mp ht
  obtain ⟨c, hc, hword⟩ := List.any_eq_true.mp (Item.any_of_term? hterm)
  have hmem := hitems.mem x (List.mem_of_getElem? hx) c hc
  exact ⟨c, (List.mem_filter.mp hmem).1, hword⟩

end Query

/-! ### The conditions of filters -/

namespace Condition

/-- The kinds of conditions. -/
inductive Kind where
  | startedAtOrAfter
  | startedBefore
  | cameraIn
  | severityIn
  | objectTypeMatchesAny
  | reviewed
  deriving Repr, DecidableEq

/-- The kind of a condition. -/
def kind : Condition → Kind
  | .startedAtOrAfter _ => .startedAtOrAfter
  | .startedBefore _ => .startedBefore
  | .cameraIn _ => .cameraIn
  | .severityIn _ => .severityIn
  | .objectTypeMatchesAny _ => .objectTypeMatchesAny
  | .reviewed _ => .reviewed

/-- The kinds in the order of conditions, each once. -/
def Kind.inOrder : List Kind :=
  [.startedAtOrAfter, .startedBefore, .cameraIn, .severityIn, .objectTypeMatchesAny, .reviewed]

end Condition

namespace Filters

open Condition (Kind)

theorem kinds_sublist (f : Filters) : (f.conditions.map Condition.kind).Sublist Kind.inOrder := by
  have hoption : ∀ {α : Type} (condition : α → Condition) (k : Kind), (∀ a, (condition a).kind = k) →
      ∀ o : Option α, ((o.toList.map condition).map Condition.kind).Sublist [k] := by
    intro α condition k hk o
    cases o with
    | none => exact List.nil_sublist _
    | some a => simp [hk]
  have hlist : ∀ (condition : List String → Condition) (k : Kind), (∀ xs, (condition xs).kind = k) →
      ∀ xs, ((onList condition xs).map Condition.kind).Sublist [k] := by
    intro condition k hk xs
    cases xs with
    | nil => exact List.nil_sublist _
    | cons x xs => simp [onList, hk]
  simp only [conditions, List.map_append]
  exact (((((hoption .startedAtOrAfter _ (fun _ => rfl) _).append (hoption .startedBefore _ (fun _ => rfl) _)).append
    (hlist .cameraIn _ (fun _ => rfl) _)).append (hlist .severityIn _ (fun _ => rfl) _)).append
    (hlist .objectTypeMatchesAny _ (fun _ => rfl) _)).append (hoption .reviewed _ (fun _ => rfl) _)

/-- The list holds the members of a set in ascending order, and there is one. -/
structure Lists (ids : List String) (s : TextSet) : Prop where
  nonempty : ids ≠ []
  ascending : ids.Pairwise (· < ·)
  mem_iff : ∀ x, x ∈ ids ↔ x ∈ s

theorem lists_iff {ids : List String} {s : TextSet} : Lists ids s ↔ s.toList ≠ [] ∧ ids = s.toList := by
  constructor
  · rintro ⟨hne, hascending, hmem⟩
    obtain rfl := eq_of_ascending hascending s.ascending hmem
    exact ⟨hne, rfl⟩
  · rintro ⟨hne, rfl⟩
    exact ⟨hne, s.ascending, fun _ => Iff.rfl⟩

variable {f : Filters}

theorem mem_onList {condition : List String → Condition} {c : Condition} {xs : List String} :
    c ∈ onList condition xs ↔ xs ≠ [] ∧ c = condition xs := by
  cases xs <;> simp [onList]

theorem cameraIn_mem_conditions {ids : List String} : .cameraIn ids ∈ f.conditions ↔ Lists ids f.cameraIds := by
  rw [lists_iff]
  simp [conditions, mem_onList]

theorem severityIn_mem_conditions {levels : List String} :
    .severityIn levels ∈ f.conditions ↔ Lists levels f.severity := by
  rw [lists_iff]
  simp [conditions, mem_onList]

theorem objectTypeMatchesAny_mem_conditions {patterns : List String} :
    .objectTypeMatchesAny patterns ∈ f.conditions ↔ f.objectTypePatterns ≠ [] ∧ patterns = f.objectTypePatterns := by
  simp [conditions, mem_onList]

theorem searches_of_mem_objectTypePatterns {p : String} (h : p ∈ f.objectTypePatterns) :
    ∃ name ∈ f.objectTypes, Like.Searches p (Text.trim name.toList) := by
  rw [Search.objectTypePatterns_eq] at h
  obtain ⟨s, hs, rfl⟩ := List.mem_map.mp h
  obtain ⟨hs, hne⟩ := List.mem_filter.mp hs
  obtain ⟨name, hname, rfl⟩ := List.mem_map.mp hs
  exact ⟨name, hname, Like.searches_trim (by simpa using hne)⟩

theorem objectTypePatterns_ne_nil :
    f.objectTypePatterns ≠ [] ↔ ∃ name ∈ f.objectTypes, Text.isBlankText name.toList = false := by
  rw [Search.objectTypePatterns_eq, ne_eq, List.map_eq_nil_iff, List.filter_eq_nil_iff]
  simp only [List.mem_map, forall_exists_index, and_imp, forall_apply_eq_imp_iff₂, Bool.not_eq_true',
    List.isEmpty_eq_false_iff, ne_eq, not_not, Text.trim_eq_nil_iff, not_forall, exists_prop, Bool.not_eq_true]
  rfl

end Filters

namespace Search

/-- The text side of a search has a pattern that searches for the query without the blanks at its ends, and this has a
    word character. The conditions of filters come in one order, at most one of each kind. Those on cameras and
    severities are about the members of a set, in ascending order, and that on object types has a pattern, each of which
    searches for a name; none of them is there without a member. -/
theorem patterns_and_lists_nonempty (settings : Settings) (query : String) (filters : Filters) :
    let plan := Plan.ofRequest settings query filters
    (∀ t, plan.text = some t →
      Like.Searches t.fallbackPattern (Text.trim query.toList) ∧
        (Text.trim query.toList).any Text.isWordChar = true) ∧
    plan.conditions = filters.conditions ∧
    (filters.conditions.map Condition.kind).Sublist Condition.Kind.inOrder ∧
    (∀ ids, .cameraIn ids ∈ filters.conditions ↔ Filters.Lists ids filters.cameraIds) ∧
    (∀ levels, .severityIn levels ∈ filters.conditions ↔ Filters.Lists levels filters.severity) ∧
    (∀ patterns, .objectTypeMatchesAny patterns ∈ filters.conditions →
      patterns ≠ [] ∧ ∀ p ∈ patterns, ∃ name ∈ filters.objectTypes, Like.Searches p (Text.trim name.toList)) ∧
    ((∃ patterns, .objectTypeMatchesAny patterns ∈ filters.conditions) ↔
      ∃ name ∈ filters.objectTypes, Text.isBlankText name.toList = false) := by
  intro plan
  refine ⟨fun t ht => ?_, rfl, Filters.kinds_sublist filters, fun _ => Filters.cameraIn_mem_conditions,
    fun _ => Filters.severityIn_mem_conditions, fun patterns hpatterns => ?_, ?_⟩
  -- A term has a word character, which is no blank, so trimming leaves it.
  · obtain ⟨c, hc, hword⟩ := Query.exists_wordChar_of_terms (Plan.terms_of_text ht)
    have hmem := Text.mem_trim_of_mem (Text.isBlank_of_isWordChar hword) hc
    refine ⟨?_, List.any_eq_true.mpr ⟨c, hmem, hword⟩⟩
    rw [Plan.fallbackPattern_eq ht]
    exact Like.searches_trim (List.ne_nil_of_mem hmem)
  · obtain ⟨hne, rfl⟩ := Filters.objectTypeMatchesAny_mem_conditions.mp hpatterns
    exact ⟨hne, fun p hp => Filters.searches_of_mem_objectTypePatterns hp⟩
  · rw [← Filters.objectTypePatterns_ne_nil]
    simp [Filters.objectTypeMatchesAny_mem_conditions]

/-- The sign of a percentage, and an object type that is blank beside one that is not. -/
theorem patterns_and_lists_nonempty_discount :
    let filters := Filters.ofChoices [.camera "b", .camera "a", .objectType " _ ", .objectType "  "]
    ∃ t, (Plan.ofRequest ⟨"english", .one⟩ "  50%_off " filters).text = some t ∧
      Like.Searches t.fallbackPattern "50%_off".toList ∧ .cameraIn ["a", "b"] ∈ filters.conditions ∧
      ∃ patterns, .objectTypeMatchesAny patterns ∈ filters.conditions ∧
        ∀ p ∈ patterns, ∃ name ∈ filters.objectTypes, Like.Searches p (Text.trim name.toList) := by
  intro filters
  obtain ⟨hpattern, -, -, hcameras, -, htypes, hexists⟩ :=
    patterns_and_lists_nonempty ⟨"english", .one⟩ "  50%_off " filters
  have hname : " _ " ∈ filters.objectTypes := TextSet.mem_insert.mpr (.inr (TextSet.mem_insert.mpr (.inl rfl)))
  obtain ⟨patterns, hpatterns⟩ := hexists.mpr ⟨" _ ", hname, rfl⟩
  refine ⟨_, rfl, (hpattern _ rfl).1, (hcameras _).mpr ?_, patterns, hpatterns, (htypes patterns hpatterns).2⟩
  exact Filters.lists_iff.mpr ⟨by decide, rfl⟩

end Search
end Lookout

import Lookout.Proofs.Json.Numerals
import Lookout.Proofs.Json.Strings

/-! JSON values as they are written and read. Compact and pretty text are the same but for the spaces between the parts
    of a value, which a reader skips. So both are read as the tree that the value stands for. -/

namespace Lookout.Json

/-! ### Spaces -/

/-- The spaces in a text: in front of the items and the closing mark of each level, and behind a colon. -/
structure Spacing where
  line : Nat → List Char
  colon : List Char
  isSpace_line : ∀ level, ∀ c ∈ line level, isSpace c = true
  isSpace_colon : ∀ c ∈ colon, isSpace c = true

namespace Spacing

/-- No blanks between the lexemes. -/
def none : Spacing := ⟨fun _ => [], [], by simp, by simp⟩

/-- Each member on a line of its own, indented by its level, and a space after a colon. -/
def lines : Spacing where
  line := newLine
  colon := [' ']
  isSpace_line level c hc := by
    rcases List.mem_cons.mp hc with rfl | hc
    · rfl
    · rw [(List.mem_replicate.mp hc).2]
      rfl
  isSpace_colon c hc := by
    rw [List.mem_singleton.mp hc]
    rfl

end Spacing

mutual

/-- The text of a value, `level` levels deep. -/
def Value.spaced (sp : Spacing) (level : Nat) : Value → List Char
  | .null => ['n', 'u', 'l', 'l']
  | .bool true => ['t', 'r', 'u', 'e']
  | .bool false => ['f', 'a', 'l', 's', 'e']
  | .number n => n.text
  | .string s => stringText s
  | .array [] => ['[', ']']
  | .array (v :: vs) =>
    '[' :: (sp.line (level + 1) ++ (Value.spaced sp (level + 1) v ++ Value.spacedItems sp level vs))
  | .object [] => ['{', '}']
  | .object ((k, v) :: rest) =>
    '{' :: (sp.line (level + 1) ++ (stringText k ++ ':' :: (sp.colon ++ (Value.spaced sp (level + 1) v
      ++ Value.spacedFields sp level rest))))

/-- The rest of an array behind its first member, up to the closing bracket. -/
def Value.spacedItems (sp : Spacing) (level : Nat) : List Value → List Char
  | [] => sp.line level ++ [']']
  | v :: vs => ',' :: (sp.line (level + 1) ++ (Value.spaced sp (level + 1) v ++ Value.spacedItems sp level vs))

/-- The rest of an object behind its first field, up to the closing brace. -/
def Value.spacedFields (sp : Spacing) (level : Nat) : List (List Char × Value) → List Char
  | [] => sp.line level ++ ['}']
  | (k, v) :: rest =>
    ',' :: (sp.line (level + 1) ++ (stringText k ++ ':' :: (sp.colon ++ (Value.spaced sp (level + 1) v
      ++ Value.spacedFields sp level rest))))

end

mutual

theorem Value.compact_eq (level : Nat) : ∀ v : Value, v.compact = v.spaced .none level
  | .null => rfl
  | .bool true => rfl
  | .bool false => rfl
  | .number n => rfl
  | .string s => rfl
  | .array [] => rfl
  | .array (v :: vs) => by
    rw [Value.compact, Value.spaced, Value.compact_eq (level + 1) v, Value.compactItems_eq level vs]
    rfl
  | .object [] => rfl
  | .object ((k, v) :: rest) => by
    rw [Value.compact, Value.spaced, Value.compact_eq (level + 1) v, Value.compactFields_eq level rest]
    simp [Spacing.none]

theorem Value.compactItems_eq (level : Nat) : ∀ vs : List Value, Value.compactItems vs = Value.spacedItems .none level vs
  | [] => rfl
  | v :: vs => by
    rw [Value.compactItems, Value.spacedItems, Value.compact_eq (level + 1) v, Value.compactItems_eq level vs]
    rfl

theorem Value.compactFields_eq (level : Nat) :
    ∀ fields : List (List Char × Value), Value.compactFields fields = Value.spacedFields .none level fields
  | [] => rfl
  | (k, v) :: rest => by
    rw [Value.compactFields, Value.spacedFields, Value.compact_eq (level + 1) v, Value.compactFields_eq level rest]
    simp [Spacing.none]

end

mutual

theorem Value.prettyAt_eq (level : Nat) : ∀ v : Value, v.prettyAt level = v.spaced .lines level
  | .null => rfl
  | .bool true => rfl
  | .bool false => rfl
  | .number n => rfl
  | .string s => rfl
  | .array [] => rfl
  | .array (v :: vs) => by
    rw [Value.prettyAt, Value.spaced, Value.prettyAt_eq (level + 1) v, Value.prettyItems_eq level vs]
    simp [Spacing.lines]
  | .object [] => rfl
  | .object ((k, v) :: rest) => by
    rw [Value.prettyAt, Value.spaced, Value.prettyAt_eq (level + 1) v, Value.prettyFields_eq level rest]
    simp [Spacing.lines]

theorem Value.prettyItems_eq (level : Nat) :
    ∀ vs : List Value, Value.prettyItems level vs = Value.spacedItems .lines level vs
  | [] => rfl
  | v :: vs => by
    rw [Value.prettyItems, Value.spacedItems, Value.prettyAt_eq (level + 1) v, Value.prettyItems_eq level vs]
    simp [Spacing.lines]

theorem Value.prettyFields_eq (level : Nat) :
    ∀ fields : List (List Char × Value), Value.prettyFields level fields = Value.spacedFields .lines level fields
  | [] => rfl
  | (k, v) :: rest => by
    rw [Value.prettyFields, Value.spacedFields, Value.prettyAt_eq (level + 1) v, Value.prettyFields_eq level rest]
    simp [Spacing.lines]

end

/-! ### Trees -/

/-- The numeral that a number is written as, none if its text is no numeral. -/
def Number.numeral? (n : Number) : Option Numeral :=
  match Json.numeral? n.text with
  | some (numeral, []) => some numeral
  | _ => none

mutual

/-- The tree that a value stands for, none if the text of a number in it is no numeral. -/
def Value.tree? : Value → Option Tree
  | .null => some .null
  | .bool b => some (.bool b)
  | .number n => n.numeral?.map .number
  | .string s => some (.string (partsOf s))
  | .array vs => (Value.trees? vs).map .array
  | .object fields => (Value.fieldTrees? fields).map .object

/-- The trees of the members of an array. -/
def Value.trees? : List Value → Option (List Tree)
  | [] => some []
  | v :: vs => v.tree?.bind fun t => (Value.trees? vs).map (t :: ·)

/-- The trees of the fields of an object, each behind the parts of its key. -/
def Value.fieldTrees? : List (List Char × Value) → Option (List (List StringPart × Tree))
  | [] => some []
  | (k, v) :: rest => v.tree?.bind fun t => (Value.fieldTrees? rest).map ((partsOf k, t) :: ·)

end

/-! ### Reading -/

section
variable {gap rest : List Char}

theorem skipSpace_gap (h : ∀ c ∈ gap, isSpace c = true) (s : List Char) : skipSpace (gap ++ s) = skipSpace s :=
  List.dropWhile_append_of_pos h

theorem skipSpace_cons {c : Char} (hc : isSpace c = false) (s : List Char) : skipSpace (c :: s) = c :: s :=
  List.dropWhile_cons_of_neg (by simp [hc])

theorem value?_gap (h : ∀ c ∈ gap, isSpace c = true) (n : Nat) (s : List Char) : value? n (gap ++ s) = value? n s := by
  cases n with
  | zero => rw [value?, value?]
  | succ n => rw [value?, value?, skipSpace_gap h]

theorem items?_gap (h : ∀ c ∈ gap, isSpace c = true) (n : Nat) (s : List Char) : items? n (gap ++ s) = items? n s := by
  cases n with
  | zero => rw [items?, items?]
  | succ n => rw [items?, items?, value?_gap h]

theorem fields?_gap (h : ∀ c ∈ gap, isSpace c = true) (n : Nat) (s : List Char) :
    fields? n (gap ++ s) = fields? n s := by
  cases n with
  | zero => rw [fields?, fields?]
  | succ n => rw [fields?, fields?, skipSpace_gap h]

theorem endsNumeral_of_isSpace {c : Char} (h : isSpace c = true) : endsNumeral c = true := by
  simp only [isSpace, Bool.or_eq_true, beq_iff_eq] at h
  rcases h with ((rfl | rfl) | rfl) | rfl <;> rfl

/-- No numeral goes on behind an item, since spaces come next, or a mark. -/
theorem EndsNumeral.gap_cons (h : ∀ c ∈ gap, isSpace c = true) {c : Char} (hc : endsNumeral c = true) (s : List Char) :
    EndsNumeral (gap ++ c :: s) := by
  intro d hd
  cases gap with
  | nil =>
    obtain rfl : c = d := Option.some.inj hd
    exact hc
  | cons g gap =>
    obtain rfl : g = d := Option.some.inj hd
    exact endsNumeral_of_isSpace (h g List.mem_cons_self)

/-- The characters that values other than numerals begin with, and the marks that close arrays and objects. -/
def marks : List Char := ['n', 't', 'f', '"', '[', '{', ']', '}']

/-- What begins with no other kind of value is a numeral. -/
theorem value?_of_head {c : Char} (hspace : isSpace c = false) (hc : c ∉ marks) (n : Nat) (s : List Char) :
    value? (n + 1) (c :: s) = (numeral? (c :: s)).map fun (numeral, r) => (.number numeral, r) := by
  have hne : ∀ {d : Char} {r : List Char}, d ∈ marks → c :: s ≠ d :: r :=
    fun hd he => hc ((List.cons.inj he).1 ▸ hd)
  rw [value?, skipSpace_cons hspace]
  split
  · next heq => exact absurd heq (hne (by decide))
  · next heq => exact absurd heq (hne (by decide))
  · next heq => exact absurd heq (hne (by decide))
  · next heq => exact absurd heq (hne (by decide))
  · next heq => exact absurd heq (hne (by decide))
  · next heq => exact absurd heq (hne (by decide))
  · rfl

/-- A minus sign or a digit is neither a space nor a mark. -/
theorem not_mark {c : Char} (h : c = '-' ∨ c.isDigit = true) : isSpace c = false ∧ c ∉ marks := by
  rcases h with rfl | h
  · decide
  · refine ⟨Bool.eq_false_iff.mpr fun hspace => ?_, fun hmem => ?_⟩
    · simp only [isSpace, Bool.or_eq_true, beq_iff_eq] at hspace
      rcases hspace with ((rfl | rfl) | rfl) | rfl <;> exact absurd h (by decide)
    · have hmarks : ∀ d ∈ marks, d.isDigit = false := by simp [marks]
      exact absurd h (by simp [hmarks c hmem])

theorem Number.text_of_numeral? {m : Number} {numeral : Numeral} (h : m.numeral? = some numeral) :
    Json.numeral? m.text = some (numeral, []) := by
  unfold Number.numeral? at h
  split at h
  · next heq => rw [heq, Option.some.inj h]
  · cases h

theorem value?_text {m : Number} {numeral : Numeral} (h : m.numeral? = some numeral) (hrest : EndsNumeral rest)
    (n : Nat) : value? (n + 1) (m.text ++ rest) = some (.number numeral, rest) := by
  have hread := Number.text_of_numeral? h
  obtain ⟨c, t, htext, hc⟩ := exists_of_numeral? hread
  obtain ⟨hspace, hmark⟩ := not_mark hc
  have hlong := numeral?_extend hrest hread
  rw [htext, List.cons_append] at hlong ⊢
  rw [value?_of_head hspace hmark, hlong]
  rfl

/-- A value begins with no space, and not with the mark that closes an array. -/
theorem Value.exists_spaced (sp : Spacing) (level : Nat) {v : Value} {t : Tree} (h : v.tree? = some t) :
    ∃ c s, v.spaced sp level = c :: s ∧ isSpace c = false ∧ c ≠ ']' := by
  match v with
  | .null => exact ⟨_, _, rfl, rfl, by decide⟩
  | .bool true => exact ⟨_, _, rfl, rfl, by decide⟩
  | .bool false => exact ⟨_, _, rfl, rfl, by decide⟩
  | .string s => exact ⟨_, _, rfl, rfl, by decide⟩
  | .array [] => exact ⟨_, _, rfl, rfl, by decide⟩
  | .array (_ :: _) => exact ⟨_, _, rfl, rfl, by decide⟩
  | .object [] => exact ⟨_, _, rfl, rfl, by decide⟩
  | .object (_ :: _) => exact ⟨_, _, rfl, rfl, by decide⟩
  | .number m =>
    obtain ⟨numeral, hm, -⟩ := Option.map_eq_some_iff.mp h
    obtain ⟨c, s, htext, hc⟩ := exists_of_numeral? (Number.text_of_numeral? hm)
    obtain ⟨hspace, hmark⟩ := not_mark hc
    exact ⟨c, s, htext, hspace, fun he => hmark (by rw [he]; decide)⟩

/-! ### One step of a reader -/

variable {s r r' : List Char} {t : Tree} {n : Nat}

theorem value?_string (n : Nat) (s : List Char) :
    value? (n + 1) ('"' :: s) = (string? s).map fun (parts, r) => (.string parts, r) := by
  simp only [value?, skipSpace_cons (show isSpace '"' = false from rfl)]

theorem value?_array {c : Char} (h : skipSpace s = c :: r) (hc : c ≠ ']') (n : Nat) :
    value? (n + 1) ('[' :: s) = (items? n (c :: r)).map fun (items, r) => (.array items, r) := by
  simp only [value?, skipSpace_cons (show isSpace '[' = false from rfl), h]
  split
  · next heq => exact absurd (List.cons.inj heq).1 hc
  · rfl

theorem value?_object {c : Char} (h : skipSpace s = c :: r) (hc : c ≠ '}') (n : Nat) :
    value? (n + 1) ('{' :: s) = (fields? n (c :: r)).map fun (fields, r) => (.object fields, r) := by
  simp only [value?, skipSpace_cons (show isSpace '{' = false from rfl), h]
  split
  · next heq => exact absurd (List.cons.inj heq).1 hc
  · rfl

theorem items?_last (h : value? n s = some (t, r)) (hr : skipSpace r = ']' :: r') :
    items? (n + 1) s = some ([t], r') := by
  simp only [items?, h, hr, Option.bind_eq_bind, Option.bind_some]

theorem items?_more (h : value? n s = some (t, r)) (hr : skipSpace r = ',' :: r') :
    items? (n + 1) s = (items? n r').map fun (ts, r) => (t :: ts, r) := by
  simp only [items?, h, hr, Option.bind_eq_bind, Option.bind_some]

/-- A field with this key and this value, at the start of a text, and what follows it. -/
def StartsField (n : Nat) (s : List Char) (key : List StringPart) (t : Tree) (r : List Char) : Prop :=
  ∃ s₁ s₂ s₃, skipSpace s = '"' :: s₁ ∧ string? s₁ = some (key, s₂) ∧ skipSpace s₂ = ':' :: s₃ ∧
    value? n s₃ = some (t, r)

variable {key : List StringPart}

theorem fields?_last (h : StartsField n s key t r) (hr : skipSpace r = '}' :: r') :
    fields? (n + 1) s = some ([(key, t)], r') := by
  obtain ⟨s₁, s₂, s₃, hs, hkey, hcolon, hvalue⟩ := h
  simp only [fields?, hs, hkey, hcolon, hvalue, hr, Option.bind_eq_bind, Option.bind_some]

theorem fields?_more (h : StartsField n s key t r) (hr : skipSpace r = ',' :: r') :
    fields? (n + 1) s = (fields? n r').map fun (fields, r) => ((key, t) :: fields, r) := by
  obtain ⟨s₁, s₂, s₃, hs, hkey, hcolon, hvalue⟩ := h
  simp only [fields?, hs, hkey, hcolon, hvalue, hr, Option.bind_eq_bind, Option.bind_some]

end

/-! ### Whole values -/

theorem length_spacedItems_pos (sp : Spacing) (level : Nat) (vs : List Value) :
    0 < (Value.spacedItems sp level vs).length := by
  cases vs <;> simp [Value.spacedItems]

theorem endsNumeral_spacedItems (sp : Spacing) (level : Nat) (vs : List Value) (rest : List Char) :
    EndsNumeral (Value.spacedItems sp level vs ++ rest) := by
  cases vs with
  | nil =>
    rw [Value.spacedItems, List.append_assoc]
    exact .gap_cons (sp.isSpace_line level) rfl _
  | cons v vs =>
    rintro _ ⟨⟩
    rfl

theorem endsNumeral_spacedFields (sp : Spacing) (level : Nat) (fields : List (List Char × Value)) (rest : List Char) :
    EndsNumeral (Value.spacedFields sp level fields ++ rest) := by
  cases fields with
  | nil =>
    rw [Value.spacedFields, List.append_assoc]
    exact .gap_cons (sp.isSpace_line level) rfl _
  | cons v vs =>
    rintro _ ⟨⟩
    rfl

/-- A key with its quotes, the colon, and a value behind it, are a field. -/
theorem startsField_key (sp : Spacing) {n : Nat} (k : List Char) {s r : List Char} {t : Tree}
    (h : value? n s = some (t, r)) : StartsField n (stringText k ++ ':' :: (sp.colon ++ s)) (partsOf k) t r := by
  refine ⟨k.flatMap escapeChar ++ '"' :: ':' :: (sp.colon ++ s), ':' :: (sp.colon ++ s), sp.colon ++ s, ?_,
    string?_flatMap_escapeChar k, skipSpace_cons (by decide) _, by rw [value?_gap sp.isSpace_colon, h]⟩
  rw [stringText, List.append_assoc]
  exact skipSpace_cons (by decide) _

mutual

/-- A value is read from its text, given a number that bounds the length of the text. -/
theorem value?_spaced (sp : Spacing) (level n : Nat) {rest : List Char} (hrest : EndsNumeral rest) :
    ∀ (v : Value) {t : Tree}, v.tree? = some t → (v.spaced sp level).length < n →
      value? n (v.spaced sp level ++ rest) = some (t, rest) := by
  intro v t h hn
  -- One is used up by the value itself, and what is left bounds the texts of its parts.
  obtain ⟨n, rfl⟩ : ∃ m, n = m + 1 := ⟨n - 1, by omega⟩
  match v with
  | .null =>
    cases h
    rfl
  | .bool true =>
    cases h
    rfl
  | .bool false =>
    cases h
    rfl
  | .number m =>
    obtain ⟨numeral, hm, rfl⟩ := Option.map_eq_some_iff.mp h
    exact value?_text hm hrest n
  | .string s =>
    cases h
    rw [Value.spaced, stringText, List.append_assoc, List.singleton_append, List.cons_append, value?_string,
      string?_flatMap_escapeChar]
    rfl
  | .array [] =>
    cases h
    rfl
  | .array (v :: vs) =>
    obtain ⟨ts, hts, rfl⟩ := Option.map_eq_some_iff.mp h
    obtain ⟨t, ht, hts⟩ := Option.bind_eq_some_iff.mp hts
    obtain ⟨us, hus, rfl⟩ := Option.map_eq_some_iff.mp hts
    obtain ⟨c, s, hs, hspace, hc⟩ := Value.exists_spaced sp (level + 1) ht
    rw [Value.spaced, List.length_cons, List.length_append] at hn
    have hitems := items?_spaced sp level n rest v vs ht hus (by omega)
    rw [Value.spaced, List.cons_append, List.append_assoc, List.append_assoc]
    rw [hs, List.cons_append] at hitems ⊢
    rw [value?_array (by rw [skipSpace_gap (sp.isSpace_line _), skipSpace_cons hspace]) hc, hitems]
    rfl
  | .object [] =>
    cases h
    rfl
  | .object ((k, v) :: fields) =>
    obtain ⟨ts, hts, rfl⟩ := Option.map_eq_some_iff.mp h
    obtain ⟨t, ht, hts⟩ := Option.bind_eq_some_iff.mp hts
    obtain ⟨us, hus, rfl⟩ := Option.map_eq_some_iff.mp hts
    rw [Value.spaced, List.length_cons, List.length_append] at hn
    have hfields := fields?_spaced sp level n rest k v fields ht hus (by omega)
    simp only [Value.spaced, List.cons_append, List.append_assoc]
    have hquote : skipSpace (sp.line (level + 1) ++ (stringText k ++ ':' :: (sp.colon ++ (v.spaced sp (level + 1)
        ++ (Value.spacedFields sp level fields ++ rest))))) = '"' :: (k.flatMap escapeChar ++ ['"'] ++ ':' ::
        (sp.colon ++ (v.spaced sp (level + 1) ++ (Value.spacedFields sp level fields ++ rest)))) := by
      rw [skipSpace_gap (sp.isSpace_line _), stringText]
      exact skipSpace_cons (by decide) _
    rw [value?_object hquote (by decide)]
    rw [stringText] at hfields
    rw [← List.cons_append, ← List.cons_append, hfields]
    rfl

theorem items?_spaced (sp : Spacing) (level n : Nat) (rest : List Char) :
    ∀ (v : Value) (vs : List Value) {t : Tree} {ts : List Tree}, v.tree? = some t → Value.trees? vs = some ts →
      (v.spaced sp (level + 1) ++ Value.spacedItems sp level vs).length < n →
        items? n (v.spaced sp (level + 1) ++ (Value.spacedItems sp level vs ++ rest)) = some (t :: ts, rest) := by
  intro v vs t ts ht hts hn
  obtain ⟨n, rfl⟩ : ∃ m, n = m + 1 := ⟨n - 1, by omega⟩
  have hpos := length_spacedItems_pos sp level vs
  rw [List.length_append] at hn
  have hvalue := value?_spaced sp (level + 1) n (endsNumeral_spacedItems sp level vs rest) v ht (by omega)
  match vs with
  | [] =>
    cases hts
    refine items?_last hvalue ?_
    rw [Value.spacedItems, List.append_assoc, skipSpace_gap (sp.isSpace_line level)]
    rfl
  | w :: ws =>
    obtain ⟨u, hu, hws⟩ := Option.bind_eq_some_iff.mp hts
    obtain ⟨us, hus, rfl⟩ := Option.map_eq_some_iff.mp hws
    rw [Value.spacedItems, List.length_cons, List.length_append] at hn
    have hmore := items?_spaced sp level n rest w ws hu hus (by omega)
    rw [Value.spacedItems, List.cons_append, List.append_assoc, List.append_assoc] at hvalue ⊢
    rw [items?_more hvalue (skipSpace_cons (by decide) _), items?_gap (sp.isSpace_line (level + 1)), hmore]
    rfl

/-- A field with all that follows it, up to the mark that closes the object. -/
theorem fields?_spaced (sp : Spacing) (level n : Nat) (rest : List Char) :
    ∀ (k : List Char) (v : Value) (fields : List (List Char × Value)) {t : Tree} {ts : List (List StringPart × Tree)},
      v.tree? = some t → Value.fieldTrees? fields = some ts →
      (stringText k ++ ':' :: (sp.colon ++ (v.spaced sp (level + 1) ++ Value.spacedFields sp level fields))).length < n →
        fields? n (stringText k ++ ':' :: (sp.colon ++ (v.spaced sp (level + 1)
          ++ (Value.spacedFields sp level fields ++ rest)))) = some ((partsOf k, t) :: ts, rest) := by
  intro k v fields t ts ht hts hn
  obtain ⟨n, rfl⟩ : ∃ m, n = m + 1 := ⟨n - 1, by omega⟩
  simp only [List.length_append, List.length_cons] at hn
  -- No numeral goes on behind the value, for a mark or a blank follows.
  have hvalue := value?_spaced sp (level + 1) n (endsNumeral_spacedFields sp level fields rest) v ht (by omega)
  have hfield := startsField_key sp k hvalue
  match fields with
  | [] =>
    cases hts
    refine fields?_last hfield ?_
    rw [Value.spacedFields, List.append_assoc, skipSpace_gap (sp.isSpace_line level)]
    rfl
  | (k', w) :: ws =>
    obtain ⟨u, hu, hws⟩ := Option.bind_eq_some_iff.mp hts
    obtain ⟨us, hus, rfl⟩ := Option.map_eq_some_iff.mp hws
    rw [Value.spacedFields, List.length_cons, List.length_append] at hn
    have hmore := fields?_spaced sp level n rest k' w ws hu hus (by omega)
    simp only [Value.spacedFields, List.cons_append, List.append_assoc] at hfield ⊢
    rw [fields?_more hfield (skipSpace_cons (by decide) _), fields?_gap (sp.isSpace_line (level + 1)), hmore]
    rfl

end

/-! ### Whole texts -/

theorem Tree.ofText?_spaced (sp : Spacing) (level : Nat) {v : Value} {t : Tree} (h : v.tree? = some t) :
    Tree.ofText? (v.spaced sp level) = some t := by
  have hnil : EndsNumeral [] := nofun
  have hread := value?_spaced sp level (2 * (v.spaced sp level).length + 2) hnil v h (by omega)
  rw [List.append_nil] at hread
  rw [Tree.ofText?, hread]
  rfl

theorem Tree.ofText?_compact {v : Value} {t : Tree} (h : v.tree? = some t) : Tree.ofText? v.compact = some t := by
  rw [Value.compact_eq 0]
  exact Tree.ofText?_spaced _ 0 h

theorem Tree.ofText?_pretty {v : Value} {t : Tree} (h : v.tree? = some t) : Tree.ofText? v.pretty = some t := by
  rw [Value.pretty, Value.prettyAt_eq]
  exact Tree.ofText?_spaced _ 0 h

end Lookout.Json

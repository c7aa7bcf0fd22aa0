import Lookout.Proofs.Checked
import Lookout.Proofs.IdArray

/-! Lists of ids, element by element. A stored value has one list of elements: the items of a JSON array, or the pieces
    between commas that are not blank. Main statements: it is decoded exactly if each element is an id on its own, and
    then to these ids; else the error names the stored text and the first element that is no id. -/

namespace Lookout

namespace IdList

/-- A part of a stored value that may be an id. -/
inductive Element where
  | item (v : Json.Value)
  /-- A text between commas, without the blanks around it. -/
  | piece (s : List Char)
  deriving Repr

/-- The stored value has these elements. A value that is not there has none, and a text that is no JSON array has those
    of its pieces between commas that are not blank. -/
inductive HasElements : Option (List Char) → List Element → Prop
  | absent : HasElements none []
  | array {raw : List Char} {items : List Json.Value} (h : Json.Value.ofText? (Text.trim raw) = some (.array items)) :
      HasElements (some raw) (items.map .item)
  | pieces {raw : List Char} {pieces : List (List Char)}
      (h : ∀ items, Json.Value.ofText? (Text.trim raw) ≠ some (.array items)) (hne : pieces ≠ [])
      (hfree : ∀ piece ∈ pieces, ',' ∉ piece) (hpieces : [','].intercalate pieces = Text.trim raw) :
      HasElements (some raw) (((pieces.map Text.trim).filter (!·.isEmpty)).map .piece)

/-- The id that an element is. A number counts as what it was read as. -/
inductive Coerces : Element → Int64 → Prop
  | natural {n : UInt64} {id : Int64} (h : (n.toNat : ℤ) = id.toInt) : Coerces (.item (.number (.natural n))) id
  | negative (id : Int64) : Coerces (.item (.number (.negative id))) id
  | float {x : Binary64} {id : Int64} (hfinite : x.isFinite = true) (h : x.toRat = id.toInt) :
      Coerces (.item (.number (.float x))) id
  | string {s : List Char} {id : Int64} (h : Text.IsInteger (Text.trim s) id.toInt) : Coerces (.item (.string s)) id
  | piece {s : List Char} {id : Int64} (h : Text.IsInteger s id.toInt) : Coerces (.piece s) id

/-! ### One element -/

theorem ofNumber?_eq_some {num : Json.Number} {id : Int64} :
    ofNumber? num = some id ↔ Coerces (.item (.number num)) id := by
  cases num with
  | natural n => exact int64?_eq_some.trans ⟨.natural, fun h => by cases h; assumption⟩
  | negative i => exact ⟨fun h => Option.some.inj h ▸ .negative _, fun h => by cases h; rfl⟩
  | float x =>
    simp only [ofNumber?, Option.bind_eq_some_iff, int64?_eq_some, exists_eq_right, Binary64.toInt?_eq_some]
    exact ⟨fun h => .float h.1 h.2, fun h => by cases h; exact ⟨‹_›, ‹_›⟩⟩

namespace Element

/-- How an error shows the element. -/
def text : Element → List Char
  | .piece s => s
  | .item (.string s) => Text.trim s
  | .item v => v.compact

/-- The reading of an element by itself. An error shows the element. -/
def read : Element → Except (List Char) Int64
  | .item v => ofItem v
  | .piece s => ofPiece s

variable {e : Element} {id : Int64}

theorem read_eq_ok : e.read = .ok id ↔ Coerces e id := by
  cases e with
  | item v =>
    cases v with
    | number num => exact (ofItem_number num).trans ofNumber?_eq_some
    | string s => exact (ofItem_string s).trans ⟨.string, fun h => by cases h; assumption⟩
    | null => exact ⟨nofun, nofun⟩
    | bool b => exact ⟨nofun, nofun⟩
    | array items => exact ⟨nofun, nofun⟩
    | object fields => exact ⟨nofun, nofun⟩
  | piece s =>
    have hread : Element.read (.piece s) = .ok id ↔ Text.readInt64? s = some id := by
      rw [read, ofPiece]
      cases Text.readInt64? s <;> simp
    rw [hread, readInt64?_eq_some]
    exact ⟨.piece, fun h => by cases h; assumption⟩

theorem eq_text_of_read_eq_error {t : List Char} (h : e.read = .error t) : t = e.text := by
  cases e with
  | item v =>
    cases v with
    | number num =>
      rw [read, ofItem] at h
      split at h <;> cases h
      rfl
    | string s =>
      rw [read, ofItem] at h
      split at h <;> cases h
      rfl
    | null => exact (Except.error.inj h).symm
    | bool b => exact (Except.error.inj h).symm
    | array items => exact (Except.error.inj h).symm
    | object fields => exact (Except.error.inj h).symm
  | piece s =>
    rw [read, ofPiece] at h
    split at h <;> cases h
    rfl

theorem read_eq_error {t : List Char} : e.read = .error t ↔ (∀ id, ¬ Coerces e id) ∧ t = e.text := by
  constructor
  · intro h
    refine ⟨fun id hid => ?_, eq_text_of_read_eq_error h⟩
    rw [read_eq_ok.mpr hid] at h
    cases h
  · rintro ⟨hnone, rfl⟩
    cases h : e.read with
    | ok id => exact absurd (read_eq_ok.mp h) (hnone id)
    | error t => rw [eq_text_of_read_eq_error h]

end Element

/-! ### The elements of a stored value -/

variable {stored : Option (List Char)} {es es' : List Element} {raw : List Char}

theorem exists_hasElements (stored : Option (List Char)) : ∃ es, HasElements stored es := by
  cases stored with
  | none => exact ⟨_, .absent⟩
  | some raw =>
    by_cases harray : ∃ items, Json.Value.ofText? (Text.trim raw) = some (.array items)
    · obtain ⟨items, h⟩ := harray
      exact ⟨_, .array h⟩
    · refine ⟨_, .pieces (not_exists.mp harray) (Text.cut_ne_nil _ _) (fun piece hpiece hcomma => ?_)
        (Text.intercalate_cut ',' (Text.trim raw))⟩
      exact absurd (Text.not_of_mem_cut hpiece hcomma) (by decide)

theorem HasElements.unique (h : HasElements stored es) (h' : HasElements stored es') : es = es' := by
  cases h with
  | absent =>
    cases h'
    rfl
  | array h =>
    cases h' with
    | array h' =>
      obtain rfl := Json.Value.array.inj (Option.some.inj (h.symm.trans h'))
      rfl
    | pieces h' => exact absurd h (h' _)
  | pieces h hne hfree hpieces =>
    cases h' with
    | array h' => exact absurd h' (h _)
    | pieces h' hne' hfree' hpieces' =>
      rw [← Text.cut_intercalate hne hfree, hpieces, ← hpieces', Text.cut_intercalate hne' hfree']

theorem HasElements.elements_eq (h : HasElements (some raw) es) : elements raw = es.map Element.read := by
  cases h with
  | array h =>
    rw [elements_of_array h, List.map_map]
    rfl
  | pieces h hne hfree hpieces =>
    rw [elements_of_not_array h, ← Text.map_trim_cut_trim ne_comma_of_isBlank, ← hpieces,
      Text.cut_intercalate hne hfree, List.map_map]
    rfl

theorem HasElements.ofStored_eq (h : HasElements stored es) :
    ofStored stored = (es.mapM Element.read).mapError fun element => ⟨stored.getD [], element⟩ := by
  cases stored with
  | none =>
    cases h
    rfl
  | some raw =>
    rw [ofStored, ofText, h.elements_eq, List.mapM_map]
    rfl

theorem HasElements.isSome (h : HasElements stored es) (hne : es ≠ []) : stored.isSome = true := by
  cases h with
  | absent => exact absurd rfl hne
  | array => rfl
  | pieces => rfl

theorem HasElements.ofStored_eq_ok (h : HasElements stored es) {ids : List Int64} :
    ofStored stored = .ok ids ↔ List.Forall₂ Coerces es ids := by
  have hread : ofStored stored = .ok ids ↔ es.mapM Element.read = .ok ids := by
    rw [h.ofStored_eq]
    cases es.mapM Element.read <;> simp [Except.mapError]
  simp only [hread, mapM_eq_ok_iff_forall₂, Element.read_eq_ok]

theorem HasElements.ofStored_eq_error (h : HasElements stored es) {err : Error} : ofStored stored = .error err ↔
    ∃ before e after, es = before ++ e :: after ∧ (∀ x ∈ before, ∃ id, Coerces x id) ∧ (∀ id, ¬ Coerces e id) ∧
      stored = some err.raw ∧ err.element = e.text := by
  have hread : ofStored stored = .error err ↔
      stored.getD [] = err.raw ∧ es.mapM Element.read = .error err.element := by
    obtain ⟨raw, blamed⟩ := err
    rw [h.ofStored_eq]
    cases es.mapM Element.read <;> simp [Except.mapError]
  simp only [hread, mapM_eq_error_iff, Element.read_eq_ok, Element.read_eq_error]
  constructor
  · rintro ⟨hraw, before, e, after, rfl, hbefore, hnone, htext⟩
    obtain ⟨raw, rfl⟩ := Option.isSome_iff_exists.mp (h.isSome (by simp))
    exact ⟨before, e, after, rfl, hbefore, hnone, congrArg some hraw, htext⟩
  · rintro ⟨before, e, after, rfl, hbefore, hnone, rfl, htext⟩
    exact ⟨rfl, before, e, after, rfl, hbefore, hnone, htext⟩

/-! ### The whole value -/

/-- The stored value stands for these ids: each of its elements is one of them, in order. -/
def Decodes (stored : Option (List Char)) (ids : List Int64) : Prop :=
  ∃ es, HasElements stored es ∧ List.Forall₂ Coerces es ids

/-- The error holds the stored text and the first of its elements that is no id. -/
def Blames (stored : Option (List Char)) (err : Error) : Prop :=
  ∃ before e after, HasElements stored (before ++ e :: after) ∧ (∀ x ∈ before, ∃ id, Coerces x id) ∧
    (∀ id, ¬ Coerces e id) ∧ stored = some err.raw ∧ err.element = e.text

theorem decodes_iff {ids : List Int64} : Decodes stored ids ↔ ofStored stored = .ok ids := by
  constructor
  · rintro ⟨es, hes, hids⟩
    exact hes.ofStored_eq_ok.mpr hids
  · intro h
    obtain ⟨es, hes⟩ := exists_hasElements stored
    exact ⟨es, hes, hes.ofStored_eq_ok.mp h⟩

theorem blames_iff {err : Error} : Blames stored err ↔ ofStored stored = .error err := by
  constructor
  · rintro ⟨before, e, after, hes, hblamed⟩
    exact hes.ofStored_eq_error.mpr ⟨before, e, after, rfl, hblamed⟩
  · intro h
    obtain ⟨es, hes⟩ := exists_hasElements stored
    obtain ⟨before, e, after, rfl, hblamed⟩ := hes.ofStored_eq_error.mp h
    exact ⟨before, e, after, hes, hblamed⟩

end IdList
end Lookout

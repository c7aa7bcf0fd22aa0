import Lookout.Filters.Json
import Lookout.Proofs.Checked
import Lookout.Proofs.Filters.Choices

/-! Filters that a JSON object lists. A date is a text with a timestamp in it, a set is an array of texts, and what is
    left out is not asked for; fields of other names say nothing. Main statement: the object is read exactly if it lists
    values, and the filters are those of the values. -/

namespace Lookout.Filters

open Json (Tree stringText?)
open Time (Instant)

/-- A string that holds the text of a timestamp, at any offset. -/
inductive IsDate : Tree → Instant → Prop
  | intro {parts : List Json.StringPart} {s : List Char} {t : Time.Timestamp} (hs : stringText? parts = some s)
      (ht : Time.Rfc3339.parse? s = some t) : IsDate (.string parts) t.instant

/-- A field with at most one value, which may be left out or null. -/
inductive HoldsOne {α : Type} (value : Tree → α → Prop) : Option Tree → Option α → Prop
  | absent : HoldsOne value none none
  | null : HoldsOne value (some .null) none
  | value {t : Tree} {a : α} (h : value t a) : HoldsOne value (some t) (some a)

/-- A field with an array of texts, which may be left out. -/
inductive HoldsTexts : Option Tree → List String → Prop
  | absent : HoldsTexts none []
  | array {items : List Tree} {xs : List String} (h : List.Forall₂ (fun item x => item.text? = some x) items xs) :
      HoldsTexts (some (.array items)) xs

/-- The fields by name list these values. No field of filters comes twice. -/
structure Listed (named : List (List Char × Tree)) (l : Listing) : Prop where
  once : ∀ name ∈ fieldNames, (named.filter (·.1 == name.toList)).length ≤ 1
  startDate : HoldsOne IsDate (named.lookup "start_date".toList) l.startDate
  endDate : HoldsOne IsDate (named.lookup "end_date".toList) l.endDate
  cameraIds : HoldsTexts (named.lookup "camera_ids".toList) l.cameraIds
  severity : HoldsTexts (named.lookup "severity".toList) l.severity
  objectTypes : HoldsTexts (named.lookup "object_types".toList) l.objectTypes
  reviewed : HoldsOne (fun t b => t = .bool b) (named.lookup "reviewed".toList) l.reviewed

/-! ### Fields -/

theorem ofJson?_eq_some {tree : Tree} {i : Instant} : Instant.ofJson? tree = some i ↔ IsDate tree i := by
  constructor
  · intro h
    obtain ⟨x, hx, h⟩ := Option.bind_eq_some_iff.mp h
    obtain ⟨t, ht, rfl⟩ := Option.map_eq_some_iff.mp h
    cases tree with
    | string parts =>
      obtain ⟨s, hs, rfl⟩ := Option.map_eq_some_iff.mp hx
      rw [String.toList_ofList] at ht
      exact .intro hs ht
    | _ => cases hx
  · rintro ⟨hs, ht⟩
    simp [Instant.ofJson?, Tree.text?, hs, ht]

theorem bool?_eq_some {tree : Tree} {b : Bool} : tree.bool? = some b ↔ tree = .bool b := by
  cases tree <;> simp [Tree.bool?]

theorem optional?_eq_some {α : Type} {read : Tree → Option α} {value : Tree → α → Prop}
    (hread : ∀ t a, read t = some a ↔ value t a) (hnull : read .null = none) {field : Option Tree} {o : Option α} :
    Tree.optional? read field = some o ↔ HoldsOne value field o := by
  constructor
  · intro h
    cases field with
    | none =>
      cases h
      exact .absent
    | some t =>
      rw [Tree.optional?] at h
      unfold Tree.nullable? at h
      split at h
      · cases h
        exact .null
      · obtain ⟨a, ha, rfl⟩ := Option.map_eq_some_iff.mp h
        exact .value ((hread _ _).mp ha)
  · rintro (_ | _ | h)
    · rfl
    · rfl
    · next t a =>
      have ht : read t = some a := (hread t a).mpr h
      rw [Tree.optional?, Tree.nullable?]
      · rw [ht, Option.map_some]
      · rintro rfl
        rw [hnull] at ht
        cases ht

theorem date?_eq_some {field : Option Tree} {o : Option Instant} :
    Tree.optional? Instant.ofJson? field = some o ↔ HoldsOne IsDate field o :=
  optional?_eq_some (fun _ _ => ofJson?_eq_some) rfl

theorem flag?_eq_some {field : Option Tree} {o : Option Bool} :
    Tree.optional? Tree.bool? field = some o ↔ HoldsOne (fun t b => t = .bool b) field o :=
  optional?_eq_some (fun _ _ => bool?_eq_some) rfl

theorem textSet?_eq_some {field : Option Tree} {s : TextSet} :
    Tree.orElse? .empty textSet? field = some s ↔ ∃ xs, HoldsTexts field xs ∧ s = .ofList xs := by
  constructor
  · intro h
    cases field with
    | none =>
      cases h
      exact ⟨[], .absent, rfl⟩
    | some t =>
      obtain ⟨xs, hxs, rfl⟩ := Option.map_eq_some_iff.mp h
      cases t with
      | array items => exact ⟨xs, .array (mapM_eq_some.mp hxs), rfl⟩
      | _ => cases hxs
  · rintro ⟨xs, _ | h, rfl⟩
    · rfl
    · rw [Tree.orElse?, textSet?, Tree.list?, mapM_eq_some.mpr h]
      rfl

/-! ### Objects -/

theorem select?_eq_some {names : List String} {named : List (List Char × Tree)} {fields : List (Option Tree)} :
    Tree.select? names named = some fields ↔
      (∀ name ∈ names, (named.filter (·.1 == name.toList)).length ≤ 1) ∧
      fields = names.map fun name => named.lookup name.toList := by
  rw [Tree.select?, Option.ite_none_right_eq_some, List.all_eq_true, Option.some.injEq, eq_comm (a := fields)]
  simp only [decide_eq_true_eq]

/-- An object is read exactly if its fields list values, and then as the filters of the values. -/
theorem ofJson?_object {fields : List (List Json.StringPart × Tree)} {f : Filters} :
    ofJson? (.object fields) = some f ↔
      ∃ named l, Tree.keyed? fields = some named ∧ Listed named l ∧ f = l.filters := by
  constructor
  · intro h
    obtain ⟨given, hgiven, h⟩ := Option.bind_eq_some_iff.mp h
    obtain ⟨named, hnamed, hselect⟩ := Option.bind_eq_some_iff.mp hgiven
    obtain ⟨honce, rfl⟩ := select?_eq_some.mp hselect
    obtain ⟨startDate, hstart, h⟩ := Option.bind_eq_some_iff.mp h
    obtain ⟨endDate, hend, h⟩ := Option.bind_eq_some_iff.mp h
    obtain ⟨cameraSet, hcameras, h⟩ := Option.bind_eq_some_iff.mp h
    obtain ⟨severitySet, hseverity, h⟩ := Option.bind_eq_some_iff.mp h
    obtain ⟨typeSet, htypes, h⟩ := Option.bind_eq_some_iff.mp h
    obtain ⟨reviewed, hreviewed, h⟩ := Option.bind_eq_some_iff.mp h
    obtain ⟨cameraIds, hcameraIds, rfl⟩ := textSet?_eq_some.mp hcameras
    obtain ⟨severity, hlevels, rfl⟩ := textSet?_eq_some.mp hseverity
    obtain ⟨objectTypes, hnames, rfl⟩ := textSet?_eq_some.mp htypes
    refine ⟨named, ⟨startDate, endDate, cameraIds, severity, objectTypes, reviewed⟩, hnamed, ?_, (Option.some.inj h).symm⟩
    exact ⟨honce, date?_eq_some.mp hstart, date?_eq_some.mp hend, hcameraIds, hlevels, hnames, flag?_eq_some.mp hreviewed⟩
  -- Each field that is listed is read as its value, so the record is read as a whole.
  · rintro ⟨named, l, hnamed, hl, rfl⟩
    have hrecord : (Tree.object fields).record? fieldNames false =
        some (fieldNames.map fun name => named.lookup name.toList) := by
      rw [Tree.record?, hnamed]
      exact select?_eq_some.mpr ⟨hl.once, rfl⟩
    rw [ofJson?, hrecord, fieldNames]
    simp only [List.map_cons, List.map_nil, Option.bind_eq_bind, Option.bind_some, date?_eq_some.mpr hl.startDate,
      date?_eq_some.mpr hl.endDate, flag?_eq_some.mpr hl.reviewed, textSet?_eq_some.mpr ⟨_, hl.cameraIds, rfl⟩,
      textSet?_eq_some.mpr ⟨_, hl.severity, rfl⟩, textSet?_eq_some.mpr ⟨_, hl.objectTypes, rfl⟩]
    rfl

/-- An object text is read as the filters of a sequence of choices exactly if it lists values that agree with them. -/
theorem ofText?_eq_ofChoices {s : List Char} {fields : List (List Json.StringPart × Tree)}
    (hs : Tree.ofText? s = some (.object fields)) {cs : List Choice} :
    ofText? s = some (ofChoices cs) ↔
      ∃ named l, Tree.keyed? fields = some named ∧ Listed named l ∧ Agree l.choices cs := by
  rw [ofText?, hs, Option.bind_some, ofJson?_object]
  simp only [eq_comm (a := ofChoices cs), Listing.filters_eq_iff]

end Lookout.Filters

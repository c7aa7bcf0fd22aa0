import Lookout.Filters.Basic
import Lookout.Proofs.TextSet
import Mathlib.Data.List.Induction

/-! What a sequence of choices comes to. Of each date, and of the review state, the last choice holds; of cameras,
    severities and object types all do. Nothing else of the sequence is left in the filters, so two sequences that agree
    on this give the same filters, and so does a listing of the same values. -/

namespace Lookout.Filters

open Time (Instant)

namespace Choice

/-- The start date that is chosen, if one is. -/
def startingAt? : Choice → Option Instant
  | .startingAt t => some t
  | _ => none

/-- The end date that is chosen, if one is. -/
def endingBefore? : Choice → Option Instant
  | .endingBefore t => some t
  | _ => none

/-- The state of review that is chosen, if one is. -/
def reviewed? : Choice → Option Bool
  | .reviewed b => some b
  | _ => none

end Choice

variable {α : Type} {kind : Choice → Option α} {cs cs' : List Choice} {f g : Filters}

/-- The last choice of a kind. -/
def lastOf (kind : Choice → Option α) (choices : List Choice) : Option α := (choices.filterMap kind).getLast?

theorem lastOf_append : lastOf kind (cs ++ cs') = (lastOf kind cs').or (lastOf kind cs) := by
  unfold lastOf
  rw [List.filterMap_append, List.getLast?_append]

theorem lastOf_singleton (c : Choice) : lastOf kind [c] = kind c := by
  cases hc : kind c with
  | none => rw [lastOf, List.filterMap_cons_none hc, List.filterMap_nil, List.getLast?_nil]
  | some a => rw [lastOf, List.filterMap_cons_some hc, List.filterMap_nil, List.getLast?_singleton]

theorem lastOf_concat (c : Choice) : lastOf kind (cs ++ [c]) = (kind c).or (lastOf kind cs) := by
  rw [lastOf_append, lastOf_singleton]

theorem lastOf_map {β : Type} {make : β → Choice} (h : ∀ x, kind (make x) = none) (xs : List β) :
    lastOf kind (xs.map make) = none := by
  rw [lastOf, List.filterMap_eq_nil_iff.mpr (List.forall_mem_map.mpr fun x _ => h x), List.getLast?_nil]

theorem lastOf_toList (kind : Choice → Option α) {make : α → Choice} (h : ∀ a, kind (make a) = some a) (o : Option α) :
    lastOf kind (o.toList.map make) = o := by
  cases o with
  | none => rfl
  | some a => rw [Option.toList_some, List.map_singleton, lastOf_singleton, h]

/-- The filters hold the last choice of each single kind, and all choices of the others. -/
structure Gathers (f : Filters) (choices : List Choice) : Prop where
  startDate : f.startDate = lastOf Choice.startingAt? choices
  endDate : f.endDate = lastOf Choice.endingBefore? choices
  cameraIds : ∀ id, id ∈ f.cameraIds ↔ .camera id ∈ choices
  severity : ∀ level, level ∈ f.severity ↔ .severity level ∈ choices
  objectTypes : ∀ name, name ∈ f.objectTypes ↔ .objectType name ∈ choices
  reviewed : f.reviewed = lastOf Choice.reviewed? choices

theorem gathers_unset : unset.Gathers [] := by
  have hempty : ∀ {c : Choice} {x : String}, x ∈ TextSet.empty ↔ c ∈ [] :=
    ⟨fun h => absurd h List.not_mem_nil, fun h => absurd h List.not_mem_nil⟩
  exact ⟨rfl, rfl, fun _ => hempty, fun _ => hempty, fun _ => hempty, rfl⟩

/-- One more choice replaces what is held of its kind, or adds to it. -/
theorem Gathers.choose (h : f.Gathers cs) (c : Choice) : (f.choose c).Gathers (cs ++ [c]) := by
  -- A choice of another kind leaves what is held of this kind.
  have hkeep : ∀ {x : Choice} {p : Prop}, (p ↔ x ∈ cs) → x ≠ c → (p ↔ x ∈ cs ++ [c]) := by
    intro x p hp hne
    rw [hp, List.mem_append, List.mem_singleton, or_iff_left hne]
  have hadd : ∀ {s : TextSet} {x y : String} {make : String → Choice}, make.Injective → (x ∈ s ↔ make x ∈ cs) →
      (x ∈ s.insert y ↔ make x ∈ cs ++ [make y]) := by
    intro s x y make hmake hx
    rw [TextSet.mem_insert, hx, List.mem_append, List.mem_singleton, hmake.eq_iff, or_comm]
  constructor
  · rw [lastOf_concat, ← h.startDate]
    cases c <;> rfl
  · rw [lastOf_concat, ← h.endDate]
    cases c <;> rfl
  · intro id
    cases c with
    | camera id' => exact hadd (fun _ _ => Choice.camera.inj) (h.cameraIds id)
    | _ => exact hkeep (h.cameraIds id) nofun
  · intro level
    cases c with
    | severity level' => exact hadd (fun _ _ => Choice.severity.inj) (h.severity level)
    | _ => exact hkeep (h.severity level) nofun
  · intro name
    cases c with
    | objectType name' => exact hadd (fun _ _ => Choice.objectType.inj) (h.objectTypes name)
    | _ => exact hkeep (h.objectTypes name) nofun
  · rw [lastOf_concat, ← h.reviewed]
    cases c <;> rfl

theorem gathers_ofChoices (choices : List Choice) : (ofChoices choices).Gathers choices := by
  induction choices using List.reverseRecOn with
  | nil => exact gathers_unset
  | append_singleton cs c ih =>
    rw [ofChoices, List.foldl_concat]
    exact ih.choose c

theorem Gathers.unique (hf : f.Gathers cs) (hg : g.Gathers cs) : f = g := by
  have hcameras := TextSet.eq_of_mem_iff fun id => (hf.cameraIds id).trans (hg.cameraIds id).symm
  have hseverity := TextSet.eq_of_mem_iff fun level => (hf.severity level).trans (hg.severity level).symm
  have htypes := TextSet.eq_of_mem_iff fun name => (hf.objectTypes name).trans (hg.objectTypes name).symm
  have hstart := hf.startDate.trans hg.startDate.symm
  have hend := hf.endDate.trans hg.endDate.symm
  have hreviewed := hf.reviewed.trans hg.reviewed.symm
  cases f
  cases g
  rw [Filters.mk.injEq]
  exact ⟨hstart, hend, hcameras, hseverity, htypes, hreviewed⟩

theorem gathers_iff : f.Gathers cs ↔ f = ofChoices cs := by
  constructor
  · intro h
    exact h.unique (gathers_ofChoices cs)
  · rintro rfl
    exact gathers_ofChoices cs

/-! ### Sequences that agree -/

/-- The sequences have the same last choice of each single kind, and the same choices of the others, in any order and
    any number of times. -/
structure Agree (cs cs' : List Choice) : Prop where
  startDate : lastOf Choice.startingAt? cs = lastOf Choice.startingAt? cs'
  endDate : lastOf Choice.endingBefore? cs = lastOf Choice.endingBefore? cs'
  cameraIds : ∀ id, Choice.camera id ∈ cs ↔ Choice.camera id ∈ cs'
  severity : ∀ level, Choice.severity level ∈ cs ↔ Choice.severity level ∈ cs'
  objectTypes : ∀ name, Choice.objectType name ∈ cs ↔ Choice.objectType name ∈ cs'
  reviewed : lastOf Choice.reviewed? cs = lastOf Choice.reviewed? cs'

theorem Gathers.congr (h : f.Gathers cs) (hcs : Agree cs cs') : f.Gathers cs' where
  startDate := h.startDate.trans hcs.startDate
  endDate := h.endDate.trans hcs.endDate
  cameraIds id := (h.cameraIds id).trans (hcs.cameraIds id)
  severity level := (h.severity level).trans (hcs.severity level)
  objectTypes name := (h.objectTypes name).trans (hcs.objectTypes name)
  reviewed := h.reviewed.trans hcs.reviewed

theorem Gathers.agree (h : f.Gathers cs) (h' : f.Gathers cs') : Agree cs cs' where
  startDate := h.startDate.symm.trans h'.startDate
  endDate := h.endDate.symm.trans h'.endDate
  cameraIds id := (h.cameraIds id).symm.trans (h'.cameraIds id)
  severity level := (h.severity level).symm.trans (h'.severity level)
  objectTypes name := (h.objectTypes name).symm.trans (h'.objectTypes name)
  reviewed := h.reviewed.symm.trans h'.reviewed

/-- The filters tell two sequences apart exactly if they do not agree. -/
theorem ofChoices_eq_iff : ofChoices cs = ofChoices cs' ↔ Agree cs cs' := by
  constructor
  · intro h
    exact (gathers_ofChoices cs).agree (gathers_iff.mpr h)
  · intro h
    exact gathers_iff.mp ((gathers_ofChoices cs).congr h)

/-! ### Listings -/

/-- Values for filters, listed in any order and with any repetition. -/
structure Listing where
  startDate : Option Instant
  endDate : Option Instant
  cameraIds : List String
  severity : List String
  objectTypes : List String
  reviewed : Option Bool

namespace Listing

/-- The choices of the listed values, one after the other. -/
def choices (l : Listing) : List Choice :=
  l.startDate.toList.map .startingAt ++ l.endDate.toList.map .endingBefore ++ l.cameraIds.map .camera
    ++ l.severity.map .severity ++ l.objectTypes.map .objectType ++ l.reviewed.toList.map .reviewed

/-- The filters with the listed values. -/
def filters (l : Listing) : Filters :=
  ⟨l.startDate, l.endDate, .ofList l.cameraIds, .ofList l.severity, .ofList l.objectTypes, l.reviewed⟩

theorem gathers_filters (l : Listing) : l.filters.Gathers l.choices := by
  constructor
  · have hstart : lastOf Choice.startingAt? (l.startDate.toList.map .startingAt) = l.startDate :=
      lastOf_toList Choice.startingAt? (fun _ => rfl) _
    simp only [choices, lastOf_append, hstart]
    rw [lastOf_map, lastOf_map, lastOf_map, lastOf_map, lastOf_map]
    · rfl
    all_goals exact fun _ => rfl
  · have hend : lastOf Choice.endingBefore? (l.endDate.toList.map .endingBefore) = l.endDate :=
      lastOf_toList Choice.endingBefore? (fun _ => rfl) _
    simp only [choices, lastOf_append, hend]
    rw [lastOf_map, lastOf_map, lastOf_map, lastOf_map, lastOf_map]
    · exact l.endDate.or_none.symm
    all_goals exact fun _ => rfl
  · intro id
    simp [filters, choices, TextSet.mem_ofList]
  · intro level
    simp [filters, choices, TextSet.mem_ofList]
  · intro name
    simp [filters, choices, TextSet.mem_ofList]
  · have hreviewed : lastOf Choice.reviewed? (l.reviewed.toList.map .reviewed) = l.reviewed :=
      lastOf_toList Choice.reviewed? (fun _ => rfl) _
    simp only [choices, lastOf_append, hreviewed]
    rw [lastOf_map, lastOf_map, lastOf_map, lastOf_map, lastOf_map]
    · exact l.reviewed.or_none.symm
    all_goals exact fun _ => rfl

theorem filters_eq (l : Listing) : l.filters = ofChoices l.choices := gathers_iff.mp l.gathers_filters

/-- The filters of a listing are those of the sequences that agree with it. -/
theorem filters_eq_iff {l : Listing} : l.filters = ofChoices cs ↔ Agree l.choices cs := by
  rw [filters_eq, ofChoices_eq_iff]

end Listing
end Lookout.Filters

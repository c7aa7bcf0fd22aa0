import Lookout.Json.Record
import Lookout.Proofs.Json.Integers
import Lookout.Proofs.Time.Rfc3339
import Lookout.Time.Json
import Mathlib.Data.List.Forall2
import Mathlib.Data.List.Nodup

/-! Records in JSON texts, written and read. Every field is written, so a reader finds under each name the tree of the
    value that was written there. -/

namespace Lookout.Json

/-- A text of the value is read as `a`. -/
def Value.ReadAs {α : Type} (v : Value) (read : Tree → Option α) (a : α) : Prop :=
  ∃ t, v.tree? = some t ∧ read t = some a

/-! ### Values -/

namespace Value

theorem readAs_bool (b : Bool) : (Value.bool b).ReadAs Tree.bool? b := ⟨.bool b, rfl, rfl⟩

theorem readAs_string (s : List Char) : (Value.string s).ReadAs Tree.text? (String.ofList s) := by
  refine ⟨.string (partsOf s), rfl, ?_⟩
  rw [Tree.text?, stringText?_partsOf, Option.map_some]

theorem readAs_text (s : String) : (ofString s).ReadAs Tree.text? s := by
  have hread := readAs_string s.toList
  rwa [String.ofList_toList] at hread

theorem readAs_number {m n : Number} {numeral : Numeral} (hm : m.numeral? = some numeral)
    (hn : numeral.number? = some n) : (Value.number m).ReadAs Tree.number? n := by
  refine ⟨.number numeral, ?_, hn⟩
  rw [Value.tree?, hm]
  rfl

theorem readAs_ofInt64 (i : Int64) : (ofInt64 i).ReadAs Tree.number? (.ofInt64 i) :=
  readAs_number (numeral?_ofInt64 i) (number?_ofInt i)

theorem readAs_ofUInt64 (n : UInt64) : (ofUInt64 n).ReadAs Tree.number? (.natural n) :=
  readAs_number (numeral?_natural n) (number?_natural n)

theorem toInt?_ofInt64 (i : Int64) : (Number.ofInt64 i).toInt? = some i.toInt := by
  rw [Number.ofInt64]
  split
  · rfl
  · next h =>
    have hpos : 0 ≤ i.toInt := Int.not_lt.mp fun hneg => h (Int64.lt_iff_toInt_lt.mpr hneg)
    rw [Number.toInt?, toNat_toUInt64 hpos, Int.natAbs_of_nonneg hpos]

theorem readAs_int64 (i : Int64) : (ofInt64 i).ReadAs Tree.int64? i := by
  obtain ⟨t, ht, hread⟩ := readAs_ofInt64 i
  refine ⟨t, ht, ?_⟩
  rw [Tree.int64?, hread, Option.bind_some, toInt?_ofInt64, Option.bind_some, Text.int64?_toInt]

section
variable {v : Value} {n : Number} {i : Int}

/-- An integer of a type is read as itself, since it lies in the range of the type. -/
theorem ReadAs.integer (h : v.ReadAs Tree.number? n) (hi : n.toInt? = some i) {low high : Int} (hlow : low ≤ i)
    (hhigh : i ≤ high) : v.ReadAs (Tree.integer? low high) i := by
  obtain ⟨t, ht, hread⟩ := h
  refine ⟨t, ht, ?_⟩
  simp only [Tree.integer?, hread, hi, Option.bind_eq_bind, Option.bind_some]
  exact if_pos ⟨hlow, hhigh⟩

end

section
variable {α β : Type} {v : Value} {read : Tree → Option α} {a : α}

theorem ReadAs.map (h : v.ReadAs read a) (f : α → β) : v.ReadAs (fun t => (read t).map f) (f a) := by
  obtain ⟨t, ht, hread⟩ := h
  exact ⟨t, ht, congrArg (Option.map f) hread⟩

theorem ReadAs.bind (h : v.ReadAs read a) {f : α → Option β} {b : β} (hf : f a = some b) :
    v.ReadAs (fun t => (read t).bind f) b := by
  obtain ⟨t, ht, hread⟩ := h
  exact ⟨t, ht, (congrArg (Option.bind · f) hread).trans hf⟩

/-- A value that may be absent is read as it was written, if no value that is there is written as null. -/
theorem ReadAs.nullable (hnull : read .null = none) (h : v.ReadAs read a) : v.ReadAs (Tree.nullable? read) (some a) := by
  obtain ⟨t, ht, hread⟩ := h
  refine ⟨t, ht, ?_⟩
  have hne : t ≠ .null := fun he => by
    rw [he, hnull] at hread
    cases hread
  rw [Tree.nullable?.eq_2 _ _ fun he => hne he, hread, Option.map_some]

theorem readAs_option {f : α → Value} (hnull : read .null = none) (h : ∀ a, (f a).ReadAs read a) (o : Option α) :
    (ofOption f o).ReadAs (Tree.nullable? read) o := by
  cases o with
  | none => exact ⟨.null, rfl, rfl⟩
  | some a => exact (h a).nullable hnull

/-- A list is read item by item. -/
theorem readAs_list {vs : List Value} {as : List α} (h : List.Forall₂ (fun v a => v.ReadAs read a) vs as) :
    (Value.array vs).ReadAs (Tree.list? read) as := by
  have hitems : ∃ ts, trees? vs = some ts ∧ ts.mapM read = some as := by
    induction h with
    | nil => exact ⟨[], rfl, rfl⟩
    | cons hv _ ih =>
      obtain ⟨t, ht, hread⟩ := hv
      obtain ⟨ts, hts, hreads⟩ := ih
      refine ⟨t :: ts, by rw [trees?, ht, hts]; rfl, ?_⟩
      rw [List.mapM_cons, hread, hreads]
      rfl
  obtain ⟨ts, hts, hreads⟩ := hitems
  exact ⟨.array ts, by rw [Value.tree?, hts]; rfl, hreads⟩

theorem readAs_map {f : α → Value} (h : ∀ a, (f a).ReadAs read a) (as : List α) :
    (Value.array (as.map f)).ReadAs (Tree.list? read) as :=
  readAs_list (List.forall₂_map_left_iff.mpr (List.forall₂_same.mpr fun a _ => h a))

end

theorem readAs_int32 (n : Int32) : (ofInt64 n.toInt64).ReadAs Tree.int32? n := by
  have hlow : -2147483648 ≤ n.toInt := n.le_toInt
  have hhigh : n.toInt ≤ 2147483647 := Int.lt_add_one_iff.mp n.toInt_lt
  rw [← Int32.toInt_toInt64] at hlow hhigh
  have hread := ((readAs_ofInt64 n.toInt64).integer (toInt?_ofInt64 _) hlow hhigh).map Int32.ofInt
  rwa [Int32.toInt_toInt64, Int32.ofInt_toInt] at hread

theorem readAs_uint64 (n : UInt64) : (ofUInt64 n).ReadAs Tree.uint64? n := by
  have hhigh : (n.toNat : Int) ≤ 18446744073709551615 := Int.lt_add_one_iff.mp (Int.ofNat_lt.mpr n.toNat_lt)
  have hread := ((readAs_ofUInt64 n).integer rfl (Int.natCast_nonneg _) hhigh).map fun i => UInt64.ofNat i.toNat
  rwa [Int.toNat_natCast, UInt64.ofNat_toNat] at hread

theorem readAs_uint32 (n : UInt32) : (ofUInt64 n.toUInt64).ReadAs Tree.uint32? n := by
  have hhigh : (n.toUInt64.toNat : Int) ≤ 4294967295 := by
    rw [UInt32.toNat_toUInt64]
    exact Int.lt_add_one_iff.mp (Int.ofNat_lt.mpr n.toNat_lt)
  have hread := ((readAs_ofUInt64 n.toUInt64).integer rfl (Int.natCast_nonneg _) hhigh).map
    fun i => UInt32.ofNat i.toNat
  rwa [Int.toNat_natCast, UInt32.toNat_toUInt64, UInt32.ofNat_toNat] at hread

end Value

/-- The text of the float is a numeral that is read as the float. -/
def Number.ReadsBack (x : Binary64) : Prop :=
  ((Number.float x).numeral?.bind Numeral.number?).map Number.toBinary64 = some x

theorem Value.readAs_float {x : Binary64} (h : Number.ReadsBack x) :
    (Value.number (.float x)).ReadAs Tree.binary64? x := by
  obtain ⟨n, hn, hx⟩ := Option.map_eq_some_iff.mp h
  obtain ⟨numeral, hm, hn⟩ := Option.bind_eq_some_iff.mp hn
  have hread := (readAs_number hm hn).map Number.toBinary64
  rwa [hx] at hread

/-! ### Instants -/

open Time (Instant)

theorem Value.exists_instant {t : Instant} (h : t.InCalendar) :
    ∃ v : Value, t.toJson = .ok v ∧ v.ReadAs Instant.ofJson? t := by
  have hread := Time.Rfc3339.parse?_utcText_date h [] [] rfl rfl
  rw [List.nil_append, List.append_nil] at hread
  refine ⟨.string (Time.Rfc3339.utcText t.date t.secondOfDay t.subsecond), ?_, (readAs_string _).bind ?_⟩
  · rw [Instant.toJson, Time.Rfc3339.text_of_inCalendar h]
    rfl
  · rw [String.toList_ofList, hread]
    rfl

theorem Value.exists_option_instant {o : Option Instant} (h : ∀ t ∈ o, t.InCalendar) :
    ∃ v : Value, Instant.optionToJson o = .ok v ∧ v.ReadAs (Tree.nullable? Instant.ofJson?) o := by
  cases o with
  | none => exact ⟨.null, rfl, .null, rfl, rfl⟩
  | some t =>
    obtain ⟨v, hv, hread⟩ := exists_instant (h t rfl)
    exact ⟨v, hv, hread.nullable rfl⟩

/-! ### Records -/

section
variable {fields : List (String × Tree)}

theorem keyed?_partsOf (fields : List (String × Tree)) :
    Tree.keyed? (fields.map fun (name, t) => (partsOf name.toList, t)) =
      some (fields.map fun (name, t) => (name.toList, t)) := by
  induction fields with
  | nil => rfl
  | cons field fields ih =>
    rw [Tree.keyed?] at ih
    rw [Tree.keyed?, List.map_cons, List.mapM_cons, ih]
    simp only [stringText?_partsOf]
    rfl

theorem lookup_names (h : (fields.map Prod.fst).Nodup) :
    (fields.map Prod.fst).map (fun name => (fields.map fun (name, t) => (name.toList, t)).lookup name.toList) =
      fields.map fun field => some field.2 := by
  induction fields with
  | nil => rfl
  | cons field fields ih =>
    obtain ⟨hne, hnodup⟩ := List.nodup_cons.mp h
    have hskip : ∀ name ∈ fields.map Prod.fst, (name.toList == field.1.toList) = false := fun name hname =>
      beq_eq_false_iff_ne.mpr fun he => hne (String.toList_inj.mp he ▸ hname)
    rw [List.map_cons, List.map_cons, List.map_cons, List.map_cons, List.lookup_cons_self, ← ih hnodup]
    congr 1
    refine List.map_congr_left fun name hname => ?_
    rw [List.lookup_cons, hskip name hname]

theorem length_filter_name_le (h : (fields.map Prod.fst).Nodup) (name : String) :
    ((fields.map fun (name, t) => (name.toList, t)).filter fun f => f.1 == name.toList).length ≤ 1 := by
  calc _ = (fields.map Prod.fst).count name := by
        rw [← List.countP_eq_length_filter, List.countP_map, List.count, List.countP_map]
        refine List.countP_congr fun field _ => ?_
        simp [String.toList_inj]
    _ ≤ 1 := List.nodup_iff_count_le_one.mp h name

/-- The fields of an object with a name for each are found by their names. -/
theorem Tree.record?_named (fields : List (String × Tree)) (h : (fields.map Prod.fst).Nodup) (complete : Bool) :
    (Tree.object (fields.map fun (name, t) => (partsOf name.toList, t))).record? (fields.map Prod.fst) complete =
      some (fields.map fun field => some field.2) := by
  rw [Tree.record?, keyed?_partsOf, Option.bind_some, Tree.select?, lookup_names h, if_pos]
  exact List.all_eq_true.mpr fun name _ => decide_eq_true (length_filter_name_le h name)

end

theorem fieldTrees?_named {fields : List (String × Value)} {ts : List Tree}
    (h : Value.trees? (fields.map Prod.snd) = some ts) :
    Value.fieldTrees? (fields.map fun (name, v) => (name.toList, v)) =
      some (((fields.map Prod.fst).zip ts).map fun (name, t) => (partsOf name.toList, t)) := by
  induction fields generalizing ts with
  | nil => rfl
  | cons field fields ih =>
    obtain ⟨t, ht, h⟩ := Option.bind_eq_some_iff.mp h
    obtain ⟨us, hus, rfl⟩ := Option.map_eq_some_iff.mp h
    rw [List.map_cons, Value.fieldTrees?, ht, Option.bind_some, ih hus]
    rfl

theorem length_trees? {vs : List Value} {ts : List Tree} (h : Value.trees? vs = some ts) : vs.length = ts.length := by
  induction vs generalizing ts with
  | nil =>
    cases h
    rfl
  | cons v vs ih =>
    obtain ⟨t, ht, h⟩ := Option.bind_eq_some_iff.mp h
    obtain ⟨us, hus, rfl⟩ := Option.map_eq_some_iff.mp h
    rw [List.length_cons, List.length_cons, ih hus]

/-- What is given for each field of a record is what was written for it. -/
theorem Value.exists_record {fields : List (String × Value)} {ts : List Tree}
    (hnames : (fields.map Prod.fst).Nodup) (h : Value.trees? (fields.map Prod.snd) = some ts) (complete : Bool) :
    (Value.ofFields fields).ReadAs (Tree.record? (fields.map Prod.fst) complete) (ts.map some) := by
  have hlength : (fields.map Prod.fst).length = ts.length := by
    rw [List.length_map, ← List.length_map Prod.snd, length_trees? h]
  have hfst : ((fields.map Prod.fst).zip ts).map Prod.fst = fields.map Prod.fst := List.map_fst_zip (by omega)
  have hsnd : ((fields.map Prod.fst).zip ts).map Prod.snd = ts := List.map_snd_zip (by omega)
  refine ⟨_, by rw [ofFields, tree?, fieldTrees?_named h]; rfl, ?_⟩
  have hread := Tree.record?_named ((fields.map Prod.fst).zip ts) (by rwa [hfst]) complete
  rw [hfst] at hread
  rw [hread, ← hsnd, List.map_map, hsnd]
  rfl

end Lookout.Json

import Lookout.Filters.Condition
import Lookout.Filters.Json
import Lookout.Proofs.Json.Fields
import Lookout.Proofs.TextSet
import Lookout.Response.Json

/-! Filters and responses, written as JSON and read. What can be written at all is read as it was. -/

namespace Lookout

open Json (Value Tree)

/-! ### Filters -/

namespace Filters

/-- The dates have years of four digits, in UTC. -/
structure InCalendar (f : Filters) : Prop where
  startDate : ∀ t ∈ f.startDate, t.InCalendar
  endDate : ∀ t ∈ f.endDate, t.InCalendar

theorem readAs_set (s : TextSet) : (setToJson s).ReadAs textSet? s := by
  have hread := (Value.readAs_map Value.readAs_text s.toList).map TextSet.ofList
  rwa [TextSet.ofList_toList] at hread

theorem exists_toJson {f : Filters} (h : f.InCalendar) : ∃ v, f.toJson = .ok v ∧ v.ReadAs ofJson? f := by
  obtain ⟨v₁, hv₁, t₁, ht₁, hread₁⟩ := Value.exists_option_instant h.startDate
  obtain ⟨v₂, hv₂, t₂, ht₂, hread₂⟩ := Value.exists_option_instant h.endDate
  obtain ⟨t₃, ht₃, hread₃⟩ := readAs_set f.cameraIds
  obtain ⟨t₄, ht₄, hread₄⟩ := readAs_set f.severity
  obtain ⟨t₅, ht₅, hread₅⟩ := readAs_set f.objectTypes
  obtain ⟨t₆, ht₆, hread₆⟩ := Value.readAs_option rfl Value.readAs_bool f.reviewed
  obtain ⟨fields, hfields⟩ : ∃ fields : List (String × Value), fields =
      [("start_date", v₁), ("end_date", v₂), ("camera_ids", setToJson f.cameraIds),
        ("severity", setToJson f.severity), ("object_types", setToJson f.objectTypes),
        ("reviewed", .ofOption .bool f.reviewed)] := ⟨_, rfl⟩
  have hnames : fields.map Prod.fst = fieldNames := by rw [hfields]; rfl
  have htrees : Value.trees? (fields.map Prod.snd) = some [t₁, t₂, t₃, t₄, t₅, t₆] := by
    simp [hfields, Value.trees?, ht₁, ht₂, ht₃, ht₄, ht₅, ht₆]
  obtain ⟨t, ht, hrecord⟩ := Value.exists_record (by rw [hnames]; decide) htrees false
  refine ⟨.ofFields fields, by rw [toJson, hv₁, hv₂, hfields]; rfl, t, ht, ?_⟩
  rw [hnames] at hrecord
  simp [ofJson?, hrecord, Tree.optional?, Tree.orElse?, hread₁, hread₂, hread₃, hread₄, hread₅, hread₆]

end Filters

/-! ### Responses -/

namespace Hit

/-- The instants have years of four digits, in UTC. -/
structure InCalendar (h : Hit) : Prop where
  startedAt : h.startedAt.InCalendar
  endedAt : ∀ t ∈ h.endedAt, t.InCalendar

theorem exists_toJson {h : Hit} (hcalendar : h.InCalendar) (hscore : Json.Number.ReadsBack h.relevance) :
    ∃ v, h.toJson = .ok v ∧ v.ReadAs ofJson? h := by
  obtain ⟨started, hstarted, t₄, ht₄, hread₄⟩ := Value.exists_instant hcalendar.startedAt
  obtain ⟨ended, hended, t₅, ht₅, hread₅⟩ := Value.exists_option_instant hcalendar.endedAt
  obtain ⟨t₁, ht₁, hread₁⟩ := Value.readAs_int64 h.id
  obtain ⟨t₂, ht₂, hread₂⟩ := Value.readAs_text h.cameraId
  obtain ⟨t₃, ht₃, hread₃⟩ := Value.readAs_text h.cameraName
  obtain ⟨t₆, ht₆, hread₆⟩ := Value.readAs_option rfl Value.readAs_int32 h.riskScore
  obtain ⟨t₇, ht₇, hread₇⟩ := Value.readAs_option rfl Value.readAs_text h.riskLevel
  obtain ⟨t₈, ht₈, hread₈⟩ := Value.readAs_option rfl Value.readAs_text h.summary
  obtain ⟨t₉, ht₉, hread₉⟩ := Value.readAs_option rfl Value.readAs_text h.reasoning
  obtain ⟨t₁₀, ht₁₀, hread₁₀⟩ := Value.readAs_bool h.reviewed
  obtain ⟨t₁₁, ht₁₁, hread₁₁⟩ := Value.readAs_uint64 h.detectionCount
  obtain ⟨t₁₂, ht₁₂, hread₁₂⟩ := Value.readAs_map Value.readAs_int64 h.detectionIds
  obtain ⟨t₁₃, ht₁₃, hread₁₃⟩ := Value.readAs_option rfl Value.readAs_text h.objectTypes
  obtain ⟨t₁₄, ht₁₄, hread₁₄⟩ := Value.readAs_float hscore
  obtain ⟨fields, hfields⟩ : ∃ fields : List (String × Value), fields =
      [("id", .ofInt64 h.id), ("camera_id", .ofString h.cameraId), ("camera_name", .ofString h.cameraName),
        ("started_at", started), ("ended_at", ended),
        ("risk_score", .ofOption (fun n => .ofInt64 n.toInt64) h.riskScore),
        ("risk_level", .ofOption .ofString h.riskLevel), ("summary", .ofOption .ofString h.summary),
        ("reasoning", .ofOption .ofString h.reasoning), ("reviewed", .bool h.reviewed),
        ("detection_count", .ofUInt64 h.detectionCount),
        ("detection_ids", .array (h.detectionIds.map .ofInt64)),
        ("object_types", .ofOption .ofString h.objectTypes),
        ("relevance_score", .number (.float h.relevance))] := ⟨_, rfl⟩
  have hnames : fields.map Prod.fst = fieldNames := by rw [hfields]; rfl
  -- The fields are written in the order in which they are read, each with the tree from which it is read back.
  have htrees : Value.trees? (fields.map Prod.snd) =
      some [t₁, t₂, t₃, t₄, t₅, t₆, t₇, t₈, t₉, t₁₀, t₁₁, t₁₂, t₁₃, t₁₄] := by
    simp [hfields, Value.trees?, ht₁, ht₂, ht₃, ht₄, ht₅, ht₆, ht₇, ht₈, ht₉, ht₁₀, ht₁₁, ht₁₂, ht₁₃, ht₁₄]
  obtain ⟨t, ht, hrecord⟩ := Value.exists_record (by rw [hnames]; decide) htrees true
  have hjson : h.toJson = .ok (.ofFields fields) := by
    rw [toJson, hstarted, hended]
    exact congrArg (fun fields => Except.ok (Value.ofFields fields)) hfields.symm
  refine ⟨.ofFields fields, hjson, t, ht, ?_⟩
  rw [hnames] at hrecord
  replace hrecord : t.record? fieldNames true = some [some t₁, some t₂, some t₃, some t₄, some t₅, some t₆, some t₇,
      some t₈, some t₉, some t₁₀, some t₁₁, some t₁₂, some t₁₃, some t₁₄] := hrecord
  rw [ofJson?, hrecord, Option.bind_eq_bind, Option.bind_some]
  dsimp only [Tree.required?, Tree.optional?, Option.bind_some, Option.bind_eq_bind]
  simp only [hread₁, hread₂, hread₃, hread₄, hread₅, hread₆, hread₇, hread₈, hread₉, hread₁₀, hread₁₁, hread₁₂, hread₁₃,
    hread₁₄, Option.bind_some]

theorem exists_mapM_toJson {hits : List Hit}
    (h : ∀ hit ∈ hits, hit.InCalendar ∧ Json.Number.ReadsBack hit.relevance) :
    ∃ vs, hits.mapM toJson = .ok vs ∧ List.Forall₂ (fun v hit => v.ReadAs ofJson? hit) vs hits := by
  induction hits with
  | nil => exact ⟨[], rfl, .nil⟩
  | cons hit hits ih =>
    obtain ⟨hhit, hhits⟩ := List.forall_mem_cons.mp h
    obtain ⟨v, hv, hread⟩ := exists_toJson hhit.1 hhit.2
    obtain ⟨vs, hvs, hreads⟩ := ih hhits
    refine ⟨v :: vs, ?_, .cons hread hreads⟩
    rw [List.mapM_cons, hv, hvs]
    rfl

end Hit

namespace Response

theorem exists_toJson {r : Response} (h : ∀ hit ∈ r.hits, hit.InCalendar ∧ Json.Number.ReadsBack hit.relevance) :
    ∃ v, r.toJson = .ok v ∧ v.ReadAs ofJson? r := by
  obtain ⟨vs, hvs, hhits⟩ := Hit.exists_mapM_toJson h
  obtain ⟨t₁, ht₁, hread₁⟩ := Value.readAs_list hhits
  obtain ⟨t₂, ht₂, hread₂⟩ := Value.readAs_uint64 r.totalCount
  obtain ⟨t₃, ht₃, hread₃⟩ := Value.readAs_uint32 r.limit
  obtain ⟨t₄, ht₄, hread₄⟩ := Value.readAs_uint32 r.offset
  obtain ⟨fields, hfields⟩ : ∃ fields : List (String × Value), fields =
      [("results", .array vs), ("total_count", .ofUInt64 r.totalCount), ("limit", .ofUInt64 r.limit.toUInt64),
        ("offset", .ofUInt64 r.offset.toUInt64)] := ⟨_, rfl⟩
  have hnames : fields.map Prod.fst = fieldNames := by rw [hfields]; rfl
  have htrees : Value.trees? (fields.map Prod.snd) = some [t₁, t₂, t₃, t₄] := by
    simp [hfields, Value.trees?, ht₁, ht₂, ht₃, ht₄]
  obtain ⟨t, ht, hrecord⟩ := Value.exists_record (by rw [hnames]; decide) htrees true
  have hjson : r.toJson = .ok (.ofFields fields) := by
    rw [toJson, hvs]
    exact congrArg (fun fields => Except.ok (Value.ofFields fields)) hfields.symm
  refine ⟨.ofFields fields, hjson, t, ht, ?_⟩
  rw [hnames] at hrecord
  simp [ofJson?, hrecord, Tree.required?, hread₁, hread₂, hread₃, hread₄]

end Response

/-! ### Texts -/

theorem Json.Value.ReadAs.texts {α : Type} {v : Value} {read : Tree → Option α} {a : α} (h : v.ReadAs read a) :
    (Tree.ofText? v.compact).bind read = some a ∧ (Tree.ofText? v.pretty).bind read = some a := by
  obtain ⟨t, ht, hread⟩ := h
  rw [Tree.ofText?_compact ht, Tree.ofText?_pretty ht]
  exact ⟨hread, hread⟩

/-- Filters with dates that can be written are read from their text as they were, so they ask for the same. A response
    with instants that can be written, and scores that are read back from their own texts, is read as it was from
    compact and from pretty text. -/
theorem json_reads_back :
    (∀ f : Filters, f.InCalendar →
      ∃ v g, f.toJson = .ok v ∧ Filters.ofText? v.compact = some g ∧ g = f ∧ g.conditions = f.conditions) ∧
    ∀ r : Response, (∀ hit ∈ r.hits, hit.InCalendar ∧ Json.Number.ReadsBack hit.relevance) →
      ∃ v, r.toJson = .ok v ∧ Response.ofText? v.compact = some r ∧ Response.ofText? v.pretty = some r := by
  constructor
  · intro f h
    obtain ⟨v, hv, hread⟩ := Filters.exists_toJson h
    exact ⟨v, f, hv, hread.texts.1, rfl, rfl⟩
  · intro r h
    obtain ⟨v, hv, hread⟩ := Response.exists_toJson h
    exact ⟨v, hv, hread.texts.1, hread.texts.2⟩

/-- The last nanosecond of the calendar and a leap day of the year zero, quotes, control characters and characters of
    more than 16 bits, the ends of the integer types, and fields that are absent. -/
theorem json_reads_back_at_ends :
    (∃ f v g,
      f = (⟨some ⟨253402300799999999999⟩, none, .ofList ["cam\\\"\x01", "\u2028😀", ""], .empty, .ofList ["\x7f\n"],
        some false⟩ : Filters) ∧
      f.toJson = .ok v ∧ Filters.ofText? v.compact = some g ∧ g = f ∧ g.conditions = f.conditions) ∧
    ∃ r v,
      r = (⟨[⟨-9223372036854775808, "a", "😀\t", ⟨-62162121599999999999⟩, none, some (-2147483648), none, some "null",
          none, true, 18446744073709551615, [9223372036854775807, 0], none, ⟨4588921973871085396⟩⟩,
        ⟨1, "", "", ⟨0⟩, some ⟨1⟩, none, some "", none, some "\\u0000", false, 0, [], some "cat", ⟨0⟩⟩],
        18446744073709551615, 4294967295, 0⟩ : Response) ∧
      r.toJson = .ok v ∧ Response.ofText? v.compact = some r ∧ Response.ofText? v.pretty = some r := by
  have hinstant : ∀ n : Int, n ∈ [253402300799999999999, -62162121599999999999, 0, 1] →
      (⟨n⟩ : Time.Instant).InCalendar := by
    unfold Time.Instant.InCalendar
    decide +kernel
  have hscore : Json.Number.ReadsBack ⟨4588921973871085396⟩ ∧ Json.Number.ReadsBack ⟨0⟩ := by
    unfold Json.Number.ReadsBack
    decide +kernel
  constructor
  · have hcalendar : Filters.InCalendar ⟨some ⟨253402300799999999999⟩, none, .ofList ["cam\\\"\x01", "\u2028😀", ""],
        .empty, .ofList ["\x7f\n"], some false⟩ := by
      refine ⟨?_, nofun⟩
      rintro _ ⟨⟩
      exact hinstant _ (by decide)
    obtain ⟨v, g, hread⟩ := json_reads_back.1 _ hcalendar
    exact ⟨_, v, g, rfl, hread⟩
  · have hhits : ∀ hit ∈ ([⟨-9223372036854775808, "a", "😀\t", ⟨-62162121599999999999⟩, none, some (-2147483648), none,
        some "null", none, true, 18446744073709551615, [9223372036854775807, 0], none, ⟨4588921973871085396⟩⟩,
        ⟨1, "", "", ⟨0⟩, some ⟨1⟩, none, some "", none, some "\\u0000", false, 0, [], some "cat", ⟨0⟩⟩] : List Hit),
        hit.InCalendar ∧ Json.Number.ReadsBack hit.relevance := by
      refine List.forall_mem_cons.mpr ⟨⟨⟨hinstant _ (by decide), nofun⟩, hscore.1⟩,
        List.forall_mem_singleton.mpr ⟨⟨hinstant _ (by decide), ?_⟩, hscore.2⟩⟩
      rintro _ ⟨⟩
      exact hinstant _ (by decide)
    obtain ⟨v, hread⟩ := json_reads_back.2 ⟨_, 18446744073709551615, 4294967295, 0⟩ hhits
    exact ⟨_, v, rfl, hread⟩

end Lookout

import Lookout.Proofs.Cli.Given
import Lookout.Proofs.Filters.Listed
import Lookout.Proofs.Json.RoundTrip
import Lookout.Proofs.Service.Outcome

/-! Dates of filters that were accepted, on their way out. Each was read from a timestamp, in a JSON text or on the
    command line. Main statement: such filters can be written as JSON, and a search with them sends its statements,
    exactly if their timestamps do not pass the ends of the calendar. -/

namespace Lookout

open Time (Timestamp Instant WriteError)

namespace Filters

/-- The instant is one of the dates. -/
def Dates (f : Filters) (i : Instant) : Prop := f.startDate = some i ∨ f.endDate = some i

/-- The filters have no dates but those of timestamps that were read. -/
def FromTexts (f : Filters) : Prop := ∀ i, f.Dates i → ∃ t : Timestamp, t.Accepted ∧ t.instant = i

/-! ### Reading -/

theorem HoldsOne.accepted {field : Option Json.Tree} {i : Instant} (h : HoldsOne IsDate field (some i)) :
    ∃ t : Timestamp, t.Accepted ∧ t.instant = i := by
  obtain _ | _ | ⟨hs, ht⟩ := h
  exact ⟨_, ⟨_, ht⟩, rfl⟩

theorem fromTexts_of_ofText? {s : List Char} {f : Filters} (h : ofText? s = some f) : f.FromTexts := by
  obtain ⟨tree, -, h⟩ := Option.bind_eq_some_iff.mp h
  obtain ⟨fields, -, h⟩ := Option.bind_eq_some_iff.mp h
  split at h
  · obtain ⟨startDate, hstart, h⟩ := Option.bind_eq_some_iff.mp h
    obtain ⟨endDate, hend, h⟩ := Option.bind_eq_some_iff.mp h
    obtain ⟨cameraIds, -, h⟩ := Option.bind_eq_some_iff.mp h
    obtain ⟨severity, -, h⟩ := Option.bind_eq_some_iff.mp h
    obtain ⟨objectTypes, -, h⟩ := Option.bind_eq_some_iff.mp h
    obtain ⟨reviewed, -, h⟩ := Option.bind_eq_some_iff.mp h
    obtain rfl := Option.some.inj h
    rintro i (rfl | rfl)
    · exact (date?_eq_some.mp hstart).accepted
    · exact (date?_eq_some.mp hend).accepted
  · cases h

theorem fromTexts_of_ofArgs {args : List (List Char)} {config : String} {r : Cli.SearchRequest}
    (h : Cli.Invocation.ofArgs args = .ok ⟨config, .search r⟩) : r.filters.FromTexts := by
  obtain ⟨c, given, hgiven, hrequest⟩ := Cli.Invocation.exists_given h
  have hread := hgiven.accepted.read
  cases c with
  | search =>
    obtain rfl := Cli.Request.search.inj hrequest
    rintro i (hi | hi)
    · exact (hread _ (Cli.SearchRequest.mem_of_date.1 hi)).instant (.inl rfl)
    · exact (hread _ (Cli.SearchRequest.mem_of_date.2 hi)).instant (.inr rfl)
  | backfillIndex => cases hrequest
  | initSchema => cases hrequest

/-! ### Writing -/

theorem inCalendar_of_optionToJson {o : Option Instant} {v : Json.Value} (h : Instant.optionToJson o = .ok v) :
    ∀ i ∈ o, i.InCalendar := by
  rintro i rfl
  obtain ⟨s, hs, -⟩ := map_eq_ok.mp h
  exact Time.Rfc3339.text_eq_ok.mp ⟨s, hs⟩

theorem toJson_eq_ok {f : Filters} : (∃ v, f.toJson = .ok v) ↔ ∀ i, f.Dates i → i.InCalendar := by
  constructor
  · rintro ⟨v, h⟩
    obtain ⟨start, hstart, h⟩ := bind_eq_ok.mp h
    obtain ⟨finish, hfinish, -⟩ := bind_eq_ok.mp h
    rintro i (hi | hi)
    · exact inCalendar_of_optionToJson hstart i hi
    · exact inCalendar_of_optionToJson hfinish i hi
  · intro h
    obtain ⟨v, hv, -⟩ := exists_toJson ⟨fun i hi => h i (.inl hi), fun i hi => h i (.inr hi)⟩
    exact ⟨v, hv⟩

variable {f : Filters}

/-- What holds of the dates holds of the timestamps that they were read from. -/
theorem FromTexts.forall_iff (h : f.FromTexts) (P : Instant → Prop) :
    (∀ i, f.Dates i → P i) ↔ ∀ t : Timestamp, t.Accepted → f.Dates t.instant → P t.instant := by
  constructor
  · intro hP t _ hdate
    exact hP _ hdate
  · intro hP i hi
    obtain ⟨t, ht, rfl⟩ := h i hi
    exact hP t ht hi

theorem FromTexts.toJson_iff (h : f.FromTexts) : (∃ v, f.toJson = .ok v) ↔
    ∀ t : Timestamp, t.Accepted → f.Dates t.instant → ¬ t.PassesEnd ∧ ¬ t.PassesStart := by
  rw [toJson_eq_ok, h.forall_iff]
  exact forall₃_congr fun t ht _ => ht.inCalendar_iff

end Filters

namespace Service

/-! ### Sending -/

/-- A search sends the count first, unless it sends nothing. -/
theorem sends_count_iff (settings : Search.Settings) (query : String) (f : Filters) (limit offset : UInt32)
    (script : Dialogue.Script) :
    ((search settings query f limit offset).run.replay script).statements.head? =
        some (Search.countStatement (.ofRequest settings query f)) ↔
      ∀ i, f.Dates i → ¬ 9999 < i.date.year := by
  have hsendable : (Search.Plan.ofRequest settings query f).conditions.all isSendable = true ↔
      ∀ i, f.Dates i → ¬ 9999 < i.date.year := by
    simp only [Filters.Dates, or_imp, forall_and, Int.not_lt]
    exact all_isSendable_iff
  rw [← hsendable]
  constructor
  · intro h
    by_contra hnot
    rw [run_search, if_neg hnot] at h
    cases h
  · intro h
    rw [replay_search h]
    rfl

/-- A timestamp that was read is written unless it passes an end of the calendar, and the two failures tell which end.
    So filters that were accepted, as JSON or on the command line, can be written unless one of their timestamps passes
    an end, and a search with them sends its statements unless one passes the last day. -/
theorem accepted_dates_go_out_iff (raw : List Char) (f : Filters) :
    (∀ t, Time.Rfc3339.parse? raw = some t →
      ((∃ s, t.text = .ok s) ↔ ¬ t.PassesEnd ∧ ¬ t.PassesStart) ∧
      (t.text = .error .beyondCalendar ↔ t.PassesEnd) ∧ (t.text = .error .beforeCalendar ↔ t.PassesStart)) ∧
    ((∃ s, Filters.ofText? s = some f) ∨
        (∃ args config r, Cli.Invocation.ofArgs args = .ok ⟨config, .search r⟩ ∧ r.filters = f) →
      f.FromTexts ∧
      ((∃ v, f.toJson = .ok v) ↔
        ∀ t : Timestamp, t.Accepted → f.Dates t.instant → ¬ t.PassesEnd ∧ ¬ t.PassesStart) ∧
      ∀ settings query limit offset script,
        ((search settings query f limit offset).run.replay script).statements.head? =
            some (Search.countStatement (.ofRequest settings query f)) ↔
          ∀ t : Timestamp, t.Accepted → f.Dates t.instant → ¬ t.PassesEnd) := by
  refine ⟨fun t h => ?_, fun hf => ?_⟩
  · have ht : t.Accepted := ⟨raw, h⟩
    exact ⟨Time.Rfc3339.text_eq_ok.trans ht.inCalendar_iff,
      Time.Rfc3339.text_eq_beyondCalendar.trans ht.passesEnd_iff.symm,
      Time.Rfc3339.text_eq_beforeCalendar.trans ht.passesStart_iff.symm⟩
  · have htexts : f.FromTexts := by
      obtain ⟨s, hs⟩ | ⟨args, config, r, hr, rfl⟩ := hf
      · exact Filters.fromTexts_of_ofText? hs
      · exact Filters.fromTexts_of_ofArgs hr
    refine ⟨htexts, htexts.toJson_iff, fun settings query limit offset script => ?_⟩
    -- Only the end of the calendar is checked before the statements are sent.
    rw [sends_count_iff, htexts.forall_iff fun i => ¬ 9999 < i.date.year]
    exact forall₃_congr fun t ht _ => not_congr ht.passesEnd_iff.symm

/-- The last second and the first one of the calendar, each written an hour off UTC. -/
theorem accepted_dates_go_out_at_ends :
    (∃ t, Time.Rfc3339.parse? "9999-12-31T22:59:59-01:00".toList = some t ∧ ∃ s, t.text = .ok s) ∧
    ∃ f, Filters.ofText?
        "\x7b\"start_date\":\"0000-01-01T01:00:00+01:00\",\"end_date\":\"9999-12-31T22:59:59-01:00\"\x7d".toList =
          some f ∧
      ∃ v, f.toJson = .ok v := by
  obtain ⟨htimestamp, hfilters⟩ := accepted_dates_go_out_iff "9999-12-31T22:59:59-01:00".toList
    ⟨some ⟨-62167219200000000000⟩, some ⟨253402300799000000000⟩, .empty, .empty, .empty, none⟩
  have hlast : Time.Rfc3339.parse? "9999-12-31T22:59:59-01:00".toList = some ⟨⟨253402300799000000000⟩, -3600⟩ := by
    decide +kernel
  have hread : Filters.ofText?
      "\x7b\"start_date\":\"0000-01-01T01:00:00+01:00\",\"end_date\":\"9999-12-31T22:59:59-01:00\"\x7d".toList =
        some ⟨some ⟨-62167219200000000000⟩, some ⟨253402300799000000000⟩, .empty, .empty, .empty, none⟩ := by
    decide +kernel
  refine ⟨⟨_, hlast, (htimestamp _ hlast).1.mpr (by decide +kernel)⟩, _, hread,
    (hfilters (.inl ⟨_, hread⟩)).2.1.mpr fun t ht hdate => ?_⟩
  have hinstant : t.instant.date.year = 0 ∨ t.instant.date.year = 9999 := by
    obtain h | h := hdate <;> rw [← Option.some.inj h] <;> decide +kernel
  rw [ht.passesEnd_iff, ht.passesStart_iff]
  omega

/-- The last second of the calendar behind UTC and the first one ahead of it are read and cannot be written; a search
    with the first of them sends nothing. -/
theorem accepted_dates_over_ends :
    (∃ t, Time.Rfc3339.parse? "9999-12-31T23:59:59-01:00".toList = some t ∧ ∀ s, t.text ≠ .ok s) ∧
    (∃ t, Time.Rfc3339.parse? "0000-01-01T00:00:00+01:00".toList = some t ∧ ∀ s, t.text ≠ .ok s) ∧
    (∃ f, Filters.ofText? "\x7b\"end_date\":\"9999-12-31T23:59:59-01:00\"\x7d".toList = some f ∧
      (∀ v, f.toJson ≠ .ok v) ∧
      ∀ settings query limit offset script,
        ((search settings query f limit offset).run.replay script).statements = []) ∧
    ∃ config r, Cli.Invocation.ofArgs (["search", "--start", "0000-01-01T00:00:00+01:00"].map String.toList) =
        .ok ⟨config, .search r⟩ ∧ ∀ v, r.filters.toJson ≠ .ok v := by
  have hbeyond : ¬ Instant.InCalendar ⟨253402304399000000000⟩ := fun h => absurd h.2 (by decide +kernel)
  have hbefore : ¬ Instant.InCalendar ⟨-62167222800000000000⟩ := fun h => absurd h.1 (by decide +kernel)
  have hunwritten : ∀ {t : Timestamp}, ¬ t.instant.InCalendar → ∀ s, t.text ≠ .ok s := fun h s hs =>
    h (Time.Rfc3339.text_eq_ok.mp ⟨s, hs⟩)
  have hunprinted : ∀ {f : Filters} {i : Instant}, f.Dates i → ¬ i.InCalendar → ∀ v, f.toJson ≠ .ok v :=
    fun hdate h v hv => h (Filters.toJson_eq_ok.mp ⟨v, hv⟩ _ hdate)
  refine ⟨⟨⟨_, -3600⟩, by decide +kernel, hunwritten hbeyond⟩, ⟨⟨_, 3600⟩, by decide +kernel, hunwritten hbefore⟩,
    ⟨⟨none, some _, .empty, .empty, .empty, none⟩, by decide +kernel, hunprinted (.inr rfl) hbeyond, ?_⟩,
    ⟨"vigil.toml", ⟨"", [], [], [], none, some _, none, 20, 0⟩, by decide +kernel, hunprinted (.inl rfl) hbefore⟩⟩
  intro settings query limit offset script
  have hnot : ¬ (Search.Plan.ofRequest settings query
      ⟨none, some ⟨253402304399000000000⟩, .empty, .empty, .empty, none⟩).conditions.all isSendable = true := fun h =>
    absurd ((all_isSendable_iff.mp h).2 _ rfl) (by decide +kernel)
  rw [run_search, if_neg hnot]
  rfl

end Service
end Lookout

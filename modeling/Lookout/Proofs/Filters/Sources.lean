import Lookout.Proofs.Cli.Flags
import Lookout.Proofs.Filters.Listed
import Lookout.Proofs.Service.Dates

/-! Where filters come from. They are built choice by choice, given on the command line, or read from a JSON object.
    Main statement: the three agree. What is asked for depends on the last choice of each date and of the review state,
    and on which cameras, severities and object types there are; neither their order nor the place a value came from is
    left. -/

namespace Lookout.Filters

/-- The filters of a sequence of choices hold its last date of each kind, its last review state, and all its other
    values, and sequences with the same of these give the same filters, conditions and statements; the statements go
    out unless a date is behind the calendar. The filters of a command line are those of its options in their order,
    and those of a JSON object are those of its values, in any order and with any repetition. A date is an instant
    here, at whatever offset it was written. -/
theorem sources_agree :
    (∀ (f : Filters) (cs : List Choice), f = ofChoices cs ↔ f.Gathers cs) ∧
    (∀ cs cs' : List Choice, (ofChoices cs = ofChoices cs' ↔ Agree cs cs') ∧
      (Agree cs cs' → (ofChoices cs).conditions = (ofChoices cs').conditions ∧
        ∀ settings query limit offset script,
          let sent := fun f => ((Service.search settings query f limit offset).run.replay script).statements
          sent (ofChoices cs) = sent (ofChoices cs') ∧
          ((∀ i, (ofChoices cs).Dates i → i.date.year ≤ 9999) →
            (sent (ofChoices cs')).head? = some (Search.countStatement (.ofRequest settings query (ofChoices cs)))))) ∧
    (∀ (r : Cli.SearchRequest) (cs : List Choice), r.filters = ofChoices cs ↔ Agree r.listing.choices cs) ∧
    (∀ args config r, Cli.Invocation.ofArgs args = .ok ⟨config, .search r⟩ →
      ∃ given, Cli.Gives args .search given ∧ r.filters = ofChoices (given.filterMap Cli.Given.choice?)) ∧
    (∀ words given, Cli.Spells words given → Cli.Once given → (∀ g ∈ given, g.opt ∈ Cli.Command.search.options) →
      ∃ config r, Cli.Invocation.ofArgs ("search".toList :: words) = .ok ⟨config, .search r⟩ ∧
        r.filters = ofChoices (given.filterMap Cli.Given.choice?)) ∧
    ∀ s fields, Json.Tree.ofText? s = some (.object fields) → ∀ cs, ofText? s = some (ofChoices cs) ↔
      ∃ named l, Json.Tree.keyed? fields = some named ∧ Listed named l ∧ Agree l.choices cs := by
  refine ⟨fun f cs => gathers_iff.symm, fun cs cs' => ⟨ofChoices_eq_iff, fun h => ?_⟩,
    fun r cs => Cli.SearchRequest.filters_eq_iff, fun args config r => Cli.Invocation.exists_given_search, ?_,
    fun s fields hs cs => ofText?_eq_ofChoices hs⟩
  · rw [ofChoices_eq_iff.mpr h]
    refine ⟨rfl, fun settings query limit offset script => ⟨rfl, fun hdates => ?_⟩⟩
    exact (Service.sends_count_iff settings query _ limit offset script).mpr fun i hi => Int.not_lt.mpr (hdates i hi)
  · intro words given hwords honce hknown
    obtain ⟨config, h⟩ := Cli.Invocation.ofArgs_of_spells hwords honce hknown
    exact ⟨config, _, h, Cli.SearchRequest.filters_ofGiven honce⟩

/-- A date that is replaced and one at other offsets, members in another order and twice, and a field of another name. -/
theorem sources_agree_mixed : ∃ f args config r given,
    f = ofChoices [.reviewed true, .camera "a", .startingAt ⟨0⟩, .severity "high", .startingAt ⟨3600000000000⟩,
      .reviewed false, .camera "b"] ∧
    args = ["search", "--camera=b", "--start", "1970-01-01T00:00:00-01:00", "--severity=high", "--reviewed", "false",
      "--camera=a", "--camera", "b"].map String.toList ∧
    Cli.Invocation.ofArgs args = .ok ⟨config, .search r⟩ ∧ r.filters = f ∧
    Cli.Gives args .search given ∧ f = ofChoices (given.filterMap Cli.Given.choice?) ∧
    (∀ settings query limit offset script,
      ((Service.search settings query f limit offset).run.replay script).statements.head? =
        some (Search.countStatement (.ofRequest settings query f))) ∧
    ofText? (Json.Value.ofFields [("camera_ids", .array (["b", "a", "b"].map .ofString)), ("reviewed", .bool false),
      ("note", .null), ("start_date", .ofString "1970-01-01T02:00:00+01:00"),
      ("severity", .array (["high"].map .ofString))]).compact = some f := by
  obtain ⟨-, hsequences, -, hargs, hflags, hobject⟩ := sources_agree
  have hspells : Cli.Spells (["--camera=b", "--start", "1970-01-01T00:00:00-01:00", "--severity=high", "--reviewed",
      "false", "--camera=a", "--camera", "b"].map String.toList)
      [.camera "b", .start ⟨3600000000000⟩, .severity "high", .reviewed false, .camera "a", .camera "b"] :=
    .attached (o := .camera) (v := ['b']) rfl <| .apart (o := .start) (by decide +kernel) rfl <|
      .attached (o := .severity) (v := "high".toList) rfl <| .apart (o := .reviewed) rfl rfl <|
      .attached (o := .camera) (v := ['a']) rfl <| .apart (o := .camera) rfl rfl .nil
  obtain ⟨config, r, hr, hfilters⟩ := hflags _ _ hspells
    (by rintro (_ | _) ho <;> first | exact absurd ho (by decide) | decide) (by decide)
  have hagree : Agree
      [.camera "b", .startingAt ⟨3600000000000⟩, .severity "high", .reviewed false, .camera "a", .camera "b"]
      [.reviewed true, .camera "a", .startingAt ⟨0⟩, .severity "high", .startingAt ⟨3600000000000⟩, .reviewed false,
        .camera "b"] :=
    ⟨rfl, rfl, by grind, by simp, by simp, rfl⟩
  obtain ⟨hsame, hsent⟩ := hsequences _ _
  replace hfilters := hfilters.trans (hsame.mpr hagree)
  obtain ⟨given, hgiven, hchoices⟩ := hargs _ config r hr
  refine ⟨_, _, config, r, given, rfl, rfl, hr, hfilters, hgiven, hfilters.symm.trans hchoices, ?_, ?_⟩
  · intro settings query limit offset script
    rw [((hsent hagree).2 settings query limit offset script).2, hsame.mpr hagree]
    rintro i (hi | hi)
    · cases hi
      decide +kernel
    · cases hi
  · refine (hobject _ _ (Json.Tree.ofText?_compact rfl) _).mpr
      ⟨_, ⟨some ⟨3600000000000⟩, none, ["b", "a", "b"], ["high"], [], some false⟩, rfl, ?_, ?_⟩
    · exact ⟨by decide +kernel, date?_eq_some.mp (by decide +kernel), .absent,
        .array (.cons rfl (.cons rfl (.cons rfl .nil))), .array (.cons rfl .nil), .absent, .value rfl⟩
    · exact ⟨rfl, rfl, by grind [Listing.choices], by simp [Listing.choices], by simp [Listing.choices], rfl⟩

end Lookout.Filters

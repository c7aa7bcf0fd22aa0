import Lookout.Dialogue

/-! Dialogues with a database that answers each statement in a fixed way and takes every connection. A statement
    that is sent until it changes nothing never ends there if it changes something. -/

namespace Lookout.Dialogue

variable {α β ε : Type} {answer : Sql.Statement → Sql.Reply}

/-- The events and the result of a dialogue with one more event in front. -/
def preceded (e : Event) (o : List Event × α) : List Event × α := (e :: o.1, o.2)

/-- The events and the result of a dialogue in which `answer` answers the statements, if it ends. -/
def consult (answer : Sql.Statement → Sql.Reply) : Dialogue α → Option (List Event × α)
  | .done a => some ([], a)
  | .connect database next => ((next none).consult answer).map (preceded (.connected database))
  | .send s next => ((next (answer s)).consult answer).map (preceded (.sent s))
  | .post s next => (next.consult answer).map (preceded (.sent s))
  | .note n next => (next.consult answer).map (preceded (.noted n))
  | .pause _ next => next.consult answer
  | .drain s _ next =>
    match (answer s).executed with
    | .error e => ((next (.error e)).consult answer).map (preceded (.sent s))
    | .ok n => if n = 0 then ((next (.ok 0)).consult answer).map (preceded (.sent s)) else none

/-- The dialogue has these events and this result when it is replayed with answers to the statements among them,
    and it leaves all answers behind them. -/
def Replays (answer : Sql.Statement → Sql.Reply) (d : Dialogue α) (o : List Event × α) : Prop :=
  ∃ replies, (∀ r ∈ replies, ∃ s, .sent s ∈ o.1 ∧ answer s = r) ∧
    ∀ rest, d.replay ⟨replies ++ rest, []⟩ = ⟨o.1, o.2, ⟨rest, []⟩⟩

/-- An event that takes no answer. -/
theorem Replays.preceded {d d' : Dialogue α} {o : List Event × α} (h : Replays answer d o) (e : Event)
    (hd : ∀ replies, d'.replay ⟨replies, []⟩ = (d.replay ⟨replies, []⟩).cons e) :
    Replays answer d' (preceded e o) := by
  obtain ⟨replies, hreplies, hreplay⟩ := h
  refine ⟨replies, fun r hr => ?_, fun rest => by rw [hd, hreplay]; rfl⟩
  obtain ⟨s, hs, hr⟩ := hreplies r hr
  exact ⟨s, List.mem_cons_of_mem _ hs, hr⟩

/-- A statement that takes its answer. -/
theorem Replays.answered {d d' : Dialogue α} {o : List Event × α} (h : Replays answer d o) (s : Sql.Statement)
    (hd : ∀ replies, d'.replay ⟨answer s :: replies, []⟩ = (d.replay ⟨replies, []⟩).cons (.sent s)) :
    Replays answer d' (Dialogue.preceded (.sent s) o) := by
  obtain ⟨replies, hreplies, hreplay⟩ := h
  refine ⟨answer s :: replies, List.forall_mem_cons.mpr ⟨⟨s, List.mem_cons_self, rfl⟩, fun r hr => ?_⟩, fun rest => ?_⟩
  · obtain ⟨t, ht, hr⟩ := hreplies r hr
    exact ⟨t, List.mem_cons_of_mem _ ht, hr⟩
  · rw [List.cons_append, hd, hreplay]
    rfl

/-- What is consulted is what is replayed with the answers to the statements that were sent. -/
theorem replays_of_consult {d : Dialogue α} {o : List Event × α} (h : d.consult answer = some o) :
    Replays answer d o := by
  induction d generalizing o with
  | done a =>
    obtain rfl := Option.some.inj h
    exact ⟨[], by simp, fun rest => rfl⟩
  | connect database next ih =>
    obtain ⟨o', ho, rfl⟩ := Option.map_eq_some_iff.mp h
    exact (ih none ho).preceded _ fun _ => rfl
  | send s next ih =>
    obtain ⟨o', ho, rfl⟩ := Option.map_eq_some_iff.mp h
    exact (ih (answer s) ho).answered s fun _ => rfl
  | post s next ih =>
    obtain ⟨o', ho, rfl⟩ := Option.map_eq_some_iff.mp h
    exact (ih ho).preceded _ fun _ => rfl
  | note n next ih =>
    obtain ⟨o', ho, rfl⟩ := Option.map_eq_some_iff.mp h
    exact (ih ho).preceded _ fun _ => rfl
  | pause millis next ih => exact ih h
  | drain s notice next ih =>
    rw [consult] at h
    split at h
    -- One answer ends the loop: a failure, or no row that was changed.
    · next e he =>
      obtain ⟨o', ho, rfl⟩ := Option.map_eq_some_iff.mp h
      exact (ih _ ho).answered s fun replies => by simp only [replay, drainReplies, he]; rfl
    · next n he =>
      obtain ⟨hn, hnext⟩ := Option.ite_none_right_eq_some.mp h
      obtain ⟨o', ho, rfl⟩ := Option.map_eq_some_iff.mp hnext
      exact (ih _ ho).answered s fun replies => by simp only [replay, drainReplies, he, hn]; rfl

end Lookout.Dialogue

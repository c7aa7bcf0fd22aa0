import Lookout.Proofs.Dialogue.Steps
import Lookout.Proofs.Sql.Upkeep
import Lookout.TestDatabase
import Mathlib.Data.Nat.Find

/-! The life of a database that belongs to a test. If it is not made, nothing else happens. If it is made, the test runs
    once, and then the database is dropped from where it was made; one further attempt follows if that fails. The error
    of the test is preferred to that of the first attempt, and the second attempt changes no result. -/

namespace Lookout.TestDatabase

open Dialogue (Event Fallible Outcome Script)
open Sql (Upkeep)

variable {ε α : Type}

/-! ### What the statements say -/

section
variable {name : String}

theorem append_quoted {words opened : String} (h : words ++ "\"" = opened) (name : String) :
    words ++ quoted name = opened ++ name ++ "\"" := by
  simp only [quoted, ← h, String.append_assoc]

theorem createStatement_eq (name : String) : createStatement name = ⟨"CREATE DATABASE \"" ++ name ++ "\"", []⟩ :=
  congrArg (Sql.Statement.mk · []) (append_quoted rfl name)

theorem dropStatement_eq (name : String) : dropStatement name = ⟨"DROP DATABASE IF EXISTS \"" ++ name ++ "\"", []⟩ :=
  congrArg (Sql.Statement.mk · []) (append_quoted rfl name)

theorem disconnectStatement_eq (name : String) :
    disconnectStatement name =
      ⟨"SELECT pg_terminate_backend(pid)\nFROM pg_stat_activity\nWHERE datname = $1 AND pid <> pg_backend_pid()",
        [.text name]⟩ := by
  have hlines : "SELECT pg_terminate_backend(pid)\n" ++ "FROM pg_stat_activity\n" ++
      "WHERE datname = $1 AND pid <> pg_backend_pid()" =
      "SELECT pg_terminate_backend(pid)\nFROM pg_stat_activity\nWHERE datname = $1 AND pid <> pg_backend_pid()" := by
    decide +kernel
  exact congrArg (Sql.Statement.mk · [.text name]) hlines

theorem upkeep?_createStatement (hquote : '"' ∉ name.toList) (hne : name ≠ "") :
    (createStatement name).upkeep? = some (.create name) := by
  have hplain : '"' ∉ "CREATE DATABASE ".toList := by simp
  have hwords : Sql.tokens "CREATE DATABASE ".toList = ["CREATE", "DATABASE"] := by decide +kernel
  refine (Sql.Statement.upkeep?_quoted hplain).trans ?_
  rw [hwords, Upkeep.read?_create, Sql.identifier?_quoted hquote hne, Option.map_some]

theorem upkeep?_dropStatement (hquote : '"' ∉ name.toList) (hne : name ≠ "") :
    (dropStatement name).upkeep? = some (.drop name) := by
  have hplain : '"' ∉ "DROP DATABASE IF EXISTS ".toList := by simp
  have hwords : Sql.tokens "DROP DATABASE IF EXISTS ".toList = ["DROP", "DATABASE", "IF", "EXISTS"] := by decide +kernel
  refine (Sql.Statement.upkeep?_quoted hplain).trans ?_
  rw [hwords, Upkeep.read?_drop, Sql.identifier?_quoted hquote hne, Option.map_some]

/-- The name is bound, so any name is read. -/
theorem upkeep?_disconnectStatement (name : String) :
    (disconnectStatement name).upkeep? = some (.disconnect name) := by
  have hwords : Sql.tokens ((disconnectStatement "").sql.toList.takeWhile (· != '"')) =
      ["SELECT", "pg_terminate_backend", "(", "pid", ")", "FROM", "pg_stat_activity", "WHERE", "datname", "=", "$1",
        "AND", "pid", "<>", "pg_backend_pid", "(", ")"] := by decide +kernel
  have hunquoted : (disconnectStatement "").sql.toList.dropWhile (· != '"') = [] := by decide +kernel
  have hvalue : Sql.placeholder? "$1".toList = some 1 := by decide +kernel
  change Upkeep.read? [.text name] (Sql.tokens ((disconnectStatement "").sql.toList.takeWhile (· != '"')))
    ((disconnectStatement "").sql.toList.dropWhile (· != '"')) = _
  rw [hwords, hunquoted, Upkeep.read?, hvalue]
  rfl

end

/-! ### One attempt to drop a database -/

theorem run_cleanUp (db : TestDatabase) : db.cleanUp.run = .connect db.admin fun
    | some e => .done (.error (.unreachable e))
    | none => .send (disconnectStatement db.name) fun _ => .send (dropStatement db.name) fun r =>
      .done ((r.executed.map fun _ => ()).mapError .notDropped) := by
  refine congrArg (Dialogue.connect db.admin) (funext fun refusal => ?_)
  cases refusal with
  | some e => rfl
  | none =>
    refine congrArg (Dialogue.send _) (funext fun _ => congrArg (Dialogue.send _) (funext fun r => ?_))
    cases r <;> rfl

/-- What comes of one attempt. Only the connection and the last statement decide; the answer to the statement between
    them is passed over. -/
def attempt (db : TestDatabase) (script : Script) : Outcome (Except Error Unit) :=
  match script.refusals.headD none with
  | some e => ⟨[.connected db.admin], .error (.unreachable e), ⟨script.replies, script.refusals.tail⟩⟩
  | none =>
    ⟨[.connected db.admin, .sent (disconnectStatement db.name), .sent (dropStatement db.name)],
      ((script.replies.tail.headD Script.noReply).executed.map fun _ => ()).mapError .notDropped,
      ⟨script.replies.tail.tail, script.refusals.tail⟩⟩

theorem replay_cleanUp (db : TestDatabase) (script : Script) : db.cleanUp.run.replay script = db.attempt script := by
  rw [run_cleanUp, Dialogue.replay, attempt]
  cases h : script.refusals.headD none with
  | some e => simp only [Script.refusal, h]; rfl
  | none => simp only [Script.refusal, h]; rfl

/-! ### Making a database -/

/-- The outcome of the attempt to connect with this number, counted from zero. -/
def refusalAt (script : Script) (i : Nat) : Option Sql.Failure := script.refusals.getD i none

/-- The script behind so many attempts to connect. -/
def afterAttempts (script : Script) (n : Nat) : Script := ⟨script.replies, script.refusals.drop n⟩

theorem refusalAt_succ (script : Script) (i : Nat) :
    refusalAt script (i + 1) = refusalAt (afterAttempts script 1) i := by
  obtain ⟨replies, refusals⟩ := script
  cases refusals <;> rfl

theorem afterAttempts_succ (script : Script) (n : Nat) :
    afterAttempts script (n + 1) = afterAttempts (afterAttempts script 1) n := by
  rw [afterAttempts, afterAttempts, afterAttempts, List.drop_drop, Nat.add_comm]

theorem replay_connectFirst_cons (last : Option Sql.Failure) (d : String) (rest : List String) (script : Script) :
    (connectFirst last (d :: rest)).run.replay script =
      match refusalAt script 0 with
      | none => ⟨[.connected d], .ok d, afterAttempts script 1⟩
      | some e => ((connectFirst (some e) rest).run.replay (afterAttempts script 1)).cons (.connected d) := by
  obtain ⟨replies, refusals⟩ := script
  rcases refusals with - | ⟨- | e, refusals⟩ <;> rfl

/-- The first database that takes a connection is the one that is used. -/
theorem replay_connectFirst_ok {before after : List String} {d : String} {script : Script}
    (hrefused : ∀ i < before.length, refusalAt script i ≠ none) (htaken : refusalAt script before.length = none)
    (last : Option Sql.Failure) : (connectFirst last (before ++ d :: after)).run.replay script =
      ⟨(before ++ [d]).map .connected, .ok d, afterAttempts script (before.length + 1)⟩ := by
  induction before generalizing script last with
  | nil =>
    rw [List.nil_append, replay_connectFirst_cons, show refusalAt script 0 = none from htaken]
    rfl
  | cons b before ih =>
    obtain ⟨e, he⟩ := Option.ne_none_iff_exists'.mp (hrefused 0 (Nat.succ_pos _))
    rw [List.cons_append, replay_connectFirst_cons, he]
    simp only
    rw [ih (fun i hi => refusalAt_succ script i ▸ hrefused (i + 1) (Nat.succ_lt_succ hi)) (refusalAt_succ script _ ▸ htaken),
      List.length_cons, afterAttempts_succ script (before.length + 1)]
    rfl

theorem replay_connectFirst_error {databases : List String} {d : String} {script : Script}
    (hrefused : ∀ i < databases.length + 1, refusalAt script i ≠ none) (last : Option Sql.Failure) :
    (connectFirst last (d :: databases)).run.replay script =
      ⟨(d :: databases).map .connected, .error (.noAdmin (refusalAt script databases.length)),
        afterAttempts script (databases.length + 1)⟩ := by
  induction databases generalizing d script last with
  | nil =>
    obtain ⟨e, he⟩ := Option.ne_none_iff_exists'.mp (hrefused 0 (Nat.succ_pos _))
    rw [replay_connectFirst_cons, List.length_nil, he]
    rfl
  | cons d' databases ih =>
    obtain ⟨e, he⟩ := Option.ne_none_iff_exists'.mp (hrefused 0 (Nat.succ_pos _))
    rw [replay_connectFirst_cons, he]
    simp only
    rw [ih fun i hi => refusalAt_succ script i ▸ hrefused (i + 1) (Nat.succ_lt_succ hi), ← refusalAt_succ,
      List.length_cons, afterAttempts_succ script (databases.length + 1)]
    rfl

/-- The database that is chosen to make others from, and how many were tried before it. -/
structure Chosen (script : Script) (admin : String) (n : Nat) : Prop where
  admin : adminDatabases[n]? = some admin
  refused : ∀ i < n, refusalAt script i ≠ none
  taken : refusalAt script n = none

variable {dsn name admin : String} {script : Script} {n : Nat}

section
variable {events : List Event} {rest : Script}

theorem replay_create_unreached (hdsn : Sql.Address.isReadable dsn.toList = true) {e : Error}
    (h : (connectFirst none adminDatabases).run.replay script = ⟨events, .error e, rest⟩) (name : String) :
    (create dsn name).run.replay script = ⟨events, .error e, rest⟩ := by
  rw [create, hdsn]
  exact Dialogue.replay_bind_error h _

theorem replay_create_reached (hdsn : Sql.Address.isReadable dsn.toList = true)
    (h : (connectFirst none adminDatabases).run.replay script = ⟨events, .ok admin, rest⟩) (name : String) :
    (create dsn name).run.replay script = ⟨events ++ [.sent (createStatement name)],
      (rest.reply.1.executed.map fun _ => ⟨name, admin⟩).mapError .notCreated, rest.reply.2⟩ := by
  have hmade : (Dialogue.mapError Error.notCreated (Dialogue.execute (createStatement name))).run.replay rest =
      ⟨[.sent (createStatement name)], rest.reply.1.executed.mapError .notCreated, rest.reply.2⟩ := by
    rw [Dialogue.replay_mapError, Dialogue.execute, Dialogue.replay_ask]
  rw [create, hdsn]
  refine (Dialogue.replay_bind_ok h _).trans ?_
  cases hr : rest.reply.1.executed with
  | error e =>
    rw [hr] at hmade
    rw [Dialogue.replay_bind_error hmade]
    rfl
  | ok m =>
    rw [hr] at hmade
    rw [Dialogue.replay_bind_ok hmade]
    rfl

end

/-! ### Dropping it, and the test between -/

section
variable {db : TestDatabase}

theorem replay_abandon (db : TestDatabase) (script : Script) :
    db.abandon.replay script = ⟨(db.attempt script).events, (), (db.attempt script).rest⟩ := by
  change (db.cleanUp.run.bind fun _ => .done ()).replay script = _
  rw [Dialogue.replay_bind, replay_cleanUp]
  exact congrArg (Outcome.mk · _ _) (List.append_nil _)

theorem replay_dispose_ok (h : (db.attempt script).result = .ok ()) :
    db.dispose.run.replay script = ⟨(db.attempt script).events, .ok (), (db.attempt script).rest⟩ := by
  change (db.cleanUp.run.bind _).replay script = _
  rw [Dialogue.replay_bind, replay_cleanUp, h]
  exact congrArg (Outcome.mk · _ _) (List.append_nil _)

/-- The second attempt leaves the error as it is. -/
theorem replay_dispose_error {e : Error} (h : (db.attempt script).result = .error e) :
    db.dispose.run.replay script =
      ⟨(db.attempt script).events ++ (db.attempt (db.attempt script).rest).events, .error e,
        (db.attempt (db.attempt script).rest).rest⟩ := by
  change (db.cleanUp.run.bind _).replay script = _
  rw [Dialogue.replay_bind, replay_cleanUp, h]
  change ((db.abandon.bind fun _ => .done (Except.error e)).replay _).after _ = _
  rw [Dialogue.replay_bind, replay_abandon]
  exact congrArg (fun events => Outcome.mk (_ ++ events) _ _) (List.append_nil _)

end

/-- The test ran once between the making of its database and the attempts to drop it, of which the second stands for a
    first one that failed. -/
structure CleansUp (o : Outcome (Except (Failure ε) α)) (db : TestDatabase) (made : List Event)
    (ran : Outcome (Except ε α)) : Prop where
  once : (db.attempt ran.rest).result = .ok () →
    o.events = made ++ ran.events ++ (db.attempt ran.rest).events ∧ o.rest = (db.attempt ran.rest).rest
  twice : ∀ e, (db.attempt ran.rest).result = .error e →
    o.events = made ++ ran.events ++ (db.attempt ran.rest).events ++ (db.attempt (db.attempt ran.rest).rest).events ∧
      o.rest = (db.attempt (db.attempt ran.rest).rest).rest
  failed : ∀ e, ran.result = .error e → o.result = .error (.body e)
  leftOver : ∀ a e, ran.result = .ok a → (db.attempt ran.rest).result = .error e → o.result = .error (.database e)
  succeeded : ∀ a, ran.result = .ok a → (db.attempt ran.rest).result = .ok () → o.result = .ok a

section
variable {events : List Event} {rest : Script} {e : Error} {db : TestDatabase}

theorem replay_withDatabase_unmade (h : (create dsn name).run.replay script = ⟨events, .error e, rest⟩)
    (body : TestDatabase → Fallible ε α) :
    (withDatabase dsn name body).run.replay script = ⟨events, .error (.database e), rest⟩ := by
  have hmade : (Dialogue.mapError (Failure.database (ε := ε)) (create dsn name)).run.replay script =
      ⟨events, .error (.database e), rest⟩ := by
    rw [Dialogue.replay_mapError, h]
    rfl
  exact Dialogue.replay_bind_error hmade _

theorem replay_withDatabase_made (h : (create dsn name).run.replay script = ⟨events, .ok db, rest⟩)
    {body : TestDatabase → Fallible ε α} {ran : Outcome (Except ε α)} {disposed : Outcome (Except Error Unit)}
    (hran : (body db).run.replay rest = ran) (hdisposed : db.dispose.run.replay ran.rest = disposed) :
    (withDatabase dsn name body).run.replay script =
      ⟨events ++ ran.events ++ disposed.events, result ran.result disposed.result, disposed.rest⟩ := by
  have hmade : (Dialogue.mapError (Failure.database (ε := ε)) (create dsn name)).run.replay script =
      ⟨events, .ok db, rest⟩ := by
    rw [Dialogue.replay_mapError, h]
    rfl
  refine (Dialogue.replay_bind_ok hmade _).trans ?_
  change (((body db).run.bind fun r => db.dispose.run.bind fun disposed => .done (result r disposed)).replay rest).after
    events = _
  rw [Dialogue.replay_bind, Dialogue.replay_bind, hran, hdisposed]
  simp only [Outcome.after, Dialogue.replay, List.append_nil, List.append_assoc]

theorem cleansUp_withDatabase (h : (create dsn name).run.replay script = ⟨events, .ok db, rest⟩)
    (body : TestDatabase → Fallible ε α) :
    CleansUp ((withDatabase dsn name body).run.replay script) db events ((body db).run.replay rest) := by
  obtain ⟨ran, hran⟩ : ∃ ran, (body db).run.replay rest = ran := ⟨_, rfl⟩
  rw [hran]
  cases hfirst : (db.attempt ran.rest).result with
  | ok _ =>
    rw [replay_withDatabase_made h hran (replay_dispose_ok hfirst)]
    refine ⟨fun _ => ⟨rfl, rfl⟩, fun e he => ?_, fun e he => ?_, fun a e _ he => ?_, fun a ha _ => ?_⟩
    · cases hfirst.symm.trans he
    · rw [he]
      rfl
    · cases hfirst.symm.trans he
    · rw [ha]
      rfl
  | error e =>
    rw [replay_withDatabase_made h hran (replay_dispose_error hfirst)]
    refine ⟨fun hok => ?_, fun e' _ => ⟨(List.append_assoc ..).symm, rfl⟩, fun e' he => ?_, fun a e' ha he => ?_,
      fun a _ hok => ?_⟩
    · cases hfirst.symm.trans hok
    · rw [he]
      rfl
    · cases hfirst.symm.trans he
      rw [ha]
      rfl
    · cases hfirst.symm.trans hok

end

/-! ### Which database is chosen -/

theorem refused_or_chosen (script : Script) :
    (∀ i < adminDatabases.length, refusalAt script i ≠ none) ∨ ∃ admin n, Chosen script admin n := by
  by_cases h : ∃ i < adminDatabases.length, refusalAt script i = none
  · classical
    obtain ⟨hlt, htaken⟩ := Nat.find_spec h
    refine .inr ⟨adminDatabases[Nat.find h], Nat.find h, List.getElem?_eq_getElem hlt, fun i hi hnone => ?_, htaken⟩
    exact Nat.find_min h hi ⟨Nat.lt_trans hi hlt, hnone⟩
  · exact .inl fun i hi hnone => h ⟨i, hi, hnone⟩

theorem Chosen.replay_connectFirst (h : Chosen script admin n) :
    (connectFirst none adminDatabases).run.replay script =
      ⟨(adminDatabases.take (n + 1)).map .connected, .ok admin, afterAttempts script (n + 1)⟩ := by
  obtain ⟨hlt, hadmin⟩ := List.getElem?_eq_some_iff.mp h.admin
  have hlength : (adminDatabases.take n).length = n := List.length_take_of_le (Nat.le_of_lt hlt)
  have hsplit : adminDatabases = adminDatabases.take n ++ admin :: adminDatabases.drop (n + 1) := by
    rw [← hadmin, List.getElem_cons_drop hlt, List.take_append_drop]
  rw [hsplit, replay_connectFirst_ok (hlength.symm ▸ h.refused) (hlength.symm ▸ h.taken), ← hsplit, hlength,
    List.take_add_one, h.admin]
  rfl

theorem Chosen.replay_create (h : Chosen script admin n) (hdsn : Sql.Address.isReadable dsn.toList = true)
    (name : String) :
    (create dsn name).run.replay script =
      ⟨(adminDatabases.take (n + 1)).map Event.connected ++ [.sent (createStatement name)],
        (script.reply.1.executed.map fun _ => ⟨name, admin⟩).mapError .notCreated,
        ⟨script.replies.tail, script.refusals.drop (n + 1)⟩⟩ :=
  replay_create_reached hdsn h.replay_connectFirst name

/-- The outcome of a test with a database of its own, for all outcomes of the connections, all answers to the statements
    and all tests. A database that cannot be reached or made ends it, with no test and no attempt to drop anything. The
    statements are about the database of this name and no other. -/
theorem withDatabase_cleans_up (dsn name : String) (script : Script) (body : TestDatabase → Fallible ε α) :
    let o := (withDatabase dsn name body).run.replay script
    createStatement name = ⟨"CREATE DATABASE \"" ++ name ++ "\"", []⟩ ∧
    dropStatement name = ⟨"DROP DATABASE IF EXISTS \"" ++ name ++ "\"", []⟩ ∧
    disconnectStatement name =
      ⟨"SELECT pg_terminate_backend(pid)\nFROM pg_stat_activity\nWHERE datname = $1 AND pid <> pg_backend_pid()",
        [.text name]⟩ ∧
    ('"' ∉ name.toList → name ≠ "" →
      (createStatement name).upkeep? = some (.create name) ∧ (dropStatement name).upkeep? = some (.drop name)) ∧
    (disconnectStatement name).upkeep? = some (.disconnect name) ∧
    (Sql.Address.isReadable dsn.toList = false → o = ⟨[], .error (.database .badAddress), script⟩) ∧
    (Sql.Address.isReadable dsn.toList = true →
      ((∀ i < adminDatabases.length, refusalAt script i ≠ none) →
        o = ⟨adminDatabases.map .connected,
          .error (.database (.noAdmin (refusalAt script (adminDatabases.length - 1)))),
          afterAttempts script adminDatabases.length⟩) ∧
      ∀ admin n, Chosen script admin n →
        let made := (adminDatabases.take (n + 1)).map Event.connected ++ [.sent (createStatement name)]
        let answer := script.reply.1
        let left : Script := ⟨script.replies.tail, script.refusals.drop (n + 1)⟩
        (∀ e, answer.executed = .error e → o = ⟨made, .error (.database (.notCreated e)), left⟩) ∧
        ∀ m, answer.executed = .ok m → CleansUp o ⟨name, admin⟩ made ((body ⟨name, admin⟩).run.replay left)) ∧
    ((∀ i < adminDatabases.length, refusalAt script i ≠ none) ∨ ∃ admin n, Chosen script admin n) := by
  intro o
  refine ⟨createStatement_eq name, dropStatement_eq name, disconnectStatement_eq name,
    fun hquote hne => ⟨upkeep?_createStatement hquote hne, upkeep?_dropStatement hquote hne⟩,
    upkeep?_disconnectStatement name, fun hdsn => ?_, fun hdsn => ⟨fun hrefused => ?_, fun admin n hchosen => ?_⟩,
    refused_or_chosen script⟩
  · refine replay_withDatabase_unmade ?_ body
    rw [create, hdsn]
    rfl
  · exact replay_withDatabase_unmade (replay_create_unreached hdsn (replay_connectFirst_error hrefused none) name) body
  · intro made answer left
    refine ⟨fun e he => replay_withDatabase_unmade ?_ body, fun m hm => cleansUp_withDatabase ?_ body⟩
    · rw [hchosen.replay_create hdsn, he]
      rfl
    · rw [hchosen.replay_create hdsn, hm]
      rfl

/-- The first database takes no connection, the test fails, the first attempt to drop its database has none either, and
    in the second one other sessions stay. -/
theorem withDatabase_cleans_up_later :
    let script : Script := ⟨[.affected 0, .failed "busy", .rows []],
      [some (.refused "one"), none, some (.refused "two"), none]⟩
    let body : TestDatabase → Fallible String Nat := fun _ => throw "broken"
    let o := (withDatabase "postgres://localhost/events" "t" body).run.replay script
    let drop : Sql.Statement := ⟨"DROP DATABASE IF EXISTS \"t\"", []⟩
    Chosen script "template1" 1 ∧
      o.events = [.connected "postgres", .connected "template1", .sent ⟨"CREATE DATABASE \"t\"", []⟩,
        .connected "template1", .connected "template1", .sent (disconnectStatement "t"), .sent drop] ∧
      drop.upkeep? = some (.drop "t") ∧ (disconnectStatement "t").upkeep? = some (.disconnect "t") ∧
      o.result = .error (.body "broken") := by
  intro script body o drop
  have hchosen : Chosen script "template1" 1 := ⟨rfl, by decide, rfl⟩
  obtain ⟨-, hdrop, -, hreads, hdisconnects, -, hreadable, -⟩ :=
    withDatabase_cleans_up "postgres://localhost/events" "t" script body
  obtain ⟨-, hlife⟩ := (hreadable (by decide +kernel)).2 "template1" 1 hchosen
  have hcleans := hlife 0 rfl
  obtain ⟨-, hdrops⟩ := hreads (by decide +kernel) (by decide)
  rw [hdrop] at hdrops
  exact ⟨hchosen, (hcleans.twice (.unreachable (.refused "two")) rfl).1, hdrops, hdisconnects,
    hcleans.failed "broken" rfl⟩

end Lookout.TestDatabase

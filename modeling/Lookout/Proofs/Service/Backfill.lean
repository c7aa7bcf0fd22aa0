import Lookout.Proofs.Service.Interleaving
import Mathlib.Algebra.BigOperators.Group.Finset.Piecewise
import Mathlib.Algebra.Order.Floor.Div

/-! What runs that index all events report. A run ends with the first statement that turns nothing, so no event was
    without a vector then, and it reports what it turned. On its own it needs a statement for each batch and one more.
    Every event is turned once, and without other clients the reports of several runs add up to all events. -/

namespace Lookout.Service

open Sql (Indexer)
open Storage (StoredEvent Table)

variable {ι ν : Type}

section
variable [DecidableEq ι] {ix : Indexer ν} {jobs : ι → Job} {start : Table ν} {es : List (Entry ι ν)} {w w' : World ι ν}

/-! ### Runs that have ended -/

theorem Job.batch_pos (job : Job) : 0 < job.batch.toNat :=
  Nat.pos_of_ne_zero fun h => job.nonempty (UInt32.toNat_inj.mp h)

theorem eq_run_of_isOf {i : ι} {a : Act ι ν} (h : a.isOf i = true) : a = .run i := by
  cases a with
  | run j => rw [of_decide_eq_true h]
  | insert new => cases h
  | index eventId config => cases h

theorem Accounts.turned_of_mem (h : Accounts ix jobs start es w) {i : ι} {e : Entry ι ν}
    (he : e ∈ es.filter (·.act.isOf i)) : e.turned = e.before.unindexed.take (jobs i).batch.toNat := by
  obtain ⟨hmem, hact⟩ := List.mem_filter.mp he
  exact Entry.turned_of_next (h.next e hmem i (eq_run_of_isOf hact))

theorem Accounts.countOf_eq_zero (h : Accounts ix jobs start es w) {i : ι} {ids : List Int64}
    (hids : ids ∈ batches i es) : countOf ids = 0 ↔ ids = [] := by
  obtain ⟨e, he, rfl⟩ := List.mem_map.mp hids
  have hlength : e.turned.length < 2 ^ 64 := by
    have hbatch := (jobs i).batch.toNat_lt
    rw [h.turned_of_mem he, List.length_take]
    omega
  rw [countOf, ← UInt64.toNat_inj, UInt64.toNat_ofNat_of_lt' hlength, ← List.length_eq_zero_iff]
  rfl

theorem Accounts.live (h : Accounts ix jobs start es w) (i : ι) :
    (∃ result, (jobs i).dialogue.Ends (w.replies i) result) ∨ ∃ w', Step ix jobs w (.run i) w' := by
  rcases Dialogue.eq_zero_cases ((batches i es).map countOf) with hne | ⟨before, rest, heq, hbefore⟩
  · exact Or.inr ⟨_, (step_run_iff _ (h.replies i)).mpr ⟨hne, rfl⟩⟩
  · have hrest : rest = [] := by
      by_contra hrest
      have hgoing := h.going i 0
      rw [heq, List.dropLast_append_of_ne_nil (List.cons_ne_nil 0 rest), List.dropLast_cons_of_ne_nil hrest] at hgoing
      exact hgoing (by simp) rfl
    refine Or.inl ⟨.ok (before.foldl (· + ·) 0), ?_⟩
    rw [(jobs i).ends_iff _ (h.replies i)]
    exact ⟨before, by rw [heq, hrest], hbefore, rfl⟩

theorem foldl_countOf (bs : List (List Int64)) (total : UInt64) :
    (bs.map countOf).foldl (· + ·) total = total + countOf bs.flatten := by
  induction bs generalizing total with
  | nil => simp [countOf]
  | cons ids bs ih =>
    rw [List.map_cons, List.foldl_cons, ih, List.flatten_cons, countOf, countOf, countOf, List.length_append,
      UInt64.ofNat_add, UInt64.add_assoc]

/-- The last statement of a run that has ended turned nothing, all before it turned something, and the run reports
    how many events they turned. -/
theorem Accounts.ends_iff (h : Accounts ix jobs start es w) (i : ι) (result : Except Error UInt64) :
    (jobs i).dialogue.Ends (w.replies i) result ↔
      ∃ before, batches i es = before ++ [[]] ∧ (∀ ids ∈ before, ids ≠ []) ∧ result = .ok (countOf before.flatten) := by
  rw [(jobs i).ends_iff _ (h.replies i)]
  constructor
  · rintro ⟨counts, heq, hcounts, rfl⟩
    obtain ⟨before, final, hbatches, rfl, hfinal⟩ := List.map_eq_append_iff.mp heq
    obtain ⟨ids, rfl, hzero⟩ := List.map_eq_singleton_iff.mp hfinal
    obtain rfl : ids = [] := (h.countOf_eq_zero (i := i) (by simp [hbatches])).mp hzero
    refine ⟨before, hbatches, fun ids hids hnil => ?_, by rw [foldl_countOf, UInt64.zero_add]⟩
    exact hcounts (countOf ids) (List.mem_map_of_mem hids) (by rw [hnil]; rfl)
  · rintro ⟨before, heq, hbefore, rfl⟩
    refine ⟨before.map countOf, by rw [heq]; simp [countOf], fun n hn => ?_, by rw [foldl_countOf, UInt64.zero_add]⟩
    obtain ⟨ids, hids, rfl⟩ := List.mem_map.mp hn
    have hmem : ids ∈ batches i es := heq ▸ List.mem_append_left _ hids
    exact fun hzero => hbefore ids hids ((h.countOf_eq_zero hmem).mp hzero)

/-- The events that one run has given a vector, in the order in which it did. -/
def turnedBy (i : ι) (es : List (Entry ι ν)) : List Int64 := (es.filter (·.act.isOf i)).flatMap Entry.turned

theorem flatten_batches (i : ι) (es : List (Entry ι ν)) : (batches i es).flatten = turnedBy i es :=
  List.flatMap_def.symm

theorem Accounts.length_turned_lt (h : Accounts ix jobs start es w) :
    (es.flatMap Entry.turned).length < 18446744073709551616 := by
  have hturned := (List.subperm_of_subset h.nodup h.indexed).length_le
  have hindexed : w.table.indexed.length ≤ w.table.rows.length := by
    rw [Table.indexed, List.length_map]
    exact List.length_filter_le _ _
  exact Nat.lt_of_le_of_lt (Nat.le_trans hturned hindexed) w.table.countable

theorem Accounts.result_of_ends (h : Accounts ix jobs start es w) {i : ι} {result : Except Error UInt64}
    (hends : (jobs i).dialogue.Ends (w.replies i) result) :
    ∃ total, result = .ok total ∧ total.toNat = (turnedBy i es).length := by
  obtain ⟨before, heq, -, rfl⟩ := (h.ends_iff i result).mp hends
  have hturned : turnedBy i es = before.flatten := by
    rw [← flatten_batches, heq, List.flatten_append]
    simp
  have hlength : (turnedBy i es).length ≤ (es.flatMap Entry.turned).length :=
    (List.filter_sublist.flatMap Entry.turned).length_le
  refine ⟨_, rfl, ?_⟩
  rw [countOf, ← hturned, UInt64.toNat_ofNat_of_lt' (Nat.lt_of_le_of_lt hlength h.length_turned_lt)]

theorem Accounts.last_of_ends (h : Accounts ix jobs start es w) {i : ι} {result : Except Error UInt64}
    (hends : (jobs i).dialogue.Ends (w.replies i) result) :
    ∃ e ∈ es, (es.filter (·.act.isOf i)).getLast? = some e ∧ e.before.unindexed = [] := by
  obtain ⟨before, heq, -, rfl⟩ := (h.ends_iff i result).mp hends
  obtain ⟨es₁, es₂, hsplit, -, hlast⟩ := List.map_eq_append_iff.mp heq
  obtain ⟨e, rfl, hnil⟩ := List.map_eq_singleton_iff.mp hlast
  have hmem : e ∈ es.filter (·.act.isOf i) := by simp [hsplit]
  refine ⟨e, (List.mem_filter.mp hmem).1, by simp [hsplit], ?_⟩
  rw [h.turned_of_mem hmem, List.take_eq_nil_iff] at hnil
  exact hnil.resolve_left (jobs i).batch_pos.ne'

/-! ### Runs among themselves -/

theorem Accounts.unindexed_of_run (h : Accounts ix jobs start es w) {i : ι} (hstep : Step ix jobs w (.run i) w') :
    w'.table.unindexed = w.table.unindexed.drop (jobs i).batch.toNat := by
  obtain ⟨-, rfl⟩ := (step_run_iff _ (h.replies i)).mp hstep
  exact Table.unindexed_batch ..

theorem Execution.unindexed_sublist (h : Execution ix jobs start es w) (hruns : ∀ e ∈ es, ∃ i, e.act = .run i) :
    ∀ e ∈ es, w.table.unindexed.Sublist e.before.unindexed := by
  induction h with
  | start => intro e he; cases he
  | @step es w w' a h hstep ih =>
    obtain ⟨hbefore, hlast⟩ := List.forall_mem_append.mp hruns
    obtain ⟨i, rfl⟩ := hlast _ (List.mem_singleton_self _)
    have hfewer : w'.table.unindexed.Sublist w.table.unindexed := by
      rw [h.accounts.unindexed_of_run hstep]
      exact List.drop_sublist _ _
    intro e he
    rcases List.mem_append.mp he with he | he
    · exact hfewer.trans (ih hbefore e he)
    · obtain rfl := List.mem_singleton.mp he
      exact hfewer

theorem length_turned_of_team {team : Finset ι} (hruns : ∀ e ∈ es, ∃ i ∈ team, e.act = .run i) :
    (es.flatMap Entry.turned).length = ∑ i ∈ team, (turnedBy i es).length := by
  induction es with
  | nil => simp [turnedBy]
  | cons e es ih =>
    obtain ⟨⟨j, hj, hact⟩, hruns⟩ := List.forall_mem_cons.mp hruns
    have hcons : ∀ i, (turnedBy i (e :: es)).length
        = (if j = i then e.turned.length else 0) + (turnedBy i es).length := by
      intro i
      by_cases hi : j = i <;> simp [turnedBy, hact, Act.isOf, hi]
    simp only [hcons, Finset.sum_add_distrib, ← ih hruns, Finset.sum_ite_eq, hj, if_true, List.flatMap_cons,
      List.length_append]

/-- Runs that have ended without other clients have turned all events between them, and report so. -/
theorem Execution.sum_totals (h : Execution ix jobs start es w) {team : Finset ι} (hne : team.Nonempty)
    (hruns : ∀ e ∈ es, ∃ i ∈ team, e.act = .run i) (total : ι → UInt64)
    (hends : ∀ i ∈ team, (jobs i).dialogue.Ends (w.replies i) (.ok (total i))) :
    ∑ i ∈ team, (total i).toNat = start.unindexed.length := by
  have hrun : ∀ e ∈ es, ∃ i, e.act = .run i := fun e he => (hruns e he).imp fun _ hi => hi.2
  obtain ⟨i, hi⟩ := hne
  obtain ⟨e, he, -, hnone⟩ := h.accounts.last_of_ends (hends i hi)
  have hend : w.table.unindexed = [] := List.sublist_nil.mp (hnone ▸ h.unindexed_sublist hrun e he)
  have hrecorded : es.flatMap (·.act.recorded) = [] := by
    refine List.flatMap_eq_nil_iff.mpr fun e he => ?_
    obtain ⟨i, hact⟩ := hrun e he
    rw [hact]
    rfl
  have hbalance := h.accounts.balance.length_eq
  rw [hend, hrecorded, List.append_nil, List.append_nil, length_turned_of_team hruns] at hbalance
  rw [hbalance]
  refine Finset.sum_congr rfl fun i hi => ?_
  obtain ⟨n, heq, hn⟩ := h.accounts.result_of_ends (hends i hi)
  rw [Except.ok.inj heq, hn]

/-- The ids that fall to one statement of a run, counted from zero, if the run is alone. -/
def Job.part (job : Job) (ids : List Int64) (k : Nat) : List Int64 :=
  (ids.drop (k * job.batch.toNat)).take job.batch.toNat

/-- The number of batches that are not empty. -/
def Job.parts (job : Job) (ids : List Int64) : Nat := ids.length ⌈/⌉ job.batch.toNat

theorem Job.part_eq_nil_iff (job : Job) {ids : List Int64} {k : Nat} : job.part ids k = [] ↔ job.parts ids ≤ k := by
  have hpos := job.batch_pos
  rw [Job.part, Job.parts, ceilDiv_le_iff_le_mul hpos, Nat.mul_comm, List.take_eq_nil_iff, List.drop_eq_nil_iff]
  omega

theorem Execution.batches_alone (h : Execution ix jobs start es w) {i : ι} (halone : ∀ e ∈ es, e.act = .run i) :
    batches i es = (List.range es.length).map ((jobs i).part start.unindexed) ∧
      w.table.unindexed = start.unindexed.drop (es.length * (jobs i).batch.toNat) := by
  induction h with
  | start => simp [batches]
  | @step es w w' a h hstep ih =>
    obtain ⟨hbefore, hlast⟩ := List.forall_mem_append.mp halone
    obtain rfl : a = .run i := hlast _ (List.mem_singleton_self _)
    obtain ⟨hbatches, hunindexed⟩ := ih hbefore
    rw [h.accounts.batches_run hstep, h.accounts.unindexed_of_run hstep, hbatches, hunindexed, List.length_append,
      List.length_singleton, List.range_succ, List.map_append, List.map_singleton, List.drop_drop, Nat.add_one_mul]
    exact ⟨rfl, rfl⟩

theorem Execution.length_alone_le (h : Execution ix jobs start es w) {i : ι} (halone : ∀ e ∈ es, e.act = .run i) :
    es.length ≤ (jobs i).parts start.unindexed + 1 := by
  by_contra hlong
  obtain ⟨m, hm⟩ : ∃ m, es.length = m + 1 := ⟨es.length - 1, by omega⟩
  have hgoing := h.accounts.going i
  rw [(h.batches_alone halone).1, hm, List.range_succ, List.map_append, List.map_append, List.map_singleton,
    List.map_singleton, List.dropLast_concat] at hgoing
  have hempty : (jobs i).part start.unindexed ((jobs i).parts start.unindexed) = [] :=
    (jobs i).part_eq_nil_iff.mpr (Nat.le_refl _)
  refine hgoing (countOf []) (List.mem_map.mpr ⟨[], List.mem_map.mpr ⟨_, ?_, hempty⟩, rfl⟩) rfl
  exact List.mem_range.mpr (by omega)

theorem Execution.total_alone (h : Execution ix jobs start es w) {i : ι} (halone : ∀ e ∈ es, e.act = .run i)
    {result : Except Error UInt64} (hends : (jobs i).dialogue.Ends (w.replies i) result) :
    ∃ total, result = .ok total ∧ total.toNat = start.unindexed.length := by
  obtain ⟨total, rfl, -⟩ := h.accounts.result_of_ends hends
  have hsum := h.sum_totals (Finset.singleton_nonempty i)
    (fun e he => ⟨i, Finset.mem_singleton_self i, halone e he⟩) (fun _ => total)
    (fun j hj => Finset.mem_singleton.mp hj ▸ hends)
  rw [Finset.sum_singleton] at hsum
  exact ⟨total, rfl, hsum⟩

/-- The last batch of a run on its own is the first empty one. -/
theorem Execution.length_of_ends_alone (h : Execution ix jobs start es w) {i : ι}
    (halone : ∀ e ∈ es, e.act = .run i) {result : Except Error UInt64}
    (hends : (jobs i).dialogue.Ends (w.replies i) result) : es.length = (jobs i).parts start.unindexed + 1 := by
  have hbatches := (h.batches_alone halone).1
  obtain ⟨before, heq, hbefore, -⟩ := (h.accounts.ends_iff i result).mp hends
  obtain ⟨m, hm⟩ : ∃ m, es.length = m + 1 := by
    refine Nat.exists_eq_add_one.mpr (Nat.pos_of_ne_zero fun hzero => ?_)
    rw [hbatches, hzero] at heq
    simp at heq
  rw [hbatches, hm, List.range_succ, List.map_append, List.map_singleton] at heq
  obtain ⟨rfl, hlast⟩ := List.append_inj' heq rfl
  have hle := (jobs i).part_eq_nil_iff.mp (List.singleton_inj.mp hlast)
  have hge : m ≤ (jobs i).parts start.unindexed := by
    by_contra hlt
    refine hbefore _ (List.mem_map.mpr ⟨(jobs i).parts start.unindexed, ?_, rfl⟩)
      ((jobs i).part_eq_nil_iff.mpr (Nat.le_refl _))
    exact List.mem_range.mpr (by omega)
  omega

/-- A run on its own ends with the first empty batch, and reports all events. -/
theorem Execution.ends_alone_iff (h : Execution ix jobs start es w) {i : ι} (halone : ∀ e ∈ es, e.act = .run i)
    (result : Except Error UInt64) :
    (jobs i).dialogue.Ends (w.replies i) result ↔
      es.length = (jobs i).parts start.unindexed + 1 ∧
        ∃ total, result = .ok total ∧ total.toNat = start.unindexed.length := by
  constructor
  · intro hends
    exact ⟨h.length_of_ends_alone halone hends, h.total_alone halone hends⟩
  · rintro ⟨hlength, total, rfl, htotal⟩
    have hbatches := (h.batches_alone halone).1
    rw [hlength, List.range_succ, List.map_append, List.map_singleton,
      (jobs i).part_eq_nil_iff.mpr (Nat.le_refl _)] at hbatches
    have hends := (h.accounts.ends_iff i _).mpr ⟨_, hbatches, fun ids hids hnil => ?_, rfl⟩
    · obtain ⟨reported, heq, hreported⟩ := h.total_alone halone hends
      obtain rfl : reported = total := UInt64.toNat_inj.mp (hreported.trans htotal.symm)
      rw [← heq]
      exact hends
    · obtain ⟨k, hk, rfl⟩ := List.mem_map.mp hids
      have hle := (jobs i).part_eq_nil_iff.mp hnil
      exact absurd (List.mem_range.mp hk) (by omega)

theorem Job.parts_drop (job : Job) {ids : List Int64} (h : ids ≠ []) :
    job.parts (ids.drop job.batch.toNat) + 1 ≤ job.parts ids := by
  have hpos := job.batch_pos
  have hlength := List.length_pos_iff.mpr h
  have hle : ids.length ≤ job.batch.toNat * job.parts ids := (ceilDiv_le_iff_le_mul hpos).mp (Nat.le_refl _)
  obtain ⟨q, hq⟩ : ∃ q, job.parts ids = q + 1 := Nat.exists_eq_add_one.mpr (Nat.pos_of_ne_zero fun hzero => by
    rw [hzero] at hle
    omega)
  rw [hq, Nat.mul_add_one] at hle
  have hdrop : job.parts (ids.drop job.batch.toNat) ≤ q := by
    rw [Job.parts, ceilDiv_le_iff_le_mul hpos, List.length_drop]
    omega
  omega

/-- Whatever came before, a run that goes on alone comes to its end. -/
theorem Execution.exists_ends (h : Execution ix jobs start es w) (i : ι) :
    ∃ es' w', Execution ix jobs start (es ++ es') w' ∧ (∀ e ∈ es', e.act = .run i) ∧
      es'.length ≤ (jobs i).parts w.table.unindexed + 1 ∧ ∃ result, (jobs i).dialogue.Ends (w'.replies i) result := by
  -- Each further statement takes one batch, so the batches that are left are fewer each time.
  induction hn : (jobs i).parts w.table.unindexed using Nat.strongRecOn generalizing es w with
  | ind n ih =>
    rcases h.accounts.live i with hends | ⟨w', hstep⟩
    · exact ⟨[], w, by rwa [List.append_nil], by simp, by simp, hends⟩
    · have hnext := h.step hstep
      have hunindexed := h.accounts.unindexed_of_run hstep
      by_cases hnone : w.table.unindexed = []
      · refine ⟨_, w', hnext, by simp, by simp, .ok (countOf (batches i es).flatten), ?_⟩
        obtain ⟨hne, -⟩ := (step_run_iff _ (h.accounts.replies i)).mp hstep
        refine (hnext.accounts.ends_iff i _).mpr ⟨batches i es, ?_, fun ids hids hnil => ?_, rfl⟩
        · rw [h.accounts.batches_run hstep, hnone, List.take_nil]
        · exact hne _ (List.mem_map_of_mem hids) ((h.accounts.countOf_eq_zero hids).mpr hnil)
      · have hfewer := (jobs i).parts_drop hnone
        rw [← hunindexed, hn] at hfewer
        obtain ⟨es', w'', hexec, hruns, hlength, hends⟩ := ih _ (by omega) hnext rfl
        rw [List.append_assoc] at hexec
        refine ⟨_, w'', hexec, ?_, ?_, hends⟩
        · exact List.forall_mem_append.mpr ⟨by simp, hruns⟩
        · rw [List.length_append, List.length_singleton]
          omega

/-! ### Every event once -/

/-- What holds after runs that take turns, and of each of their steps: every event is indexed once and by one run. -/
structure ExactlyOnce (ix : Indexer ν) (jobs : ι → Job) (start : Table ν) (es : List (Entry ι ν)) (w : World ι ν) :
    Prop where
  /-- A statement of a run turns the first events without a vector, up to its batch. -/
  batch : ∀ e ∈ es, ∀ i, e.act = .run i → e.turned = e.before.unindexed.take (jobs i).batch.toNat
  /-- A run leaves an event with a vector as it is. -/
  untouched : ∀ e ∈ es, ∀ i, e.act = .run i → ∀ row ∈ e.before.rows, row.vector.isSome = true → row ∈ e.after.rows
  /-- No event is turned twice. -/
  once : (es.flatMap Entry.turned).Nodup
  /-- The events without a vector, at the start or recorded since, are those that were turned and those that still
      have none. -/
  balance : (start.unindexed ++ es.flatMap (·.act.recorded)).Perm (es.flatMap Entry.turned ++ w.table.unindexed)
  /-- A run that goes on alone comes to its end, with a statement for each batch that is left and one more at most. -/
  ends : ∀ i, ∃ es' w', Execution ix jobs start (es ++ es') w' ∧ (∀ e ∈ es', e.act = .run i) ∧
    es'.length ≤ w.table.unindexed.length ⌈/⌉ (jobs i).batch.toNat + 1 ∧
      ∃ result, (jobs i).dialogue.Ends (w'.replies i) result
  /-- A run that has ended reports the number of events that it turned. -/
  total : ∀ i result, (jobs i).dialogue.Ends (w.replies i) result →
    ∃ total, result = .ok total ∧ total.toNat = (turnedBy i es).length
  /-- At the last statement of a run that has ended, no event was without a vector. -/
  last : ∀ i result, (jobs i).dialogue.Ends (w.replies i) result →
    ∃ e ∈ es, (es.filter (·.act.isOf i)).getLast? = some e ∧ e.before.unindexed = []
  /-- On its own a run takes a statement for each batch and one more, and it reports all events. -/
  alone : ∀ i, (∀ e ∈ es, e.act = .run i) →
    es.length ≤ start.unindexed.length ⌈/⌉ (jobs i).batch.toNat + 1 ∧
      ∀ result, (jobs i).dialogue.Ends (w.replies i) result ↔
        es.length = start.unindexed.length ⌈/⌉ (jobs i).batch.toNat + 1 ∧
          ∃ total, result = .ok total ∧ total.toNat = start.unindexed.length
  /-- Without other clients, what several runs report adds up to all events. -/
  sum : ∀ team : Finset ι, team.Nonempty → (∀ e ∈ es, ∃ i ∈ team, e.act = .run i) → ∀ total : ι → UInt64,
    (∀ i ∈ team, (jobs i).dialogue.Ends (w.replies i) (.ok (total i))) →
      ∑ i ∈ team, (total i).toNat = start.unindexed.length

/-- Every event gets its vector once, from one statement, however the statements of the runs and of other clients
    come behind one another. -/
theorem backfill_exactly_once (h : Execution ix jobs start es w) : ExactlyOnce ix jobs start es w where
  batch e he i hact := Entry.turned_of_next (h.accounts.next e he i hact)
  untouched e he i hact row hrow hsome := by
    rw [h.accounts.next e he i hact]
    refine Table.mem_rows_index _ _ _ hrow fun hid => ?_
    have hindexed : row.eventId ∈ e.before.indexed := List.mem_map_of_mem (List.mem_filter.mpr ⟨hrow, hsome⟩)
    exact (Table.mem_indexed.mp hindexed).2 (List.mem_of_mem_take hid)
  once := h.accounts.nodup
  balance := h.accounts.balance
  ends := h.exists_ends
  total _ _ hends := h.accounts.result_of_ends hends
  last _ _ hends := h.accounts.last_of_ends hends
  alone _ halone := ⟨h.length_alone_le halone, h.ends_alone_iff halone⟩
  sum _ hne hruns total hends := h.sum_totals hne hruns total hends

end

/-! ### Two runs and a client -/

/-- An event of which little is known and that has no vector. -/
def bareEvent (eventId : Int64) : StoredEvent Unit :=
  ⟨⟨"gate", ⟨0⟩, none, none, none, none, none, false, none, none⟩, eventId, none⟩

/-- One run takes two events at once, the other one. -/
def pairAndSingle (first : Bool) : Job := ⟨"english", if first then 2 else 1, by cases first <;> decide⟩

/-- An indexer for which all texts are alike. -/
def unitIndexer : Indexer Unit := ⟨fun _ _ => (), fun _ _ => (), fun _ _ => ()⟩

/-- A client records a fourth event and later indexes the third. The runs take turns, and between them they report the
    three others. -/
theorem backfill_side_by_side :
    ∃ (es : List (Entry Bool Unit)) (w : World Bool Unit),
      ExactlyOnce unitIndexer pairAndSingle ⟨[bareEvent 1, bareEvent 2, bareEvent 3], by decide, by decide⟩ es w ∧
        (pairAndSingle true).dialogue.Ends (w.replies true) (.ok 2) ∧
          (pairAndSingle false).dialogue.Ends (w.replies false) (.ok 1) := by
  let start : Table Unit := ⟨[bareEvent 1, bareEvent 2, bareEvent 3], by decide, by decide⟩
  let four : Table Unit := ⟨[bareEvent 1, bareEvent 2, bareEvent 3, bareEvent 4], by decide, by decide⟩
  have hinsert : start.Inserts [bareEvent 4] four :=
    ⟨@List.perm_append_comm _ start.rows _, fun row hrow => by rw [List.mem_singleton.mp hrow]; rfl⟩
  have h₀ : Execution unitIndexer pairAndSingle start [] ⟨start, fun _ => []⟩ := .start
  have h₁ := h₀.step (.insert hinsert)
  have h₂ := h₁.step ((step_run_iff (i := true) [] rfl).mpr ⟨by simp, rfl⟩)
  have h₃ := h₂.step (.index (Table.execute?_indexEventStatement _ _ 3 "english"))
  have h₄ := h₃.step ((step_run_iff (i := false) [] rfl).mpr ⟨by simp, rfl⟩)
  have h₅ := h₄.step ((step_run_iff (i := true) [2] rfl).mpr ⟨by simp, rfl⟩)
  have h₆ := h₅.step ((step_run_iff (i := false) [1] rfl).mpr ⟨by simp, rfl⟩)
  refine ⟨_, _, backfill_exactly_once h₆, ?_, ?_⟩
  · exact ((pairAndSingle true).ends_iff [2, 0] (by decide +kernel) _).mpr ⟨[2], rfl, by simp, rfl⟩
  · exact ((pairAndSingle false).ends_iff [1, 0] (by decide +kernel) _).mpr ⟨[1], rfl, by simp, rfl⟩

end Lookout.Service

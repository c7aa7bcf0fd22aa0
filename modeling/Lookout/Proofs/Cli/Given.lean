import Lookout.Cli.Invocation
import Lookout.Proofs.Checked
import Lookout.Proofs.Time.Ends

/-! What is given on a command line. A value is accepted only if its option reads it, and one that may not come twice
    only if it is the first. So every value of an invocation was read from a text; the dates of a search, as
    timestamps. -/

namespace Lookout.Cli

/-- The value was read from a text. -/
def Given.IsRead (g : Given) : Prop := ∃ (o : Opt) (v : List Char), o.read v = .ok g

theorem Opt.instant?_eq_some {v : List Char} {t : Time.Instant} (h : instant? v = some t) :
    ∃ ts : Time.Timestamp, ts.Accepted ∧ ts.instant = t := by
  obtain ⟨ts, hts, ht⟩ := Option.map_eq_some_iff.mp h
  exact ⟨ts, ⟨v, hts⟩, ht⟩

/-- A date that was read is that of a timestamp. -/
theorem Given.IsRead.instant {g : Given} (h : g.IsRead) {t : Time.Instant} (ht : g = .start t ∨ g = .finish t) :
    ∃ ts : Time.Timestamp, ts.Accepted ∧ ts.instant = t := by
  obtain ⟨o, v, h⟩ := h
  cases o with
  | start =>
    obtain ⟨t', hread, rfl⟩ := getD_error_eq_ok.mp h
    obtain he | he := ht <;> cases he
    exact Opt.instant?_eq_some hread
  | finish =>
    obtain ⟨t', hread, rfl⟩ := getD_error_eq_ok.mp h
    obtain he | he := ht <;> cases he
    exact Opt.instant?_eq_some hread
  | query | camera | severity | objectType =>
    obtain rfl := Except.ok.inj h
    obtain he | he := ht <;> cases he
  | config | reviewed | limit | offset | batch =>
    obtain ⟨_, -, rfl⟩ := getD_error_eq_ok.mp h
    obtain he | he := ht <;> cases he

theorem Opt.opt_of_read {o : Opt} {v : List Char} {g : Given} (h : o.read v = .ok g) : g.opt = o := by
  cases o with
  | query | camera | severity | objectType =>
    obtain rfl := Except.ok.inj h
    rfl
  | config | reviewed | start | finish | limit | offset | batch =>
    obtain ⟨_, -, rfl⟩ := getD_error_eq_ok.mp h
    rfl

/-- An option comes once at most, unless it is repeatable. -/
def Once (given : List Given) : Prop := ∀ o : Opt, o.isRepeatable = false → (given.filter (·.opt == o)).length ≤ 1

/-- The values were accepted, one after the other. -/
structure Accepted (given : List Given) : Prop where
  read : ∀ g ∈ given, g.IsRead
  once : Once given

theorem accepted_nil : Accepted [] := ⟨fun _ hg => absurd hg List.not_mem_nil, fun _ _ => Nat.zero_le 1⟩

namespace Progress

variable {given given' : List Given} {p p' : Progress} {level : Level} {switch : Switch} {o : Opt} {v : List Char}

theorem accept_eq_ok : accept given o v = .ok given' ↔
    (o.isRepeatable = false → given.filter (·.opt == o) = []) ∧ ∃ g, o.read v = .ok g ∧ given' = given ++ [g] := by
  have hfree : (!o.isRepeatable && given.any (·.opt == o)) = true ↔
      ¬ (o.isRepeatable = false → given.filter (·.opt == o) = []) := by
    simp [List.filter_eq_nil_iff]
  unfold accept
  split
  · next h => exact iff_of_false nofun fun hok => hfree.mp h hok.1
  · next h =>
    rw [map_eq_ok, and_iff_right (not_not.mp fun hnot => h (hfree.mpr hnot))]
    exact exists_congr fun g => and_congr_right fun _ => eq_comm

end Progress

open Progress

section
variable {given given' : List Given} {p p' : Progress} {level : Level} {switch : Switch}

theorem Accepted.accept {o : Opt} {v : List Char} (h : Accepted given) (hv : accept given o v = .ok given') :
    Accepted given' := by
  obtain ⟨hfree, g, hg, rfl⟩ := accept_eq_ok.mp hv
  refine ⟨List.forall_mem_append.mpr ⟨h.read, List.forall_mem_singleton.mpr ⟨o, v, hg⟩⟩, fun o' ho' => ?_⟩
  rw [List.filter_append]
  by_cases he : o = o'
  · subst he
    rw [hfree ho', List.nil_append]
    exact List.length_filter_le _ [g]
  · have hother : [g].filter (·.opt == o') = [] := by simp [Opt.opt_of_read hg, he]
    rw [hother, List.append_nil]
    exact h.once o' ho'

theorem Accepted.settle (h : Accepted p.given) (hp : p.settle = .ok given) : Accepted given := by
  unfold Progress.settle at hp
  split at hp
  · obtain rfl := Except.ok.inj hp
    exact h
  · cases hp
  · exact h.accept hp

theorem Accepted.turn {attached : Option (List Char)} (h : Accepted p.given) (hp : p.turn switch attached = .ok p') :
    Accepted p'.given := by
  obtain ⟨given, hgiven, hp⟩ := bind_eq_ok.mp hp
  have hsettled := h.settle hgiven
  split at hp
  · cases hp
  · cases hp
  · obtain ⟨given', hgiven', hp⟩ := bind_eq_ok.mp hp
    obtain rfl := Except.ok.inj hp
    exact hsettled.accept hgiven'
  · obtain rfl := Except.ok.inj hp
    exact hsettled

theorem Accepted.long {name : List Char} {value : Option (List Char)} (h : Accepted p.given)
    (hp : p.long level name value = .ok p') : Accepted p'.given := by
  unfold Progress.long at hp
  split at hp
  · cases hp
  · exact h.turn hp
  · cases hp
  · exact h.turn hp

theorem Accepted.short {c : Char} {rest : List Char} (h : Accepted p.given) (hp : p.short level c rest = .ok p') :
    Accepted p'.given := by
  unfold Progress.short at hp
  split at hp
  · cases hp
  · exact h.turn hp

/-- Reading the words of a level adds only values that are accepted. -/
theorem Accepted.readLevel {words : List (List Char)} {next : Option (Command × List (List Char))}
    (h : Accepted p.given) (hp : readLevel level p words = .ok (p', next)) : Accepted p'.given := by
  fun_induction Cli.readLevel level p words with
  | case1 | case2 | case9 =>
    cases hp
    exact h
  | case3 | case7 | case8 | case10 => cases hp
  | case4 p w rest name value hw ih =>
    obtain ⟨q, hq, hp⟩ := bind_eq_ok.mp hp
    exact ih q (h.long hq) hp
  | case5 p w rest c more hw ih =>
    obtain ⟨q, hq, hp⟩ := bind_eq_ok.mp hp
    exact ih q (h.short hq) hp
  | case6 p w rest s o hpending hw ih =>
    -- A plain word adds nothing yet: it waits as the value of the option before it.
    exact ih h hp

end

/-- The arguments name a command, with these options after it. -/
def Gives (args : List (List Char)) (c : Command) (given : List Given) : Prop :=
  ∃ p rest q next, readLevel none .start args = .ok (p, some (c, rest)) ∧
    readLevel (some c) .start rest = .ok (q, next) ∧ q.settle = .ok given

theorem Gives.accepted {args : List (List Char)} {c : Command} {given : List Given} (h : Gives args c given) :
    Accepted given := by
  obtain ⟨_, _, q, _, -, hq, hgiven⟩ := h
  exact (Accepted.readLevel accepted_nil hq).settle hgiven

/-- The request of an invocation is that of the options given for its command. -/
theorem Invocation.exists_given {args : List (List Char)} {inv : Invocation} (h : ofArgs args = .ok inv) :
    ∃ c given, Gives args c given ∧ inv.request = .ofGiven c given := by
  obtain ⟨⟨p, next⟩, hp, h⟩ := bind_eq_ok.mp h
  cases next with
  | none =>
    obtain ⟨given, -, h⟩ := bind_eq_ok.mp h
    cases h
  | some next =>
    obtain ⟨⟨q, rest⟩, hq, h⟩ := bind_eq_ok.mp h
    obtain ⟨own, hown, h⟩ := bind_eq_ok.mp h
    obtain ⟨outer, -, h⟩ := bind_eq_ok.mp h
    obtain rfl := Except.ok.inj h
    exact ⟨next.1, own, ⟨p, next.2, q, rest, hp, hq, hown⟩, rfl⟩

theorem SearchRequest.mem_of_date {given : List Given} {t : Time.Instant} :
    ((ofGiven given).startDate = some t → .start t ∈ given) ∧ ((ofGiven given).endDate = some t → .finish t ∈ given) := by
  constructor
  · intro h
    obtain ⟨g, hg, h⟩ := List.exists_of_findSome?_eq_some h
    split at h <;> cases h
    exact hg
  · intro h
    obtain ⟨g, hg, h⟩ := List.exists_of_findSome?_eq_some h
    split at h <;> cases h
    exact hg

end Lookout.Cli

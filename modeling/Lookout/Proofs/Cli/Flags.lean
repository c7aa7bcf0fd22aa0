import Lookout.Proofs.Cli.Given
import Lookout.Proofs.Filters.Choices

/-! The options of a search as choices about events. The values of a search come by their options, each option by
    itself; the choices come in the order of the command line. Both give the same filters, since an option that is not
    repeatable is accepted once at most. Options can be spelled in any order, each with its value attached or in a word
    of its own. -/

namespace Lookout.Cli

open Filters (Choice lastOf)

variable {given : List Given}

/-- The choice that an option makes about events. -/
def Given.choice? : Given → Option Choice
  | .camera id => some (.camera id)
  | .severity level => some (.severity level)
  | .objectType name => some (.objectType name)
  | .reviewed b => some (.reviewed b)
  | .start t => some (.startingAt t)
  | .finish t => some (.endingBefore t)
  | .config _ | .query _ | .limit _ | .offset _ | .batch _ => none

/-- Of an option that comes once at most, the first value is the last choice. -/
theorem Once.findSome?_eq {α : Type} {f : Given → Option α} {kind : Choice → Option α} {o : Opt} (h : Once given)
    (ho : o.isRepeatable = false) (hf : ∀ g, f g = g.choice?.bind kind) (hopt : ∀ g a, f g = some a → g.opt = o) :
    given.findSome? f = lastOf kind (given.filterMap Given.choice?) := by
  have hlist : (given.filterMap Given.choice?).filterMap kind = given.filterMap f := by
    rw [List.filterMap_filterMap]
    exact List.filterMap_congr fun g _ => (hf g).symm
  have hfilter : (given.filter (·.opt == o)).filterMap f = given.filterMap f := by
    rw [List.filterMap_filter]
    refine List.filterMap_congr fun g _ => ?_
    cases hg : f g with
    | none => exact ite_self none
    | some a => rw [if_pos (beq_iff_eq.mpr (hopt g a hg))]
  have hlength : (given.filterMap f).length ≤ 1 := by
    rw [← hfilter]
    exact (List.length_filterMap_le _ _).trans (h o ho)
  rw [lastOf, hlist, ← List.head?_filterMap]
  rcases hvalues : given.filterMap f with _ | ⟨a, _ | ⟨b, rest⟩⟩
  · rfl
  · rfl
  · rw [hvalues] at hlength
    exact absurd hlength (by simp)

namespace SearchRequest

/-- The values of a search, as they came. -/
def listing (r : SearchRequest) : Filters.Listing :=
  ⟨r.startDate, r.endDate, r.cameras, r.severities, r.objectTypes, r.reviewed⟩

theorem filters_eq_iff {r : SearchRequest} {cs : List Choice} :
    r.filters = .ofChoices cs ↔ Filters.Agree r.listing.choices cs :=
  Filters.Listing.filters_eq_iff (l := r.listing)

theorem gathers_ofGiven (h : Once given) : (ofGiven given).filters.Gathers (given.filterMap Given.choice?) := by
  have hset : ∀ {x : String} {f : Given → Option String} {make : String → Choice},
      (∀ g, f g = some x ↔ g.choice? = some (make x)) →
      (x ∈ TextSet.ofList (given.filterMap f) ↔ make x ∈ given.filterMap Given.choice?) := by
    intro x f make hf
    rw [TextSet.mem_ofList, List.mem_filterMap, List.mem_filterMap]
    exact exists_congr fun g => and_congr_right fun _ => hf g
  constructor
  -- An option that takes one value is given once, so the first one given is the last.
  · refine h.findSome?_eq (o := .start) rfl ?_ ?_
    · rintro (_ | _) <;> rfl
    · rintro (_ | _) _ ⟨⟩
      rfl
  · refine h.findSome?_eq (o := .finish) rfl ?_ ?_
    · rintro (_ | _) <;> rfl
    · rintro (_ | _) _ ⟨⟩
      rfl
  · intro id
    exact hset fun g => by cases g <;> simp [Given.choice?]
  · intro level
    exact hset fun g => by cases g <;> simp [Given.choice?]
  · intro name
    exact hset fun g => by cases g <;> simp [Given.choice?]
  · refine h.findSome?_eq (o := .reviewed) rfl ?_ ?_
    · rintro (_ | _) <;> rfl
    · rintro (_ | _) _ ⟨⟩
      rfl

/-- The filters of a search are those of its options as choices, in the order of the command line. -/
theorem filters_ofGiven (h : Once given) : (ofGiven given).filters = .ofChoices (given.filterMap Given.choice?) :=
  Filters.gathers_iff.mp (gathers_ofGiven h)

end SearchRequest

/-- The request of a search is that of the options given for it. -/
theorem Invocation.exists_given_search {args : List (List Char)} {config : String} {r : SearchRequest}
    (h : ofArgs args = .ok ⟨config, .search r⟩) :
    ∃ given, Gives args .search given ∧ r.filters = .ofChoices (given.filterMap Given.choice?) := by
  obtain ⟨c, given, hgiven, hrequest⟩ := exists_given h
  cases c with
  | search =>
    obtain rfl := Request.search.inj hrequest
    exact ⟨given, hgiven, SearchRequest.filters_ofGiven hgiven.accepted.once⟩
  | backfillIndex => cases hrequest
  | initSchema => cases hrequest

/-! ### Spelling -/

/-- The word of an option. -/
def Opt.flag (o : Opt) : List Char := '-' :: '-' :: o.name.toList

/-- The words spell these options, each with its value attached or in a word of its own. -/
inductive Spells : List (List Char) → List Given → Prop
  | nil : Spells [] []
  | attached {o : Opt} {v : List Char} {g : Given} {words : List (List Char)} {given : List Given}
      (hread : o.read v = .ok g) (hrest : Spells words given) : Spells ((o.flag ++ '=' :: v) :: words) (g :: given)
  | apart {o : Opt} {v : List Char} {g : Given} {words : List (List Char)} {given : List Given}
      (hread : o.read v = .ok g) (hplain : Word.ofText v = .plain v) (hrest : Spells words given) :
      Spells (o.flag :: v :: words) (g :: given)

theorem Opt.name_spelled (o : Opt) : o.name.toList ≠ [] ∧ ∀ c ∈ o.name.toList, (c != '=') = true := by
  rw [← List.all_eq_true]
  cases o <;> exact ⟨List.cons_ne_nil _ _, rfl⟩

theorem Word.ofText_long {s : List Char} (h : s ≠ []) :
    ofText ('-' :: '-' :: s) = .long (splitEquals s).1 (splitEquals s).2 := by
  obtain ⟨c, rest, rfl⟩ := List.exists_cons_of_ne_nil h
  rfl

theorem Opt.ofText_flag (o : Opt) : Word.ofText o.flag = .long o.name.toList none := by
  obtain ⟨hne, hname⟩ := o.name_spelled
  have htake : o.name.toList.takeWhile (· != '=') = o.name.toList := List.takeWhile_eq_self_iff.mpr hname
  have hdrop : o.name.toList.dropWhile (· != '=') = [] := List.dropWhile_eq_nil_iff.mpr hname
  rw [flag, Word.ofText_long hne, Word.splitEquals, htake, hdrop]
  rfl

theorem Opt.ofText_flag_attached (o : Opt) (v : List Char) :
    Word.ofText (o.flag ++ '=' :: v) = .long o.name.toList (some v) := by
  obtain ⟨hne, hname⟩ := o.name_spelled
  have htake : (o.name.toList ++ '=' :: v).takeWhile (· != '=') = o.name.toList := by
    rw [List.takeWhile_append_of_pos hname]
    exact List.append_nil _
  have hdrop : (o.name.toList ++ '=' :: v).dropWhile (· != '=') = '=' :: v := by
    rw [List.dropWhile_append_of_pos hname]
    rfl
  rw [flag, List.cons_append, List.cons_append, Word.ofText_long (List.append_ne_nil_of_left_ne_nil hne _),
    Word.splitEquals, htake, hdrop]
  rfl

theorem Level.switchOfName?_name {c : Command} {o : Opt} (h : o ∈ c.options) :
    switchOfName? (some c) o.name.toList = some (.option o) := by
  revert o
  cases c <;> decide +kernel

namespace Progress

variable {p : Progress} {done : List Given} {o : Opt} {v : List Char} {g : Given}

theorem accept_of_once (hread : o.read v = .ok g) (h : Once (done ++ g :: given)) :
    accept done o v = .ok (done ++ [g]) := by
  refine accept_eq_ok.mpr ⟨fun ho => ?_, g, hread, rfl⟩
  have hopt : (g.opt == o) = true := beq_iff_eq.mpr (Opt.opt_of_read hread)
  have hlength := h o ho
  rw [List.filter_append, List.filter_cons, if_pos hopt, List.length_append, List.length_cons] at hlength
  exact List.eq_nil_of_length_eq_zero (by omega)

theorem long_option {c : Command} (h : o ∈ c.options) (value : Option (List Char)) :
    p.long (some c) o.name.toList value = p.turn (.option o) value := by
  simp only [long, Level.switchOfName?_name h]

theorem turn_attached {done' : List Given} (hp : p.settle = .ok done) (hv : accept done o v = .ok done') :
    p.turn (.option o) (some v) = .ok ⟨done', none⟩ := by
  rw [turn, hp]
  change (accept done o v).bind _ = _
  rw [hv]
  rfl

theorem turn_apart (hp : p.settle = .ok done) : p.turn (.option o) none = .ok ⟨done, some (o, none)⟩ := by
  rw [turn, hp]
  rfl

end Progress

variable {words : List (List Char)} {p : Progress} {level : Level}

theorem readLevel_long {w name : List Char} {value : Option (List Char)} {p' : Progress}
    (hw : Word.ofText w = .long name value) (hp : p.long level name value = .ok p') :
    readLevel level p (w :: words) = readLevel level p' words := by
  rw [readLevel.eq_def]
  simp only [hw, hp]
  rfl

theorem readLevel_plain {v s : List Char} {done : List Given} {o : Opt} (hv : Word.ofText v = .plain s) :
    readLevel level ⟨done, some (o, none)⟩ (v :: words) = readLevel level ⟨done, some (o, some s)⟩ words := by
  rw [readLevel.eq_def]
  simp only [hv]

/-- Options that are spelled are given, if the command has them and none comes once too often. -/
theorem Spells.readLevel (hwords : Spells words given) {c : Command} {done : List Given} (hp : p.settle = .ok done)
    (honce : Once (done ++ given)) (hknown : ∀ g ∈ given, g.opt ∈ c.options) :
    ∃ q, readLevel (some c) p words = .ok (q, none) ∧ q.settle = .ok (done ++ given) := by
  induction hwords generalizing p done with
  | nil => exact ⟨p, rfl, by rw [List.append_nil, hp]⟩
  | @attached o v g words given hread _ ih =>
    obtain ⟨hopt, hknown⟩ := List.forall_mem_cons.mp hknown
    rw [Opt.opt_of_read hread] at hopt
    have hturn := Progress.turn_attached hp (Progress.accept_of_once hread honce)
    rw [← Progress.long_option hopt] at hturn
    rw [readLevel_long (Opt.ofText_flag_attached o v) hturn, List.append_cons done g given]
    exact ih (p := ⟨done ++ [g], none⟩) rfl (by rwa [← List.append_cons]) hknown
  | @apart o v g words given hread hplain _ ih =>
    obtain ⟨hopt, hknown⟩ := List.forall_mem_cons.mp hknown
    rw [Opt.opt_of_read hread] at hopt
    have hsettle := Progress.accept_of_once hread honce
    have hturn := Progress.turn_apart (o := o) hp
    rw [← Progress.long_option hopt] at hturn
    rw [readLevel_long (Opt.ofText_flag o) hturn, readLevel_plain hplain, List.append_cons done g given]
    exact ih hsettle (by rwa [← List.append_cons]) hknown

/-- A command with options that are spelled in any order is invoked with just these. -/
theorem Invocation.ofArgs_of_spells (hwords : Spells words given) (honce : Once given) {c : Command}
    (hknown : ∀ g ∈ given, g.opt ∈ c.options) :
    ∃ config, ofArgs (c.name.toList :: words) = .ok ⟨config, .ofGiven c given⟩ := by
  obtain ⟨q, hq, hgiven⟩ := hwords.readLevel (p := .start) rfl honce hknown
  have hcommand : Cli.readLevel none .start (c.name.toList :: words) = .ok (.start, some (c, words)) := by
    cases c <;> rfl
  refine ⟨((config? given).or none).getD defaultConfig, ?_⟩
  rw [ofArgs, hcommand]
  change (Cli.readLevel (some c) .start words).bind _ = _
  rw [hq]
  change q.settle.bind _ = _
  rw [hgiven]
  rfl

end Lookout.Cli

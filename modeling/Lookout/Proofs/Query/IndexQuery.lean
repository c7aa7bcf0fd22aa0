import Lookout.Proofs.Text.Lexemes
import Lookout.Proofs.Text.Operators
import Lookout.Proofs.Text.Words
import Lookout.Query.Predicate

/-! Queries of the text index: their grammar, what they ask for, and how predicates are written as such
    queries. An operand is a run of word characters; `!` binds tightest, then `<->`, `&` and `|`, and there
    are parentheses. Main statement: texts that are operands, joined as their OR marks say, are a sentence
    that asks for one of each run. -/

namespace Lookout

/-- A query of the text index, read. -/
inductive IndexQuery where
  | word (w : List Char)
  | absent (q : IndexQuery)
  | adjacent (q r : IndexQuery)
  | both (q r : IndexQuery)
  | either (q r : IndexQuery)
  deriving Repr, DecidableEq

namespace IndexQuery

/-- The words that a query asks for side by side, if it asks for nothing else. -/
def words? : IndexQuery → Option (List (List Char))
  | .word w => some [w]
  | .adjacent q r => q.words?.bind fun ws => r.words?.map (ws ++ ·)
  | _ => none

/-- The value of a query, when `σ` gives the values of words and of phrases of several words. What stands
    side by side has one only if it is words. -/
def holds? (σ : List (List Char) → Bool) : IndexQuery → Option Bool
  | .word w => some (σ [w])
  | .absent q => (q.holds? σ).map (!·)
  | .adjacent q r => (adjacent q r).words?.map σ
  | .both q r => (q.holds? σ).bind fun b => (r.holds? σ).map (b && ·)
  | .either q r => (q.holds? σ).bind fun b => (r.holds? σ).map (b || ·)

/-! ### Grammar -/

/-- The characters of the sign between words that stand side by side. -/
def isArrowChar (c : Char) : Bool := c == '<' || c == '-' || c == '>'

/-- Word characters glue to each other, and so do those of `<->`. -/
def glues (a b : Char) : Bool := (Text.isWordChar a && Text.isWordChar b) || (isArrowChar a && isArrowChar b)

/-- The operator between words that stand next to each other. -/
def arrow : List Char := ['<', '-', '>']

/-- The operators of index queries, from the loosest to the tightest: one side, both sides, one word behind another, and
    absence. -/
def operators : Text.Operators (List Char) IndexQuery where
  opening := ['(']
  closing := [')']
  binary := [(['|'], .either), (['&'], .both), (arrow, .adjacent)]
  unary? t := if t = ['!'] then some .absent else none
  atom?
    | [w] => if !w.isEmpty && w.all Text.isWordChar then some (.word w) else none
    | _ => none

/-- The text is a query in the notation of the text index, which reads as `q`. -/
def Sentence (s : List Char) (q : IndexQuery) : Prop := operators.Sentence (Text.lexemes glues s) q

theorem atom?_eq_some {ts : List (List Char)} {q : IndexQuery} (h : operators.atom? ts = some q) :
    ∃ w, ts = [w] ∧ w ≠ [] ∧ (∀ c ∈ w, Text.isWordChar c = true) ∧ q = .word w := by
  simp only [operators] at h
  split at h
  · next w =>
    split at h
    · next hw =>
      simp only [Bool.and_eq_true, Bool.not_eq_true', List.isEmpty_eq_false_iff, List.all_eq_true] at hw
      exact ⟨w, rfl, hw.1, hw.2, (Option.some.inj h).symm⟩
    · cases h
  · cases h

theorem operators_lawful : operators.Lawful := by
  -- A sign has a character that is no word character.
  have hsign : ∀ {w : List Char}, (∀ c ∈ w, Text.isWordChar c = true) →
      ∀ s ∈ [['('], [')'], ['!'], ['|'], ['&'], arrow], w ≠ s := by
    rintro w hw s hs rfl
    have htable : ∀ s ∈ [['('], [')'], ['!'], ['|'], ['&'], arrow], s.all Text.isWordChar = false := by decide
    have := htable w hs
    simp [List.all_eq_false] at this
    grind
  refine ⟨by decide, fun {t f} h => ?_, fun {ts q} h => ?_, fun {ts q} h d => ?_, fun {ts q} h op hop hmem => ?_⟩
  · simp only [operators] at h
    split at h
    · next heq =>
      rw [heq]
      decide
    · cases h
  · obtain ⟨w, rfl, -, hw, -⟩ := atom?_eq_some h
    have := hsign hw
    refine ⟨w, [], rfl, ?_, ?_⟩
    · exact hsign hw _ (by simp [operators])
    · simp [operators, hsign hw ['!'] (by simp)]
  · obtain ⟨w, rfl, -, hw, -⟩ := atom?_eq_some h
    exact Text.Operators.depth_of_ne (hsign hw _ (by simp [operators])) (hsign hw _ (by simp [operators]))
  · obtain ⟨w, rfl, -, hw, -⟩ := atom?_eq_some h
    obtain rfl := List.mem_singleton.mp hmem
    exact hsign hw op (by simp only [operators] at hop; simp at hop ⊢; grind) rfl

theorem Sentence.unique {s : List Char} {q r : IndexQuery} (hq : Sentence s q) (hr : Sentence s r) : q = r :=
  Option.some.inj (((Text.Operators.sentence_iff_read? operators_lawful).mp hq).symm.trans
    ((Text.Operators.sentence_iff_read? operators_lawful).mp hr))

theorem Sentence.ne_nil {s : List Char} {q : IndexQuery} (h : Sentence s q) : s ≠ [] := by
  rintro rfl
  exact Text.Operators.Derives.ne_nil operators_lawful h rfl

/-! ### Lexemes -/

theorem glues_of_sign {c : Char} (hc : (Text.isWordChar c || isArrowChar c) = false) (x : Char) :
    glues c x = false ∧ glues x c = false := by
  obtain ⟨hw, ha⟩ := Bool.or_eq_false_iff.mp hc
  simp [glues, hw, ha]

theorem startsLoose_cons {c : Char} (hc : (Text.isWordChar c || isArrowChar c) = false) (s : List Char) :
    Text.StartsLoose glues (c :: s) := by
  intro x y hy
  obtain rfl := Option.some.inj hy
  exact (glues_of_sign hc x).2

theorem endsLoose_concat {c : Char} (hc : (Text.isWordChar c || isArrowChar c) = false) (s : List Char) :
    Text.EndsLoose glues (s ++ [c]) := by
  intro x hx y
  rw [List.getLast?_concat] at hx
  obtain rfl := Option.some.inj hx
  exact (glues_of_sign hc y).1

theorem lexemes_word {w : List Char} (hne : w ≠ []) (hw : ∀ c ∈ w, Text.isWordChar c = true) :
    Text.lexemes glues w = [w] := by
  refine Text.lexemes_of_isChain hne (List.Pairwise.isChain (List.pairwise_of_forall_mem_list ?_)) ?_
  · intro a ha b hb
    simp [glues, hw a ha, hw b hb]
  · obtain ⟨c, cs, rfl⟩ := List.exists_cons_of_ne_nil hne
    have hc := hw c List.mem_cons_self
    have : Text.isBlank c = false := by
      cases hb : Text.isBlank c with
      | false => rfl
      | true => rw [Text.isWordChar_of_isBlank hb] at hc; cases hc
    simp [Text.isBlankText, this]

/-- A sign in front of a text is a lexeme of its own. -/
theorem lexemes_sign_cons {c : Char} (hc : (Text.isWordChar c || isArrowChar c) = false) (s : List Char) :
    Text.lexemes glues (c :: s) = Text.lexemes glues [c] ++ Text.lexemes glues s :=
  Text.lexemes_append (s := [c]) (endsLoose_concat hc []).apart

theorem lexemes_group (s : List Char) :
    Text.lexemes glues ('(' :: s ++ [')']) = ['('] :: Text.lexemes glues s ++ [[')']] := by
  have hopen : Text.lexemes glues ['('] = [['(']] := by decide
  have hclose : Text.lexemes glues [')'] = [[')']] := by decide
  rw [List.cons_append, lexemes_sign_cons (by decide), Text.lexemes_append (startsLoose_cons (by decide) []).apart,
    hopen, hclose]
  rfl

/-- Texts between the same sign, with a blank on either side of it. -/
theorem lexemes_between {sign : List Char} (hsign : Text.lexemes glues (' ' :: sign ++ [' ']) = [sign]) (x : List Char)
    (xs : List (List Char)) :
    Text.lexemes glues ((' ' :: sign ++ [' ']).intercalate (x :: xs)) =
      Text.lexemes glues x ++ xs.flatMap fun y => sign :: Text.lexemes glues y := by
  have hstart : Text.StartsLoose glues (' ' :: sign ++ [' ']) := startsLoose_cons (by decide) _
  have hend : Text.EndsLoose glues (' ' :: sign ++ [' ']) := endsLoose_concat (by decide) _
  rw [Text.lexemes_intercalate (by simp) hstart hend, hsign]
  rfl

/-! ### Operands -/

/-- The text is a query that may stand beside any operator, which reads as `q`. -/
def Operand (s : List Char) (q : IndexQuery) : Prop := operators.Derives [] (Text.lexemes glues s) q

theorem operand_word {w : List Char} (hne : w ≠ []) (hw : ∀ c ∈ w, Text.isWordChar c = true) :
    Operand w (.word w) := by
  rw [Operand, lexemes_word hne hw]
  exact .atom (by simpa [operators, hne] using hw)

theorem operand_absent {s : List Char} {q : IndexQuery} (h : Operand s q) : Operand ('!' :: s) (.absent q) := by
  have hsign : Text.lexemes glues ['!'] = [['!']] := by decide
  rw [Operand, lexemes_sign_cons (by decide), hsign]
  exact .unary (by simp [operators]) h

theorem operand_group {s : List Char} {q : IndexQuery} (h : Sentence s q) : Operand ('(' :: s ++ [')']) q := by
  rw [Operand, lexemes_group]
  exact .group h

/-! ### Joined operands -/

/-- The index query that one of these is found by at least. -/
def ofAny : List IndexQuery → IndexQuery
  | [] => .word []
  | q :: qs => qs.foldl .either q

/-- The index query that all of these are found by. -/
def ofAll : List IndexQuery → IndexQuery
  | [] => .word []
  | q :: qs => qs.foldl .both q

/-- The index query for words that stand next to each other in this order. -/
def ofPhrase : List (List Char) → IndexQuery
  | [] => .word []
  | w :: ws => (ws.map .word).foldl .adjacent (.word w)

variable {β : Type} {text : β → List Char} {query : β → IndexQuery}

theorem lexemes_arrow : Text.lexemes glues (' ' :: arrow ++ [' ']) = [arrow] := by decide

theorem lexemes_either : Text.lexemes glues (' ' :: ['|'] ++ [' ']) = [['|']] := by decide

theorem lexemes_both : Text.lexemes glues (' ' :: ['&'] ++ [' ']) = [['&']] := by decide

/-- Texts between the same sign are an expression if each of them is one that holds tighter signs only. -/
theorem derives_between (text : β → List Char) {sign : List Char} (hsign : Text.lexemes glues (' ' :: sign ++ [' ']) = [sign])
    (f : IndexQuery → IndexQuery → IndexQuery) {ops : List (Text.Infix (List Char) IndexQuery)} {m : β} {ms : List β}
    (hms : ∀ n ∈ m :: ms, operators.Derives ops (Text.lexemes glues (text n)) (query n)) :
    operators.Derives ((sign, f) :: ops) (Text.lexemes glues ((' ' :: sign ++ [' ']).intercalate ((m :: ms).map text)))
      ((ms.map query).foldl f (query m)) := by
  have hrest : ∀ y ∈ ms.map fun n => (Text.lexemes glues (text n), query n), operators.Derives ops y.1 y.2 := by
    intro y hy
    obtain ⟨n, hn, rfl⟩ := List.mem_map.mp hy
    exact hms n (List.mem_cons_of_mem _ hn)
  have hchain := Text.Operators.Derives.chain sign f (x := (Text.lexemes glues (text m), query m))
    (hms m List.mem_cons_self) hrest
  rw [List.foldl_map, List.flatMap_map] at hchain
  rw [List.map_cons, lexemes_between hsign, List.flatMap_map, List.foldl_map]
  exact hchain

theorem operand_phrase {ws : List (List Char)} (hne : ws ≠ [])
    (hws : ∀ w ∈ ws, w ≠ [] ∧ ∀ c ∈ w, Text.isWordChar c = true) :
    Operand ('(' :: " <-> ".toList.intercalate ws ++ [')']) (ofPhrase ws) := by
  obtain ⟨w, ws, rfl⟩ := List.exists_cons_of_ne_nil hne
  have hchain := derives_between id lexemes_arrow adjacent fun v hv =>
    operand_word (hws v hv).1 (hws v hv).2
  rw [List.map_id] at hchain
  exact operand_group (hchain.loosen [(['|'], either), (['&'], both)])

theorem sentence_any {ms : List β} (hne : ms ≠ []) (hms : ∀ m ∈ ms, Operand (text m) (query m)) :
    Sentence (" | ".toList.intercalate (ms.map text)) (ofAny (ms.map query)) := by
  obtain ⟨m, ms, rfl⟩ := List.exists_cons_of_ne_nil hne
  exact derives_between text lexemes_either either fun n hn =>
    (hms n hn).loosen [(['&'], both), (arrow, adjacent)]

theorem sentence_all {ms : List β} (hne : ms ≠ []) (hms : ∀ m ∈ ms, Operand (text m) (query m)) :
    Sentence (" & ".toList.intercalate (ms.map text)) (ofAll (ms.map query)) := by
  obtain ⟨m, ms, rfl⟩ := List.exists_cons_of_ne_nil hne
  have hchain := derives_between text lexemes_both both fun n hn => (hms n hn).loosen [(arrow, adjacent)]
  exact hchain.loosen [(['|'], either)]

/-- A run beside others is an operand that asks for one of its members. -/
theorem operand_runText {ms : List β} (hne : ms ≠ []) (hms : ∀ m ∈ ms, Operand (text m) (query m)) :
    Operand (Query.runText (ms.map text)) (ofAny (ms.map query)) := by
  match ms, hne with
  | [m], _ => exact hms m List.mem_cons_self
  | m :: n :: ms, _ => exact operand_group (sentence_any (by simp) hms)

/-- Joined operands ask for one of each run. -/
theorem sentence_join {clauses : List (Query.Linked (List Char))} {groups : List (List β)}
    (hruns : Query.runs clauses = groups.map (·.map text)) (hne : groups ≠ [])
    (hgroups : ∀ g ∈ groups, g ≠ [] ∧ ∀ m ∈ g, Operand (text m) (query m)) :
    Sentence (Query.join clauses) (ofAll (groups.map fun g => ofAny (g.map query))) := by
  unfold Query.join
  rw [hruns]
  match groups, hne with
  | [g], _ =>
    obtain ⟨hg, hms⟩ := hgroups g List.mem_cons_self
    exact sentence_any hg hms
  | g :: g' :: groups, _ =>
    have hruns : ∀ h ∈ g :: g' :: groups, Operand (Query.runText (h.map text)) (ofAny (h.map query)) :=
      fun h hh => operand_runText (hgroups h hh).1 (hgroups h hh).2
    simpa [Function.comp_def] using sentence_all (List.cons_ne_nil _ _) hruns

/-! ### Values -/

variable {σ : List (List Char) → Bool}

theorem holds?_of_words? {q : IndexQuery} {ws : List (List Char)} (h : q.words? = some ws) :
    q.holds? σ = some (σ ws) := by
  cases q with
  | word w => rw [← Option.some.inj h]; rfl
  | adjacent q r => rw [holds?, h]; rfl
  | _ => cases h

theorem words?_ofPhrase {ws : List (List Char)} (hne : ws ≠ []) : (ofPhrase ws).words? = some ws := by
  obtain ⟨w, ws, rfl⟩ := List.exists_cons_of_ne_nil hne
  induction ws using List.reverseRecOn with
  | nil => rfl
  | append_singleton ws v ih =>
    have hinit := ih (by simp)
    rw [ofPhrase] at hinit ⊢
    rw [List.map_append, List.foldl_append]
    simp [words?, hinit]

theorem holds?_ofAny {ms : List β} {b : β → Bool} (hne : ms ≠ []) (hms : ∀ m ∈ ms, (query m).holds? σ = some (b m)) :
    (ofAny (ms.map query)).holds? σ = some (ms.any b) := by
  obtain ⟨m, ms, rfl⟩ := List.exists_cons_of_ne_nil hne
  rw [List.map_cons, ofAny, List.foldl_map]
  induction ms using List.reverseRecOn with
  | nil => simpa using hms m List.mem_cons_self
  | append_singleton ms n ih =>
    have hinit := ih (by simp) fun k hk => hms k (by simp at hk ⊢; grind)
    rw [List.foldl_append]
    simp [holds?, hinit, hms n (by simp), Bool.or_assoc]

theorem holds?_ofAll {ms : List β} {b : β → Bool} (hne : ms ≠ []) (hms : ∀ m ∈ ms, (query m).holds? σ = some (b m)) :
    (ofAll (ms.map query)).holds? σ = some (ms.all b) := by
  obtain ⟨m, ms, rfl⟩ := List.exists_cons_of_ne_nil hne
  rw [List.map_cons, ofAll, List.foldl_map]
  induction ms using List.reverseRecOn with
  | nil => simpa using hms m List.mem_cons_self
  | append_singleton ms n ih =>
    have hinit := ih (by simp) fun k hk => hms k (by simp at hk ⊢; grind)
    rw [List.foldl_append]
    simp [holds?, hinit, hms n (by simp), Bool.and_assoc]

end IndexQuery
end Lookout

import Lookout.Proofs.Binary64.Order
import Lookout.Proofs.Checked
import Lookout.Proofs.Text.Trim
import Lookout.Settings.File

/-! Which settings are accepted. A rule for each fault speaks of the settings as they are written, and the faults come
    in a fixed order, so the fault that is reported is the first whose rule is broken. Normalized settings stay as they
    are, since a trimmed text is trimmed and no character of a configuration name is blank. -/

namespace Lookout

namespace Text

variable {s : List Char}

theorem trim_trim (s : List Char) : trim (trim s) = trim s := trim_of_ends (head_trim s) (getLast_trim s)

theorem isBlankText_eq_false_iff : isBlankText s = false ↔ ∃ c ∈ s, isBlank c = false := by
  simp [isBlankText, List.all_eq_false]

theorem isBlankText_trim : isBlankText (trim s) = isBlankText s := by
  obtain ⟨b, b', hb, hb', hs⟩ := exists_trim s
  conv_rhs => rw [hs, isBlankText_append, isBlankText_append, hb, hb', Bool.true_and, Bool.and_true]

end Text

namespace Settings

open Text (isBlank trim)

/-! ### Rules -/

/-- An ASCII letter or digit, an underscore or a point. -/
def IsNameChar (c : Char) : Prop :=
  ('A' ≤ c ∧ c ≤ 'Z') ∨ ('a' ≤ c ∧ c ≤ 'z') ∨ ('0' ≤ c ∧ c ≤ '9') ∨ c = '_' ∨ c = '.'

/-- The faults in the order in which they are looked for. -/
def Fault.all : List Fault :=
  [.emptyLogLevel, .emptyDsn, .noConnections, .emptyTextSearchConfig, .badTextSearchConfig, .rankScaleNotFinite,
    .rankScaleNotPositive]

/-- Settings as they are written keep the rule that a fault is about. -/
def Keeps (s : Settings) : Fault → Prop
  | .emptyLogLevel => ∃ c ∈ s.logLevel.toList, isBlank c = false
  | .emptyDsn => ∃ c ∈ s.dsn.toList, isBlank c = false
  | .noConnections => 1 ≤ s.poolMaxConns.toNat
  | .emptyTextSearchConfig => trim s.search.textSearchConfig.toList ≠ []
  | .badTextSearchConfig => ∀ c ∈ trim s.search.textSearchConfig.toList, IsNameChar c
  | .rankScaleNotFinite => s.search.rankScale.isFinite = true
  | .rankScaleNotPositive => 0 < s.search.rankScale.toRat

/-- The rule of a fault is broken, and all rules before it are kept. -/
def FirstBreaks (s : Settings) (f : Fault) : Prop :=
  ∃ before after, Fault.all = before ++ f :: after ∧ (∀ g ∈ before, s.Keeps g) ∧ ¬ s.Keeps f

theorem isConfigChar_iff {c : Char} : isConfigChar c = true ↔ IsNameChar c := by
  have hbetween : ∀ {a b : Char}, (decide (a ≤ c) && decide (c ≤ b)) = true ↔ a ≤ c ∧ c ≤ b := by
    simp only [Bool.and_eq_true, decide_eq_true_eq, implies_true]
  have hupper : c.isUpper = true ↔ 'A' ≤ c ∧ c ≤ 'Z' := decide_eq_true_iff
  have hlower : c.isLower = true ↔ 'a' ≤ c ∧ c ≤ 'z' := hbetween
  have hdigit : c.isDigit = true ↔ '0' ≤ c ∧ c ≤ '9' := hbetween
  have halphanum : c.isAlphanum = (c.isUpper || c.isLower || c.isDigit) := rfl
  rw [isConfigChar, IsNameChar, halphanum]
  simp only [Bool.or_eq_true, beq_iff_eq, hupper, hlower, hdigit, or_assoc]

instance (c : Char) : Decidable (IsNameChar c) := inferInstanceAs (Decidable (_ ∨ _))

instance (s : Settings) : DecidablePred s.Keeps
  | .emptyLogLevel => List.decidableBEx (fun c => isBlank c = false) s.logLevel.toList
  | .emptyDsn => List.decidableBEx (fun c => isBlank c = false) s.dsn.toList
  | .noConnections => inferInstanceAs (Decidable (1 ≤ s.poolMaxConns.toNat))
  | .emptyTextSearchConfig => inferInstanceAs (Decidable (trim s.search.textSearchConfig.toList ≠ []))
  | .badTextSearchConfig => List.decidableBAll IsNameChar (trim s.search.textSearchConfig.toList)
  | .rankScaleNotFinite => inferInstanceAs (Decidable (s.search.rankScale.isFinite = true))
  | .rankScaleNotPositive => inferInstanceAs (Decidable (0 < s.search.rankScale.toRat))

theorem toList_trimmed (s : String) : (trimmed s).toList = trim s.toList := String.toList_ofList

theorem not_isBlankText_iff {s : List Char} : Text.isBlankText s = true ↔ ¬ ∃ c ∈ s, isBlank c = false := by
  rw [← Text.isBlankText_eq_false_iff, Bool.not_eq_false]

/-- The fault of normalized settings is the first one whose rule is broken. -/
theorem fault?_normalize (s : Settings) : s.normalize.fault? = Fault.all.find? fun f => !decide (s.Keeps f) := by
  have hstep : ∀ {c : Prop} [Decidable c] {f : Fault} {fs : List Fault} {rest : Option Fault}, (c ↔ ¬ s.Keeps f) →
      rest = fs.find? (fun f => !decide (s.Keeps f)) →
      (if c then some f else rest) = (f :: fs).find? fun f => !decide (s.Keeps f) := by
    intro c _ f fs rest hc hrest
    rw [List.find?_cons, hrest]
    by_cases h : s.Keeps f
    · simp [h, hc]
    · simp [h, hc]
  unfold fault?
  refine hstep ?_ (hstep ?_ (hstep ?_ (hstep ?_ (hstep ?_ (hstep ?_ (hstep ?_ rfl))))))
  · simp only [normalize, toList_trimmed, Text.isBlankText_trim]
    exact not_isBlankText_iff
  · exact not_isBlankText_iff
  · simp only [normalize, Keeps, ← UInt32.toNat_inj, UInt32.toNat_zero]
    omega
  · simp only [normalize, toList_trimmed, Keeps, List.isEmpty_iff, not_not]
  · simp only [normalize, toList_trimmed, Keeps, Bool.not_eq_true', ← Bool.not_eq_true, List.all_eq_true,
      isConfigChar_iff]
  · simp only [normalize, Keeps, Bool.not_eq_true', Bool.not_eq_true]
  · simp only [normalize, Keeps, ← Binary64.rank_pos_iff, Int.not_lt]

variable {s c : Settings} {f : Fault}

theorem fault?_normalize_eq_none : s.normalize.fault? = none ↔ ∀ f ∈ Fault.all, s.Keeps f := by
  rw [fault?_normalize, List.find?_eq_none]
  simp

theorem fault?_normalize_eq_some : s.normalize.fault? = some f ↔ s.FirstBreaks f := by
  rw [fault?_normalize, List.find?_eq_some_iff_append]
  simp only [Bool.not_eq_true', decide_eq_false_iff_not, Bool.not_not, decide_eq_true_eq]
  constructor
  · rintro ⟨hbroken, before, after, hall, hbefore⟩
    exact ⟨before, after, hall, hbefore, hbroken⟩
  · rintro ⟨before, after, hall, hbefore, hbroken⟩
    exact ⟨hbroken, before, after, hall, hbefore⟩

/-! ### Checking -/

theorem validate_eq_ok : s.validate = .ok c ↔ s.fault? = none ∧ c = s := by
  rw [validate]
  cases s.fault? <;> simp [eq_comm]

theorem validate_eq_error : s.validate = .error f ↔ s.fault? = some f := by
  rw [validate]
  cases s.fault? <;> simp

theorem validate_normalize_eq_ok : s.normalize.validate = .ok c ↔ (∀ f ∈ Fault.all, s.Keeps f) ∧ c = s.normalize := by
  rw [validate_eq_ok, fault?_normalize_eq_none]

theorem validate_normalize_eq_error : s.normalize.validate = .error f ↔ s.FirstBreaks f := by
  rw [validate_eq_error, fault?_normalize_eq_some]

/-! ### Normalized settings -/

theorem trimmed_trimmed (s : String) : trimmed (trimmed s) = trimmed s := by
  rw [trimmed, toList_trimmed, Text.trim_trim, trimmed]

theorem normalize_normalize (s : Settings) : s.normalize.normalize = s.normalize := by
  simp only [normalize, trimmed_trimmed]

theorem isBlank_of_isConfigChar {c : Char} (h : isConfigChar c = true) : isBlank c = false := by
  have htable : ∀ n ∈ Text.blankCodes, isConfigChar (Char.ofNat n) = false := by decide
  by_contra hblank
  have hc := htable _ (Text.isBlank_iff_mem.mp (Bool.not_eq_false _ ▸ hblank))
  rw [Char.ofNat_toNat, h] at hc
  cases hc

/-- A name that is accepted has no blanks that could be taken away. -/
theorem trimmed_of_isConfigChar {name : String} (h : ∀ c ∈ name.toList, isConfigChar c = true) :
    trimmed name = name := by
  rw [trimmed, Text.trim_of_ends, String.ofList_toList]
  · exact fun c hc => isBlank_of_isConfigChar (h c (List.mem_of_mem_head? hc))
  · exact fun c hc => isBlank_of_isConfigChar (h c (List.mem_of_mem_getLast? hc))

/-- Settings without a fault only lose the blanks around the log level, and still have none. -/
theorem normalize_of_fault? (h : s.fault? = none) :
    s.normalize = { s with logLevel := trimmed s.logLevel } ∧ s.normalize.fault? = none := by
  obtain ⟨hlevel, hdsn, hconns, hname, hchars, hscale⟩ := fault?_eq_none.mp h
  have heq : s.normalize = { s with logLevel := trimmed s.logLevel } := by
    rw [normalize, trimmed_of_isConfigChar hchars]
  refine ⟨heq, ?_⟩
  rw [heq, fault?_eq_none, toList_trimmed, Text.isBlankText_trim]
  exact ⟨hlevel, hdsn, hconns, hname, hchars, hscale⟩

/-- A text that has a character and no blank at either end. -/
structure Tidy (t : String) : Prop where
  nonempty : t.toList ≠ []
  head : ∀ c ∈ t.toList.head?, isBlank c = false
  last : ∀ c ∈ t.toList.getLast?, isBlank c = false

theorem tidy_trimmed {t : String} (h : trim t.toList ≠ []) : Tidy (trimmed t) := by
  refine ⟨?_, ?_, ?_⟩ <;> rw [toList_trimmed]
  · exact h
  · exact Text.head_trim _
  · exact Text.getLast_trim _

theorem Keeps.tidy_logLevel (h : s.Keeps .emptyLogLevel) : Tidy s.normalize.logLevel := by
  refine tidy_trimmed fun hnil => ?_
  exact not_isBlankText_iff.mp (Text.trim_eq_nil_iff.mp hnil) h

theorem Keeps.tidy_textSearchConfig (h : s.Keeps .emptyTextSearchConfig) :
    Tidy s.normalize.search.textSearchConfig := tidy_trimmed h

/-! ### Files -/

/-- A file with this content holds a document with these settings. -/
def Writes (content : Option ByteArray) (s : Settings) : Prop :=
  ∃ text, content.bind String.fromUTF8? = some text ∧ (Toml.document? text.toList).bind ofDocument? = some s

variable {content : Option ByteArray}

theorem ofContent_of_writes (h : Writes content s) : ofContent content = s.normalize.validate.mapError .invalid := by
  obtain ⟨text, htext, hs⟩ := h
  rw [ofContent, htext]
  simp only [ofText, hs]

/-- Without such a document a file is not even checked. -/
theorem ofContent_cases (content : Option ByteArray) :
    (∃ s, Writes content s) ∨ ofContent content = .error .unreadable ∨ ofContent content = .error .malformed := by
  cases htext : content.bind String.fromUTF8? with
  | none =>
    refine .inr (.inl ?_)
    rw [ofContent, htext]
  | some text =>
    cases hs : (Toml.document? text.toList).bind ofDocument? with
    | none =>
      refine .inr (.inr ?_)
      rw [ofContent, htext]
      simp only [ofText, hs]
    | some s => exact .inl ⟨s, text, htext, hs⟩

theorem ofContent_eq_ok : ofContent content = .ok c ↔ ∃ s, Writes content s ∧ s.normalize.validate = .ok c := by
  constructor
  · intro h
    rcases ofContent_cases content with ⟨s, hs⟩ | he | he
    · exact ⟨s, hs, mapError_eq_ok.mp ((ofContent_of_writes hs).symm.trans h)⟩
    · cases he.symm.trans h
    · cases he.symm.trans h
  · rintro ⟨s, hs, hv⟩
    rw [ofContent_of_writes hs, hv]
    rfl

theorem ofContent_eq_invalid :
    ofContent content = .error (.invalid f) ↔ ∃ s, Writes content s ∧ s.normalize.validate = .error f := by
  constructor
  · intro h
    rcases ofContent_cases content with ⟨s, hs⟩ | he | he
    · obtain ⟨g, hg, hgf⟩ := mapError_eq_error.mp ((ofContent_of_writes hs).symm.trans h)
      obtain rfl := LoadError.invalid.inj hgf
      exact ⟨s, hs, hg⟩
    · cases he.symm.trans h
    · cases he.symm.trans h
  · rintro ⟨s, hs, hv⟩
    rw [ofContent_of_writes hs, hv]
    rfl

/-- Settings that were loaded are normalized and have no fault, and what is not trimmed is as it was written. -/
structure Loaded (c written : Settings) : Prop where
  normal : c.normalize = c
  valid : c.validate = .ok c
  logLevel : Tidy c.logLevel
  textSearchConfig : Tidy c.search.textSearchConfig
  dsn : c.dsn = written.dsn
  poolMaxConns : c.poolMaxConns = written.poolMaxConns
  rankScale : c.search.rankScale = written.search.rankScale

theorem loaded_normalize (h : ∀ f ∈ Fault.all, s.Keeps f) : s.normalize.Loaded s where
  normal := normalize_normalize s
  valid := validate_eq_ok.mpr ⟨fault?_normalize_eq_none.mpr h, rfl⟩
  logLevel := (h .emptyLogLevel (by decide)).tidy_logLevel
  textSearchConfig := (h .emptyTextSearchConfig (by decide)).tidy_textSearchConfig
  dsn := rfl
  poolMaxConns := rfl
  rankScale := rfl

/-- Normalized settings are accepted if they keep the rule of every fault, and otherwise refused for the first rule
    that they break. A file gives the normalized settings of its document on the same terms. Settings that are accepted
    as they are written are accepted with nothing changed but the log level. -/
theorem loading_exact (s : Settings) (content : Option ByteArray) :
    (∀ c, s.normalize.validate = .ok c ↔ (∀ f ∈ Fault.all, s.Keeps f) ∧ c = s.normalize) ∧
    (∀ m, s.normalize.validate.mapError Fault.message = .error m ↔ ∃ f, s.FirstBreaks f ∧ f.message = m) ∧
    (∀ c, ofContent content = .ok c ↔
      ∃ written, Writes content written ∧ (∀ f ∈ Fault.all, written.Keeps f) ∧ c = written.normalize) ∧
    (∀ f, ofContent content = .error (.invalid f) ↔ ∃ written, Writes content written ∧ written.FirstBreaks f) ∧
    (∀ c, ofContent content = .ok c → ∃ written, Writes content written ∧ c.Loaded written) ∧
    (∀ c, s.validate = .ok c →
      s.normalize.validate = .ok s.normalize ∧ s.normalize = { s with logLevel := trimmed s.logLevel }) := by
  refine ⟨fun c => validate_normalize_eq_ok, fun m => ?_, fun c => ?_, fun f => ?_, fun c h => ?_, fun c h => ?_⟩
  · simp only [mapError_eq_error, validate_normalize_eq_error]
  · simp only [ofContent_eq_ok, validate_normalize_eq_ok]
  · simp only [ofContent_eq_invalid, validate_normalize_eq_error]
  · obtain ⟨written, hwrites, hvalid⟩ := ofContent_eq_ok.mp h
    obtain ⟨hkeeps, rfl⟩ := validate_normalize_eq_ok.mp hvalid
    exact ⟨written, hwrites, loaded_normalize hkeeps⟩
  · obtain ⟨hfault, rfl⟩ := validate_eq_ok.mp h
    obtain ⟨heq, hnormal⟩ := normalize_of_fault? hfault
    exact ⟨validate_eq_ok.mpr ⟨hnormal, rfl⟩, heq⟩

/-- Blanks around three texts, of which two lose them, and a file with two faults. Settings that have no fault as they
    are written lose the blanks around the log level. -/
theorem loading_exact_blanks :
    (∃ c written,
      ofContent (some "service = [\" info \"]\nstorage = [[\"db \", 4]]\nsearch = [\"\\tenglish\"]".toUTF8) = .ok c ∧
      c.Loaded written ∧ c = ⟨"info", "db ", 4, ⟨"english", .ofNat 10⟩⟩) ∧
    ofContent (some "service = [\"info\"]\nstorage = [[\"db\", 0]]\nsearch = [\"\", nan]".toUTF8) =
      .error (.invalid .noConnections) ∧
    ∃ s : Settings, s.validate = .ok s ∧ s.logLevel = " info " ∧ s.normalize = { s with logLevel := "info" } := by
  have hwrites : ∀ {text : String} (s : Settings), (Toml.document? text.toList).bind ofDocument? = some s →
      Writes (some text.toUTF8) s := fun _ h => ⟨_, dif_pos (String.isValidUTF8 _), h⟩
  obtain ⟨-, -, hok, -, hloaded, -⟩ := loading_exact ⟨" info ", "db ", 4, ⟨"english", .one⟩⟩
    (some "service = [\" info \"]\nstorage = [[\"db \", 4]]\nsearch = [\"\\tenglish\"]".toUTF8)
  obtain ⟨-, -, -, hinvalid, -, hnormal⟩ := loading_exact ⟨" info ", "db ", 4, ⟨"english", .one⟩⟩
    (some "service = [\"info\"]\nstorage = [[\"db\", 0]]\nsearch = [\"\", nan]".toUTF8)
  have hread := (hok _).mpr
    ⟨_, hwrites ⟨" info ", "db ", 4, ⟨"\tenglish", .ofNat 10⟩⟩ (by decide +kernel), by decide +kernel, rfl⟩
  obtain ⟨written, -, hwritten⟩ := hloaded _ hread
  have hvalid : validate ⟨" info ", "db ", 4, ⟨"english", .one⟩⟩ = .ok ⟨" info ", "db ", 4, ⟨"english", .one⟩⟩ :=
    validate_eq_ok.mpr ⟨by decide +kernel, rfl⟩
  refine ⟨⟨_, written, hread, hwritten, by decide +kernel⟩, (hinvalid _).mpr ?_, _, hvalid, rfl, ?_⟩
  · exact ⟨_, hwrites ⟨"info", "db", 0, ⟨"", ⟨9221120237041090560⟩⟩⟩ (by decide +kernel),
      [.emptyLogLevel, .emptyDsn], [.emptyTextSearchConfig, .badTextSearchConfig, .rankScaleNotFinite,
        .rankScaleNotPositive], rfl, by decide +kernel, by decide +kernel⟩
  · rw [(hnormal _ hvalid).2]
    decide +kernel

end Settings
end Lookout

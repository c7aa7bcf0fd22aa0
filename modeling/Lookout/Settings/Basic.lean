import Lookout.Search.Statement
import Lookout.Text.Blank

/-! The settings of the program, and what they have to satisfy. -/

namespace Lookout

structure Settings where
  /-- Which notices are shown. -/
  logLevel : String
  /-- The address of the database. -/
  dsn : String
  poolMaxConns : UInt32
  search : Search.Settings
  deriving Repr, DecidableEq

namespace Settings

/-- What is wrong with settings. -/
inductive Fault where
  | emptyLogLevel
  | emptyDsn
  | noConnections
  | emptyTextSearchConfig
  | badTextSearchConfig
  | rankScaleNotFinite
  | rankScaleNotPositive
  deriving Repr, DecidableEq

/-- The text of a fault. -/
def Fault.message : Fault → String
  | .emptyLogLevel => "service.log_level must be non-empty."
  | .emptyDsn => "storage.postgres.dsn must be non-empty."
  | .noConnections => "storage.postgres.pool_max_conns must be greater than zero."
  | .emptyTextSearchConfig => "search.text_search_config must be non-empty."
  | .badTextSearchConfig => "search.text_search_config must contain only ASCII letters, digits, '_' or '.'."
  | .rankScaleNotFinite => "search.rank_scale must be a finite number."
  | .rankScaleNotPositive => "search.rank_scale must be greater than zero."

/-- A character that the name of a text search configuration may have. -/
def isConfigChar (c : Char) : Bool := c.isAlphanum || c == '_' || c == '.'

/-- The first fault of settings, if they have one. -/
def fault? (s : Settings) : Option Fault :=
  if Text.isBlankText s.logLevel.toList then some .emptyLogLevel
  else if Text.isBlankText s.dsn.toList then some .emptyDsn
  else if s.poolMaxConns = 0 then some .noConnections
  else if s.search.textSearchConfig.toList.isEmpty then some .emptyTextSearchConfig
  else if !s.search.textSearchConfig.toList.all isConfigChar then some .badTextSearchConfig
  else if !s.search.rankScale.isFinite then some .rankScaleNotFinite
  else if s.search.rankScale.rank ≤ 0 then some .rankScaleNotPositive
  else none

/-- Settings without a fault satisfy all that is asked of them. -/
theorem fault?_eq_none {s : Settings} : s.fault? = none ↔
    Text.isBlankText s.logLevel.toList = false ∧ Text.isBlankText s.dsn.toList = false ∧ s.poolMaxConns ≠ 0 ∧
      s.search.textSearchConfig.toList ≠ [] ∧ (∀ c ∈ s.search.textSearchConfig.toList, isConfigChar c = true) ∧
      s.search.rankScale.isFinite = true ∧ 0 < s.search.rankScale.rank := by
  have hstep : ∀ {c : Prop} [Decidable c] {f : Fault} {rest : Option Fault},
      (if c then some f else rest) = none ↔ ¬ c ∧ rest = none := by
    intro c _ f rest
    split <;> simp [*]
  simp only [fault?, hstep, and_true, Bool.not_eq_true, Bool.not_eq_true', Bool.not_eq_false, List.isEmpty_eq_false_iff,
    List.all_eq_true, Int.not_le, ne_eq]

/-- The settings, if they have no fault. -/
def validate (s : Settings) : Except Fault Settings :=
  match s.fault? with
  | none => .ok s
  | some f => .error f

/-- A text without the blanks at its ends. -/
def trimmed (s : String) : String := String.ofList (Text.trim s.toList)

/-- The settings without the blanks around the log level and the text search configuration. -/
def normalize (s : Settings) : Settings :=
  { s with
    logLevel := trimmed s.logLevel
    search := { s.search with textSearchConfig := trimmed s.search.textSearchConfig } }

end Settings
end Lookout

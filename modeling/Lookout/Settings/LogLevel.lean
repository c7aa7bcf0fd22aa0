import Lookout.Text.Blank
import Lookout.Text.Digits
import Lookout.Text.WordChar

/-! Which notices are shown. A filter is a list of directives with commas between them. A directive is a level
    for everything, or a target with its level. A filter that cannot be read shows what the level `info`
    shows. -/

namespace Lookout

/-- A level, from that which shows nothing to that which shows all. -/
inductive LogLevel where
  | off
  | error
  | warn
  | info
  | debug
  | trace
  deriving Repr, DecidableEq

namespace LogLevel

def all : List LogLevel := [.off, .error, .warn, .info, .debug, .trace]

def name : LogLevel → String
  | .off => "off"
  | .error => "error"
  | .warn => "warn"
  | .info => "info"
  | .debug => "debug"
  | .trace => "trace"

/-- The number of a level, more of which show more. -/
def number : LogLevel → Nat
  | .off => 0
  | .error => 1
  | .warn => 2
  | .info => 3
  | .debug => 4
  | .trace => 5

/-- The level of a name in any case, or of a number. -/
def ofText? (s : List Char) : Option LogLevel :=
  let low := s.map Char.toLower
  all.find? fun l => low = l.name.toList || Text.unsigned? s = some l.number

/-- The one of two levels that shows more. -/
def max (a b : LogLevel) : LogLevel := if a.number ≤ b.number then b else a

/-- A character that a target may begin with. -/
def startsTarget (c : Char) : Bool := c == '-' || c == ':' || Text.isWordChar c

/-- The level of one directive. A target without a level shows all of it. Blanks around a directive are no
    part of a level, so with them only a target without a level can be read. -/
def ofDirective? (d : List Char) : Option LogLevel :=
  if !(Text.trim d).head?.any startsTarget then none
  else
    match Text.cut (· == '=') d with
    | [word] => some ((ofText? word).getD .trace)
    | [_, level] =>
      if Text.trim d ≠ d then none
      else if level.isEmpty then some .trace
      else ofText? level
    | _ => none

/-- The level that shows whatever one of the directives shows. -/
def ofFilter (s : List Char) : LogLevel :=
  let directives := (Text.cut (· == ',') s).filter (!·.isEmpty)
  match directives.mapM ofDirective? with
  | some levels => levels.foldl max .off
  | none => .info

end LogLevel
end Lookout

import Lookout.Text.Blank

/-! The kinds of words on a command line. -/

namespace Lookout.Cli

inductive Word where
  /-- Two hyphens alone: no options follow. -/
  | separator
  /-- Two hyphens, a name, and maybe an equals sign with a value. -/
  | long (name : List Char) (value : Option (List Char))
  /-- One hyphen, a letter, and maybe more. -/
  | short (letter : Char) (rest : List Char)
  /-- Any other word, also a single hyphen. -/
  | plain (s : List Char)
  deriving Repr, DecidableEq

namespace Word

/-- A text cut in two at its first equals sign, which neither part keeps. -/
def splitEquals (s : List Char) : List Char × Option (List Char) :=
  (s.takeWhile (· != '='), (s.dropWhile (· != '=')).tail?)

/-- What stands before the equals sign has none. -/
theorem not_mem_splitEquals (s : List Char) : '=' ∉ (splitEquals s).1 := by
  intro h
  have := List.all_takeWhile (p := (· != '=')) (l := s)
  simp only [List.all_eq_true] at this
  exact absurd (this '=' h) (by decide)

/-- The kind of a word. -/
def ofText : List Char → Word
  | ['-', '-'] => .separator
  | '-' :: '-' :: s => let (name, value) := splitEquals s; .long name value
  | '-' :: c :: rest => .short c rest
  | s => .plain s

/-- The value that follows a letter directly, or after an equals sign. -/
def attached? : List Char → Option (List Char)
  | [] => none
  | '=' :: value => some value
  | value => some value

end Word
end Lookout.Cli

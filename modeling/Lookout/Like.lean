/-! Patterns of the `LIKE` operator. A `%` stands for any text and a `_` for any one character; a
    backslash before a character makes it stand for itself. -/

namespace Lookout.Like

/-- The character that makes the next one stand for itself. -/
def escapeChar : Char := '\\'

/-- The characters that a pattern has to escape. -/
def isSpecial (c : Char) : Bool := c == '%' || c == '_' || c == escapeChar

/-- The pattern that stands for exactly `s`. -/
def escape (s : List Char) : List Char := s.flatMap fun c => if isSpecial c then [escapeChar, c] else [c]

/-- The pattern of the texts that contain `s`. -/
def containing (s : List Char) : List Char := '%' :: escape s ++ ['%']

@[simp] theorem escape_nil : escape [] = [] := rfl

theorem escape_cons (c : Char) (s : List Char) :
    escape (c :: s) = (if isSpecial c then [escapeChar, c] else [c]) ++ escape s := by
  simp [escape]

@[simp] theorem escape_append (s t : List Char) : escape (s ++ t) = escape s ++ escape t := by
  simp [escape]

end Lookout.Like

import QuestScript.Text.Basic

/-!
# Patterns

A pattern is a row of pieces, each for one character of a class or for any number of them.  A text
fits a pattern if it can be cut into what the pieces stand for, one after the other.
-/

namespace QuestScript

/-- a piece of a pattern -/
inductive PatternPiece where
  | one (is : Char → Bool)
  | many (is : Char → Bool)

abbrev Pattern := List PatternPiece

namespace Pattern

/-- the characters of a text, one by one -/
def literal (t : Text) : Pattern := t.map fun c => .one (· == c)

/-- any number of characters of a class, and then what `rest` wants -/
def manyThen (is : Char → Bool) (rest : Text → Bool) : Text → Bool
  | [] => rest []
  | c :: t => rest (c :: t) || (is c && manyThen is rest t)

/-- the whole text fits the pattern -/
def fits : Pattern → Text → Bool
  | [], t => t.isEmpty
  | .one _ :: _, [] => false
  | .one is :: ps, c :: t => is c && fits ps t
  | .many is :: ps, t => manyThen is (fits ps) t

end Pattern

end QuestScript

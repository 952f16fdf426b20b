/-!
# Sets of characters as ranges of code points

Properties of characters are given as lists of inclusive ranges; `Ranges.has` looks one up.
-/

namespace QuestScript.Character

/-- a set of code points: inclusive ranges in ascending order -/
abbrev Ranges := List (Nat × Nat)

/-- the code point of `c` lies in one of the ranges -/
def Ranges.has (rs : Ranges) (c : Char) : Bool :=
  rs.any fun r => r.1 ≤ c.toNat && c.toNat ≤ r.2

end QuestScript.Character

import QuestScript.Character.CaseTable
import QuestScript.Character.PrintTable
import QuestScript.Character.PunctuationTable
import QuestScript.Character.WidthTable

/-!
# Properties of characters, read off the tables

* `isPrintable`     the character can be shown as it is;
* `isPunctuation`   punctuation or symbol;
* `width`           the columns a character takes;
* `lower`           the lower-case form of one character;
* `fold`            the form in which letters that differ in case only agree.
-/

namespace QuestScript.Character

/-- the character has a glyph of its own -/
def isPrintable (c : Char) : Bool :=
  if 0x20 ≤ c.toNat && c.toNat < 0x7F then true
  else !(graphemeExtend.has c) && !(unprintable.has c)

/-- punctuation or symbol -/
def isPunctuation (c : Char) : Bool := punctuationAndSymbols.has c

/-- columns taken by a character -/
def width (c : Char) : Nat :=
  if 0x20 ≤ c.toNat && c.toNat < 0x7F then 1
  else if zeroWidth.has c then 0
  else if wide.has c then 2
  else 1

/-- the run lists the code point `n` -/
def LowerRun.has (r : LowerRun) (n : Nat) : Bool :=
  r.first ≤ n && n ≤ r.last && (n - r.first) % r.step == 0

/-- lower-case form of one character, outside any word -/
def lower (c : Char) : List Char :=
  if c.toNat < 0x80 then [c.toLower]
  else if c.toNat == 0x130 then ['i', Char.ofNat 0x307]
  else
    match lowerRuns.find? (·.has c.toNat) with
    | some r => [Char.ofNat (c.toNat + r.shift).toNat]
    | none => [c]

/-- case folding of one character -/
def fold (c : Char) : List Char :=
  match foldings.lookup c.toNat with
  | some ns => ns.map Char.ofNat
  | none =>
    match capitalFoldings.find? (·.has c.toNat) with
    | some r => [Char.ofNat (c.toNat - r.shift).toNat]
    | none => lower c

end QuestScript.Character

import QuestScript.Character.Blank

/-!
# Text

A text is a list of characters, so that every rule on texts is a recursion on a list.  This module
holds the small vocabulary the rules are written in: taking markers off either end, trimming white
space, cutting at a character, looking for a part.
-/

namespace QuestScript

/-- a text: its characters in order -/
abbrev Text := List Char

instance : Coe String Text := ⟨String.toList⟩

namespace Text

open Character (isBlank)

/-! ## ends of a text -/

/-- what follows `mark` at the start of the text -/
def dropPrefix? (mark t : Text) : Option Text := mark.isPrefixOf? t

/-- what comes before `mark` at the end of the text -/
def dropSuffix? (mark t : Text) : Option Text :=
  (mark.reverse.isPrefixOf? t.reverse).map List.reverse

/-- the text starts with `mark` -/
def startsWith (mark t : Text) : Bool := mark.isPrefixOf t

/-- the text ends with `mark` -/
def endsWith (mark t : Text) : Bool := mark.isSuffixOf t

/-- the text without the characters at its end that satisfy `p` -/
def dropWhileEnd (p : Char → Bool) (t : Text) : Text := (t.reverse.dropWhile p).reverse

/-! ## white space -/

/-- the text without the white space it starts with -/
def trimStart (t : Text) : Text := t.dropWhile isBlank

/-- the text without the white space it ends with -/
def trimEnd (t : Text) : Text := dropWhileEnd isBlank t

/-- the text without white space at either end -/
def trim (t : Text) : Text := trimEnd (trimStart t)

/-! ## parts -/

/-- the text before the first `c` and the text after it -/
def splitOnce (c : Char) : Text → Option (Text × Text)
  | [] => none
  | d :: t => if d = c then some ([], t) else (splitOnce c t).map fun p => (d :: p.1, p.2)

/-- the pieces between the occurrences of `c` -/
def splitOn (c : Char) (t : Text) : List Text := t.splitOnP (· == c)

/-- the text before the first occurrence of `part` and the text after it -/
def splitAtPart (part : Text) : Text → Option (Text × Text)
  | [] => if part = [] then some ([], []) else none
  | d :: t =>
    match dropPrefix? part (d :: t) with
    | some rest => some ([], rest)
    | none => (splitAtPart part t).map fun p => (d :: p.1, p.2)

/-- `part` occurs in the text -/
def hasPart (part t : Text) : Bool := (splitAtPart part t).isSome

/-- the pieces in one text, `sep` between them -/
def join (sep : Text) (pieces : List Text) : Text := sep.intercalate pieces

/-- `n` copies of a character -/
def blanks (n : Nat) : Text := List.replicate n ' '

/-- the decimal digits of a number -/
def ofNat (n : Nat) : Text := Nat.toDigits 10 n

/-- the decimal text of an integer -/
def ofInt : Int → Text
  | .ofNat n => ofNat n
  | .negSucc n => '-' :: ofNat (n + 1)

/-- a comes before b in the order of code points -/
def before (a b : Text) : Bool := decide (a < b)

end Text

end QuestScript

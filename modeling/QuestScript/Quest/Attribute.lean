import QuestScript.Diagnostic.Problem
import QuestScript.Number.Numeral
import QuestScript.Text.Lower

/-!
# Attributes

The lines below a quest header are attributes, `key: value`.  Keys are read in lower case, and of
two lines with one key the later counts.  `Attributes` keeps them ordered by key.

The values are read as text, as whole numbers or as yes or no; reading one tells what is wrong with
it.  `Attributes.unknown` finds the keys that nothing was read from.
-/

namespace QuestScript

/-- values by key, ordered by key, no key twice -/
abbrev Attributes := List (Text × Text)

namespace Attributes

/-! ## a map ordered by key -/

def get? (attrs : Attributes) (key : Text) : Option Text := attrs.lookup key

/-- sets the value of a key -/
def insert (key value : Text) : Attributes → Attributes
  | [] => [(key, value)]
  | (k, v) :: rest =>
    if key = k then (key, value) :: rest
    else if Text.before key k then (key, value) :: (k, v) :: rest
    else (k, v) :: insert key value rest

/-! ## lines -/

/-- the key and the value of a line with a colon -/
def ofLine? (line : Text) : Option (Text × Text) :=
  (Text.splitOnce ':' line).map fun (key, value) => (Text.lower (Text.trim key), Text.trim value)

/-- the attributes of the lines that have a colon -/
def ofLines (lines : List Text) : Attributes :=
  (lines.filterMap ofLine?).foldl (fun attrs (key, value) => insert key value attrs) []

/-- the lines that have no colon -/
def malformed (lines : List Text) : List Problem :=
  (lines.filter fun line => (ofLine? line).isNone).map .malformedAttribute

/-! ## values -/

/-- a required value must be there and must not be empty -/
def missing (attrs : Attributes) (key : Text) (required : Bool) : List Problem :=
  if required && (attrs.get? key).all List.isEmpty then [.missingAttribute key] else []

/-- the value as text -/
def string (attrs : Attributes) (key : Text) (required : Bool) : Option Text × List Problem :=
  (attrs.get? key, attrs.missing key required)

/-- the whole part of the number that a text spells -/
def wholeNumber? (value : Text) : Option Int :=
  (Numeral.ofText? (Text.trim value)).bind Numeral.whole?

/-- the value as a whole number; a text that spells no number is read as 0 -/
def number (attrs : Attributes) (key : Text) (required : Bool) : Option Int × List Problem :=
  match attrs.get? key with
  | none => (none, attrs.missing key required)
  | some value =>
    match wholeNumber? value with
    | some n => (some n, attrs.missing key required)
    | none => (some 0, attrs.missing key required ++ [.notANumber key value])

/-- the text spells `true`, in letters of either case -/
def isTrue (value : Text) : Bool := (Text.trim value).map Char.toLower = "true".toList

/-- the value as yes or no; everything but `true` is no -/
def boolean (attrs : Attributes) (key : Text) (required : Bool) : Option Bool × List Problem :=
  ((attrs.get? key).map isTrue, attrs.missing key required)

/-- the keys that are not among `known`, in order -/
def unknown (attrs : Attributes) (known : List Text) : List Problem :=
  ((attrs.map Prod.fst).filter (!known.contains ·)).map .unknownAttribute

end Attributes

end QuestScript

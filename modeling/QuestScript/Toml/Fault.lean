import QuestScript.Text.Span
import QuestScript.Text.Lines

/-!
# Faults in a configuration text

A fault says where a text goes wrong and why: what could not be read, what was expected in its
place, and the cause.  `Fault.display` shows it under the line it is in.

Places are told from the end: a place is the number of characters that follow it, so that a reader
that holds the rest of a text knows where it is.
-/

namespace QuestScript.Toml

/-- a part of a text: the places where it starts and where it ends -/
structure Extent where
  start : Nat
  stop : Nat
deriving DecidableEq, Repr

/-- the part of a text that ends where `rest` starts -/
def Extent.upTo (t rest : Text) : Extent := ⟨t.length, rest.length⟩

/-- the part of a source that an extent covers -/
def Extent.slice (source : Text) (e : Extent) : Text :=
  (source.drop (source.length - e.start)).take (e.start - e.stop)

/-- what is wrong with a text -/
structure Fault where
  extent : Extent
  /-- what could not be read -/
  subject : Option Text
  /-- what would have been right at the start of the extent -/
  expected : List Text
  cause : Option Text
  /-- the text cannot be right in any other way -/
  firm : Bool
deriving DecidableEq, Repr

namespace Fault

/-- the text goes wrong at the first character of `t` -/
def atStart (t : Text) : Fault := ⟨⟨t.length, t.length - 1⟩, none, [], none, false⟩

/-- something is wrong with what an extent covers -/
def about (e : Extent) (cause : Text) : Fault := ⟨e, none, [], some cause, true⟩

/-- says what could not be read, unless that is known more exactly -/
def within (subject : Text) (f : Fault) : Fault := { f with subject := f.subject.or (some subject) }

def expecting (expected : List Text) (f : Fault) : Fault :=
  { f with expected := f.expected ++ expected }

def because (cause : Text) (f : Fault) : Fault := { f with cause := some cause }

def asFirm (f : Fault) : Fault := { f with firm := true }

/-- the fault in words -/
def message (f : Fault) : Text :=
  Text.join ['\n'] <|
    (f.subject.map fun s => "invalid ".toList ++ s).toList ++
      (if f.expected.isEmpty then []
        else ["expected ".toList ++ Text.join [',', ' '] f.expected]) ++ f.cause.toList

/-- the end of a text counts as part of its last line, also if that has a line feed -/
def before (source : Text) (place : Nat) : Text :=
  if place = 0 then source.dropLast else source.take (source.length - place)

/-- the line of a place and its column, both counted from 0; the column of a character of several
bytes is counted in bytes, every other column in characters -/
def position (source : Text) (place : Nat) : Nat × Nat :=
  let lead := before source place
  let line := (lead.reverse.takeWhile (· != '\n')).reverse
  let column :=
    match source.drop (source.length - place) with
    | [] => if source.isEmpty then 0 else line.length + 1
    | c :: _ => if c.utf8Size = 1 then line.length else Text.byteLength line
  (lead.count '\n', column)

/-- the fault with the line of the source that it is in -/
def display (source : Text) (f : Fault) : Text :=
  let (line, column) := position source f.extent.start
  let content := (Text.splitOn '\n' source)[line]?.getD []
  let number := Text.ofNat (line + 1)
  let margin := Text.blanks (number.length + 1) ++ ['|']
  let carets :=
    min (Text.byteLength (f.extent.slice source)) (Text.byteLength content - column)
  Text.unlines
    ["TOML parse error at line ".toList ++ number ++ ", column ".toList ++ Text.ofNat (column + 1),
      margin, number ++ " | ".toList ++ content,
      margin ++ Text.blanks (column + 1) ++ List.replicate (max 1 carets) '^', f.message]

end Fault

end QuestScript.Toml

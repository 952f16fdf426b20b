import QuestScript.Text.Basic

/-!
# Spans

A span is a range of bytes in the UTF-8 text of a source.  For spans, lines end at line feeds only,
and a source with `k` line feeds has `k + 1` lines, the last of which may be empty.
-/

namespace QuestScript

/-- the number of bytes of a text -/
def Text.byteLength : Text → Nat
  | [] => 0
  | c :: t => c.utf8Size + byteLength t

/-- the number of bytes of texts in a row -/
def Text.totalLength (ts : List Text) : Nat := byteLength ts.flatten

/-- the lines of a source with their line feeds; the line after the last line feed counts -/
def Text.allLines : Text → List Text
  | [] => [[]]
  | c :: t =>
    if c = '\n' then ['\n'] :: allLines t
    else
      match allLines t with
      | [] => [[c]]
      | l :: ls => (c :: l) :: ls

/-- a range of bytes, its end excluded -/
structure Span where
  start : Nat
  stop : Nat
deriving DecidableEq, Repr

namespace Span

/-- the bytes of the lines from `first` to `last`, if there are such lines -/
def ofLines? (lines : List Text) (first last : Nat) : Option Span :=
  if first < lines.length ∧ last < lines.length then
    some
      { start := Text.totalLength (lines.take first)
        stop := Text.totalLength (lines.take (last + 1)) }
  else none

/-- the text after `n` bytes, if a character starts there -/
def dropBytes? : Nat → Text → Option Text
  | 0, t => some t
  | _ + 1, [] => none
  | n + 1, c :: t => if c.utf8Size ≤ n + 1 then dropBytes? (n + 1 - c.utf8Size) t else none

/-- the text of the first `n` bytes, if a character ends there -/
def takeBytes? : Nat → Text → Option Text
  | 0, _ => some []
  | _ + 1, [] => none
  | n + 1, c :: t =>
    if c.utf8Size ≤ n + 1 then (takeBytes? (n + 1 - c.utf8Size) t).map (c :: ·) else none

/-- the part of a text that a span covers -/
def slice? (s : Span) (t : Text) : Option Text :=
  if s.start ≤ s.stop then (dropBytes? s.start t).bind (takeBytes? (s.stop - s.start)) else none

/-- the line that holds a byte, both counted from 0, and the bytes before it in that line; what is
beyond the last line counts to it -/
def lineOf (offset : Nat) : List Text → Nat × Nat
  | [] => (0, offset)
  | [_] => (0, offset)
  | l :: ls =>
    if offset < l.byteLength then (0, offset)
    else
      let (line, column) := lineOf (offset - l.byteLength) ls
      (line + 1, column)

end Span

end QuestScript

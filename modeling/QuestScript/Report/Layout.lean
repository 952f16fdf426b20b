import QuestScript.Report.Snippet

/-!
# The layout of a report

A report starts with its severity, code and message.  If it has labels, the place of the leading
label follows, and then the snippet: line numbers, a border, a column of two characters for every
label over several lines, and the source.  An empty line ends the report.
-/

namespace QuestScript

/-- what the drawing of a snippet depends on -/
structure Drawing where
  severity : Severity
  /-- the width of the line numbers -/
  digits : Nat
  /-- the number of columns for labels over several lines -/
  columns : Nat

namespace Drawing

open Stroke (styled newLine)

/-- a character of the source with the bytes before it and the columns it takes -/
structure Glyph where
  offset : Nat
  width : Nat
  char : Char

/-- the glyphs of a text; a tab goes on to the next multiple of four columns -/
def glyphsFrom (offset column : Nat) : Text → List Glyph
  | [] => []
  | c :: t =>
    let width := if c == '\t' then 4 - column % 4 else Character.width c
    ⟨offset, width, c⟩ :: glyphsFrom (offset + c.utf8Size) (column + width) t

def glyphs (t : Text) : List Glyph := glyphsFrom 0 0 t

/-- the columns that glyphs take -/
def totalWidth (gs : List Glyph) : Nat := gs.foldr (fun g n => g.width + n) 0

/-- the span and the bytes of a glyph have one in common -/
def Glyph.within (g : Glyph) (s : Span) : Bool :=
  max s.start g.offset < min s.stop (g.offset + g.char.utf8Size)

/-! ## gutters -/

variable (d : Drawing)

def label (primary : Bool) (t : Text) : List Stroke := styled (.label d.severity primary) t

/-- the place of the line number left empty -/
def blankGutter : List Stroke := [.text (Text.blanks (d.digits + 1))]

/-- a line number -/
def numberGutter (n : Nat) : List Stroke :=
  let digits := Text.ofNat n
  [.set .border, .text (Text.blanks (d.digits - digits.length) ++ digits), .reset, .text [' ']]

def border : List Stroke := styled .border ['│']

/-- a horizontal stroke that goes on through a column, or nothing -/
def column (underline : Option Bool) : List Stroke :=
  match underline with
  | none => [.text [' ', ' ']]
  | some primary => d.label primary ['─', '─']

/-- the left side of a label, crossed by a horizontal stroke if there is one -/
def leftSide (primary : Bool) (underline : Option Bool) : List Stroke :=
  (match underline with
    | none => [.text [' ']]
    | some p => d.label p ['─']) ++ d.label primary ['│']

/-- a corner of a label -/
def corner (primary : Bool) (c : Char) : List Stroke := .text [' '] :: d.label primary [c]

/-- draws every column; `draw` is for the columns that have a mark -/
def perColumn (marks : List SideMark) (draw : SideMark → List Stroke) : List Stroke :=
  (List.range d.columns).flatMap fun i =>
    match marks.find? (·.column == i) with
    | some m => draw m
    | none => d.column none

/-- the label starts where the text of the line does, so that it needs no line of its own -/
def startsLine (source : Text) (column : Nat) : Bool :=
  column ≤ Text.byteLength (source.takeWhile Character.isBlank)

/-- the columns beside a source line -/
def sourceColumns (source : Text) (marks : List SideMark) : List Stroke :=
  d.perColumn marks fun m =>
    match m.mark with
    | .top start => if startsLine source start then d.corner m.primary '╭' else d.column none
    | _ => d.leftSide m.primary none

/-- the columns beside a line without source -/
def plainColumns (marks : List SideMark) : List Stroke :=
  d.perColumn marks fun m =>
    match m.mark with
    | .top _ => d.column none
    | _ => d.leftSide m.primary none

/-! ## source lines -/

/-- the glyph is part of a primary label -/
def isPrimary (l : SnippetLine) (g : Glyph) : Bool :=
  l.singles.any (fun (primary, span) => primary && g.within span) ||
    l.marks.any fun m =>
      m.primary &&
        match m.mark with
        | .top start => start ≤ g.offset
        | .left => true
        | .bottom stop => g.offset + g.char.utf8Size ≤ stop

/-- the text of a line; `inside` says that the style of the primary label is on -/
def sourceText (l : SnippetLine) (inside : Bool) : List Glyph → List Stroke
  | [] => if inside then [.reset] else []
  | g :: gs =>
    let primary := isPrimary l g
    let change : List Stroke :=
      if primary && !inside then [.set (.label d.severity true)]
      else if !primary && inside then [.reset]
      else []
    change ++ .text (if g.char == '\t' then Text.blanks g.width else [g.char]) ::
      sourceText l primary gs

/-- the label that underlines a glyph, a primary one before others -/
def underlining? (l : SnippetLine) (g : Glyph) : Option Bool :=
  let styles := (l.singles.filter fun s => g.within s.2).map Prod.fst
  if styles.isEmpty then none else some (styles.any id)

/-- the carets under a line; `style` is the style that is on -/
def carets (l : SnippetLine) (style : Option Bool) : List Glyph → List Stroke
  | [] => if style.isSome then [.reset] else []
  | g :: gs =>
    let current := underlining? l g
    let change : List Stroke :=
      if current = style then []
      else
        match current with
        | none => [.reset]
        | some primary => [.set (.label d.severity primary)]
    let last := (l.singles.map (·.2.stop)).foldl max 0
    let caret : Text :=
      match current with
      | some true => List.replicate g.width '^'
      | some false => List.replicate g.width '-'
      | none => if g.offset < last then Text.blanks g.width else []
    change ++ .text caret :: carets l current gs

/-- the line below a source line with labels within it -/
def caretLine (l : SnippetLine) : List Stroke :=
  if l.singles.isEmpty then []
  else
    let stop : Glyph := ⟨Text.byteLength l.source, 1, '\x00'⟩
    d.blankGutter ++ border ++ d.plainColumns l.marks ++ .text [' '] ::
      d.carets l none (glyphs l.source ++ [stop]) ++ [newLine]

/-- the stroke below a source line up to the start or the end of a label -/
def cornerLine (l : SnippetLine) (m : SideMark) (c : Char) (column : Nat) (beyond : Nat) :
    List Stroke :=
  let side (underline : Option Bool) (other : SideMark) : List Stroke × Option Bool :=
    let isLeft : Bool :=
      match other.mark with
      | .left => true
      | .top _ => other.column < m.column
      | .bottom _ => m.column < other.column
    if other.column = m.column then (d.corner m.primary c, some m.primary)
    else if isLeft then (d.leftSide other.primary underline, underline)
    else (d.column underline, underline)
  let draw (state : List Stroke × Option Bool) (i : Nat) : List Stroke × Option Bool :=
    match l.marks.find? (·.column == i) with
    | some other =>
      let (strokes, underline) := side state.2 other
      (state.1 ++ strokes, underline)
    | none => (state.1 ++ d.column state.2, state.2)
  let columns := ((List.range d.columns).foldl draw ([], none)).1
  let width := totalWidth ((glyphs l.source).takeWhile (·.offset < column + beyond))
  d.blankGutter ++ border ++ columns ++
    d.label m.primary (List.replicate width '─' ++ [if m.primary then '^' else '\'']) ++ [newLine]

/-- the lines below a source line at which labels over several lines start or end -/
def cornerLines (l : SnippetLine) : List Stroke :=
  l.marks.flatMap fun m =>
    match m.mark with
    | .left => []
    | .top start => if startsLine l.source start then [] else d.cornerLine l m '╭' start 1
    | .bottom stop => d.cornerLine l m '╰' stop 0

/-- a source line with what is drawn below it -/
def lineRows (l : SnippetLine) : List Stroke :=
  d.numberGutter (l.index + 1) ++ border ++ d.sourceColumns l.source l.marks ++ .text [' '] ::
    d.sourceText l false (glyphs l.source) ++ newLine :: d.caretLine l ++ d.cornerLines l

/-- a row of a snippet -/
def row : SnippetRow → List Stroke
  | .line l => d.lineRows l
  | .gap marks => d.blankGutter ++ styled .border ['·'] ++ d.plainColumns marks ++ [newLine]

/-- the name of the source and the place of the leading label, counted from 1 -/
def locus (file : Text) (lines : List Text) (p : Placed) : List Stroke :=
  let before := (Span.takeBytes? p.startColumn (lines[p.startLine]?.getD [])).getD []
  d.blankGutter ++ styled .border ['┌', '─'] ++
    [.text (' ' :: file ++ ':' :: Text.ofNat (p.startLine + 1) ++ ':' ::
      Text.ofNat (before.length + 1)), newLine] ++
    d.blankGutter ++ border ++ d.plainColumns [] ++ [newLine]

end Drawing

namespace Report

/-- severity, code and message -/
def header (r : Report) : List Stroke :=
  [.set (.header r.severity), .text (severityWord r.severity),
    .text ('[' :: Text.ofNat r.code ++ [']']), .set .headerMessage, .text (':' :: ' ' :: r.message),
    .reset, Stroke.newLine]

/-- the labelled lines of a source -/
def snippet (r : Report) (file source : Text) : List Stroke :=
  let lines := Text.allLines source
  let labels := r.labels.map (Placed.ofLabel lines)
  match Snippet.leading? labels with
  | none => []
  | some p =>
    let lastLine := (labels.map (·.stopLine)).foldl max 0
    let d : Drawing :=
      ⟨r.severity, (Text.ofNat (lastLine + 1)).length, (Snippet.columns labels).length⟩
    d.locus file lines p ++ (Snippet.rows lines labels).flatMap d.row

/-- a report in full -/
def strokes (r : Report) (file source : Text) : List Stroke :=
  r.header ++ r.snippet file source ++ [Stroke.newLine]

/-- a report as it is written -/
def write (r : Report) (file source : Text) (colored : Bool) : Text :=
  Stroke.writeAll colored (r.strokes file source)

end Report

end QuestScript

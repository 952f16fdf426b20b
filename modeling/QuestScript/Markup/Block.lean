import QuestScript.Markup.Link
import QuestScript.Markup.Tag

/-!
# The block structure of markup

Markup is read line by line.  A line goes on with the containers that are open (quotations and list
items), then with the leaf that is open in them (a paragraph, code, or raw content), and otherwise
opens new ones.  Only the leaves are kept: a paragraph or heading holds running text, code and raw
content are taken as they are.  The definitions of links at the start of a paragraph are no part of
it.

* `Cursor`      the rest of a line, with its columns of indentation;
* `Container`   what has to stand before every line of a quotation or a list item;
* `OpenLeaf`    the leaf that the next line may belong to;
* `Leaf.ofText` the leaves of a text and the labels it defines.
-/

namespace QuestScript.Markup

/-! ## lines -/

/-- a line and what ends it -/
structure SourceLine where
  text : Text
  ending : Text
deriving DecidableEq, Repr

/-- the lines of a text; nothing follows the last line end -/
def sourceLines : Text → List SourceLine
  | [] => []
  | '\r' :: '\n' :: t => ⟨[], ['\r', '\n']⟩ :: sourceLines t
  | c :: t =>
    if isLineEnd c then ⟨[], [c]⟩ :: sourceLines t
    else
      match sourceLines t with
      | [] => [⟨[c], []⟩]
      | l :: ls => ⟨c :: l.text, l.ending⟩ :: ls

/-! ## columns -/

/-- the rest of a line -/
structure Cursor where
  rest : Text
  /-- columns of a tab that are still to be taken -/
  pad : Nat
  /-- columns since the last tab -/
  column : Nat
deriving DecidableEq, Repr

namespace Cursor

def ofText (t : Text) : Cursor := ⟨t, 0, 0⟩

/-- takes up to `n` columns of a text; the columns taken, and the rest -/
def takeFrom (taken n column : Nat) : Text → Nat × Cursor
  | [] => (taken, ⟨[], 0, column⟩)
  | c :: t =>
    if n = 0 then (taken, ⟨c :: t, 0, column⟩)
    else if c == ' ' then takeFrom (taken + 1) (n - 1) (column + 1) t
    else if c == '\t' then
      let width := 4 - column % 4
      if width ≤ n then takeFrom (taken + width) (n - width) 0 t else (taken + n, ⟨t, width - n, 0⟩)
    else (taken, ⟨c :: t, 0, column⟩)

/-- takes up to `n` columns of blanks and tabs -/
def take (n : Nat) (c : Cursor) : Nat × Cursor :=
  if n ≤ c.pad then (n, ⟨c.rest, c.pad - n, c.column⟩)
  else takeFrom c.pad (n - c.pad) c.column c.rest

/-- drops `n` characters -/
def drop (n : Nat) (c : Cursor) : Cursor := ⟨c.rest.drop n, c.pad, c.column + n⟩

/-- the rest of the line, with the columns of a tab that are still to be taken -/
def text (c : Cursor) : Text := Text.blanks c.pad ++ c.rest

/-- the rest of the line without the blanks and tabs it starts with -/
def unindented (c : Cursor) : Text := c.rest.dropWhile fun d => d == ' ' || d == '\t'

end Cursor

/-! ## containers -/

/-- what encloses a leaf -/
inductive Container where
  | quote
  /-- a list item whose content is indented by so many columns -/
  | item (indent : Nat)
deriving DecidableEq, Repr

/-- the mark of a quotation, and one column after it -/
def dropQuoteMark? (c : Cursor) : Option Cursor :=
  match c.rest with
  | '>' :: _ => some ((c.drop 1).take 1).2
  | _ => none

/-- a line across the page: three marks or more -/
def isRule (t : Text) : Bool :=
  let line := t.takeWhile (!isLineEnd ·)
  match line with
  | [] => false
  | c :: _ =>
    (c == '*' || c == '-' || c == '_') && line.all (fun d => d == c || d == ' ' || d == '\t') &&
      3 ≤ line.count c

/-- the mark of a list item -/
structure ItemMark where
  width : Nat
  /-- an item with this mark can follow a line of a paragraph -/
  interrupts : Bool

/-- the mark of a list item at the start of a text -/
def itemMark? (t : Text) : Option ItemMark :=
  match t with
  | [] => none
  | c :: _ =>
    if c == '-' || c == '+' || c == '*' then some ⟨1, true⟩
    else
      let ds := (t.take 9).takeWhile Char.isDigit
      match t.drop ds.length with
      | d :: _ =>
        if !ds.isEmpty && (d == '.' || d == ')') then some ⟨ds.length + 1, numberOf 10 ds == 1⟩
        else none
      | [] => none

/-- opens a list item that is indented by `outer` columns -/
def openItem? (outer : Nat) (c : Cursor) : Option (Container × Cursor) :=
  if isRule c.rest then none
  else
    (itemMark? c.rest).bind fun mark =>
      let (n, after) := (c.drop mark.width).take 1
      if n = 1 || after.rest.isEmpty then
        let indent := outer + mark.width + 1
        if blankAhead after.rest then some (.item indent, after)
        else
          let (more, inner) := after.take 4
          if more < 4 then some (.item (indent + more), inner) else some (.item indent, after)
      else none

namespace Container

/-- the rest of a line that goes on with the container -/
def goOn? (k : Container) (c : Cursor) : Option Cursor :=
  match k with
  | quote =>
    let (n, c) := c.take 4
    if n > 3 then none else dropQuoteMark? c
  | item indent =>
    let (n, c) := c.take indent
    if n = indent || c.rest.isEmpty then some c else none

/-- the containers that a line goes on with, outermost first, and the rest of the line -/
def goOn (c : Cursor) : List Container → List Container × Cursor
  | [] => ([], c)
  | k :: ks =>
    match k.goOn? c with
    | none => ([], c)
    | some c =>
      let (more, c) := goOn c ks
      (k :: more, c)

/-- opens one container -/
def open? (c : Cursor) : Option (Container × Cursor) :=
  let (outer, inner) := c.take 4
  if outer ≥ 4 then none
  else (openItem? outer inner).or ((dropQuoteMark? inner).map fun c => (quote, c))

/-- opens all the containers that a line starts with -/
def openAll (c : Cursor) : List Container × Cursor :=
  match open? c with
  | none => ([], c)
  | some (k, inner) =>
    if _h : inner.rest.length < c.rest.length then
      let (ks, inner) := openAll inner
      (k :: ks, inner)
    else ([k], inner)
termination_by c.rest.length

end Container

/-! ## leaves -/

/-- a piece of markup without block structure -/
inductive Leaf where
  /-- running text; `before` is the character that precedes it -/
  | running (before : Char) (content : Text)
  | verbatim (content : Text)
deriving DecidableEq, Repr

/-- a run of marks that encloses code, indented by some columns -/
structure Fence where
  mark : Char
  length : Nat
  indent : Nat
deriving DecidableEq, Repr

/-- a leaf that may go on -/
inductive OpenLeaf where
  | none
  | paragraph (before : Char) (content ending : Text)
  | indented (lines : List Text)
  /-- code after a fence; the line of the fence is the first of the lines -/
  | fenced (fence : Fence) (lines : List Text)
  /-- raw content, up to a line with an end mark, or up to a blank line if there is none -/
  | raw (endMark : Option Text) (lines : List Text)
deriving DecidableEq, Repr

/-- a fence at the start of a text; there is no grave accent after a fence of grave accents -/
def fence? (indent : Nat) (t : Text) : Option Fence :=
  match t with
  | [] => none
  | c :: _ =>
    let n := runLength c t
    if (c == '\x60' || c == '~') && 3 ≤ n && !(c == '\x60' && '\x60' ∈ t.drop n) then
      some ⟨c, n, indent⟩
    else none

/-- the line ends a piece of code -/
def Fence.closes (f : Fence) (c : Cursor) (ending : Text) : Bool :=
  let (n, c) := c.take 4
  n < 4 &&
    ((c.rest.isEmpty && ending.isEmpty) ||
      (f.length ≤ runLength f.mark c.rest &&
        (c.rest.drop (runLength f.mark c.rest)).all (· == ' ')))

/-- the content of a heading that is marked with number signs -/
def headingContent? (t : Text) : Option Text :=
  let level := runLength '#' t
  let rest := t.drop level
  if 1 ≤ level && level ≤ 6 && (rest.head?.all isSpaceOrEnd) then
    let content := Text.dropWhileEnd (· == ' ') (rest.dropWhile isSpace)
    let inner := Text.dropWhileEnd (· == '#') content
    if inner.isEmpty || inner.getLast? == some ' ' then
      some (Text.dropWhileEnd (· == ' ') inner)
    else some content
  else none

/-- a line that makes a heading of the lines above it -/
def isUnderline (t : Text) : Bool :=
  match t with
  | [] => false
  | c :: _ => (c == '=' || c == '-') && (t.drop (runLength c t)).all isSpace

/-- the line cannot go on with a paragraph; `inside` says that all containers go on -/
def interruptsParagraph (inside : Bool) (t : Text) : Bool :=
  t.isEmpty || isRule t || (headingContent? t).isSome || (fence? 0 t).isSome ||
    t.head? == some '>' ||
    (match itemMark? t with
      | none => false
      | some mark =>
        let rest := t.drop mark.width
        rest.head?.all (fun c => c == ' ' || c == '\t') &&
          (!inside || (mark.interrupts && !blankAhead rest))) ||
    (match t with
      | '<' :: t => (HtmlBlock.endMark? t).isSome || HtmlBlock.startsElement t
      | _ => false)

/-- a line of code or raw content with the carriage return before its last character left out -/
def dropReturn (line : Text) : Text :=
  match line.reverse with
  | c :: '\r' :: rest => if c.utf8Size = 1 then (c :: rest).reverse else line
  | _ => line

/-- the last of the lines has no line feed yet and goes on -/
def isCut (lines : List Text) : Bool := lines.getLast?.any fun l => l.getLast? == some '\r'

/-- adds to the last of the lines -/
def joinLast (lines : List Text) (more : Text) : List Text :=
  lines.dropLast ++ [lines.getLast?.getD [] ++ more]

/-- the labels that a leaf defines, and the leaf if there is anything else in it -/
def OpenLeaf.close : OpenLeaf → List Text × List Leaf
  | .none => ([], [])
  | .paragraph before content _ =>
    match splitDefinitions content with
    | ([], content) => ([], [.running before content])
    | (labels, []) => (labels, [])
    | (labels, content) => (labels, [.running ' ' content])
  | .indented lines =>
    ([], [.verbatim ((lines.reverse.dropWhile blankAhead).reverse.flatMap dropReturn)])
  | .fenced _ lines => ([], [.verbatim (lines.tail.flatMap dropReturn)])
  | .raw _ lines => ([], [.verbatim (lines.flatMap dropReturn)])

/-! ## reading line by line -/

/-- what has been read -/
structure BlockState where
  containers : List Container
  leaf : OpenLeaf
  labels : List Text
  leaves : List Leaf

namespace BlockState

def start : BlockState := ⟨[], .none, [], []⟩

/-- closes the leaf -/
def close (s : BlockState) : BlockState :=
  let (labels, leaves) := s.leaf.close
  ⟨s.containers, .none, s.labels ++ labels, s.leaves ++ leaves⟩

def withLeaf (s : BlockState) (leaf : OpenLeaf) : BlockState :=
  ⟨s.containers, leaf, s.labels, s.leaves⟩

/-- adds a leaf that does not go on -/
def addLeaf (s : BlockState) (leaf : Leaf) : BlockState :=
  ⟨s.containers, .none, s.labels, s.leaves ++ [leaf]⟩

/-- the character before the end `rest` of a line -/
def before (line rest : Text) : Char := ((upTo line rest).getLast?).getD ' '

/-- opens a leaf with the rest of a line -/
def openLeaf (s : BlockState) (line : SourceLine) (c : Cursor) : BlockState :=
  if blankAhead c.rest then s
  else
    let (indent, inner) := c.take 4
    if indent = 4 then s.withLeaf (.indented [inner.text ++ line.ending])
    else
      let t := inner.rest
      let raw (mark : Option Text) : BlockState :=
        s.withLeaf (.raw mark [Text.blanks indent ++ t ++ line.ending])
      let other : BlockState :=
        if isRule t then s
        else
          match headingContent? t, fence? indent t with
          | some content, _ =>
            let title := (t.drop (runLength '#' t)).dropWhile isSpace
            s.addLeaf (.running (before line.text title) content)
          | none, some f => s.withLeaf (.fenced f [t ++ line.ending])
          | none, none => s.withLeaf (.paragraph (before line.text t) t line.ending)
      match t with
      | '<' :: u =>
        match HtmlBlock.endMark? u with
        | some mark => raw (some mark)
        | none =>
          if HtmlBlock.startsElement u || HtmlBlock.startsWithTag u then raw none else other
      | _ => other

/-- opens containers and a leaf; `inside` are the containers that go on -/
def openLine (s : BlockState) (line : SourceLine) (inside : List Container) (c : Cursor) :
    BlockState :=
  let (more, c) := Container.openAll c
  openLeaf ⟨inside ++ more, .none, s.labels, s.leaves⟩ line c

/-- goes on with one more line -/
def addLine (s : BlockState) (line : SourceLine) : BlockState :=
  let (inside, c) := Container.goOn (.ofText line.text) s.containers
  let all : Bool := inside.length = s.containers.length
  let anew : BlockState := s.close.openLine line inside c
  match s.leaf with
  | .none => anew
  | .paragraph before content ending =>
    let (n, inner) := c.take 4
    let goOn : BlockState :=
      if inner.unindented.isEmpty then anew
      else s.withLeaf (.paragraph before (content ++ ending ++ c.rest) line.ending)
    if n = 4 then goOn
    else if all && isUnderline inner.rest && !(splitDefinitions content).2.isEmpty then s.close
    else if interruptsParagraph all inner.rest then anew
    else goOn
  | .indented lines =>
    let (n, inner) := c.take 4
    if isCut lines then s.withLeaf (.indented (joinLast lines (line.text ++ line.ending)))
    else if all && (n = 4 || inner.rest.isEmpty) then
      s.withLeaf (.indented (lines ++ [inner.text ++ line.ending]))
    else anew
  | .fenced f lines =>
    let inner := (c.take f.indent).2
    if isCut lines then s.withLeaf (.fenced f (joinLast lines (line.text ++ line.ending)))
    else if !all then anew
    else if f.closes inner line.ending then s.close
    else s.withLeaf (.fenced f (lines ++ [inner.text ++ line.ending]))
  | .raw mark lines =>
    let ended : Bool :=
      match mark with
      | some mark => lines.getLast?.any (Text.hasPart mark)
      | none => blankAhead c.rest
    if isCut lines then s.withLeaf (.raw mark (joinLast lines (line.text ++ line.ending)))
    else if !all || ended then anew
    else s.withLeaf (.raw mark (lines ++ [c.text ++ line.ending]))

end BlockState

/-- the leaves of a text in order, and the labels it defines -/
def Leaf.ofText (t : Text) : List Leaf × List Text :=
  let s := ((sourceLines t).foldl BlockState.addLine .start).close
  (s.leaves, s.labels)

end QuestScript.Markup

import QuestScript.Markup.Entity
import QuestScript.Markup.Scan
import QuestScript.Text.Lower

/-!
# Links and their definitions

A link text in brackets is followed by a destination in parentheses, by a label in brackets, or by
nothing; with a label, or with nothing, it refers to a definition elsewhere in the same text.  Two
labels are one if they agree up to letter case and the length of white space.
-/

namespace QuestScript.Markup

/-! ## references to characters -/

/-- a number in front of a semicolon, with `limit` digits at most, and what follows -/
def splitNumber? (base limit : Nat) (isDigit : Char → Bool) (t : Text) : Option (Nat × Text) :=
  let ds := (t.take limit).takeWhile isDigit
  match t.drop ds.length with
  | ';' :: rest => if ds.isEmpty then none else some (numberOf base ds, rest)
  | _ => none

def isHexDigit (c : Char) : Bool := c.isDigit || ('a' ≤ c.toLower && c.toLower ≤ 'f')

/-- the code point of a reference by number, and what follows; the text starts after the `#` -/
def splitCodePoint? : Text → Option (Nat × Text)
  | [] => none
  | c :: t =>
    if c == 'x' || c == 'X' then splitNumber? 16 6 isHexDigit t
    else splitNumber? 10 7 Char.isDigit (c :: t)

/-- the character of a code point; the null character is replaced, and not every number is one -/
def characterOf? (n : Nat) : Option Char :=
  if n = 0 then some '\uFFFD'
  else if n.isValidChar then some (Char.ofNat n)
  else none

/-- the characters that `&…;` stands for, and what follows; the text starts after the `&` -/
def splitEntity? (t : Text) : Option (Text × Text) :=
  match t with
  | '#' :: t =>
    (splitCodePoint? t).bind fun (n, rest) => (characterOf? n).map fun c => ([c], rest)
  | t =>
    match t.dropWhile Char.isAlphanum with
    | ';' :: rest => (namedCharacters? (t.takeWhile Char.isAlphanum)).map fun cs => (cs, rest)
    | _ => none

/-! ## destinations and titles -/

/-- a destination between angle brackets, after the opening one -/
def dropPointed? : Text → Option Text
  | [] => none
  | '>' :: t => some t
  | '\\' :: c :: t => if isMark c then dropPointed? t else dropPointed? (c :: t)
  | c :: t => if isLineEnd c || c == '<' then none else dropPointed? t

/-- the deepest nesting of parentheses in a destination -/
def maxNesting : Nat := 5

/-- a destination without angle brackets inside `depth` open parentheses -/
def dropBare? (depth : Nat) : Text → Option Text
  | [] => if depth = 0 then some [] else none
  | '\\' :: c :: t => if isMark c then dropBare? depth t else dropBare? depth (c :: t)
  | c :: t =>
    if c.toNat ≤ 0x20 then if depth = 0 then some (c :: t) else none
    else if c == '(' then if depth > maxNesting then none else dropBare? (depth + 1) t
    else if c == ')' then
      match depth with
      | 0 => some (c :: t)
      | depth + 1 => dropBare? depth t
    else dropBare? depth t

/-- a destination -/
def dropDestination? : Text → Option Text
  | '<' :: t => dropPointed? t
  | t => dropBare? 0 t

/-- the mark that closes a title -/
def titleClose? : Char → Option Char
  | '"' => some '"'
  | '\'' => some '\''
  | '(' => some ')'
  | _ => none

/-- a title after its opening mark -/
def dropTitleRest? (opening closing : Char) : Text → Option Text
  | [] => none
  | '\\' :: c :: t =>
    if isMark c then dropTitleRest? opening closing t else dropTitleRest? opening closing (c :: t)
  | c :: t =>
    if c == closing then some t
    else if c == opening then none
    else dropTitleRest? opening closing t

/-- a title -/
def dropTitle? : Text → Option Text
  | [] => none
  | c :: t => (titleClose? c).bind fun closing => dropTitleRest? c closing t

/-- the destination of a link and its title, in parentheses -/
def dropTarget? : Text → Option Text
  | '(' :: t =>
    match dropDestination? (skipSeparator t) with
    | none => none
    | some t =>
      let t := skipSeparator t
      let t := match dropTitle? t with
        | some t => skipSeparator t
        | none => t
      match t with
      | ')' :: t => some t
      | _ => none
  | _ => none

/-! ## labels -/

/-- the number of line ends in a text -/
def lineEnds : Text → Nat
  | [] => 0
  | '\r' :: '\n' :: t => lineEnds t + 1
  | c :: t => lineEnds t + if isLineEnd c then 1 else 0

/-- the text of a label up to its closing bracket, white space as single blanks, and the rest; a
blank line is no part of a label -/
def splitLabelRest? (t : Text) : Option (Text × Text) :=
  match t with
  | [] => none
  | '[' :: _ => none
  | ']' :: rest => some ([], rest)
  | '\\' :: c :: t => (splitLabelRest? t).map fun (l, rest) => ('\\' :: c :: l, rest)
  | c :: t =>
    if isSpaceOrEnd c then
      have : (t.dropWhile isSpaceOrEnd).length < (c :: t).length :=
        Nat.lt_succ_of_le (List.dropWhile_suffix isSpaceOrEnd).length_le
      if lineEnds (c :: t.takeWhile isSpaceOrEnd) > 1 then none
      else (splitLabelRest? (t.dropWhile isSpaceOrEnd)).map fun (l, rest) => (' ' :: l, rest)
    else (splitLabelRest? t).map fun (l, rest) => (c :: l, rest)
termination_by t.length
decreasing_by
  · simp only [List.length_cons]; omega
  · assumption
  · simp only [List.length_cons]; omega

/-- the longest label -/
def maxLabel : Nat := 1000

/-- a label after its opening bracket, in the form in which labels are compared -/
def splitLabel? (t : Text) : Option (Text × Text) :=
  (splitLabelRest? t).bind fun (l, rest) =>
    if l.all (· == ' ') || l.length > maxLabel then none else some (Text.fold l, rest)

/-! ## definitions -/

/-- the white space inside a definition, over one line end at most, and whether there was one -/
def definitionSpace (t : Text) : Text × Bool :=
  let u := t.dropWhile isSpace
  match dropLineEnd? u with
  | some u => (u.dropWhile isSpace, true)
  | none => (u, false)

/-- the rest of the line if it is blank, without the line end -/
def dropBlank? (t : Text) : Option Text :=
  let t := t.dropWhile isSpace
  if atLineEnd t then some t else none

/-- a definition at the start of a paragraph: its label, and what follows it -/
def splitDefinition? (t : Text) : Option (Text × Text) :=
  match t with
  | '[' :: t =>
    match splitLabel? t with
    | some (label, ':' :: t) =>
      let t := (definitionSpace t).1
      match dropDestination? t with
      | none => none
      | some u =>
        if u.length = t.length then none
        else
          let (v, newLine) := definitionSpace u
          let bare := (dropBlank? u).map fun rest => (label, rest)
          if v.length = u.length then bare
          else
            match (dropTitle? v).bind dropBlank? with
            | some rest => some (label, rest)
            | none => if newLine then bare else if v.isEmpty then bare else none
    | _ => none
  | _ => none

/-- the labels defined at the start of a paragraph, and the text after the definitions -/
def splitDefinitions (t : Text) : List Text × Text :=
  match splitDefinition? t with
  | none => ([], t)
  | some (label, rest) =>
    let rest := ((dropLineEnd? rest).getD rest).dropWhile isSpace
    if _h : rest.length < t.length then
      let (labels, rest) := splitDefinitions rest
      (label :: labels, rest)
    else ([label], rest)
termination_by t.length

end QuestScript.Markup

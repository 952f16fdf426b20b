import QuestScript.Markup.Scan

/-!
# Tags, comments and addresses between angle brackets

What can follow a `<` in running text: a start tag or an end tag, a comment, a processing
instruction, a declaration, a section of character data, or an address.  Every reader is given the
text after the `<` and gives the rest after the closing `>`.
-/

namespace QuestScript.Markup

namespace Tag

def isNameChar (c : Char) : Bool := c.isAlphanum || c == '-'

def isAttributeStart (c : Char) : Bool := c.isAlpha || c == '_' || c == ':'

def isAttributeChar (c : Char) : Bool :=
  c.isAlphanum || c == '_' || c == '.' || c == ':' || c == '-'

/-- a character of an attribute value without quotes -/
def isBareChar (c : Char) : Bool :=
  !(c == '\'' || c == '"' || c == ' ' || c == '=' || c == '>' || c == '<' || c == '\x60' ||
    isLineEnd c)

/-- skips white space; line ends are skipped only if the tag may go on over several lines -/
def skipSpace? (acrossLines : Bool) (t : Text) : Option Text :=
  let t := t.dropWhile isSpace
  if atLineEnd t then
    if acrossLines && !t.isEmpty then
      match t.dropWhile isSpaceOrEnd with
      | [] => none
      | t => some t
    else none
  else some t

/-- the text after a closing quote -/
def dropQuote? (quote : Char) (acrossLines : Bool) (t : Text) : Option Text :=
  match t.dropWhile (fun c => c != quote && (acrossLines || !isLineEnd c)) with
  | c :: rest => if c == quote then some rest else none
  | [] => none

/-- the value of an attribute -/
def dropValue? (acrossLines : Bool) : Text → Option Text
  | [] => none
  | c :: t =>
    if c == '"' || c == '\'' then dropQuote? c acrossLines t
    else if isBareChar c then some (t.dropWhile isBareChar)
    else none

/-- an attribute, with its value if there is one -/
def dropAttribute? (acrossLines : Bool) : Text → Option Text
  | [] => none
  | c :: t =>
    if isAttributeStart c then
      let afterName := t.dropWhile isAttributeChar
      match skipSpace? acrossLines afterName with
      | some ('=' :: t) => (skipSpace? acrossLines t).bind (dropValue? acrossLines)
      | some _ => some afterName
      | none => none
    else none

/-- the attributes of a start tag; what is left starts with `/` or `>` -/
def dropAttributes? (acrossLines : Bool) (t : Text) : Option Text :=
  match skipSpace? acrossLines t with
  | none => none
  | some ('/' :: rest) => some ('/' :: rest)
  | some ('>' :: rest) => some ('>' :: rest)
  | some rest =>
    if rest.length = t.length then none
    else
      match dropAttribute? acrossLines rest with
      | none => none
      | some rest =>
        if _h : rest.length < t.length then dropAttributes? acrossLines rest else none
termination_by t.length

/-- the end of a start tag -/
def dropClose? : Text → Option Text
  | '/' :: '>' :: t => some t
  | '>' :: t => some t
  | _ => none

/-- a start tag or an end tag -/
def drop? (acrossLines : Bool) (t : Text) : Option Text :=
  let (isEnd, t) := match t with
    | '/' :: t => (true, t)
    | t => (false, t)
  match t with
  | [] => none
  | c :: t =>
    if c.isAlpha then
      let t := t.dropWhile isNameChar
      if isEnd then
        match t.dropWhile isSpace with
        | '>' :: t => some t
        | _ => none
      else (dropAttributes? acrossLines t).bind dropClose?
    else none

end Tag

/-- a tag, comment, instruction, declaration or section of character data -/
def dropHtml? (t : Text) : Option Text :=
  match t with
  | '!' :: '-' :: '-' :: '>' :: t => some t
  | '!' :: '-' :: '-' :: '-' :: '>' :: t => some t
  | '!' :: '-' :: '-' :: t => dropPast? "-->" t
  | '!' :: '[' :: 'C' :: 'D' :: 'A' :: 'T' :: 'A' :: '[' :: t => dropPast? "]]>" t
  | '!' :: c :: t => if c.isAlpha then dropPast? ['>'] t else none
  | '?' :: t => dropPast? "?>" t
  | t => Tag.drop? true t

namespace Address

/-- an address with a scheme of 2 to 32 characters -/
def dropUri? (t : Text) : Option Text :=
  match t with
  | [] => none
  | c :: _ =>
    let isSchemeChar (c : Char) : Bool := c.isAlphanum || c == '.' || c == '-' || c == '+'
    let scheme := t.takeWhile isSchemeChar
    if c.isAlpha && 2 ≤ scheme.length && scheme.length ≤ 32 then
      match t.dropWhile isSchemeChar with
      | ':' :: t =>
        match t.dropWhile fun c => !(c.toNat ≤ 0x20 || c == '<' || c == '>') with
        | '>' :: t => some t
        | _ => none
      | _ => none
    else none

def isMailboxChar (c : Char) : Bool := c.isAlphanum || c ∈ ".!#$%&'*+/=?^_\x60\x7b|\x7d~-".toList

/-- a part of a host name between points -/
def isHostLabel (l : Text) : Bool :=
  !l.isEmpty && l.length ≤ 63 && l.head? != some '-' && l.getLast? != some '-'

/-- a mailbox, `@`, and a host name -/
def dropMailbox? (t : Text) : Option Text :=
  if (t.takeWhile isMailboxChar).isEmpty then none
  else
    match t.dropWhile isMailboxChar with
    | '@' :: t =>
      let isHostChar (c : Char) : Bool := c.isAlphanum || c == '-' || c == '.'
      if (Text.splitOn '.' (t.takeWhile isHostChar)).all isHostLabel then
        match t.dropWhile isHostChar with
        | '>' :: t => some t
        | _ => none
      else none
    | _ => none

/-- an address of either kind -/
def drop? (t : Text) : Option Text := (dropUri? t).or (dropMailbox? t)

end Address

/-! ## tags that open a block -/

namespace HtmlBlock

/-- the names of the elements that open a block -/
def blockNames : List Text :=
  ["address article aside base basefont blockquote body caption center col colgroup dd details",
    "dialog dir div dl dt fieldset figcaption figure footer form frame frameset h1 h2 h3 h4 h5 h6",
    "head header hr html iframe legend li link main menu menuitem nav noframes ol optgroup option",
    "p param search section summary table tbody td tfoot th thead title tr track ul"].flatMap
    fun (line : String) => Text.splitOn ' ' line.toList

def lowerAscii (t : Text) : Text := t.map Char.toLower

/-- the elements whose content is taken as it is, and the tags that end them -/
def rawElements : List (Text × Text) :=
  [("pre", "</pre>"), ("style", "</style>"), ("script", "</script>"), ("textarea", "</textarea>")]

/-- the mark that ends a block of raw content, if one starts here -/
def endMark? (t : Text) : Option Text :=
  let starts (name : Text) : Bool :=
    match Text.dropPrefix? name (lowerAscii t) with
    | some [] => true
    | some (c :: _) => isSpaceOrEnd c || c == '>'
    | none => false
  match rawElements.find? (fun e => starts e.1) with
  | some e => some e.2
  | none =>
    if Text.startsWith "!--" t then some "-->"
    else if Text.startsWith ['?'] t then some "?>"
    else if Text.startsWith "![CDATA[" t then some "]]>"
    else
      match t with
      | '!' :: c :: _ => if c.isAlpha then some ['>'] else none
      | _ => none

/-- the tag of a block element comes next -/
def startsElement (t : Text) : Bool :=
  let t := match t with
    | '/' :: t => t
    | t => t
  lowerAscii (t.takeWhile Char.isAlphanum) ∈ blockNames &&
    match t.dropWhile Char.isAlphanum with
    | [] => true
    | '/' :: '>' :: _ => true
    | c :: _ => c == ' ' || c == '\t' || isLineEnd c || c == '>'

/-- a line that holds one tag and nothing else comes next -/
def startsWithTag (t : Text) : Bool := (Tag.drop? false t).any blankAhead

end HtmlBlock

end QuestScript.Markup

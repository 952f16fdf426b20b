import QuestScript.Markup.Block
import QuestScript.Character.Properties
import QuestScript.Character.Blank

/-!
# Running text as tokens

Running text is read from left to right.  Code, raw tags, addresses, references to characters and
escaped marks become text, a line end becomes a blank, and the brackets of a link or an image go
while what is between them stays together.  Runs of `*`, `_` and `~` are left for
`QuestScript.Markup.Phrase`; each knows whether it can open and whether it can close a phrase.
-/

namespace QuestScript.Markup

/-- a piece of running text -/
inductive Token where
  | text (content : Text)
  /-- a run of one of the marks `*`, `_` and `~` -/
  | run (mark : Char) (length : Nat) (opens closes : Bool)
  /-- the content of a link or an image -/
  | nested (tokens : List Token)
deriving Repr

/-! ## runs of marks -/

/-- a run of `n` marks after `before` and in front of `after` can open a phrase -/
def canOpen (mark : Char) (n : Nat) (before : Char) (after : Option Char) : Bool :=
  match after with
  | none => false
  | some next =>
    !Character.isBlank next &&
      ((mark == '*' && !Character.isPunctuation next) || (mark == '~' && n > 1) ||
        (mark == '~' && before == '~' && !Character.isPunctuation next) ||
        Character.isBlank before || Character.isPunctuation before)

/-- a run of `n` marks after `before` and in front of `after` can close a phrase -/
def canClose (mark : Char) (n : Nat) (before : Char) (after : Option Char) : Bool :=
  !Character.isBlank before &&
    match after with
    | none => true
    | some next =>
      ((mark == '*' || (mark == '~' && n > 1)) && !Character.isPunctuation before) ||
        (mark == '~' && before == '~') || Character.isBlank next || Character.isPunctuation next

/-- a run of `n` marks; a run that can neither open nor close, or of more than two `~`, is text -/
def runToken (mark : Char) (n : Nat) (before : Char) (after : Option Char) : Token :=
  let opens := canOpen mark n before after
  let closes := canClose mark n before after
  if (opens || closes) && !(mark == '~' && n > 2) then .run mark n opens closes
  else .text (List.replicate n mark)

/-! ## code -/

/-- the text before the first run of exactly `n` grave accents, and the text after it -/
def splitCode? (n : Nat) : Text → Option (Text × Text)
  | [] => none
  | c :: t =>
    if c == '\x60' then
      let k := runLength '\x60' t
      if k + 1 = n then some ([], t.drop k)
      else
        (splitCode? n (t.drop k)).map fun (code, rest) =>
          (List.replicate (k + 1) '\x60' ++ code, rest)
    else (splitCode? n t).map fun (code, rest) => (c :: code, rest)
termination_by t => t.length
decreasing_by
  · simp only [List.length_drop, List.length_cons]; omega
  · simp

/-- line ends as blanks -/
def endsAsBlanks : Text → Text
  | [] => []
  | '\r' :: '\n' :: t => ' ' :: endsAsBlanks t
  | c :: t => (if isLineEnd c then ' ' else c) :: endsAsBlanks t

/-- the content of code; of the blanks at both ends one is left out, unless there is nothing else -/
def codeContent (raw : Text) : Text :=
  let code := endsAsBlanks raw
  if code.head? == some ' ' && code.getLast? == some ' ' && !code.all (· == ' ') then
    code.tail.dropLast
  else code

/-! ## brackets -/

inductive BracketKind where
  | link
  | image
  /-- the opening bracket of a link around another link -/
  | barred
deriving DecidableEq, Repr

/-- an opening bracket -/
structure Bracket where
  kind : BracketKind
  /-- the text after the bracket -/
  source : Text
  /-- the tokens before the bracket, last one first -/
  before : List Token

/-- the tokens so far and the brackets that are open -/
structure Scan where
  /-- tokens since the last open bracket, last one first -/
  tokens : List Token
  /-- open brackets, last one first -/
  brackets : List Bracket
  /-- closing brackets of labels that are not defined, by the number of characters after them -/
  undefinedLabels : List Nat

namespace Scan

def start : Scan := ⟨[], [], []⟩

def add (s : Scan) (token : Token) : Scan := ⟨token :: s.tokens, s.brackets, s.undefinedLabels⟩

def addText (s : Scan) (t : Text) : Scan := s.add (.text t)

def openBracket (s : Scan) (kind : BracketKind) (source : Text) : Scan :=
  ⟨[], ⟨kind, source, s.tokens⟩ :: s.brackets, s.undefinedLabels⟩

/-- the text of an opening bracket that opens nothing -/
def bracketText (b : Bracket) : Text := if b.kind = .image then ['!', '['] else ['[']

/-- the tokens with the open brackets as text, last one first -/
def flatten (tokens : List Token) : List Bracket → List Token
  | [] => tokens
  | b :: bs => flatten (tokens ++ .text (bracketText b) :: b.before) bs

/-- all tokens in order -/
def finish (s : Scan) : List Token := (flatten s.tokens s.brackets).reverse

/-- a link in a link is none: bars the open brackets of links -/
def bar (b : Bracket) : Bracket := if b.kind = .link then ⟨.barred, b.source, b.before⟩ else b

/-- the text after a link whose closing bracket is followed by `t`, and the label that turned out
not to be defined if there is one -/
def target? (s : Scan) (labels : List Text) (b : Bracket) (t : Text) :
    Option Text × Option Nat :=
  let own (rest : Text) : Option Text :=
    if s.undefinedLabels.contains t.length then none
    else
      match splitLabel? b.source with
      | some (label, after) =>
        if after.length = t.length && labels.contains label then some rest else none
      | none => none
  match dropTarget? t with
  | some rest => (some rest, none)
  | none =>
    match t with
    | '[' :: ']' :: rest => (own rest, none)
    | '[' :: u =>
      match splitLabel? u with
      | some (label, rest) =>
        if labels.contains label then (some rest, some rest.length) else (none, some rest.length)
      | none => (own t, none)
    | _ => (own t, none)

/-- goes on with a closing bracket that is followed by `t`; what is left of `t` -/
def closeBracket (s : Scan) (labels : List Text) (t : Text) : Scan × Text :=
  match s.brackets with
  | [] => (s.addText [']'], t)
  | b :: bs =>
    let asText : List Token := .text [']'] :: s.tokens ++ .text (bracketText b) :: b.before
    if b.kind = .barred then (⟨asText, bs, s.undefinedLabels⟩, t)
    else
      let (target, undefinedLabel) := s.target? labels b t
      let undefinedLabels := undefinedLabel.toList ++ s.undefinedLabels
      match target with
      | none => (⟨asText, bs, undefinedLabels⟩, t)
      | some rest =>
        (⟨.nested s.tokens.reverse :: b.before, if b.kind = .link then bs.map bar else bs,
          undefinedLabels⟩, rest)

/-! ## one step -/

/-- goes on with an escaped character, or a line end after a backslash -/
def escape (s : Scan) (t : Text) : Scan × Text :=
  match t with
  | [] => (s.addText ['\\'], [])
  | c :: rest =>
    if c == '\x60' then
      let n := runLength '\x60' t
      match if n = 1 then none else splitCode? (n - 1) (t.drop n) with
      | some (code, rest) => ((s.addText ['\x60']).addText (codeContent code), rest)
      | none => (s.addText (t.take n), t.drop n)
    else if isMark c then (s.addText [c], rest)
    else if isLineEnd c then (s, t)
    else (s.addText ['\\'], t)

/-- goes on with what is between angle brackets -/
def angle (s : Scan) (t : Text) : Scan × Text :=
  match t with
  | '\\' :: _ => (s.addText ['<'], t)
  | _ =>
    match Address.drop? t with
    | some rest => (s.addText (upTo t rest).dropLast, rest)
    | none =>
      match dropHtml? t with
      | some rest => (s.addText ('<' :: upTo t rest), rest)
      | none => (s.addText ['<'], t)

/-- goes on with the character `c`, which stands between `before` and `t`; what is left of `t` -/
def step (labels : List Text) (s : Scan) (before c : Char) (t : Text) : Scan × Text :=
  if isLineEnd c then
    (s.addText [' '], ((dropLineEnd? (c :: t)).getD t).dropWhile fun d => d == ' ' || d == '\t')
  else if isSpace c then if blankAhead t then (s, t.dropWhile isSpace) else (s.addText [c], t)
  else if c == '*' || c == '_' || c == '~' then
    let n := runLength c t
    (s.add (runToken c (n + 1) before (t.drop n).head?), t.drop n)
  else
    match c with
    | '\\' => s.escape t
    | '\x60' =>
      let n := runLength '\x60' t
      match splitCode? (n + 1) (t.drop n) with
      | some (code, rest) => (s.addText (codeContent code), rest)
      | none => (s.addText (List.replicate (n + 1) '\x60'), t.drop n)
    | '<' => s.angle t
    | '!' =>
      match t with
      | '[' :: rest => (s.openBracket .image rest, rest)
      | _ => (s.addText ['!'], t)
    | '[' => (s.openBracket .link t, t)
    | ']' => s.closeBracket labels t
    | '&' =>
      match splitEntity? t with
      | some (cs, rest) => (s.addText cs, rest)
      | none => (s.addText ['&'], t)
    | c => (s.addText [c], t)

/-- goes on to the end of the text -/
def run (labels : List Text) (s : Scan) (before : Char) (t : Text) : Scan :=
  match t with
  | [] => s
  | c :: u =>
    let (s, rest) := s.step labels before c u
    if _h : rest.length < (c :: u).length then
      run labels s ((upTo (c :: u) rest).getLast?.getD c) rest
    else s
termination_by t.length
decreasing_by assumption

end Scan

/-- the tokens of running text; `before` is the character that precedes it -/
def Token.ofText (labels : List Text) (before : Char) (t : Text) : List Token :=
  (Scan.start.run labels before t).finish

end QuestScript.Markup

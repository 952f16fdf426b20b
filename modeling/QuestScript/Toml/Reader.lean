import QuestScript.Toml.Dates
import QuestScript.Toml.Document

/-!
# Reading configuration texts

A configuration text is a sequence of entries `key = value` and of headers `[table]` and
`[[array of tables]]`, each on a line of its own.  A value can hold other values, which are read by
the same rules, up to a depth of nesting.  The first fault ends the reading.
-/

namespace QuestScript.Toml

/-! ## keys -/

/-- the part of a key that the text starts with -/
def simpleKey (t : Text) : Except Fault (Key × Text) :=
  match t with
  | [] => .error ((Fault.atStart t).within "key")
  | c :: _ => do
    let (name, rest) ←
      if c == '"' then basicRest t.tail
      else if c == '\'' then literalRest t.tail
      else if isBareKeyChar c then .ok (t.takeWhile isBareKeyChar, t.dropWhile isBareKeyChar)
      else .error ((Fault.atStart t).within "key")
    return (⟨name, .upTo t rest⟩, rest)

/-- the parts of a dotted key, with blanks around each; a point without a key after it is left -/
def dottedKey (t : Text) : Except Fault ((List Key × Key) × Text) := do
  let (k, rest) ← simpleKey (dropSpaces t)
  let rest := dropSpaces rest
  match rest with
  | '.' :: r =>
    if r.length < t.length then
      match dottedKey r with
      | .ok ((ks, last), rest) => return ((k :: ks, last), rest)
      | .error f => if f.firm then throw f else return (([], k), rest)
    else return (([], k), rest)
  | _ => return (([], k), rest)
termination_by t.length

/-! ## values -/

/-- reads a value in another value -/
abbrev Inner := Text → Except Fault (Node × Text)

/-- no value starts here; it is most likely a string without quotes -/
def noValue (t : Text) : Fault :=
  ((Fault.atStart t).within "string").expecting ["\x60\"\x60", "\x60'\x60"]

/-- a word that is a value -/
def word (w : Text) (v : Value) (firm : Bool) (t : Text) : Except Fault (Value × Text) :=
  match Text.dropPrefix? w t with
  | some rest => .ok (v, rest)
  | none => .error { noValue t with firm := firm }

/-- the values of an array up to a place where there is none -/
def arrayItems (inner : Inner) (t : Text) : Except Fault (List Node × Text) :=
  let item : Except Fault (Node × Text) := do
    let (v, rest) ← inner (← dropLines t)
    return (v, ← dropLines rest)
  match item with
  | .error f => if f.firm then .error f else .ok ([], t)
  | .ok (v, ',' :: r) =>
    if r.length < t.length then do
      let (vs, rest) ← arrayItems inner r
      return (v :: vs, rest)
    else .ok ([v], ',' :: r)
  | .ok (v, rest) => .ok ([v], rest)
termination_by t.length

/-- an array, from the character after its opening bracket -/
def array (inner : Inner) (t : Text) : Except Fault (Value × Text) := do
  let (items, rest) ← arrayItems inner t
  match ← (dropLines rest).mapError Fault.asFirm with
  | ']' :: rest => return (.array items, rest)
  | rest => throw (((Fault.atStart rest).within "array").expecting ["\x60]\x60"]).asFirm

/-- what has to stand between a key and its value -/
def equals (t : Text) : Except Fault Text :=
  match t with
  | '=' :: rest => .ok (dropSpaces rest)
  | _ => .error ((Fault.atStart t).expecting ["\x60.\x60", "\x60=\x60"])

/-- a key and its value -/
def pair (inner : Inner) (t : Text) : Except Fault (((List Key × Key) × Node) × Text) := do
  let (key, rest) ← dottedKey t
  let (v, rest) ← (equals rest >>= inner).mapError Fault.asFirm
  return ((key, v), rest)

/-- the pairs of a table between braces up to a place where there is none; a comma without a pair
after it is left -/
def pairs (inner : Inner) (t : Text) :
    Except Fault (List ((List Key × Key) × Node) × Text) :=
  match pair inner t with
  | .error f => if f.firm then .error f else .ok ([], t)
  | .ok (p, rest) =>
    match dropSpaces rest with
    | ',' :: r =>
      if r.length < t.length then do
        let (ps, after) ← pairs inner r
        if ps.isEmpty then return ([p], ',' :: r) else return (p :: ps, after)
      else .ok ([p], ',' :: r)
    | rest => .ok ([p], rest)
termination_by t.length

/-- a table, from the character after its opening brace -/
def braced (inner : Inner) (t : Text) : Except Fault (Value × Text) := do
  let (ps, rest) ← pairs inner t
  match Table.ofPairs ps with
  | .error problem => throw ((Fault.atStart t).because problem.message).asFirm
  | .ok table =>
    match dropSpaces rest with
    | '\x7d' :: rest => return (.table table.origin table.entries, rest)
    | rest =>
      throw (((Fault.atStart rest).within "inline table").expecting ["\x60\x7d\x60"]).asFirm

/-- a value whose inner values are read by `inner` -/
def valueWith (inner : Inner) (t : Text) : Except Fault (Node × Text) := do
  let (v, rest) : Value × Text ←
    match t with
    | [] => throw (.atStart t)
    | c :: r =>
      if c == '"' || c == '\'' then (string c t).map fun (s, rest) => (Value.string s, rest)
      else if c == '[' then array inner r
      else if c == '\x7b' then braced inner r
      else if c == '+' || c == '-' || c.isDigit then (datetime? t).getD (number t)
      else if c == '_' then
        throw (((Fault.atStart t).within integerSubject).expecting ["leading digit"])
      else if c == '.' then
        throw (((Fault.atStart t).within floatSubject).expecting ["leading digit"])
      else if c == 't' then word "true" (.boolean true) true t
      else if c == 'f' then word "false" (.boolean false) true t
      else if c == 'i' then word "inf" (.float "inf") false t
      else if c == 'n' then word "nan" (.float "NaN") false t
      else throw (noValue t)
  return ((some (.upTo t rest), v), rest)

/-- a value with at most so many values around one of its parts -/
def value : Nat → Inner
  | 0 => valueWith fun t =>
    .error ((Fault.atStart t).because "recursion limit exceeded").asFirm
  | depth + 1 => valueWith (value depth)

/-- the depth of nesting that values can have -/
def maxDepth : Nat := 80

/-! ## documents -/

/-- goes on with an entry -/
def readEntry (d : Document) (t : Text) : Except Fault (Document × Text) := do
  let (((path, k), v), rest) ← pair (value maxDepth) t
  let rest ← endOfLine rest
  match d.entry path k v with
  | .ok d => return (d, rest)
  | .error problem => throw ((Fault.atStart t).because problem.message)

def headerSubject : Text := "table header"

/-- goes on with a header, which starts with a bracket -/
def readHeader (d : Document) (t : Text) : Except Fault (Document × Text) := do
  let listed := t.take 2 == ['[', '[']
  let bracket : Text := if listed then [']', ']'] else [']']
  if t.length < 2 then throw (Fault.atStart t)
  let ((path, k), rest) ← dottedKey (t.drop bracket.length)
  match Text.dropPrefix? bracket rest with
  | none => throw ((Fault.atStart rest).expecting ["\x60.\x60", '\x60' :: bracket ++ ['\x60']])
  | some after =>
    let rest ← endOfLine after
    match d.openTable path k listed (.upTo t after) with
    | .ok d => return (d, rest)
    | .error problem => throw ((Fault.atStart t).because problem.message)

/-- goes on with the statement that the text starts with -/
def readStatement (d : Document) (t : Text) : Except Fault (Document × Text) :=
  match t with
  | '#' :: _ =>
    let rest := dropComment t
    match dropLastLineEnd? rest with
    | some rest => .ok (d, rest)
    | none => .error (.atStart rest)
  | '[' :: _ => (readHeader d t).mapError (·.within headerSubject)
  | '\n' :: rest => .ok (d, rest)
  | '\r' :: '\n' :: rest => .ok (d, rest)
  | '\r' :: _ => .error (.atStart t)
  | _ => readEntry d t

/-- goes on to the end of the text -/
def readStatements (d : Document) (t : Text) : Except Fault Document :=
  match dropSpaces t with
  | [] => .ok d
  | c :: r => do
    let (d, rest) ← readStatement d (c :: r)
    if rest.length < t.length then readStatements d rest else return d
termination_by t.length

/-- reads a configuration text; a byte order mark may stand in front -/
def read (source : Text) : Except Fault Table := do
  let d ← readStatements .start ((Text.dropPrefix? ['\ufeff'] source).getD source)
  match d.close with
  | .ok t => return t
  | .error problem => throw ((Fault.atStart []).because problem.message)

end QuestScript.Toml

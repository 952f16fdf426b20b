import QuestScript.Toml.Lines

/-!
# Strings in a configuration text

A string stands between double quotes, where a backslash starts an escape, or between single quotes,
where it does not; between triple quotes it can go over several lines, and the line end right after
the opening quotes does not count.
-/

namespace QuestScript.Toml

/-- a character that stands for itself between the given quotes -/
def isPlain (quote c : Char) : Bool :=
  isCommentChar c && c != quote && !(quote == '"' && c == '\\')

/-! ## escapes -/

def isHexDigit (c : Char) : Bool :=
  c.isDigit || ('a' ≤ c && c ≤ 'f') || ('A' ≤ c && c ≤ 'F')

def hexDigit (c : Char) : Nat :=
  if c.isDigit then c.toNat - '0'.toNat else c.toLower.toNat - 'a'.toNat + 10

/-- the number with the given digits in a base -/
def ofDigits (base : Nat) (ds : Text) : Nat := ds.foldl (fun n c => base * n + hexDigit c) 0

/-- the character of a code point -/
def charOf? (n : Nat) : Option Char := if h : n.isValidChar then some (Char.ofNatAux n h) else none

/-- the character with a code point of `n` digits, which `t` starts with -/
def codePoint (n : Nat) (subject : Text) (t : Text) : Except Fault Char :=
  let fault := ((Fault.atStart t).within subject).asFirm
  let ds := (t.take n).takeWhile isHexDigit
  if ds.length < n then .error fault
  else
    match charOf? (ofDigits 16 ds) with
    | some c => .ok c
    | none => .error (fault.because "value is out of range")

/-- the characters that can follow the backslash of an escape, as they stand in messages -/
def escapeLetters : List Text := ["b", "f", "n", "r", "t", "u", "U", "\\", "\""]

/-- the character of the escape whose backslash is before the text, and the number of characters
that belong to the escape -/
def escape (c : Char) (t : Text) : Except Fault (Char × Nat) :=
  if c == 'b' then .ok ('\x08', 1)
  else if c == 'f' then .ok ('\x0c', 1)
  else if c == 'n' then .ok ('\n', 1)
  else if c == 'r' then .ok ('\r', 1)
  else if c == 't' then .ok ('\t', 1)
  else if c == '\\' || c == '"' then .ok (c, 1)
  else if c == 'u' then (codePoint 4 "unicode 4-digit hex code" t).map (·, 5)
  else if c == 'U' then (codePoint 8 "unicode 8-digit hex code" t).map (·, 9)
  else
    let place := if c.utf8Size = 1 then t else c :: t
    .error (((Fault.atStart place).within "escape sequence").expecting
      (escapeLetters.map fun l => '\x60' :: l ++ ['\x60'])).asFirm

/-! ## strings in one line -/

/-- a string is not closed where it should be -/
def unclosed (subject t : Text) : Fault := ((Fault.atStart t).within subject).asFirm

/-- the rest of a string between double quotes -/
def basicRest (t : Text) : Except Fault (Text × Text) :=
  match t with
  | [] => .error (unclosed "basic string" [])
  | '"' :: r => .ok ([], r)
  | '\\' :: [] => .error (unclosed "basic string" t)
  | '\\' :: c :: r => do
    let (e, n) ← escape c r
    let (s, rest) ← basicRest ((c :: r).drop n)
    return (e :: s, rest)
  | c :: r =>
    if isPlain '"' c then do
      let (s, rest) ← basicRest r
      return (c :: s, rest)
    else .error (unclosed "basic string" t)
termination_by t.length
decreasing_by
  · simp only [List.length_drop, List.length_cons]; omega
  · simp

/-- the rest of a string between single quotes -/
def literalRest (t : Text) : Except Fault (Text × Text) :=
  match t.dropWhile (isPlain '\'') with
  | '\'' :: rest => .ok (t.takeWhile (isPlain '\''), rest)
  | rest => .error (unclosed "literal string" rest)

/-! ## strings over several lines -/

/-- what follows a backslash at the end of a line: the string goes on at the next character that is
neither a blank nor a line end -/
def dropContinuation? (t : Text) : Option Text := (dropLineEnd? (dropSpaces t)).map dropBlankLines

/-- the number of quotes in a run of `n` before three closing ones -/
def spareQuotes (n : Nat) : Nat := min (n - 3) 2

/-- the length of the run of `c` that the text starts with -/
def runLength (c : Char) (t : Text) : Nat := (t.takeWhile (· == c)).length

/-- the character of a multi-line string that the text starts with, and the text after it; a line
end is a line feed, and a backslash at the end of a line stands for nothing -/
def longItem? (quote : Char) : Text → Except Fault (Option (Text × Text))
  | [] => .ok none
  | c :: r =>
    if isPlain quote c then .ok (some ([c], r))
    else if c == '\\' then
      match dropContinuation? r, r with
      | some rest, _ => .ok (some ([], rest))
      | none, [] => .ok none
      | none, e :: r => (escape e r).map fun (e', n) => some ([e'], (e :: r).drop n)
    else .ok ((dropLineEnd? (c :: r)).map fun rest => (['\n'], rest))

/-- the rest of a multi-line string -/
def longRest (quote : Char) (subject t : Text) : Except Fault (Text × Text) :=
  let n := runLength quote t
  if n ≥ 3 then .ok (List.replicate (spareQuotes n) quote, t.drop (spareQuotes n + 3))
  else
    match longItem? quote (t.drop n) with
    | .error f => .error f
    | .ok none => .error (unclosed subject (if quote == '"' && n < t.length then t.drop n else t))
    | .ok (some (s, rest)) =>
      if rest.length < t.length then do
        let (more, rest) ← longRest quote subject rest
        return (List.replicate n quote ++ s ++ more, rest)
      else .error (unclosed subject t)
termination_by t.length

/-- the string that the text starts with, which starts with a quote -/
def string (quote : Char) (t : Text) : Except Fault (Text × Text) :=
  if runLength quote t ≥ 3 then
    let body := t.drop 3
    longRest quote (if quote == '"' then "multiline basic string" else "multiline literal string")
      ((dropLineEnd? body).getD body)
  else if quote == '"' then basicRest t.tail
  else literalRest t.tail

end QuestScript.Toml

import QuestScript.Toml.Strings
import QuestScript.Toml.Value
import QuestScript.Number.Shortest

/-!
# Numbers in a configuration text

Whole numbers are decimal, or hexadecimal, octal or binary after `0x`, `0o` and `0b`; they have to
fit into 64 signed bits.  Other numbers have a point or a power of ten, or are infinite or no number
at all.  An underscore may stand between two digits.
-/

namespace QuestScript.Toml

def integerSubject : Text := "integer"

def floatSubject : Text := "floating-point number"

/-- digits with underscores between them, which the text starts with; `before` says that a digit
stands before the text -/
def digits (isDigit : Char → Bool) (before : Bool) : Text → Except Fault (Text × Text)
  | [] => if before then .ok ([], []) else .error (.atStart [])
  | c :: t =>
    if isDigit c then do
      let (ds, rest) ← digits isDigit true t
      return (c :: ds, rest)
    else if c == '_' && before then
      match digits isDigit false t with
      | .ok r => .ok r
      | .error f => .error (if f.firm then f else (f.expecting ["digit"]).asFirm)
    else if before then .ok ([], c :: t)
    else .error (.atStart (c :: t))

/-- the sign that the text starts with -/
def splitSign : Text → Text × Text
  | '+' :: t => (['+'], t)
  | '-' :: t => (['-'], t)
  | t => ([], t)

/-- a decimal whole number; no digit follows a leading zero -/
def decimal (t : Text) : Except Fault (Text × Text) :=
  let (sign, body) := splitSign t
  match body with
  | '0' :: rest => .ok (sign ++ ['0'], rest)
  | _ =>
    match digits Char.isDigit false body with
    | .ok (ds, rest) => .ok (sign ++ ds, rest)
    | .error f => .error (f.within integerSubject)

/-- a whole number that has to fit into 64 signed bits -/
def fitting (t : Text) (n : Int) (rest : Text) : Except Fault (Value × Text) :=
  let fault := (Fault.atStart t).asFirm
  if Numeral.bound ≤ n then .error (fault.because "number too large to fit in target type")
  else if n < -Numeral.bound then .error (fault.because "number too small to fit in target type")
  else .ok (.integer n, rest)

/-- the value of a decimal whole number with its sign -/
def valueOf (signed : Text) : Int :=
  let (sign, ds) := splitSign signed
  if sign == ['-'] then -(ofDigits 10 ds : Int) else ofDigits 10 ds

/-- a whole number after a mark such as `0x` -/
def based (base : Nat) (isDigit : Char → Bool) (subject t : Text) :
    Except Fault (Value × Text) :=
  match digits isDigit false (t.drop 2) with
  | .ok (ds, rest) => fitting t (ofDigits base ds) rest
  | .error f => .error (f.within subject).asFirm

/-- a power of ten, if there is one -/
def powerOfTen (t : Text) : Except Fault (Text × Text) :=
  match t with
  | c :: r =>
    if c == 'e' || c == 'E' then
      let (sign, r) := splitSign r
      match digits Char.isDigit false r with
      | .ok (ds, rest) => .ok ('e' :: sign ++ ds, rest)
      | .error f => .error (f.within floatSubject).asFirm
    else .ok ([], t)
  | [] => .ok ([], t)

/-- a point and the digits after it, if there is one -/
def fraction (t : Text) : Except Fault (Text × Text) :=
  match t with
  | '.' :: r =>
    match digits Char.isDigit false r with
    | .ok (ds, rest) => .ok ('.' :: ds, rest)
    | .error f => .error ((f.expecting ["digit"]).within floatSubject).asFirm
  | _ => .ok ([], t)

/-- the number with the given spelling -/
def floatOf (t spelling rest : Text) : Except Fault (Value × Text) :=
  match (Numeral.ofText? spelling).bind Numeral.shortest? with
  | some shown => .ok (.float shown, rest)
  | none =>
    if spelling.head? == some '-' then .ok (.float "-inf", rest)
    else .error ((Fault.atStart t).within floatSubject).asFirm

/-- infinity, or no number at all -/
def special? (t : Text) : Option (Value × Text) :=
  let (sign, body) := splitSign t
  match Text.dropPrefix? "inf" body, Text.dropPrefix? "nan" body with
  | some rest, _ => some (.float (if sign == ['-'] then "-inf" else "inf"), rest)
  | none, some rest => some (.float "NaN", rest)
  | none, none => none

/-- a number -/
def number (t : Text) : Except Fault (Value × Text) :=
  match special? t with
  | some r => .ok r
  | none => do
    let (whole, rest) ← decimal t
    let (point, rest) ← fraction rest
    let (power, rest) ← powerOfTen rest
    if !point.isEmpty || !power.isEmpty then floatOf t (whole ++ point ++ power) rest
    else if (t.take 2 == "0x") then based 16 isHexDigit "hexadecimal integer" t
    else if (t.take 2 == "0o") then
      based 8 (fun c => '0' ≤ c && c ≤ '7') "octal integer" t
    else if (t.take 2 == "0b") then based 2 (fun c => c == '0' || c == '1') "binary integer" t
    else fitting t (valueOf whole) rest

end QuestScript.Toml

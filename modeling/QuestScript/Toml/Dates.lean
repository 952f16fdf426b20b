import QuestScript.Toml.Numbers

/-!
# Dates and times in a configuration text

A date, a time of day, or both, in which case an offset from universal time may follow.  A text that
starts with four digits and a hyphen has to be a date, one that starts with two digits and a colon a
time.
-/

namespace QuestScript.Toml

/-- `n` digits with a value from `low` to `high` -/
def field (n low high : Nat) (t : Text) : Except Fault (Nat × Text) :=
  let ds := t.take n
  if ds.length = n && ds.all Char.isDigit then
    let v := ofDigits 10 ds
    if low ≤ v && v ≤ high then .ok (v, t.drop n)
    else .error ((Fault.atStart t).because "value is out of range")
  else .error (.atStart t)

/-- a mark that has to come next -/
def mark (c : Char) : Text → Except Fault Text
  | [] => .error (.atStart [])
  | d :: t => if d = c then .ok t else .error (.atStart (d :: t))

/-- a number with at least `n` digits -/
def padded (n v : Nat) : Text :=
  let ds := Text.ofNat v
  List.replicate (n - ds.length) '0' ++ ds

/-- the last day of a month -/
def lastDay (year month : Nat) : Nat :=
  if month = 2 then
    if year % 4 = 0 && (year % 100 ≠ 0 || year % 400 = 0) then 29 else 28
  else if month = 4 || month = 6 || month = 9 || month = 11 then 30
  else 31

/-- the rest of a date after the year and its hyphen -/
def dateRest (year : Nat) (t : Text) : Except Fault (Text × Text) := do
  let (month, t) ← field 2 1 12 t
  let t ← mark '-' t
  let (day, rest) ← field 2 1 31 t
  if day ≤ lastDay year month then
    return (padded 4 year ++ '-' :: padded 2 month ++ '-' :: padded 2 day, rest)
  else throw ((Fault.atStart t).because "value is out of range")

/-- the digits of a second after the point, nine at most, as they are shown -/
def secondFraction : Text → Text × Text
  | '.' :: t =>
    let ds := t.takeWhile Char.isDigit
    let shown := Text.dropWhileEnd (· == '0') (ds.take 9)
    if ds.isEmpty then ([], '.' :: t)
    else (if shown.isEmpty then [] else '.' :: shown, t.dropWhile Char.isDigit)
  | t => ([], t)

/-- the rest of a time after the hour and its colon -/
def timeRest (hour : Nat) (t : Text) : Except Fault (Text × Text) := do
  let (minute, t) ← field 2 0 59 t
  let t ← mark ':' t
  let (second, t) ← field 2 0 60 t
  let (fraction, rest) := secondFraction t
  return (padded 2 hour ++ ':' :: padded 2 minute ++ ':' :: padded 2 second ++ fraction, rest)

/-- the hour and its colon that a time starts with -/
def hour? (t : Text) : Option (Nat × Text) := do
  let (hour, t) ← (field 2 0 23 t).toOption
  let t ← (mark ':' t).toOption
  return (hour, t)

/-- an offset from universal time, if there is one -/
def offset (t : Text) : Except Fault (Text × Text) :=
  match t with
  | c :: r =>
    if c == 'Z' || c == 'z' then .ok (['Z'], r)
    else if c == '+' || c == '-' then
      let read : Except Fault (Text × Text) := do
        let (hour, r) ← field 2 0 23 r
        let r ← mark ':' r
        let (minute, r) ← field 2 0 59 r
        return (c :: padded 2 hour ++ ':' :: padded 2 minute, r)
      read.mapError fun f => (f.within "time offset").asFirm
    else .ok ([], t)
  | [] => .ok ([], t)

/-- a time after a date, if there is one -/
def timeAfterDate (t : Text) : Except Fault (Text × Text) :=
  match t with
  | c :: r =>
    if c == 'T' || c == 't' || c == ' ' then
      match hour? r with
      | none => .ok ([], t)
      | some (hour, r) => do
        let (time, r) ← timeRest hour r
        let (zone, r) ← offset r
        return ('T' :: time ++ zone, r)
    else .ok ([], t)
  | [] => .ok ([], t)

/-- a date or a time, if the text has to be one -/
def datetime? (t : Text) : Option (Except Fault (Value × Text)) :=
  match (field 4 0 9999 t).toOption with
  | some (year, '-' :: r) =>
    let read : Except Fault (Value × Text) := do
      let (date, r) ← dateRest year r
      let (time, r) ← timeAfterDate r
      return (.datetime (date ++ time), r)
    some (read.mapError fun f => (f.within "date-time").asFirm)
  | _ =>
    (hour? t).map fun (hour, r) =>
      ((timeRest hour r).map fun (time, r) => (Value.datetime time, r)).mapError fun f =>
        (f.within "time").asFirm

end QuestScript.Toml

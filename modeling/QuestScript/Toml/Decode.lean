import QuestScript.Toml.Value

/-!
# What a configuration says

A decoder reads a value of the kind that it expects.  Where the configuration holds something else,
the fault points at it and names both.  Values are decoded in the order in which they are written,
and the first fault ends the decoding.
-/

namespace QuestScript.Toml

/-- reads a value that was written at an extent -/
abbrev Decoder (α : Type) := Extent → Value → Except Fault α

namespace Decoder

/-- the value is of another kind than expected -/
def mismatch {α : Type} (expected : Text) (e : Extent) (v : Value) : Except Fault α :=
  .error (.about e ("invalid type: ".toList ++ v.describe ++ ", expected ".toList ++ expected))

def boolean : Decoder Bool
  | _, .boolean b => .ok b
  | e, v => mismatch "a boolean" e v

def text : Decoder Text
  | _, .string t => .ok t
  | e, v => mismatch "a string" e v

/-- a whole number below `bound`; `kind` names the numbers there are -/
def natural (bound : Nat) (kind : Text) : Decoder Nat
  | e, .integer n =>
    if 0 ≤ n ∧ n < bound then .ok n.toNat
    else
      .error (.about e ("invalid value: ".toList ++ (Value.integer n).describe ++
        ", expected ".toList ++ kind))
  | e, v => mismatch kind e v

/-- an array of values of one kind -/
def list {α : Type} (d : Decoder α) : Decoder (List α)
  | e, .array items => items.mapM fun (extent, v) => d (extent.getD e) v
  | e, .tables items => items.mapM fun (extent, v) => d (extent.getD e) v
  | e, v => mismatch "a sequence" e v

/-- puts an entry where its key belongs; it takes the place of an entry with the same key -/
def insertEntry {α : Type} (k : Text) (a : α) : List (Text × α) → List (Text × α)
  | [] => [(k, a)]
  | (l, b) :: m =>
    if k = l then (k, a) :: m
    else if Text.before k l then (k, a) :: (l, b) :: m
    else (l, b) :: insertEntry k a m

/-- a table of values of one kind, ordered by key; a date counts as a table with one text in it -/
def entries {α : Type} (d : Decoder α) : Decoder (List (Text × α))
  | _, .table _ es => es.foldlM (fun m (k, extent, v) => do
      return insertEntry k.name (← d (extent.getD k.extent) v) m) []
  | e, .datetime shown => (d e (.string shown)).map fun _ => []
  | e, v => mismatch "a map" e v

/-- names between grave accents -/
def choices : List Text → Text
  | [] => "nothing"
  | [a] => '\x60' :: a ++ ['\x60']
  | [a, b] => '\x60' :: a ++ "\x60 or \x60".toList ++ b ++ ['\x60']
  | names => "one of ".toList ++ Text.join [',', ' '] (names.map fun n => '\x60' :: n ++ ['\x60'])

/-- a name is not among those that are known -/
def unknown {α : Type} (what : Text) (known : List Text) (e : Extent) (name : Text) :
    Except Fault α :=
  .error (.about e ("unknown ".toList ++ what ++ " \x60".toList ++ name ++
    "\x60, expected ".toList ++ choices known))

/-- one of several names -/
def variant {α : Type} (known : List (Text × α)) (e : Extent) (name : Text) : Except Fault α :=
  match known.lookup name with
  | some a => .ok a
  | none => unknown "variant" (known.map Prod.fst) e name

/-- a name without content may stand over an empty array or table -/
def checkEmpty (e : Extent) : Value → Except Fault Unit
  | .array items | .tables items =>
    if items.isEmpty then .ok () else .error (.about e "expected empty array")
  | .table _ es => if es.isEmpty then .ok () else .error (.about e "expected empty table")
  | v => .error (.about e ("expected table, found ".toList ++ v.kind))

/-- one of several names, as a text or as the only key of a table -/
def choice {α : Type} (known : List (Text × α)) : Decoder α
  | e, .string name => variant known e name
  | e, .table _ [] => .error (.about e "wanted exactly 1 element, found 0 elements")
  | _, .table _ [(k, extent, v)] => do
    let a ← variant known k.extent k.name
    checkEmpty (extent.getD k.extent) v
    return a
  | e, .table _ _ => .error (.about e "wanted exactly 1 element, more than 1 element")
  | e, _ => .error (.about e "wanted string or table")

/-- goes through the entries of a table; only the known keys can be given -/
def fields {σ : Type} (known : List Text) (step : σ → Text → Extent → Value → Except Fault σ)
    (start : σ) (t : Table) : Except Fault σ :=
  t.entries.foldlM (fun s (k, extent, v) =>
    if known.contains k.name then step s k.name (extent.getD k.extent) v
    else unknown "field" known k.extent k.name) start

end Decoder

end QuestScript.Toml

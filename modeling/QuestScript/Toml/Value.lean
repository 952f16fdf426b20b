import QuestScript.Toml.Fault
import QuestScript.Text.Quoted

/-!
# Configuration values

A configuration is a tree of tables, arrays and plain values.  Every value remembers where it was
written, so that what reads the tree can point at what it does not understand, and every table
remembers how it came to be, which decides what may still be added to it.
-/

namespace QuestScript.Toml

/-- a key with the place where it was written first -/
structure Key where
  name : Text
  extent : Extent
deriving DecidableEq, Repr

/-- how a table came to be -/
inductive Origin where
  /-- under a header of its own; the document as well -/
  | header
  /-- above a longer header -/
  | headerPath
  /-- above a dotted key -/
  | dottedKey
  /-- between braces -/
  | braces
  /-- above a dotted key between braces -/
  | bracedKey
deriving DecidableEq, Repr

/-- a value; tables that are only implied by others have no extent -/
inductive Value where
  | string (content : Text)
  | integer (n : Int)
  /-- a number that is not whole, as it is shown -/
  | float (shown : Text)
  | boolean (b : Bool)
  /-- a date, a time or both, as it is shown -/
  | datetime (shown : Text)
  | array (items : List (Option Extent × Value))
  /-- tables under headers in double brackets -/
  | tables (items : List (Option Extent × Value))
  | table (origin : Origin) (entries : List (Key × Option Extent × Value))
deriving Repr

/-- a value with the place where it was written -/
abbrev Node := Option Extent × Value

namespace Origin

/-- the table is only implied by what is in it -/
def isImplied (o : Origin) : Bool := o = headerPath || o = dottedKey || o = bracedKey

def isDotted (o : Origin) : Bool := o = dottedKey || o = bracedKey

def isBraced (o : Origin) : Bool := o = braces || o = bracedKey

end Origin

namespace Value

/-- the kind of a value, as it stands in messages about keys -/
def kind : Value → Text
  | string _ => "string"
  | integer _ => "integer"
  | float _ => "float"
  | boolean _ => "boolean"
  | datetime _ => "datetime"
  | array _ => "array"
  | tables _ => "array of tables"
  | table o _ => if o.isBraced then "inline table" else "table"

/-- the value, as it stands in messages about values -/
def describe : Value → Text
  | string t => "string ".toList ++ Text.quoted t
  | integer n => "integer \x60".toList ++ Text.ofInt n ++ ['\x60']
  | float t => "floating point \x60".toList ++ t ++ ['\x60']
  | boolean b => if b then "boolean \x60true\x60" else "boolean \x60false\x60"
  | array _ | tables _ => "sequence"
  | datetime _ | table _ _ => "map"

end Value

/-- a table that is being written to -/
structure Table where
  origin : Origin
  extent : Option Extent
  entries : List (Key × Node)

namespace Table

/-- a table without entries -/
def empty (origin : Origin) (extent : Option Extent) : Table := ⟨origin, extent, []⟩

def node (t : Table) : Node := (t.extent, .table t.origin t.entries)

def find? (t : Table) (name : Text) : Option Node :=
  (t.entries.find? fun e => e.1.name = name).map Prod.snd

/-- adds an entry at the end -/
def append (t : Table) (k : Key) (n : Node) : Table := { t with entries := t.entries ++ [(k, n)] }

/-- puts a value in the place of the one with the same name -/
def replace (t : Table) (name : Text) (n : Node) : Table :=
  { t with entries := t.entries.map fun e => if e.1.name = name then (e.1, n) else e }

def remove (t : Table) (name : Text) : Table :=
  { t with entries := t.entries.filter fun e => e.1.name ≠ name }

/-- the table with an extent that goes on to the end of an entry, if it has an extent -/
def reachTo (t : Table) (entry : Option Extent) : Table :=
  match t.extent, entry with
  | some e, some f => { t with extent := some ⟨e.start, f.stop⟩ }
  | _, _ => t

end Table

end QuestScript.Toml

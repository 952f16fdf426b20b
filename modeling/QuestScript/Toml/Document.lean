import QuestScript.Toml.Value
import QuestScript.Toml.Writer

/-!
# Putting a configuration together

A document is read statement by statement: a header opens a table, and an entry goes to the table
that is open.  Dotted keys and long headers lead through tables that may not be there yet.  A key
cannot be given twice, and a table that was closed cannot be opened again.
-/

namespace QuestScript.Toml

/-- why an entry or a header cannot stand where it does -/
inductive KeyProblem where
  /-- the key is given already, in the table of a path if that is known -/
  | duplicate (key : Text) (table : Option (List Text))
  /-- the path leads through a value of another kind -/
  | noTable (path : List Text) (kind : Text)
deriving DecidableEq, Repr

/-- a name between grave accents -/
def ticked (t : Text) : Text := '\x60' :: t ++ ['\x60']

def KeyProblem.message : KeyProblem → Text
  | .duplicate key none => "duplicate key ".toList ++ ticked key
  | .duplicate key (some []) => "duplicate key ".toList ++ ticked key ++ " in document root".toList
  | .duplicate key (some path) =>
    "duplicate key ".toList ++ ticked key ++ " in table ".toList ++ ticked (Text.join ['.'] path)
  | .noTable path kind =>
    "dotted key ".toList ++ ticked (Text.join ['.'] path) ++
      " attempted to extend non-table type (".toList ++ kind ++ [')']

/-- what leads along a path -/
inductive Route where
  | header
  | dottedKey
  | bracedKey
deriving DecidableEq, Repr

namespace Route

/-- the origin of the tables that a route has to make -/
def origin : Route → Origin
  | header => .headerPath
  | dottedKey => .dottedKey
  | bracedKey => .bracedKey

/-- what keeps a route from going through the table `key` at the end of `path` -/
def obstacle? (r : Route) (path : List Text) (key : Text) (o : Origin) : Option KeyProblem :=
  if r ≠ bracedKey && o.isBraced then some (.noTable path (Value.table o []).kind)
  else if r ≠ header && !o.isImplied then some (.duplicate key none)
  else none

end Route

namespace Table

/-- changes the table at the end of a path; `walked` is the path so far -/
def changeAt {α : Type} (r : Route) (change : Table → Except KeyProblem (α × Table))
    (walked : List Text) : List Key → Table → Except KeyProblem (α × Table)
  | [], t => change t
  | k :: path, t =>
    let walked := walked ++ [k.name]
    match t.find? k.name with
    | none => do
      let (a, sub) ← changeAt r change walked path (empty r.origin none)
      return (a, t.append k sub.node)
    | some (extent, .table origin entries) =>
      match r.obstacle? walked k.name origin with
      | some problem => .error problem
      | none => do
        let (a, sub) ← changeAt r change walked path ⟨origin, extent, entries⟩
        return (a, t.replace k.name sub.node)
    | some (extent, .tables items) =>
      match items.getLast? with
      | some (e, .table origin entries) => do
        let (a, sub) ← changeAt r change walked path ⟨origin, e, entries⟩
        return (a, t.replace k.name (extent, .tables (items.dropLast ++ [sub.node])))
      | _ => .error (.noTable walked (Value.tables []).kind)
    | some (_, v) => .error (.noTable walked v.kind)

/-- adds an entry under a path of keys; `table` is the path of the table itself -/
def insert (r : Route) (table : Option (List Text)) (path : List Key) (k : Key) (n : Node)
    (t : Table) : Except KeyProblem Table := do
  let (_, t) ← changeAt r (fun t =>
    if t.origin.isDotted = path.isEmpty then .error (.duplicate k.name none)
    else if (t.find? k.name).isSome then .error (.duplicate k.name table)
    else .ok ((), t.append k n)) [] path t
  return t

/-- a table between braces -/
def ofPairs (pairs : List ((List Key × Key) × Node)) : Except KeyProblem Table :=
  pairs.foldlM (fun t ((path, k), n) => t.insert .bracedKey none path k n) (empty .braces none)

end Table

/-- a document while it is read: the tables that are closed, and the one that is open -/
structure Document where
  closed : Table
  current : Table
  /-- the header of the table that is open -/
  path : List Key
  /-- the header is one in double brackets -/
  listed : Bool

namespace Document

/-- nothing has been read -/
def start : Document := ⟨.empty .header none, .empty .header none, [], false⟩

/-- an entry for the table that is open -/
def entry (d : Document) (path : List Key) (k : Key) (n : Node) : Except KeyProblem Document := do
  let current := d.current.reachTo n.1
  let current ← current.insert .dottedKey (some (d.path.map Key.name)) path k n
  return { d with current := current }

/-- an array of tables with one more table in it -/
def listNode (extent : Option Extent) (items : List Node) (t : Table) : Node :=
  let first := if items.isEmpty then t.extent else extent
  let all : Option Extent :=
    match first, t.extent with
    | some e, some f => some ⟨e.start, f.stop⟩
    | _, _ => none
  (all, .tables (items ++ [t.node]))

/-- the key of a header as it stands in messages -/
def duplicate (path : List Key) (k : Key) : KeyProblem :=
  .duplicate (writeKey k.name) (some (path.map Key.name))

/-- the document without an open table -/
def close (d : Document) : Except KeyProblem Table :=
  match d.path.getLast? with
  | none => .ok d.current
  | some k => do
    let parents := d.path.dropLast
    let (_, t) ← d.closed.changeAt .header (fun t =>
      match t.find? k.name with
      | none =>
        .ok ((), t.append k (if d.listed then listNode none [] d.current else d.current.node))
      | some (extent, .tables items) =>
        if d.listed then .ok ((), t.replace k.name (listNode extent items d.current))
        else .error (duplicate parents k)
      | some _ => .error (duplicate parents k)) [] parents
    return t

/-- takes an implied table out of its parent, so that it can be opened -/
def reopen (parents : List Key) (k : Key) (t : Table) : Except KeyProblem (Table × Table) :=
  match t.find? k.name with
  | none => .ok (.empty .header none, t)
  | some (_, .table .headerPath entries) => .ok (⟨.header, none, entries⟩, t.remove k.name)
  | some _ => .error (duplicate parents k)

/-- checks that an array of tables is there or can be made -/
def checkListed (parents : List Key) (k : Key) (t : Table) : Except KeyProblem (Table × Table) :=
  match t.find? k.name with
  | none => .ok (.empty .header none, t.append k (none, .tables []))
  | some (_, .tables _) => .ok (.empty .header none, t)
  | some _ => .error (duplicate parents k)

/-- opens the table of a header -/
def openTable (d : Document) (parents : List Key) (k : Key) (listed : Bool) (header : Extent) :
    Except KeyProblem Document := do
  let closed ← d.close
  let (current, closed) ← closed.changeAt .header
    (if listed then checkListed parents k else reopen parents k) [] parents
  return ⟨closed, { current with extent := some header }, parents ++ [k], listed⟩

end Document

end QuestScript.Toml

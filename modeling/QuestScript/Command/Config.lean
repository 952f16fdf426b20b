import QuestScript.Command.Format
import QuestScript.Files.Tree
import QuestScript.Toml.Decode
import QuestScript.Toml.Reader

/-!
# Configuration

A configuration file says how scripts are compiled unless the command line says otherwise.  It is
looked for in the working directory; a file that is named instead has to be there.
-/

namespace QuestScript

/-- how scripts are compiled -/
structure Config where
  format : Format
  /-- warnings make a compilation fail -/
  denyWarnings : Bool
  /-- messages about the render itself are reported -/
  showInternal : Bool
deriving DecidableEq, Repr

/-- why there is no configuration -/
inductive ConfigError where
  /-- the file that was named is not there -/
  | missing (path : Text)
  | unreadable (path : Text) (error : FileError)
  | malformed (path source : Text) (fault : Toml.Fault)
deriving DecidableEq, Repr

def ConfigError.message : ConfigError → Text
  | missing path => "failed to read config file at ".toList ++ path ++ ": no such file".toList
  | unreadable path e =>
    "failed to read config file at ".toList ++ path ++ ':' :: ' ' :: e.message
  | malformed path source fault =>
    "failed to parse config file at ".toList ++ path ++ ':' :: ' ' :: fault.display source

namespace Config

def default : Config := ⟨.xml, false, true⟩

/-- where the configuration is unless another file is named -/
def defaultPath : Text := "qdl.toml"

/-- the keys of a configuration -/
def keys : List Text := ["format", "deny_warnings", "show_internal"]

/-- goes on with the value of a key -/
def setField (c : Config) (key : Text) (e : Toml.Extent) (v : Toml.Value) :
    Except Toml.Fault Config :=
  if key = "format".toList then do
    return { c with format := ← Toml.Decoder.choice Format.names e v }
  else if key = "deny_warnings".toList then do
    return { c with denyWarnings := ← Toml.Decoder.boolean e v }
  else do return { c with showInternal := ← Toml.Decoder.boolean e v }

/-- reads a configuration; what it does not say is as in `default` -/
def ofText (source : Text) : Except Toml.Fault Config :=
  Toml.read source >>= Toml.Decoder.fields keys setField default

/-- the configuration in a file, if the file is there -/
def ofFile? (fs : FileSystem) (path : Text) : Except ConfigError (Option Config) :=
  if fs.has path then
    match fs.read path with
    | .error e => .error (.unreadable path e)
    | .ok source => ((ofText source).map some).mapError (.malformed path source)
  else .ok none

/-- the configuration in the file that is named, or else in the file at `defaultPath` -/
def load (fs : FileSystem) (named : Option Text) : Except ConfigError Config := do
  match named with
  | some path =>
    match ← ofFile? fs path with
    | some c => return c
    | none => throw (.missing path)
  | none => return (← ofFile? fs defaultPath).getD default

end Config

end QuestScript

import QuestScript.Command.Format

/-!
# Command lines

A command line names a command, `compile` or `test`, with flags and operands; flags that belong to
every command may also stand before it.  A command line without a command means `compile`.

A flag starts with a hyphen.  The short names of several flags can stand in one word, and a value
follows its flag in the same word or is the next word.  Words are read from left to right, and the
first thing that is wrong ends the reading.
-/

namespace QuestScript

/-- what can be said with a flag -/
inductive Flag where
  | noColor
  | verbose
  | config
  | help
  | version
  | format
  | out
  | line
  | metadata
  | check
  | denyWarnings
  | category
  | listCategories
deriving DecidableEq, Repr

namespace Flag

def longName : Flag → Text
  | noColor => "no-color"
  | verbose => "verbose"
  | config => "config"
  | help => "help"
  | version => "version"
  | format => "format"
  | out => "out"
  | line => "at"
  | metadata => "meta"
  | check => "check"
  | denyWarnings => "deny-warnings"
  | category => "category"
  | listCategories => "list-categories"

def shortName? : Flag → Option Char
  | verbose => some 'v'
  | help => some 'h'
  | version => some 'V'
  | format => some 'f'
  | out => some 'o'
  | category => some 'c'
  | _ => none

def takesValue (f : Flag) : Bool :=
  f = config || f = format || f = out || f = line || f = category

/-- the flag can be given more than once -/
def repeats (f : Flag) : Bool := f = verbose || f = category

/-- the flags that belong to every command -/
def common : List Flag := [noColor, verbose, config, help]

/-- the flags that can stand before a command -/
def leading : List Flag := common ++ [version]

def ofCompile : List Flag := common ++ [format, out, line, metadata, check, denyWarnings]

def ofTest : List Flag := common ++ [category, listCategories]

end Flag

/-- why a command line runs no command -/
inductive Stop where
  | usage
  | help
  | version
deriving DecidableEq, Repr

/-- a number that fits into 64 bits, after a plus sign or not -/
def Text.word64? (t : Text) : Option Nat :=
  let ds := (Text.dropPrefix? ['+'] t).getD t
  let n := ds.foldl (fun n c => 10 * n + (c.toNat - '0'.toNat)) 0
  if !ds.isEmpty && ds.all Char.isDigit && n < Nat.pow 2 64 then some n else none

/-- what has been read of a command line -/
structure Given where
  /-- flags with their values, which are empty for flags that take none -/
  flags : List (Flag × Text)
  operands : List Text

namespace Given

def none : Given := ⟨[], []⟩

def has (g : Given) (f : Flag) : Bool := g.flags.any (·.1 = f)

def value? (g : Given) (f : Flag) : Option Text := g.flags.lookup f

def values (g : Given) (f : Flag) : List Text := (g.flags.filter (·.1 = f)).map Prod.snd

/-- the flag can have the value -/
def accepts (f : Flag) (value : Text) : Bool :=
  match f with
  | .format => (Format.names.lookup value).isSome
  | .line => (Text.word64? value).isSome
  | .config | .out => !value.isEmpty
  | _ => true

/-- takes in a flag with its value -/
def add (g : Given) (f : Flag) (value : Text) : Except Stop Given :=
  if f = .help then .error .help
  else if f = .version then .error .version
  else if (g.has f && !f.repeats) || !accepts f value then .error .usage
  else .ok { g with flags := g.flags ++ [(f, value)] }

/-- takes in the flags with short names in a word; the last one may still need its value -/
def addShort (known : List Flag) (g : Given) : Text → Except Stop (Given × Option Flag)
  | [] => .ok (g, Option.none)
  | c :: rest =>
    match known.find? (·.shortName? = some c) with
    | Option.none => .error .usage
    | some f =>
      if !f.takesValue then do
        let g ← g.add f []
        addShort known g rest
      else if rest.isEmpty then .ok (g, some f)
      else (g.add f ((Text.dropPrefix? ['='] rest).getD rest)).map fun g => (g, Option.none)

/-- takes in the flag with a long name, after which a value may follow -/
def addLong (known : List Flag) (g : Given) (t : Text) : Except Stop (Given × Option Flag) :=
  let (name, value) :=
    match Text.splitOnce '=' t with
    | some (name, value) => (name, some value)
    | Option.none => (t, Option.none)
  match known.find? (·.longName = name), value with
  | Option.none, _ => .error .usage
  | some f, some v =>
    if f.takesValue then (g.add f v).map fun g => (g, Option.none) else .error .usage
  | some f, Option.none =>
    if f.takesValue then .ok (g, some f) else (g.add f []).map fun g => (g, Option.none)

/-- takes in a word that starts with a hyphen -/
def addWord (known : List Flag) (g : Given) (w : Text) : Except Stop (Given × Option Flag) :=
  match Text.dropPrefix? ['-', '-'] w with
  | some t => g.addLong known t
  | Option.none => g.addShort known w.tail

end Given

namespace Arguments

/-- the word is not a flag; a hyphen alone is none -/
def isOperand (w : Text) : Bool := w.head? != some '-' || w == ['-']

/-- the word after which all words are operands -/
def separator : Text := ['-', '-']

/-- reads flags up to the first operand -/
def leading (known : List Flag) (g : Given) : List Text → Except Stop (Given × List Text)
  | [] => .ok (g, [])
  | w :: ws =>
    if isOperand w then .ok (g, w :: ws)
    else if w = separator then .error .usage
    else
      match g.addWord known w, ws with
      | .error stop, _ => .error stop
      | .ok (g, none), ws => leading known g ws
      | .ok (_, some _), [] => .error .usage
      | .ok (g, some f), v :: ws => do
        if !isOperand v then throw .usage
        leading known (← g.add f v) ws

/-- reads the flags of a command and its operand; no command takes a second one -/
def ofCommand (known : List Flag) (g : Given) : List Text → Except Stop Given
  | [] => .ok g
  | w :: ws =>
    if isOperand w then
      if g.operands.isEmpty then ofCommand known { g with operands := [w] } ws
      else .error .usage
    else if w = separator then .ok { g with operands := g.operands ++ ws }
    else
      match g.addWord known w, ws with
      | .error stop, _ => .error stop
      | .ok (g, none), ws => ofCommand known g ws
      | .ok (_, some _), [] => .error .usage
      | .ok (g, some f), v :: ws => do
        if !isOperand v then throw .usage
        ofCommand known (← g.add f v) ws

def compileWord : Text := "compile"

def testWord : Text := "test"

def helpWord : Text := "help"

/-- the words that name commands -/
def commands : List Text := [compileWord, testWord, helpWord]

/-- the flag before a word that is no command, whatever it looks like -/
def configWord : Text := "--config"

/-- the command line with its command: a first operand that names no command is a script to
compile -/
def withCommand : List Text → List Text
  | [] => []
  | w :: ws =>
    if w = configWord then
      match ws with
      | [] => [w]
      | v :: ws => w :: v :: withCommand ws
    else if w.head? = some '-' then w :: withCommand ws
    else if commands.contains w then w :: ws
    else compileWord :: w :: ws

end Arguments

/-- what to compile and what to show of it -/
structure CompileOptions where
  file : Text
  format : Option Format
  out : Option Text
  /-- a line, counted from 1, to show only the card that it belongs to -/
  line : Option Nat
  metadata : Bool
  check : Bool
  denyWarnings : Bool
deriving DecidableEq, Repr

/-- which tests to run -/
structure TestOptions where
  path : Text
  categories : List Text
  listCategories : Bool
deriving DecidableEq, Repr

inductive Command where
  | compile (options : CompileOptions)
  | test (options : TestOptions)
deriving DecidableEq, Repr

/-- a command with what holds for every command -/
structure Invocation where
  noColor : Bool
  config : Option Text
  command : Command
deriving DecidableEq, Repr

namespace Invocation

/-- a command with what is given before and after it; what comes after it counts -/
def ofGiven (before after : Given) (command : Command) : Invocation :=
  ⟨before.has .noColor || after.has .noColor, (after.value? .config).or (before.value? .config),
    command⟩

/-- reads what follows the word `compile` -/
def ofCompile (before : Given) (ws : List Text) : Except Stop Invocation := do
  let g ← Arguments.ofCommand Flag.ofCompile .none ws
  match g.operands with
  | [file] =>
    return ofGiven before g <| .compile
      { file := file
        format := (g.value? .format).bind fun v => Format.names.lookup v
        out := g.value? .out
        line := (g.value? .line).bind Text.word64?
        metadata := g.has .metadata
        check := g.has .check
        denyWarnings := g.has .denyWarnings }
  | _ => throw .usage

/-- reads what follows the word `test` -/
def ofTest (before : Given) (ws : List Text) : Except Stop Invocation := do
  let g ← Arguments.ofCommand Flag.ofTest .none ws
  match g.operands with
  | [path] => return ofGiven before g (.test ⟨path, g.values .category, g.has .listCategories⟩)
  | _ => throw .usage

/-- the words after `help` can name one command -/
def helpStop : List Text → Stop
  | [] => .help
  | [w] => if Arguments.commands.contains w then .help else .usage
  | _ => .usage

/-- reads a command line -/
def ofArguments (args : List Text) : Except Stop Invocation := do
  let (before, ws) ← Arguments.leading Flag.leading .none (Arguments.withCommand args)
  match ws with
  | [] => throw .usage
  | w :: ws =>
    if w = Arguments.compileWord then ofCompile before ws
    else if w = Arguments.testWord then ofTest before ws
    else if w = Arguments.helpWord then throw (helpStop ws)
    else throw .usage

end Invocation

end QuestScript

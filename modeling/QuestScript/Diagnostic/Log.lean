import QuestScript.Diagnostic.Problem

/-!
# Logs and categories

A log gathers messages about fixed blocks and takes over the messages of other logs; their order is
the order of arrival.  `Categorized` files messages by severity, each category in order of arrival.
-/

namespace QuestScript

/-- messages in order of arrival; those added here are about `blocks` -/
structure Log where
  blocks : List Nat
  messages : List Diagnostic
deriving DecidableEq, Repr

namespace Log

/-- nothing yet, about no block -/
def empty : Log := ⟨[], []⟩

/-- nothing yet, about `blocks` -/
def forBlocks (blocks : List Nat) : Log := ⟨blocks, []⟩

/-- adds a message about the blocks of the log -/
def add (log : Log) (severity : Severity) (message : Text) (code : Nat) : Log :=
  ⟨log.blocks, log.messages ++ [⟨severity, code, message, log.blocks⟩]⟩

/-- takes over the messages of another log, which keep their blocks -/
def extend (log other : Log) : Log := ⟨log.blocks, log.messages ++ other.messages⟩

def length (log : Log) : Nat := log.messages.length

end Log

/-- messages by severity -/
structure Categorized where
  info : List Diagnostic
  warning : List Diagnostic
  error : List Diagnostic
  internal : List Diagnostic
deriving DecidableEq, Repr

namespace Categorized

/-- the messages of one severity -/
def bucket (c : Categorized) : Severity → List Diagnostic
  | .info => c.info
  | .warning => c.warning
  | .error => c.error
  | .internal => c.internal

def empty : Categorized := ⟨[], [], [], []⟩

/-- files messages, keeping their order within a severity -/
def ofList (ds : List Diagnostic) : Categorized :=
  let of (s : Severity) := ds.filter (·.severity = s)
  ⟨of .info, of .warning, of .error, of .internal⟩

/-- files one more message -/
def push (c : Categorized) (d : Diagnostic) : Categorized :=
  match d.severity with
  | .info => { c with info := c.info ++ [d] }
  | .warning => { c with warning := c.warning ++ [d] }
  | .error => { c with error := c.error ++ [d] }
  | .internal => { c with internal := c.internal ++ [d] }

/-- files a message about no block whose severity is given by name; a name that is no severity is
itself a problem, which takes the place of the message -/
def pushNamed (c : Categorized) (severity : Text) (code : Nat) (message : Text) : Categorized :=
  match Severity.ofName? severity with
  | some s => c.push ⟨s, code, message, []⟩
  | none => c.push ((Problem.unknownSeverity severity).on [])

/-- all messages, category by category -/
def all (c : Categorized) : List Diagnostic := c.info ++ c.warning ++ c.error ++ c.internal

def length (c : Categorized) : Nat := c.all.length

/-- some message is an error, of the script or of the render -/
def hasErrors (c : Categorized) : Bool := !c.error.isEmpty || !c.internal.isEmpty

theorem bucket_push (c : Categorized) (d : Diagnostic) (s : Severity) :
    (c.push d).bucket s = c.bucket s ++ if d.severity = s then [d] else [] := by
  unfold push
  cases hd : d.severity <;> cases s <;> simp [bucket]

end Categorized

end QuestScript

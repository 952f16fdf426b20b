import QuestScript.Markup.Event
import QuestScript.Markup.Token

/-!
# Phrases

Runs of marks are paired: a run that can close a phrase looks back for the nearest run of the same
mark that can open one.  What is between them becomes one phrase for every two marks, strongly
emphasised or struck out, and one emphasised phrase around them for a mark that is left over.  Runs
between the two, and runs without a partner, are text.

`Phrase.events` takes a phrase apart into events; every scope is closed by construction.
-/

namespace QuestScript.Markup

/-- running text with emphasis -/
inductive Phrase where
  | text (content : Text)
  | strong (phrases : List Phrase)
  | emphasis (phrases : List Phrase)
  | struck (phrases : List Phrase)
deriving Repr

namespace Phrase

mutual

/-- a phrase as events -/
def events : Phrase → List Event
  | text t => [.text t]
  | strong ps => .start .strong :: (eventsAll ps ++ [.stop .strong])
  | emphasis ps => .start .emphasis :: (eventsAll ps ++ [.stop .emphasis])
  | struck ps => .start .struck :: (eventsAll ps ++ [.stop .struck])

/-- phrases as events, one after the other -/
def eventsAll : List Phrase → List Event
  | [] => []
  | p :: ps => events p ++ eventsAll ps

end

/-- what `n` marks on either side make of phrases -/
def wrap (mark : Char) : Nat → List Phrase → List Phrase
  | 0, ps => ps
  | 1, ps => [if mark == '~' then struck ps else emphasis ps]
  | n + 2, ps => wrap mark n [if mark == '~' then struck ps else strong ps]

end Phrase

/-- a run that can open a phrase and has found no partner yet -/
structure Opener where
  mark : Char
  /-- the length the run had -/
  length : Nat
  /-- the marks that are left of it -/
  count : Nat
  /-- the run could close a phrase as well -/
  both : Bool
  /-- the phrases before the run, last one first -/
  before : List Phrase

namespace Opener

/-- the marks of an opener as text -/
def asText (o : Opener) : Phrase := .text (List.replicate o.count o.mark)

/-- phrases with the openers before them as text, last one first -/
def flatten (phrases : List Phrase) : List Opener → List Phrase
  | [] => phrases
  | o :: os => flatten (phrases ++ o.asText :: o.before) os

/-- a closing run can be the partner of an opener: where one of them could be either, their lengths
must not add up to a multiple of three unless both are one; `~` needs runs of one length -/
def fits (o : Opener) (mark : Char) (length : Nat) (both : Bool) : Bool :=
  o.mark == mark && (mark != '~' || length == o.length) &&
    ((!both && !o.both) || (length + o.length) % 3 != 0 || length % 3 == 0)

/-- the nearest opener that fits, with at least `floor` openers below it: the openers above it, the
opener and those below it -/
def find? (fits : Opener → Bool) (floor : Nat) : List Opener →
    Option (List Opener × Opener × List Opener)
  | [] => none
  | o :: os =>
    if os.length < floor then none
    else if fits o then some ([], o, os)
    else (find? fits floor os).map fun (above, found, below) => (o :: above, found, below)

end Opener

/-- the phrases so far and the runs that are open -/
structure Pairing where
  /-- phrases since the last open run, last one first -/
  phrases : List Phrase
  /-- open runs, last one first -/
  openers : List Opener
  /-- the number of open runs that no `~` pairs with, a `~` above them having found no partner -/
  floor : Nat

namespace Pairing

def start : Pairing := ⟨[], [], 0⟩

def add (p : Pairing) (phrase : Phrase) : Pairing := ⟨phrase :: p.phrases, p.openers, p.floor⟩

/-- pairs the last `count` marks of a closing run, as long as there are partners; the marks left -/
def close (p : Pairing) (mark : Char) (length : Nat) (both : Bool) (count : Nat) : Pairing × Nat :=
  if count = 0 then (p, 0)
  else
    match Opener.find? (·.fits mark length both) (if mark == '~' then p.floor else 0) p.openers with
    | none => (⟨p.phrases, p.openers, if mark == '~' then p.openers.length else p.floor⟩, count)
    | some (above, o, below) =>
      let n := min count o.count
      let inner := Phrase.wrap mark n (Opener.flatten p.phrases above).reverse
      let floor := min p.floor below.length
      let next : Pairing :=
        if o.count > n then ⟨inner, { o with count := o.count - n } :: below, floor⟩
        else ⟨inner ++ o.before, below, floor⟩
      if _h : 0 < n ∧ 0 < count then close next mark length both (count - n) else (next, 0)
termination_by count
decreasing_by omega

/-- goes on with a run of marks -/
def addRun (p : Pairing) (mark : Char) (length : Nat) (opens closes : Bool) : Pairing :=
  let both := opens && closes
  let (p, count) := if closes then p.close mark length both length else (p, length)
  if count = 0 then p
  else if opens then ⟨[], ⟨mark, length, count, both, p.phrases⟩ :: p.openers, p.floor⟩
  else p.add (.text (List.replicate count mark))

/-- all phrases in order -/
def finish (p : Pairing) : List Phrase := (Opener.flatten p.phrases p.openers).reverse

mutual

/-- goes on with a token -/
def addToken (p : Pairing) : Token → Pairing
  | .text t => p.add (.text t)
  | .run mark n opens closes => p.addRun mark n opens closes
  | .nested ts =>
    ⟨(addTokens start ts).finish.reverse ++ p.phrases, p.openers, p.floor⟩

/-- goes on with tokens in order -/
def addTokens (p : Pairing) : List Token → Pairing
  | [] => p
  | t :: ts => addTokens (addToken p t) ts

end

end Pairing

/-- the phrases of tokens -/
def Phrase.ofTokens (ts : List Token) : List Phrase := (Pairing.start.addTokens ts).finish

end QuestScript.Markup

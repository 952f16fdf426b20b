import QuestScript.Quest.Attribute
import QuestScript.Block.Basic

/-!
# Quest headers

What the `#` line of a quest and the attributes below it say.  The text after the `#` stands in for
a missing title.
-/

namespace QuestScript

/-- the attributes of a quest -/
structure QuestHeader where
  title : Text
  summary : Option Text
  author : Option Text
  email : Option Text
  url : Option Text
  minPlayers : Option Int
  maxPlayers : Option Int
  minTimeMinutes : Option Int
  maxTimeMinutes : Option Int
  familyFriendly : Option Bool
deriving DecidableEq, Repr

namespace QuestHeader

/-- a quest without a title -/
def untitled : QuestHeader := ⟨[], none, none, none, none, none, none, none, none, none⟩

/-! ## keys -/

def stringKeys : List Text := ["summary", "author", "email", "url"]

def numberKeys : List Text := ["minplayers", "maxplayers", "mintimeminutes", "maxtimeminutes"]

/-- the keys a quest header knows -/
def keys : List Text := ("title" : Text) :: stringKeys ++ numberKeys ++ [("familyfriendly" : Text)]

/-! ## reading -/

/-- the attributes with the title that is in force: the one given, or the text after the `#` -/
def withTitle (headerTitle : Text) (attrs : Attributes) : Attributes :=
  if (Text.trim headerTitle).isEmpty || (attrs.get? "title").isSome then attrs
  else attrs.insert "title" (Text.trim headerTitle)

/-- reads attributes whose title is settled -/
def ofAttributes (attrs : Attributes) : QuestHeader × List Problem :=
  let (title, titleProblems) := attrs.string "title" true
  let string (key : Text) := attrs.get? key
  let number (key : Text) := (attrs.number key false).1
  let header : QuestHeader :=
    { title := title.getD []
      summary := string "summary"
      author := string "author"
      email := string "email"
      url := string "url"
      minPlayers := number "minplayers"
      maxPlayers := number "maxplayers"
      minTimeMinutes := number "mintimeminutes"
      maxTimeMinutes := number "maxtimeminutes"
      familyFriendly := (attrs.boolean "familyfriendly" false).1 }
  (header, titleProblems ++ numberKeys.flatMap (fun key => (attrs.number key false).2) ++
    attrs.unknown keys)

/-- reads the text after the `#` and the attributes -/
def read (headerTitle : Text) (attrs : Attributes) : QuestHeader × List Problem :=
  ofAttributes (withTitle headerTitle attrs)

/-- reads the text after the `#` and the lines below it -/
def ofLines (headerTitle : Text) (lines : List Text) : QuestHeader × List Problem :=
  let (header, problems) := read headerTitle (Attributes.ofLines lines)
  (header, Attributes.malformed lines ++ problems)

/-- reads the block of a quest header -/
def ofBlock (b : Block) : QuestHeader × List Problem :=
  ofLines ((b.firstLine?.getD []).dropWhile (· == '#')) b.lines.tail

/-! ## writing -/

/-- the attributes that are there, as keys and values, the title first -/
def pairs (q : QuestHeader) : List (Text × Text) :=
  let string (key : String) (value : Option Text) : List (Text × Text) :=
    value.toList.map fun v => (key, v)
  let number (key : String) (value : Option Int) := string key (value.map Text.ofInt)
  ("title".toList, q.title) ::
    string "summary" q.summary ++ string "author" q.author ++ string "email" q.email ++
    string "url" q.url ++ number "minplayers" q.minPlayers ++ number "maxplayers" q.maxPlayers ++
    number "mintimeminutes" q.minTimeMinutes ++ number "maxtimeminutes" q.maxTimeMinutes ++
    string "familyfriendly" (q.familyFriendly.map fun b => if b then "true" else "false")

end QuestHeader

end QuestScript

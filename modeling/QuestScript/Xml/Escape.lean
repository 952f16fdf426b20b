import QuestScript.Text.Basic

/-!
# Characters with a meaning in XML

Text is written with references in place of `&`, `<` and `>`; in the value of an attribute the
double quote is written so as well.
-/

namespace QuestScript

namespace Xml

/-- a character as it stands in text -/
def escapeChar : Char → Text
  | '&' => "&amp;"
  | '<' => "&lt;"
  | '>' => "&gt;"
  | c => [c]

/-- a character as it stands in the value of an attribute -/
def escapeAttributeChar (c : Char) : Text := if c == '"' then "&quot;" else escapeChar c

def escape (t : Text) : Text := t.flatMap escapeChar

def escapeAttribute (t : Text) : Text := t.flatMap escapeAttributeChar

end Xml

end QuestScript

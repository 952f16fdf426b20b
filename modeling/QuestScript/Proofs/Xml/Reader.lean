import QuestScript.Proofs.Text.Parts
import QuestScript.Xml.Node

/-!
# A reader of XML

A small reader for documents as they are written here.  It takes a tag from `<` to the next `>`, the
value of an attribute to the next double quote, and knows four references.  White space between
elements is passed over, but the content of `p`, `e`, `trigger` and `error` is taken as it stands:
that of `p` as markup, and that of the others as text.

* `Xml.decode`           text with its references resolved;
* `Xml.attributes?`      the attributes of a tag;
* `Xml.piece?`           the next piece of a document: a whole element, a start tag or an end tag;
* `Xml.Reading.goOn`     all pieces, with a stack of the elements that are open;
* `Xml.read`             a document.
-/

namespace QuestScript

namespace Xml

/-! ## references -/

/-- a text with its references resolved; no other `&` may stand in it -/
def decode : Text → Option Text
  | [] => some []
  | '&' :: 'a' :: 'm' :: 'p' :: ';' :: t => (decode t).map ('&' :: ·)
  | '&' :: 'l' :: 't' :: ';' :: t => (decode t).map ('<' :: ·)
  | '&' :: 'g' :: 't' :: ';' :: t => (decode t).map ('>' :: ·)
  | '&' :: 'q' :: 'u' :: 'o' :: 't' :: ';' :: t => (decode t).map ('"' :: ·)
  | c :: t => if c = '&' then none else (decode t).map (c :: ·)

/-! ## tags -/

/-- an attribute and what follows it: a blank, the key up to `=`, and the value in double quotes -/
def attribute? : Text → Option ((Text × Text) × Text)
  | ' ' :: t =>
    (Text.splitOnce '=' t).bind fun (key, t) =>
      (Text.dropPrefix? ['"'] t).bind fun t =>
        (Text.splitOnce '"' t).bind fun (value, t) =>
          (decode value).map fun value => ((key, value), t)
  | _ => none

theorem length_of_attribute? {t rest : Text} {a : Text × Text}
    (h : attribute? t = some (a, rest)) : rest.length < t.length := by
  unfold attribute? at h
  split at h
  · next t =>
    obtain ⟨⟨key, t'⟩, hkey, h⟩ := Option.bind_eq_some_iff.mp h
    obtain ⟨t'', hquote, h⟩ := Option.bind_eq_some_iff.mp h
    obtain ⟨⟨value, rest'⟩, hvalue, h⟩ := Option.bind_eq_some_iff.mp h
    obtain ⟨_, _, heq⟩ := Option.map_eq_some_iff.mp h
    obtain ⟨_, rfl⟩ := Prod.mk.inj heq
    have := Text.length_of_splitOnce hkey
    have := Text.length_of_dropPrefix? hquote
    have := Text.length_of_splitOnce hvalue
    rw [List.length_cons]
    omega
  · cases h

/-- the attributes of a tag, and whether the tag ends with a slash -/
def attributes? (t : Text) : Option (List (Text × Text) × Bool) :=
  match t with
  | [] => some ([], false)
  | ['/'] => some ([], true)
  | t =>
    match _h : attribute? t with
    | none => none
    | some (a, rest) => (attributes? rest).map fun (as, slash) => (a :: as, slash)
termination_by t.length
decreasing_by exact length_of_attribute? _h

/-! ## pieces of a document -/

inductive Piece where
  /-- an element without children, or one whose content is taken as it stands -/
  | node (n : XmlNode)
  | opening (name : Text) (attributes : List (Text × Text))
  | closing (name : Text)

/-- the elements that hold a text -/
def textNames : List Text := ["e", "trigger", "error"]

/-- the elements whose content is taken as it stands -/
def verbatimNames : List Text := ("p" : Text) :: textNames

def endTag (name : Text) : Text := '<' :: '/' :: name ++ ['>']

/-- the element with a content that is taken as it stands -/
def verbatim? (name : Text) (attributes : List (Text × Text)) (content : Text) : Option XmlNode :=
  if name = "p".toList then some (.element name attributes [.markup content])
  else (decode content).map fun t => .element name attributes [.text t]

/-- a character that does not end the name of an element in a tag -/
def inName (c : Char) : Bool := c != ' ' && c != '/'

/-- the piece that starts with a tag; `t` is what follows the tag -/
def ofTag? (tag t : Text) : Option (Piece × Text) :=
  match Text.dropPrefix? ['/'] tag with
  | some name => some (.closing name, t)
  | none =>
    let name := tag.takeWhile inName
    (attributes? (tag.dropWhile inName)).bind fun (attributes, slash) =>
      if slash then some (.node (.element name attributes []), t)
      else if verbatimNames.contains name then
        (Text.splitAtPart (endTag name) t).bind fun (content, t) =>
          (verbatim? name attributes content).map fun n => (.node n, t)
      else some (.opening name attributes, t)

/-- the piece that a text starts with, and what follows it -/
def piece? (t : Text) : Option (Piece × Text) :=
  (Text.dropPrefix? ['<'] t).bind fun t => (Text.splitOnce '>' t).bind fun (tag, t) => ofTag? tag t

theorem length_of_ofTag? {tag t rest : Text} {p : Piece} (h : ofTag? tag t = some (p, rest)) :
    rest.length ≤ t.length := by
  unfold ofTag? at h
  split at h
  · obtain ⟨_, rfl⟩ := Prod.mk.inj (Option.some.inj h)
    exact Nat.le_refl _
  · obtain ⟨⟨attributes, slash⟩, _, h⟩ := Option.bind_eq_some_iff.mp h
    dsimp only at h
    split at h
    · obtain ⟨_, rfl⟩ := Prod.mk.inj (Option.some.inj h)
      exact Nat.le_refl _
    · split at h
      · obtain ⟨⟨content, t'⟩, hcontent, h⟩ := Option.bind_eq_some_iff.mp h
        obtain ⟨_, _, heq⟩ := Option.map_eq_some_iff.mp h
        obtain ⟨_, rfl⟩ := Prod.mk.inj heq
        exact Text.length_of_splitAtPart hcontent
      · obtain ⟨_, rfl⟩ := Prod.mk.inj (Option.some.inj h)
        exact Nat.le_refl _

theorem length_of_piece? {t rest : Text} {p : Piece} (h : piece? t = some (p, rest)) :
    rest.length < t.length := by
  obtain ⟨t', hstart, h⟩ := Option.bind_eq_some_iff.mp h
  obtain ⟨⟨tag, t''⟩, htag, h⟩ := Option.bind_eq_some_iff.mp h
  have := Text.length_of_dropPrefix? hstart
  have := Text.length_of_splitOnce htag
  have := length_of_ofTag? h
  omega

/-! ## documents -/

/-- an element whose end tag is still to come, and the nodes before it in its parent -/
structure OpenElement where
  name : Text
  attributes : List (Text × Text)
  before : List XmlNode

/-- a document being read: the elements that are open, the innermost first, and the nodes that stand
complete in the innermost one -/
structure Reading where
  elements : List OpenElement
  nodes : List XmlNode

namespace Reading

def start : Reading := ⟨[], []⟩

/-- goes on with one more piece; an end tag must have the name of the innermost element -/
def add (r : Reading) : Piece → Option Reading
  | .node n => some ⟨r.elements, r.nodes ++ [n]⟩
  | .opening name attributes => some ⟨⟨name, attributes, r.nodes⟩ :: r.elements, []⟩
  | .closing name =>
    match r.elements with
    | [] => none
    | e :: es =>
      if e.name = name then some ⟨es, e.before ++ [.element name e.attributes r.nodes]⟩ else none

/-- goes on to the end of a text -/
def goOn (r : Reading) (t : Text) : Option Reading :=
  if Text.trimStart t = [] then some r
  else
    match _h : piece? (Text.trimStart t) with
    | none => none
    | some (p, rest) =>
      match r.add p with
      | none => none
      | some r => r.goOn rest
termination_by t.length
decreasing_by
  exact Nat.lt_of_lt_of_le (length_of_piece? _h) (List.dropWhile_suffix _).length_le

/-- the document, once all elements are closed -/
def document? (r : Reading) : Option XmlNode :=
  match r.elements, r.nodes with
  | [], [n] => some n
  | _, _ => none

end Reading

/-- reads a document -/
def read (t : Text) : Option XmlNode := (Reading.start.goOn t).bind Reading.document?

end Xml

end QuestScript

import QuestScript.Proofs.Card.Order
import QuestScript.Proofs.Card.Quests
import QuestScript.Proofs.Quest.Attributes
import QuestScript.Proofs.Xml.Tags

/-!
# Quest XML can be read back

What is written for a document is read as that document, so that documents that are written alike
are one.  A tree is legible if its names are plain and its texts stand where the reader looks for
them; every card of quest XML is legible as long as the values in it are.

* `Xml.Legible`           the trees that can be read back;
* `Reading.adds_of_legible`  the text of a legible tree adds the tree to what was read;
* `Xml.read_render`       so a legible tree is read back;
* `Xml.legible_write`, `Compilation.legible_document`  cards are legible, and so are documents;
* `Compilation.xml_read_back`  documents are read back.
-/

namespace QuestScript

namespace Xml

open Markup (Event)

/-! ## trees that can be read back -/

/-- A tree is legible if its texts and the markup of its paragraphs stand in the elements that hold
such, and every other element holds legible elements alone; names and keys are plain, and no key is
given twice. -/
inductive Legible : XmlNode → Prop where
  | text {name : Text} (hname : name ∈ textNames) (content : Text) :
      Legible (textElement name content)
  | paragraph (events : List Event) :
      Legible (.element "p" [] [.markup (Markup.write events)])
  | branch {name : Text} {attrs : List (Text × Text)} {children : List XmlNode}
      (hname : Plain name) (hbranch : name ∉ verbatimNames) (hplain : ∀ a ∈ attrs, Plain a.1)
      (hnodup : (attrs.map Prod.fst).Nodup) (hchildren : ∀ c ∈ children, Legible c) :
      Legible (.element name attrs children)

theorem Legible.not_isInline {n : XmlNode} (h : Legible n) : n.isInline = false := by
  cases h <;> rfl

/-- no key is given twice in an element of a legible tree -/
theorem Legible.nodup_keys {n : XmlNode} (h : Legible n) :
    ∀ m ∈ n.nodes, (m.attributes.map Prod.fst).Nodup := by
  induction h with
  | text hname content =>
    intro m hm
    rcases List.mem_pair.mp hm with rfl | rfl <;> exact List.nodup_nil
  | paragraph events =>
    intro m hm
    rcases List.mem_pair.mp hm with rfl | rfl <;> exact List.nodup_nil
  | branch _ _ _ hnodup _ ih =>
    rw [XmlNode.nodes_element, List.forall_mem_cons]
    refine ⟨hnodup, fun m hm => ?_⟩
    obtain ⟨c, hc, hm⟩ := List.mem_flatMap.mp hm
    exact ih c hc m hm

/-- a text is decoded, and markup is not -/
theorem verbatim?_text {name : Text} (hname : name ∈ textNames) (content : Text) :
    verbatim? name [] (escape content) = some (textElement name content) := by
  have hne : name ≠ "p".toList := by
    rintro rfl
    exact absurd hname (by decide)
  unfold verbatim?
  rw [if_neg hne, decode_escape, Option.map_some]
  rfl

/-! ## reading back -/

namespace Reading

variable (r : Reading)

/-- what is written for `n` adds `n` to what was read -/
def Adds (n : XmlNode) : Prop :=
  ∀ (depth : Nat) (r : Reading) (rest : Text),
    r.goOn (n.renderAt depth ++ rest) = Reading.goOn ⟨r.elements, r.nodes ++ [n]⟩ rest

theorem goOn_renderAllAt {cs : List XmlNode} (h : ∀ c ∈ cs, Adds c) (depth : Nat) (rest : Text) :
    r.goOn (XmlNode.renderAllAt depth cs ++ rest) =
      Reading.goOn ⟨r.elements, r.nodes ++ cs⟩ rest := by
  induction cs generalizing r with
  | nil =>
    rw [List.append_nil]
    rfl
  | cons c cs ih =>
    obtain ⟨hc, hcs⟩ := List.forall_mem_cons.mp h
    rw [XmlNode.renderAllAt, List.append_assoc, hc, ih _ hcs]
    dsimp only
    rw [List.append_assoc, List.singleton_append]

theorem adds_leaf {name : Text} {leaf : XmlNode} (hname : name ∈ verbatimNames)
    (hinline : leaf.isInline = true) (hskips : Text.Skips (endTag name) leaf.inline)
    (hread : verbatim? name [] leaf.inline = some (.element name [] [leaf])) :
    Adds (.element name [] [leaf]) := by
  intro depth r rest
  have hplain : Plain name := (by decide : ∀ name ∈ verbatimNames, Plain name) name hname
  have hshape : (XmlNode.element name [] [leaf]).renderAt depth ++ rest =
      Text.blanks (2 * depth) ++ ('<' :: name ++ [].flatMap startTagPart ++
        '>' :: (leaf.inline ++ (endTag name ++ '\n' :: rest))) := by
    simp [XmlNode.renderAt, hinline, endTag]
  have hpiece := piece?_verbatim hplain (List.forall_mem_nil _) hname hskips hread ('\n' :: rest)
  rw [hshape, goOn_piece r hpiece]
  exact goOn_newline _ _

theorem adds_empty {name : Text} {attrs : List (Text × Text)} (hname : Plain name)
    (hplain : ∀ a ∈ attrs, Plain a.1) : Adds (.element name attrs []) := by
  intro depth r rest
  have hshape : (XmlNode.element name attrs []).renderAt depth ++ rest =
      Text.blanks (2 * depth) ++ ('<' :: name ++ attrs.flatMap startTagPart ++
        '/' :: '>' :: '\n' :: rest) := by
    simp [XmlNode.renderAt]
  rw [hshape, goOn_piece r (piece?_empty hname hplain _)]
  exact goOn_newline _ _

theorem adds_branch {name : Text} {attrs : List (Text × Text)} {children : List XmlNode}
    (hname : Plain name) (hbranch : name ∉ verbatimNames) (hplain : ∀ a ∈ attrs, Plain a.1)
    (hne : children ≠ []) (hblock : children.all XmlNode.isInline = false)
    (h : ∀ c ∈ children, Adds c) : Adds (.element name attrs children) := by
  intro depth r rest
  have hshape : (XmlNode.element name attrs children).renderAt depth ++ rest =
      Text.blanks (2 * depth) ++ ('<' :: name ++ attrs.flatMap startTagPart ++ '>' :: '\n' ::
        (XmlNode.renderAllAt (depth + 1) children ++
          (Text.blanks (2 * depth) ++ (endTag name ++ '\n' :: rest)))) := by
    simp [XmlNode.renderAt, hne, hblock, endTag]
  -- the start tag opens an element, the children are added to it, and the end tag closes it
  let opened : Reading := ⟨⟨name, attrs, r.nodes⟩ :: r.elements, children⟩
  have hadd : opened.add (.closing name) =
      some ⟨r.elements, r.nodes ++ [.element name attrs children]⟩ := if_pos rfl
  rw [hshape, goOn_piece r (piece?_opening hname hplain hbranch _)]
  show Reading.goOn ⟨⟨name, attrs, r.nodes⟩ :: r.elements, []⟩ _ = _
  rw [goOn_newline, goOn_renderAllAt _ h]
  show opened.goOn _ = _
  rw [goOn_piece opened (piece?_endTag hname _), hadd, Option.bind_some, goOn_newline]

theorem adds_of_legible {n : XmlNode} (h : Legible n) : Adds n := by
  induction h with
  | text hname content =>
    exact adds_leaf (List.mem_cons_of_mem _ hname) rfl
      (Text.Skips.of_not_mem (lt_not_mem_escape content)) (verbatim?_text hname content)
  | paragraph events => exact adds_leaf List.mem_cons_self rfl (skips_write events) rfl
  | @branch name attrs children hname hbranch hplain _ hchildren ih =>
    cases children with
    | nil => exact adds_empty hname hplain
    | cons c cs =>
      -- legible children are elements, so each of them stands on lines of its own
      refine adds_branch hname hbranch hplain (List.cons_ne_nil c cs) ?_ ih
      rw [List.all_cons, (hchildren c List.mem_cons_self).not_isInline, Bool.false_and]

end Reading

/-- **A legible tree is read back.** -/
theorem read_render {n : XmlNode} (h : Legible n) : read n.render = some n := by
  have hread := Reading.adds_of_legible h 0 Reading.start []
  rw [List.append_nil, Reading.goOn_nil] at hread
  show (Reading.start.goOn (n.renderAt 0)).bind _ = _
  rw [hread]
  rfl

/-! ## cards are legible -/

/-- an element with one attribute, or without any -/
theorem legible_branch {name key : Text} (hname : Plain name) (hbranch : name ∉ verbatimNames)
    (hkey : Plain key) (value : Option Text) {children : List XmlNode}
    (hchildren : ∀ c ∈ children, Legible c) :
    Legible (.element name (value.toList.map fun v => (key, v)) children) := by
  cases value with
  | none => exact .branch hname hbranch (List.forall_mem_nil _) List.nodup_nil hchildren
  | some v =>
    exact .branch hname hbranch (List.forall_mem_singleton.mpr hkey) (List.nodup_singleton _)
      hchildren

theorem legible_bodyNode (item : BodyItem XmlNode) (h : ∀ v ∈ item.placed, Legible v) :
    Legible (bodyNode item) := by
  cases item with
  | paragraph text => exact .paragraph (Markup.events text)
  | choice text children =>
    exact legible_branch (by decide) (by decide) (by decide : Plain "text".toList) (some text) h
  | child value => exact h value List.mem_cons_self

/-- **cards are legible** as long as the values in them are -/
theorem legible_write (card : Card XmlNode) (h : ∀ v ∈ card.placed, Legible v) :
    Legible (format.write card) := by
  cases card with
  | quest header =>
    have hkeys := header.pairs_keys_sublist
    refine .branch (by decide) (by decide) (fun a ha => ?_) (hkeys.nodup (by decide))
      (List.forall_mem_nil _)
    exact (by decide : ∀ key ∈ QuestHeader.keys, Plain key) a.1
      (hkeys.subset (List.mem_map_of_mem ha))
  | trigger text => exact .text (by decide) text
  | placeholder message => exact .text (by decide) message
  | roleplay card =>
    refine legible_branch (by decide) (by decide) (by decide : Plain "title".toList) card.title ?_
    intro c hc
    obtain ⟨item, hitem, rfl⟩ := List.mem_map.mp hc
    exact legible_bodyNode item fun v hv => h v (List.mem_flatMap.mpr ⟨item, hitem, hv⟩)
  | combat card =>
    refine legible_branch (by decide) (by decide) (by decide : Plain "on".toList) none ?_
    intro c hc
    rcases List.mem_append.mp hc with hc | hc
    · obtain ⟨enemy, _, rfl⟩ := List.mem_map.mp hc
      exact .text (by decide) enemy
    · obtain ⟨e, he, rfl⟩ := List.mem_map.mp hc
      exact legible_branch (by decide) (by decide) (by decide : Plain "on".toList) (some e.on)
        fun v hv => h v (List.mem_flatMap.mpr ⟨e, he, hv⟩)

theorem legible_append {n : XmlNode} (hquest : format.isQuest n = true) (h : Legible n)
    {more : List XmlNode} (hmore : ∀ c ∈ more, Legible c) : Legible (n.append more) := by
  cases h with
  | text hname content =>
    -- a quest is no element that holds a text
    obtain rfl := Option.some.inj (eq_of_beq hquest)
    exact absurd hname (by decide)
  | paragraph events => exact absurd hquest Bool.false_ne_true
  | branch hname hbranch hplain hnodup hchildren =>
    refine .branch hname hbranch hplain hnodup fun c hc => ?_
    rcases List.mem_append.mp hc with hc | hc
    · exact hchildren c hc
    · exact hmore c hc

end Xml

/-! ## documents -/

namespace Compilation

theorem legible_document (blocks : List Block) :
    Xml.Legible (ofBlocks Xml.format.renderer blocks).document :=
  document_induction Xml.format blocks Xml.legible_write (fun _ => rfl)
    fun _ _ hquest h hmore => Xml.legible_append hquest h hmore

/-- **Quest XML can be read back.**  For every script, what is written for the document is read as
that document: its elements by name, their attributes in order, their children in order, their texts
and their markup.  No key is given twice in an element.  So two documents that are written alike are
one. -/
theorem xml_read_back (source : Text) :
    let document := (ofSource Xml.format.renderer source).document
    Xml.read document.render = some document ∧
      (∀ n ∈ document.nodes, (n.attributes.map Prod.fst).Nodup) ∧
      ∀ source', document.render = (ofSource Xml.format.renderer source').document.render →
        document = (ofSource Xml.format.renderer source').document := by
  have hread (source : Text) : Xml.read (ofSource Xml.format.renderer source).document.render =
      some (ofSource Xml.format.renderer source).document :=
    Xml.read_render (legible_document _)
  refine ⟨hread source, (legible_document _).nodup_keys, fun source' h => ?_⟩
  have hread' := hread source'
  rw [← h, hread source] at hread'
  exact Option.some.inj hread'

end Compilation

end QuestScript

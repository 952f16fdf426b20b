import QuestScript.Proofs.Card.Reading
import QuestScript.Xml.Format
import QuestScript.Outline.Node

/-!
# Documents with marked units

In a document it cannot be seen which nodes are units, nor of which groups.  Where a format writes
cards as trees (`CardFormat.Trees`), the same render can be done with trees whose nodes carry marks:

* `MarkedTree`           a tree of nodes, some with the id of a block; `MarkedTree.marks` lists the
                         marks in preorder, `MarkedTree.erase` forgets them, and the tree `Stands` if
                         no node is lost with them;
* `Trees.marked`         the format that writes marked trees;
* `Trees.renderer`       the renderer that besides marks every unit with the id of its anchor;
* `Trees.renderer_maps`  without the marks, it is the renderer of the format;
* `Trees.marks_write`    the marks in a card are those in the values in it, in order;
* `Xml.trees`, `Outline.trees`  both formats of documents write trees.
-/

namespace QuestScript

variable {V : Type}

/-! ## trees with marks -/

/-- a tree of nodes, some of which carry the id of a block; the children stand after those that the
node itself brings along -/
inductive MarkedTree (V : Type) where
  | node (stem : V) (mark : Option Nat) (children : List (MarkedTree V))

namespace MarkedTree

def stem : MarkedTree V → V
  | node stem _ _ => stem

def mark : MarkedTree V → Option Nat
  | node _ mark _ => mark

def leaf (stem : V) : MarkedTree V := node stem none []

def withMark (id : Nat) : MarkedTree V → MarkedTree V
  | node stem _ children => node stem (some id) children

/-- the tree with more children at its end -/
def append : MarkedTree V → List (MarkedTree V) → MarkedTree V
  | node stem mark children, more => node stem mark (children ++ more)

mutual

/-- the marks in a tree, each node before its children -/
def marks : MarkedTree V → List Nat
  | node _ mark children => mark.toList ++ marksAll children

def marksAll : List (MarkedTree V) → List Nat
  | [] => []
  | t :: ts => t.marks ++ marksAll ts

end

mutual

/-- the tree without its marks; `append` puts children at the end of a node -/
def erase (append : V → List V → V) : MarkedTree V → V
  | node stem _ children => append stem (eraseAll append children)

def eraseAll (append : V → List V → V) : List (MarkedTree V) → List V
  | [] => []
  | t :: ts => t.erase append :: eraseAll append ts

end

theorem marksAll_eq (ts : List (MarkedTree V)) : marksAll ts = ts.flatMap marks := by
  induction ts with
  | nil => rfl
  | cons t ts ih => rw [marksAll, ih, List.flatMap_cons]

theorem eraseAll_eq (append : V → List V → V) (ts : List (MarkedTree V)) :
    eraseAll append ts = ts.map (erase append) := by
  induction ts with
  | nil => rfl
  | cons t ts ih => rw [eraseAll, ih, List.map_cons]

theorem marks_node (stem : V) (mark : Option Nat) (children : List (MarkedTree V)) :
    (node stem mark children).marks = mark.toList ++ children.flatMap marks := by
  rw [marks, marksAll_eq]

theorem erase_node (append : V → List V → V) (stem : V) (mark : Option Nat)
    (children : List (MarkedTree V)) : (node stem mark children).erase append =
      append stem (children.map (erase append)) := by
  rw [erase, eraseAll_eq]

theorem erase_withMark (append : V → List V → V) (id : Nat) (t : MarkedTree V) :
    (t.withMark id).erase append = t.erase append := by
  cases t
  rw [withMark, erase_node, erase_node]

theorem marks_withMark (id : Nat) {t : MarkedTree V} (h : t.mark = none) :
    (t.withMark id).marks = id :: t.marks := by
  cases t with
  | node stem mark children =>
    obtain rfl : mark = none := h
    rw [withMark, marks_node, marks_node]
    rfl

theorem marks_append (t : MarkedTree V) (ts : List (MarkedTree V)) :
    (t.append ts).marks = t.marks ++ ts.flatMap marks := by
  cases t
  rw [append, marks_node, marks_node, List.flatMap_append, List.append_assoc]

/-- every node of the tree stands in the tree without its marks, and has its children there -/
inductive Stands (append : V → List V → V) (children : V → List V) : MarkedTree V → Prop
  | node (stem : V) (mark : Option Nat) (ts : List (MarkedTree V)) :
      children (append stem (ts.map (erase append))) = children stem ++ ts.map (erase append) →
      (∀ t ∈ ts, Stands append children t) → Stands append children (node stem mark ts)

theorem Stands.withMark {append : V → List V → V} {children : V → List V} {t : MarkedTree V}
    (h : t.Stands append children) (id : Nat) : (t.withMark id).Stands append children := by
  cases h with
  | node stem mark ts h hts => exact .node stem (some id) ts h hts

end MarkedTree

open MarkedTree

/-! ## formats that write trees -/

/-- how a format writes cards as trees: a choice and an event are nodes, their values are appended to
them, and the pieces of a card are appended to the card without pieces -/
structure CardFormat.Trees (f : CardFormat V) where
  append : V → List V → V
  children : V → List V
  /-- nodes that can have children -/
  Branch : V → Prop
  paragraph : Text → List V
  choice : Text → V
  event : Text → V
  children_append : ∀ v xs, Branch v → children (append v xs) = children v ++ xs
  branch_untitled : Branch (f.quest .untitled)
  branch_quest : ∀ v, f.isQuest v → Branch v
  branch_roleplay : ∀ title, Branch (f.roleplay ⟨title, []⟩)
  branch_choice : ∀ text, Branch (choice text)
  branch_combat : ∀ enemies, Branch (f.combat ⟨enemies, []⟩)
  branch_event : ∀ on, Branch (event on)
  append_nil : ∀ v, append v [] = v
  append_append : ∀ v xs ys, append (append v xs) ys = append v (xs ++ ys)
  isQuest_append : ∀ v xs, f.isQuest (append v xs) = f.isQuest v
  document : ∀ q vs, f.document q vs = append q vs
  roleplay : ∀ title body, f.roleplay ⟨title, body⟩ =
    append (f.roleplay ⟨title, []⟩) (body.flatMap fun
      | .paragraph text => paragraph text
      | .choice text children => [append (choice text) children]
      | .child value => [value])
  combat : ∀ enemies events, f.combat ⟨enemies, events⟩ =
    append (f.combat ⟨enemies, []⟩) (events.map fun e => append (event e.on) e.children)

namespace CardFormat.Trees

variable {f : CardFormat V} (T : f.Trees)

/-- the nodes of a piece of a roleplay card -/
def markedItem : BodyItem (MarkedTree V) → List (MarkedTree V)
  | .paragraph text => (T.paragraph text).map leaf
  | .choice text children => [node (T.choice text) none children]
  | .child value => [value]

/-- the format that writes marked trees; it makes no marks itself -/
def marked : CardFormat (MarkedTree V) where
  quest header := leaf (f.quest header)
  roleplay card := node (f.roleplay ⟨card.title, []⟩) none (card.body.flatMap T.markedItem)
  combat card := node (f.combat ⟨card.enemies, []⟩) none
    (card.events.map fun e => node (T.event e.on) none e.children)
  trigger text := leaf (f.trigger text)
  placeholder message := leaf (f.placeholder message)
  isQuest t := f.isQuest t.stem
  document q ts := q.append ts

/-- renders marked trees, in which every unit is marked with the id of its anchor -/
def renderer : Renderer (MarkedTree V) (MarkedTree V) where
  unit kind u := ((T.marked.unit kind u).1.withMark u.anchorId, (T.marked.unit kind u).2)
  document := T.marked.assemble
  metadata := metadata

/-! ### without the marks -/

theorem erase_leaf (v : V) : (leaf v).erase T.append = v := by
  rw [leaf, erase_node, List.map_nil, T.append_nil]

theorem erase_markedItem (item : BodyItem (MarkedTree V)) :
    (T.markedItem item).map (erase T.append) =
      match item.map (erase T.append) with
      | .paragraph text => T.paragraph text
      | .choice text children => [T.append (T.choice text) children]
      | .child value => [value] := by
  cases item with
  | paragraph text =>
    show ((T.paragraph text).map leaf).map (erase T.append) = T.paragraph text
    rw [List.map_map]
    exact List.map_id'' T.erase_leaf _
  | choice text children =>
    show [(node (T.choice text) none children).erase T.append] = _
    rw [erase_node]
    rfl
  | child value => rfl

theorem erase_write (card : Card (MarkedTree V)) :
    f.write (card.map (erase T.append)) = (T.marked.write card).erase T.append := by
  cases card with
  | quest header => exact (T.erase_leaf _).symm
  | trigger text => exact (T.erase_leaf _).symm
  | placeholder message => exact (T.erase_leaf _).symm
  | roleplay card =>
    show f.roleplay ⟨card.title, card.body.map (BodyItem.map (erase T.append))⟩ =
      (node (f.roleplay ⟨card.title, []⟩) none (card.body.flatMap T.markedItem)).erase T.append
    rw [erase_node, T.roleplay, List.map_flatMap, List.flatMap_map]
    exact congrArg _ (List.flatMap_congr fun item _ => (T.erase_markedItem item).symm)
  | combat card =>
    show f.combat ⟨card.enemies, card.events.map (CombatEvent.map (erase T.append))⟩ =
      (node (f.combat ⟨card.enemies, []⟩) none _).erase T.append
    rw [erase_node, T.combat, List.map_map, List.map_map]
    refine congrArg _ (List.map_congr_left fun e _ => ?_)
    show _ = (node (T.event e.on) none e.children).erase T.append
    rw [erase_node]
    rfl

theorem maps : CardFormat.Maps (erase T.append) T.marked f where
  write := T.erase_write
  isQuest t := by
    cases t
    rw [erase_node, T.isQuest_append]
    rfl
  document q ts := by
    cases q
    show _ = (node _ _ (_ ++ ts)).erase T.append
    rw [erase_node, erase_node, T.document, T.append_append, List.map_append]

/-- **without the marks** it is the renderer of the format -/
theorem renderer_maps : T.renderer.Maps (erase T.append) (erase T.append) f.renderer where
  unit kind u := by
    show f.unit kind (u.map (erase T.append)) =
      (((T.marked.unit kind u).1.withMark u.anchorId).erase T.append, (T.marked.unit kind u).2)
    rw [erase_withMark, CardFormat.unit_eq, CardFormat.unit_eq, Card.ofUnit_map, T.erase_write]
  document := T.maps.assemble

/-! ### nodes -/

theorem stands_node {stem : V} (hstem : T.Branch stem) (mark : Option Nat)
    {ts : List (MarkedTree V)} (hts : ∀ t ∈ ts, t.Stands T.append T.children) :
    (node stem mark ts).Stands T.append T.children :=
  .node stem mark ts (T.children_append stem _ hstem) hts

theorem stands_leaf (v : V) : (leaf v).Stands T.append T.children := by
  refine .node v none [] ?_ (by simp)
  rw [List.map_nil, T.append_nil, List.append_nil]

theorem stands_markedItem {item : BodyItem (MarkedTree V)}
    (h : ∀ t ∈ item.placed, t.Stands T.append T.children) :
    ∀ t ∈ T.markedItem item, t.Stands T.append T.children := by
  intro t ht
  cases item with
  | paragraph text =>
    obtain ⟨v, _, rfl⟩ := List.mem_map.mp ht
    exact T.stands_leaf v
  | choice text children =>
    obtain rfl := List.mem_singleton.mp ht
    exact T.stands_node (T.branch_choice text) none h
  | child value => exact h t ht

/-- all nodes of a card stand in it, if those of the values in it do -/
theorem stands_write {card : Card (MarkedTree V)}
    (h : ∀ t ∈ card.placed, t.Stands T.append T.children) :
    (T.marked.write card).Stands T.append T.children := by
  cases card with
  | quest header => exact T.stands_leaf _
  | trigger text => exact T.stands_leaf _
  | placeholder message => exact T.stands_leaf _
  | roleplay card =>
    refine T.stands_node (T.branch_roleplay card.title) none fun t ht => ?_
    obtain ⟨item, hitem, ht⟩ := List.mem_flatMap.mp ht
    refine T.stands_markedItem (fun t' ht' => h t' ?_) t ht
    exact List.mem_flatMap.mpr ⟨item, hitem, ht'⟩
  | combat card =>
    refine T.stands_node (T.branch_combat card.enemies) none fun t ht => ?_
    obtain ⟨e, he, rfl⟩ := List.mem_map.mp ht
    refine T.stands_node (T.branch_event e.on) none fun t' ht' => h t' ?_
    exact List.mem_flatMap.mpr ⟨e, he, ht'⟩

theorem stands_append {q : MarkedTree V} {ts : List (MarkedTree V)} (hq : T.Branch q.stem)
    (h : q.Stands T.append T.children) (hts : ∀ t ∈ ts, t.Stands T.append T.children) :
    (q.append ts).Stands T.append T.children := by
  cases h with
  | node stem mark children _ hchildren =>
    refine T.stands_node hq mark fun t ht => ?_
    exact (List.mem_append.mp ht).elim (hchildren t) (hts t)

theorem stands_document {roots : List (MarkedTree V)}
    (h : ∀ t ∈ roots, t.Stands T.append T.children) :
    (T.renderer.document roots).1.Stands T.append T.children := by
  have huntitled := T.stands_append (q := leaf (f.quest .untitled)) T.branch_untitled
    (T.stands_leaf _) h
  show (T.marked.assemble roots).1.Stands _ _
  cases roots with
  | nil => exact huntitled
  | cons q rest =>
    obtain ⟨hq, hrest⟩ := List.forall_mem_cons.mp h
    unfold CardFormat.assemble
    dsimp only
    split
    · next hquest => exact T.stands_append (T.branch_quest q.stem hquest) hq hrest
    · exact huntitled

/-! ### the marks -/

theorem marks_leaves (vs : List V) : (vs.map leaf).flatMap marks = [] := by
  rw [List.flatMap_map, List.flatMap_eq_nil_iff]
  intro v _
  show (leaf v).marks = []
  rw [leaf, marks_node]
  rfl

/-- **the marks in a card** are those in the values in it, in order -/
theorem marks_write (card : Card (MarkedTree V)) :
    (T.marked.write card).marks = card.placed.flatMap marks := by
  cases card with
  | quest header => rfl
  | trigger text => rfl
  | placeholder message => rfl
  | roleplay card =>
    show (node _ none (card.body.flatMap T.markedItem)).marks =
      (card.body.flatMap BodyItem.placed).flatMap marks
    rw [marks_node, List.flatMap_assoc, List.flatMap_assoc]
    refine List.flatMap_congr fun item _ => ?_
    cases item with
    | paragraph text => exact marks_leaves _
    | choice text children =>
      show (node _ none children).marks ++ [] = _
      rw [marks_node, List.append_nil]
      rfl
    | child value => rfl
  | combat card =>
    show (node _ none (card.events.map fun e => node (T.event e.on) none e.children)).marks =
      (card.events.flatMap (·.children)).flatMap marks
    rw [marks_node, List.flatMap_map, List.flatMap_assoc]
    refine List.flatMap_congr fun e _ => ?_
    rw [marks_node]
    rfl

/-- the marks of a unit: its own, then those in the values in its card -/
theorem marks_unit (kind : LineKind) (u : RenderUnit (MarkedTree V)) :
    (T.renderer.unit kind u).1.marks =
      u.anchorId :: (Card.ofUnit kind u).1.placed.flatMap marks := by
  have hmark : (T.marked.write (Card.ofUnit kind u).1).mark = none := by
    cases (Card.ofUnit kind u).1 <;> rfl
  show ((T.marked.unit kind u).1.withMark u.anchorId).marks = _
  rw [CardFormat.unit_eq, marks_withMark _ hmark, T.marks_write]

/-- the marks of a document are those of the units at the top level, in order -/
theorem marks_document (roots : List (MarkedTree V)) :
    (T.renderer.document roots).1.marks = roots.flatMap marks := by
  have huntitled : ∀ ts : List (MarkedTree V),
      ((leaf (f.quest .untitled)).append ts).marks = ts.flatMap marks := by
    intro ts
    rw [marks_append, leaf, marks_node]
    rfl
  show (T.marked.assemble roots).1.marks = _
  cases roots with
  | nil => exact huntitled []
  | cons q rest =>
    unfold CardFormat.assemble
    dsimp only
    split
    · exact marks_append q rest
    · exact huntitled (q :: rest)

end CardFormat.Trees

/-! ## the formats of documents -/

theorem XmlNode.append_nil (n : XmlNode) : n.append [] = n := by
  cases n with
  | element name attrs cs => exact congrArg (element name attrs) (List.append_nil cs)
  | text t => rfl
  | markup m => rfl

theorem XmlNode.append_append (n : XmlNode) (xs ys : List XmlNode) :
    (n.append xs).append ys = n.append (xs ++ ys) := by
  cases n with
  | element name attrs cs => exact congrArg (element name attrs) (List.append_assoc cs xs ys)
  | text t => rfl
  | markup m => rfl

theorem OutlineNode.append_nil (n : OutlineNode) : n.append [] = n := by
  cases n with
  | node k l cs => exact congrArg (node k l) (List.append_nil cs)

theorem OutlineNode.append_append (n : OutlineNode) (xs ys : List OutlineNode) :
    (n.append xs).append ys = n.append (xs ++ ys) := by
  cases n with
  | node k l cs => exact congrArg (node k l) (List.append_assoc cs xs ys)

/-- quest XML: elements with child nodes -/
def Xml.trees : Xml.format.Trees where
  append := XmlNode.append
  children := XmlNode.children
  Branch n := n.name?.isSome
  paragraph text := [.element "p" [] [.markup (Markup.inline text)]]
  choice text := .element "choice" [("text", text)] []
  event on := .element "event" [("on", on)] []
  children_append n xs h := by
    cases n with
    | element name attrs cs => rfl
    | text t => cases h
    | markup m => cases h
  branch_untitled := rfl
  branch_quest n hn := by
    have hname : n.name? = some questName := beq_iff_eq.mp hn
    rw [hname]
    rfl
  branch_roleplay _ := rfl
  branch_choice _ := rfl
  branch_combat _ := rfl
  branch_event _ := rfl
  append_nil := XmlNode.append_nil
  append_append := XmlNode.append_append
  isQuest_append n xs := by cases n <;> rfl
  document _ _ := rfl
  roleplay title body := by
    have hbody : body.map bodyNode = body.flatMap fun item => [bodyNode item] :=
      List.map_eq_flatMap
    show XmlNode.element _ _ (body.map bodyNode) = .element _ _ ([] ++ body.flatMap _)
    rw [List.nil_append, hbody]
    refine congrArg _ (List.flatMap_congr fun item _ => ?_)
    cases item <;> rfl
  combat enemies events := by
    show XmlNode.element _ _ _ = .element _ _ ((_ ++ []) ++ _)
    rw [List.append_nil]
    rfl

/-- outlines: lines with the lines below them; a paragraph has none -/
def Outline.trees : Outline.format.Trees where
  append := OutlineNode.append
  children := OutlineNode.children
  Branch _ := True
  paragraph _ := []
  choice text := .node "choice" text []
  event on := .node "event" on []
  children_append n xs _ := by cases n; rfl
  branch_untitled := trivial
  branch_quest _ _ := trivial
  branch_roleplay _ := trivial
  branch_choice _ := trivial
  branch_combat _ := trivial
  branch_event _ := trivial
  append_nil := OutlineNode.append_nil
  append_append := OutlineNode.append_append
  isQuest_append n xs := by cases n; rfl
  document _ _ := rfl
  roleplay title body := by
    show OutlineNode.node _ _ (body.filterMap bodyNode?) = .node _ _ ([] ++ body.flatMap _)
    rw [List.nil_append, List.filterMap_eq_flatMap_toList]
    refine congrArg _ (List.flatMap_congr fun item _ => ?_)
    cases item <;> rfl
  combat _ _ := rfl

end QuestScript

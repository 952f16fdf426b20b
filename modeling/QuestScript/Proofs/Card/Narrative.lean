import QuestScript.Proofs.Card.Placed
import QuestScript.Proofs.Text.Trim
import Mathlib.Data.List.Forall2

/-!
# A story keeps its order

A narrative unit tells a story: the paragraphs and choices of its blocks and the values that were
folded into it, in the order of the unit.  The body of the card is that story again, with the values
after a choice put into the choice.

* `StoryPiece.OfLines`               what the lines of a block tell;
* `StoryPiece.OfUnit`                what a unit tells, with the id of its anchor on every value;
* `Roleplay.splitTitle_eq_iff`       which first line is a title;
* `StoryPiece.OfLines.items`         a block is read as what its lines tell;
* `BodyItem.pieces`, `Roleplay.Tells`  a body read in order, each choice before what it holds;
* `Roleplay.Tells.unique`            a story has one body;
* `CardFormat.unit_narrative`        the card of a unit tells the story of the unit.
-/

namespace QuestScript

open Character (isBlank)

variable {V : Type}

/-! ## what a unit tells -/

/-- one piece of a story -/
inductive StoryPiece (V : Type) where
  | paragraph (text : Text)
  | choice (text : Text)
  | child (value : V)

namespace StoryPiece

/-- what the lines of one block tell: each choice is a piece of its own, and the lines up to the next
choice, or up to the end, are one paragraph, with single spaces between them -/
inductive OfLines : List Text → List (StoryPiece V) → Prop
  | nil : OfLines [] []
  | choice {line text : Text} {rest : List Text} {pieces : List (StoryPiece V)}
      (h : Line.IsChoice line text) (hrest : OfLines rest pieces) :
      OfLines (line :: rest) (.choice text :: pieces)
  | paragraph {run rest : List Text} {pieces : List (StoryPiece V)} (hne : run ≠ [])
      (hrun : ∀ line ∈ run, ∀ text, ¬Line.IsChoice line text)
      (hend : ∀ line ∈ rest.head?, ∃ text, Line.IsChoice line text) (hrest : OfLines rest pieces) :
      OfLines (run ++ rest) (.paragraph ([' '].intercalate run) :: pieces)

/-- what a member tells -/
inductive OfMember : Member V → List (StoryPiece (Nat × V)) → Prop
  | own {id : Nat} {b : Block} {pieces : List (StoryPiece (Nat × V))} (h : OfLines b.lines pieces) :
      OfMember (.own id b) pieces
  | folded {id : Nat} {b : Block} {value : V} :
      OfMember (@Member.folded V id b value) [.child (id, value)]

/-- what a unit tells, `lines` being those of its anchor that follow the title -/
def OfUnit (u : RenderUnit V) (lines : List Text) (story : List (StoryPiece (Nat × V))) : Prop :=
  ∃ first parts, OfLines lines first ∧ List.Forall₂ OfMember u.rest parts ∧
    story = first ++ parts.flatten

/-- the piece on its own in a body -/
def item : StoryPiece V → BodyItem V
  | .paragraph text => .paragraph text
  | .choice text => .choice text []
  | .child value => .child value

end StoryPiece

/-! ## the title -/

namespace Roleplay

/-- the title of a block and its other lines: the first line is a title if there is more than white
space between its underscores -/
inductive TitleOf : List Text → Option Text → List Text → Prop
  | titled {inner : Text} {lines : List Text} (h : ∃ c ∈ inner, isBlank c = false) :
      TitleOf (('_' :: inner ++ ['_']) :: lines) (some (Text.trim inner)) lines
  | untitled {lines : List Text}
      (h : ∀ inner, lines.head? = some ('_' :: inner ++ ['_']) → ∀ c ∈ inner, isBlank c = true) :
      TitleOf lines none lines

theorem title?_eq_some_iff {line title : Text} : Line.title? line = some title ↔
    ∃ inner, line = '_' :: inner ++ ['_'] ∧ (∃ c ∈ inner, isBlank c = false) ∧
      title = Text.trim inner := by
  have hmark : ∀ inner, (Text.dropPrefix? ['_'] line).bind (Text.dropSuffix? ['_']) = some inner ↔
      line = '_' :: inner ++ ['_'] := by
    intro inner
    simp [Option.bind_eq_some_iff, Text.dropPrefix?_eq_some_iff, Text.dropSuffix?_eq_some_iff]
  have htitle : ∀ inner : Text,
      (if (Text.trim inner).isEmpty then none else some (Text.trim inner)) = some title ↔
      (∃ c ∈ inner, isBlank c = false) ∧ title = Text.trim inner := by
    intro inner
    have hex : (∃ c ∈ inner, isBlank c = false) ↔ Text.trim inner ≠ [] := by
      rw [Ne, Text.trim_eq_nil_iff]
      simp
    rw [hex]
    cases Text.trim inner with
    | nil => simp
    | cons c rest => simp [eq_comm]
  unfold Line.title?
  rw [Option.bind_eq_some_iff]
  simp only [hmark, htitle]

/-- **the title** is what stands between the underscores of the first line -/
theorem splitTitle_eq_iff {lines rest : List Text} {title : Option Text} :
    splitTitle lines = (title, rest) ↔ TitleOf lines title rest := by
  unfold splitTitle
  constructor
  · intro h
    cases hfirst : lines.head?.bind Line.title? with
    | none =>
      rw [hfirst] at h
      obtain ⟨rfl, rfl⟩ := Prod.mk.inj h
      refine .untitled fun inner hhead c hc => ?_
      by_contra hblank
      have hinner : ∃ c ∈ inner, isBlank c = false := ⟨c, hc, Bool.eq_false_iff.mpr hblank⟩
      rw [hhead, Option.bind_some, title?_eq_some_iff.mpr ⟨inner, rfl, hinner, rfl⟩] at hfirst
      cases hfirst
    | some t =>
      rw [hfirst] at h
      obtain ⟨rfl, rfl⟩ := Prod.mk.inj h
      obtain ⟨line, hhead, ht⟩ := Option.bind_eq_some_iff.mp hfirst
      obtain ⟨inner, rfl, hinner, rfl⟩ := title?_eq_some_iff.mp ht
      obtain ⟨more, rfl⟩ := List.head?_eq_some_iff.mp hhead
      exact .titled hinner
  · rintro (⟨h⟩ | ⟨h⟩)
    · rw [List.head?_cons, Option.bind_some, title?_eq_some_iff.mpr ⟨_, rfl, h, rfl⟩]
      rfl
    · have hnone : lines.head?.bind Line.title? = none := by
        refine Option.eq_none_iff_forall_not_mem.mpr fun t ht => ?_
        obtain ⟨line, hhead, ht⟩ := Option.bind_eq_some_iff.mp ht
        obtain ⟨inner, rfl, ⟨c, hc, hblank⟩, _⟩ := title?_eq_some_iff.mp ht
        rw [h inner hhead c hc] at hblank
        cases hblank
      rw [hnone]

end Roleplay

/-! ## the lines of a block -/

namespace Roleplay

theorem itemsOfLines_of_choice {line text : Text} (h : Line.IsChoice line text) (rest : List Text) :
    (itemsOfLines (line :: rest) : List (BodyItem V)) = .choice text [] :: itemsOfLines rest := by
  rw [itemsOfLines, Line.choice?_eq_some_iff.mpr h]

/-- the lines before a choice are read as one paragraph -/
theorem itemsOfLines_append {run rest : List Text} (hne : run ≠ [])
    (hrun : ∀ line ∈ run, ∀ text, ¬Line.IsChoice line text)
    (hend : ∀ line ∈ rest.head?, ∃ text, Line.IsChoice line text) :
    (itemsOfLines (run ++ rest) : List (BodyItem V)) =
      .paragraph ([' '].intercalate run) :: itemsOfLines rest := by
  induction run with
  | nil => exact absurd rfl hne
  | cons line run ih =>
    obtain ⟨hline, hrun⟩ := List.forall_mem_cons.mp hrun
    rw [List.cons_append, itemsOfLines, Line.choice?_eq_none_iff.mpr hline]
    cases run with
    | nil =>
      rw [List.nil_append, List.intercalate_singleton]
      cases rest with
      | nil => rfl
      | cons next rest =>
        obtain ⟨text, hnext⟩ := hend next rfl
        rw [itemsOfLines_of_choice hnext]
    | cons next run =>
      rw [ih (List.cons_ne_nil _ _) hrun, List.intercalate_cons_of_ne_nil (List.cons_ne_nil _ _),
        List.append_assoc]
      rfl

end Roleplay

namespace StoryPiece

open Roleplay (itemsOfLines)

variable {lines : List Text} {pieces pieces' : List (StoryPiece V)}

/-- **a block** is read as what its lines tell -/
theorem OfLines.items (h : OfLines lines pieces) : itemsOfLines lines = pieces.map item := by
  induction h with
  | nil => rfl
  | choice h _ ih => rw [Roleplay.itemsOfLines_of_choice h, ih]; rfl
  | paragraph hne hrun hend _ ih => rw [Roleplay.itemsOfLines_append hne hrun hend, ih]; rfl

/-- the lines of a block tell one thing only -/
theorem OfLines.unique (h : OfLines lines pieces) (h' : OfLines lines pieces') :
    pieces = pieces' := by
  have hinj : Function.Injective (item (V := V)) := by
    intro p q hpq
    cases p <;> cases q <;> cases hpq <;> rfl
  exact hinj.list_map (h.items.symm.trans h'.items)

theorem OfLines.child_not_mem (h : OfLines lines pieces) (value : V) : .child value ∉ pieces := by
  induction h with
  | nil => exact List.not_mem_nil
  | choice _ _ ih => exact List.not_mem_cons_of_ne_of_not_mem (fun h => nomatch h) ih
  | paragraph _ _ _ _ ih => exact List.not_mem_cons_of_ne_of_not_mem (fun h => nomatch h) ih

theorem exists_ofLines (lines : List Text) :
    ∃ pieces : List (StoryPiece V), OfLines lines pieces := by
  induction lines with
  | nil => exact ⟨[], .nil⟩
  | cons line rest ih =>
    obtain ⟨pieces, hrest⟩ := ih
    by_cases hline : ∃ text, Line.IsChoice line text
    · obtain ⟨text, h⟩ := hline
      exact ⟨_, .choice h hrest⟩
    · have hline : ∀ line' ∈ [line], ∀ text, ¬Line.IsChoice line' text := by simpa using hline
      have hne : [line] ≠ [] := List.cons_ne_nil _ _
      -- the line goes before the paragraph that the other lines start with, or it is one of its own
      cases hrest with
      | nil => exact ⟨_, @OfLines.paragraph V [line] [] _ hne hline (by simp) .nil⟩
      | @choice next text rest _ h hrest =>
        have hend : ∀ next' ∈ (next :: rest).head?, ∃ text, Line.IsChoice next' text := by
          simpa using ⟨text, h⟩
        exact ⟨_, @OfLines.paragraph V [line] (next :: rest) _ hne hline hend (.choice h hrest)⟩
      | @paragraph run rest _ _ hrun hend hrest =>
        exact ⟨_, @OfLines.paragraph V (line :: run) rest _ (List.cons_ne_nil _ _)
          (List.forall_mem_append.mpr ⟨hline, hrun⟩) hend hrest⟩

/-! ## the members of a unit -/

theorem OfMember.unique {m : Member V} {pieces pieces' : List (StoryPiece (Nat × V))}
    (h : OfMember m pieces) (h' : OfMember m pieces') : pieces = pieces' := by
  cases h with
  | own h =>
    cases h' with
    | own h' => exact h.unique h'
  | folded =>
    cases h' with
    | folded => rfl

theorem exists_ofMembers (ms : List (Member V)) : ∃ parts, List.Forall₂ OfMember ms parts := by
  induction ms with
  | nil => exact ⟨[], .nil⟩
  | cons m ms ih =>
    obtain ⟨parts, hparts⟩ := ih
    cases m with
    | own id b =>
      obtain ⟨pieces, h⟩ := exists_ofLines b.lines
      exact ⟨_, .cons (.own h) hparts⟩
    | folded id value => exact ⟨_, .cons .folded hparts⟩

/-- a unit tells one story -/
theorem OfUnit.unique {u : RenderUnit V} {lines : List Text}
    {story story' : List (StoryPiece (Nat × V))} (h : OfUnit u lines story)
    (h' : OfUnit u lines story') : story = story' := by
  obtain ⟨first, parts, hfirst, hparts, rfl⟩ := h
  obtain ⟨first', parts', hfirst', hparts', rfl⟩ := h'
  have huniq : Relator.RightUnique (OfMember (V := V)) := fun _ _ _ h h' => h.unique h'
  rw [hfirst.unique hfirst', huniq.forall₂ hparts hparts']

end StoryPiece

/-! ## a body read in order -/

namespace BodyItem

/-- an item, then what it holds -/
def pieces : BodyItem V → List (StoryPiece V)
  | .paragraph text => [.paragraph text]
  | .choice text children => .choice text :: children.map .child
  | .child value => [.child value]

/-- the value of an item that is one -/
def child? : BodyItem V → Option V
  | .child value => some value
  | _ => none

/-- the second item may follow the first: no value stands next to a choice that could hold it -/
def MayPrecede : BodyItem V → BodyItem V → Prop
  | .choice _ _, .child _ => False
  | _, _ => True

end BodyItem

namespace Roleplay

/-- a body tells a story: read in order, each choice before what it holds, it is that story, and a
value that follows a choice is held by it -/
structure Tells (body : List (BodyItem V)) (story : List (StoryPiece V)) : Prop where
  pieces : body.flatMap BodyItem.pieces = story
  held : body.IsChain BodyItem.MayPrecede

section
variable {body body' items : List (BodyItem V)} {story more : List (StoryPiece V)} {text : Text}
  {children : List V} {value : V}

theorem Tells.append (h : Tells body story) (h' : Tells items more)
    (hmay : ∀ x ∈ body.getLast?, ∀ y ∈ items.head?, x.MayPrecede y) :
    Tells (body ++ items) (story ++ more) :=
  ⟨by rw [List.flatMap_append, h.pieces, h'.pieces],
    List.isChain_append.mpr ⟨h.held, h'.held, hmay⟩⟩

theorem child?_of_mem_itemsOfLines {lines : List Text} {item : BodyItem V}
    (h : item ∈ (itemsOfLines lines : List (BodyItem V))) : item.child? = none := by
  obtain ⟨pieces, hpieces⟩ := StoryPiece.exists_ofLines (V := V) lines
  rw [hpieces.items] at h
  obtain ⟨p, hp, rfl⟩ := List.mem_map.mp h
  cases p with
  | paragraph text => rfl
  | choice text => rfl
  | child value => exact absurd hp (hpieces.child_not_mem value)

theorem mayPrecede_of_child? {y : BodyItem V} (h : y.child? = none) (x : BodyItem V) :
    x.MayPrecede y := by
  cases y with
  | child value => cases h
  | paragraph text => cases x <;> trivial
  | choice text children => cases x <;> trivial

theorem tells_itemsOfLines {lines : List Text} (h : StoryPiece.OfLines lines story) :
    Tells (itemsOfLines lines) story := by
  constructor
  · have hpieces : ∀ p : StoryPiece V, p.item.pieces = [p] := by
      intro p
      cases p <;> rfl
    rw [h.items, List.flatMap_map, funext hpieces, List.flatMap_singleton']
  · refine List.Pairwise.isChain (List.pairwise_of_forall_mem_list fun x _ y hy => ?_)
    exact mayPrecede_of_child? (child?_of_mem_itemsOfLines hy) x

theorem Tells.lines (h : Tells body story) {lines : List Text}
    (hmore : StoryPiece.OfLines lines more) :
    Tells (body ++ itemsOfLines lines) (story ++ more) :=
  h.append (tells_itemsOfLines hmore) fun x _ _ hy =>
    mayPrecede_of_child? (child?_of_mem_itemsOfLines (List.mem_of_mem_head? hy)) x

theorem Tells.stray (h : Tells body story) (hnone : attach? body value = none) :
    Tells (body ++ [.child value]) (story ++ [.child value]) := by
  refine h.append ⟨rfl, List.isChain_singleton _⟩ fun x hx y hy => ?_
  obtain rfl : BodyItem.child value = y := by simpa using hy
  unfold attach? at hnone
  rw [Option.mem_def.mp hx] at hnone
  cases x with
  | choice text children => cases hnone
  | paragraph text => trivial
  | child value => trivial

theorem Tells.attach (h : Tells body story) (hsome : attach? body value = some body') :
    Tells body' (story ++ [.child value]) := by
  obtain ⟨init, text, children, rfl, rfl⟩ := exists_of_attach? hsome
  have hheld := List.isChain_append.mp h.held
  constructor
  · rw [← h.pieces]
    simp [BodyItem.pieces]
  · refine List.isChain_append.mpr ⟨hheld.1, List.isChain_singleton _, fun x hx y hy => ?_⟩
    obtain rfl : BodyItem.choice text (children ++ [value]) = y := by simpa using hy
    exact mayPrecede_of_child? rfl x

/-! ## a story has one body -/

/-- children, and then a story that does not start with one, can be told apart -/
theorem append_children_inj {xs ys : List V} {s t : List (StoryPiece V)}
    (hs : ∀ v, s.head? ≠ some (.child v)) (ht : ∀ v, t.head? ≠ some (.child v))
    (h : xs.map StoryPiece.child ++ s = ys.map StoryPiece.child ++ t) : xs = ys ∧ s = t := by
  induction xs generalizing ys with
  | nil =>
    cases ys with
    | nil => exact ⟨rfl, h⟩
    | cons y ys => exact absurd (congrArg List.head? h) (hs y)
  | cons x xs ih =>
    cases ys with
    | nil => exact absurd (congrArg List.head? h).symm (ht x)
    | cons y ys =>
      obtain ⟨hxy, h⟩ := List.cons.inj h
      obtain ⟨rfl, rfl⟩ := ih h
      exact ⟨congrArg (· :: xs) (StoryPiece.child.inj hxy), rfl⟩

/-- what follows a choice and what it holds does not start with a value -/
theorem head?_ne_child (h : (.choice text children :: body).IsChain BodyItem.MayPrecede) :
    ∀ v, (body.flatMap BodyItem.pieces).head? ≠ some (.child v) := by
  intro v hv
  cases body with
  | nil => cases hv
  | cons item body =>
    have hmay := (List.isChain_cons_cons.mp h).1
    cases item with
    | paragraph text => cases hv
    | choice text children => cases hv
    | child value => exact hmay

/-- the first item of a body is found in the story -/
theorem pieces_cons_inj {item item' : BodyItem V}
    (hheld : (item :: body).IsChain BodyItem.MayPrecede)
    (hheld' : (item' :: body').IsChain BodyItem.MayPrecede)
    (h : (item :: body).flatMap BodyItem.pieces = (item' :: body').flatMap BodyItem.pieces) :
    item = item' ∧ body.flatMap BodyItem.pieces = body'.flatMap BodyItem.pieces := by
  cases item with
  | paragraph text =>
    cases item' with
    | paragraph text' =>
      obtain ⟨hhead, hrest⟩ := List.cons.inj h
      exact ⟨congrArg _ (StoryPiece.paragraph.inj hhead), hrest⟩
    | choice text' children' => cases (List.cons.inj h).1
    | child value' => cases (List.cons.inj h).1
  | choice text children =>
    cases item' with
    | paragraph text' => cases (List.cons.inj h).1
    | choice text' children' =>
      obtain ⟨hhead, happend⟩ := List.cons.inj h
      obtain ⟨rfl, hrest⟩ : children = children' ∧
          body.flatMap BodyItem.pieces = body'.flatMap BodyItem.pieces :=
        append_children_inj (head?_ne_child hheld) (head?_ne_child hheld') happend
      exact ⟨congrArg (BodyItem.choice · children) (StoryPiece.choice.inj hhead), hrest⟩
    | child value' => cases (List.cons.inj h).1
  | child value =>
    cases item' with
    | paragraph text' => cases (List.cons.inj h).1
    | choice text' children' => cases (List.cons.inj h).1
    | child value' =>
      obtain ⟨hhead, hrest⟩ := List.cons.inj h
      exact ⟨congrArg _ (StoryPiece.child.inj hhead), hrest⟩

/-- **a story has one body** -/
theorem Tells.unique (h : Tells body story) (h' : Tells body' story) : body = body' := by
  induction body generalizing body' story with
  | nil =>
    obtain rfl := h.pieces
    cases body' with
    | nil => rfl
    | cons item' body' => cases item' <;> cases h'.pieces
  | cons item body ih =>
    obtain rfl := h.pieces
    cases body' with
    | nil => cases item <;> cases h'.pieces
    | cons item' body' =>
      obtain ⟨rfl, hrest⟩ := pieces_cons_inj h.held h'.held h'.pieces.symm
      rw [ih ⟨rfl, h.held.tail⟩ ⟨hrest.symm, h'.held.tail⟩]

end

/-! ## reading a unit -/

/-- the messages about the values of a body that no choice holds -/
def strays (body : List (BodyItem (Nat × V))) : List Diagnostic :=
  (body.filterMap BodyItem.child?).map fun x => Problem.strayChild.on [x.1]

theorem strays_append (body items : List (BodyItem (Nat × V))) :
    strays (body ++ items) = strays body ++ strays items := by
  rw [strays, List.filterMap_append, List.map_append]
  rfl

theorem strays_itemsOfLines (lines : List Text) :
    strays (itemsOfLines lines : List (BodyItem (Nat × V))) = [] := by
  have hnone : (itemsOfLines lines : List (BodyItem (Nat × V))).filterMap BodyItem.child? = [] :=
    List.filterMap_eq_nil_iff.mpr fun _ h => child?_of_mem_itemsOfLines h
  rw [strays, hnone, List.map_nil]

theorem strays_attach? {body body' : List (BodyItem (Nat × V))} {x : Nat × V}
    (h : attach? body x = some body') : strays body' = strays body := by
  obtain ⟨init, text, children, rfl, rfl⟩ := exists_of_attach? h
  rw [strays_append, strays_append]
  rfl

/-- a story so far: its body, and a message for every value that no choice holds -/
structure Reads (story : List (StoryPiece (Nat × V)))
    (x : List (BodyItem (Nat × V)) × List Diagnostic) : Prop where
  tells : Tells x.1 story
  log : x.2 = strays x.1

/-- **a member** goes on with the story -/
theorem Reads.addMember {story pieces : List (StoryPiece (Nat × V))}
    {x : List (BodyItem (Nat × V)) × List Diagnostic} (h : Reads story x) {m : Member V}
    (hm : StoryPiece.OfMember m pieces) : Reads (story ++ pieces) (addMember x m.tagged) := by
  obtain ⟨body, log⟩ := x
  have htells : Tells body story := h.tells
  obtain rfl : log = strays body := h.log
  cases hm with
  | @own id b _ hlines =>
    refine ⟨htells.lines hlines, ?_⟩
    show strays body = strays (body ++ itemsOfLines b.lines)
    rw [strays_append, strays_itemsOfLines, List.append_nil]
  | @folded id b v =>
    show Reads (story ++ [.child (id, v)])
      (Roleplay.addMember (body, strays body) (@Member.folded _ id b (id, v)))
    cases hattach : attach? body (id, v) with
    | some body' =>
      rw [addMember_of_attach _ id hattach]
      exact ⟨htells.attach hattach, (strays_attach? hattach).symm⟩
    | none =>
      rw [addMember_of_stray _ id hattach]
      refine ⟨htells.stray hattach, ?_⟩
      show strays body ++ [_] = strays (body ++ [.child (id, v)])
      rw [strays_append]
      rfl

theorem Reads.foldl {ms : List (Member V)} {parts : List (List (StoryPiece (Nat × V)))}
    (hms : List.Forall₂ StoryPiece.OfMember ms parts) : ∀ {story : List (StoryPiece (Nat × V))}
    {x : List (BodyItem (Nat × V)) × List Diagnostic}, Reads story x →
    Reads (story ++ parts.flatten) ((ms.map Member.tagged).foldl Roleplay.addMember x) := by
  induction hms with
  | nil =>
    intro story x h
    rw [List.flatten_nil, List.append_nil]
    exact h
  | cons hm _ ih =>
    intro story x h
    rw [List.map_cons, List.foldl_cons, List.flatten_cons, ← List.append_assoc]
    exact ih (h.addMember hm)

/-- **the body** that is read from a unit with the ids on its values tells the story of the unit -/
theorem reads_ofUnit (u : RenderUnit V) : ∃ title lines story, TitleOf u.anchor.lines title lines ∧
    StoryPiece.OfUnit u lines story ∧ (ofUnit u.tagged).1.title = title ∧
    Reads story ((ofUnit u.tagged).1.body, (ofUnit u.tagged).2) := by
  obtain ⟨first, hfirst⟩ := StoryPiece.exists_ofLines (splitTitle u.anchor.lines).2
  obtain ⟨parts, hparts⟩ := StoryPiece.exists_ofMembers u.rest
  refine ⟨_, _, _, splitTitle_eq_iff.mp rfl, ⟨first, parts, hfirst, hparts, rfl⟩, rfl, ?_⟩
  exact Reads.foldl hparts ⟨tells_itemsOfLines hfirst, (strays_itemsOfLines _).symm⟩

end Roleplay

/-- **a narrative unit keeps its order**: the body of the card, each choice followed by what it
holds, is what the unit tells, and no other body is; the messages name the values that no choice
holds, one message a value -/
theorem CardFormat.unit_narrative (f : CardFormat V) (u : RenderUnit V) :
    ∃ title lines story body, Roleplay.TitleOf u.anchor.lines title lines ∧
      StoryPiece.OfUnit u lines story ∧ Roleplay.Tells body story ∧
      (∀ title' lines' story' body', Roleplay.TitleOf u.anchor.lines title' lines' →
        StoryPiece.OfUnit u lines' story' → Roleplay.Tells body' story' →
        title' = title ∧ body' = body) ∧
      f.renderer.unit .narrative u =
        (f.roleplay ⟨title, body.map (BodyItem.map Prod.snd)⟩, Roleplay.strays body) ∧
      ∀ d ∈ Roleplay.strays body, d.code = 428 := by
  obtain ⟨_, lines, story, htitle, hstory, rfl, htells, hlog⟩ := Roleplay.reads_ofUnit u
  refine ⟨_, lines, story, _, htitle, hstory, htells, ?_, ?_, fun d hd => ?_⟩
  · intro title' lines' story' body' htitle' hstory' htells'
    have hsplit := Roleplay.splitTitle_eq_iff.mpr htitle
    rw [Roleplay.splitTitle_eq_iff.mpr htitle'] at hsplit
    obtain ⟨rfl, rfl⟩ := Prod.mk.inj hsplit
    obtain rfl := hstory'.unique hstory
    exact ⟨rfl, htells'.unique htells⟩
  · have hread := Roleplay.ofUnit_map (φ := Prod.snd) u.tagged
    rw [RenderUnit.map_snd_tagged] at hread
    show (f.roleplay (Roleplay.ofUnit u).1, (Roleplay.ofUnit u).2) = _
    rw [hread, ← hlog]
    rfl
  · obtain ⟨x, _, rfl⟩ := List.mem_map.mp hd
    rfl

end QuestScript

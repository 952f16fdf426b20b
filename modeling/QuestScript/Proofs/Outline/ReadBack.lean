import QuestScript.Proofs.Block.Normal
import QuestScript.Proofs.Card.Labels
import QuestScript.Proofs.Card.Order
import QuestScript.Proofs.Card.Quests
import QuestScript.Proofs.Text.Lines
import QuestScript.Proofs.Text.Parts

/-!
# Reading an outline back

An outline can be read from its text, which has one line a node: the depth of a node is seen from its
indentation, and the nodes that follow it and are deeper are below it.

* `OutlineNode.Row`, `OutlineNode.read?`  a line of an outline, and the reader;
* `OutlineNode.rows`              the lines of a tree;
* `OutlineNode.foldr_rows`        a tree is put together from its lines;
* `OutlineNode.read?_render_of_legible`  so it is read from its text;
* `Outline.isLegible_document`    the outline of a script can be read;
* `Outline.read?_render`          the text of an outline determines it.
-/

namespace QuestScript

open Character (isBlank)

namespace OutlineNode

/-! ## the reader -/

/-- a line of an outline -/
structure Row where
  depth : Nat
  kind : Text
  label : Text

namespace Row

/-- reads a line: two columns to a level, the kind up to the first `: `, and the rest as the label -/
def ofLine (line : Text) : Row :=
  let columns := (line.takeWhile (· = ' ')).length
  let text := line.drop columns
  let (kind, label) := (Text.splitAtPart [':', ' '] text).getD (text, [])
  ⟨columns / 2, kind, label⟩

/-- the nodes below a line, each with its depth: those that are deeper are put below its node -/
def nest (row : Row) (below : List (Nat × OutlineNode)) : List (Nat × OutlineNode) :=
  let deeper (p : Nat × OutlineNode) : Bool := row.depth < p.1
  (row.depth, node row.kind row.label ((below.takeWhile deeper).map Prod.snd)) ::
    below.dropWhile deeper

end Row

/-- reads the text of an outline -/
def read? (text : Text) : Option OutlineNode :=
  let lines := (Text.withEnds text).map fun line => (Text.dropSuffix? ['\n'] line).getD line
  match (lines.map Row.ofLine).foldr Row.nest [] with
  | [(0, n)] => some n
  | _ => none

/-! ## the lines of a tree -/

mutual

/-- the lines of a tree at a depth of nesting -/
def rows (depth : Nat) : OutlineNode → List Row
  | node kind label cs => ⟨depth, kind, label⟩ :: rowsAll (depth + 1) cs

def rowsAll (depth : Nat) : List OutlineNode → List Row
  | [] => []
  | c :: cs => c.rows depth ++ rowsAll depth cs

end

def Row.text (row : Row) : Text := Text.blanks (2 * row.depth) ++ line row.kind row.label

theorem unlines_append (ls ls' : List Text) :
    Text.unlines (ls ++ ls') = Text.unlines ls ++ Text.unlines ls' := List.flatMap_append

mutual

theorem renderAt_eq (depth : Nat) : ∀ n : OutlineNode,
    n.renderAt depth = Text.unlines ((n.rows depth).map Row.text)
  | node kind label cs => by
    rw [renderAt, renderAllAt_eq (depth + 1) cs, rows, List.map_cons, Text.unlines, Text.unlines,
      List.flatMap_cons]
    simp [Row.text]

theorem renderAllAt_eq (depth : Nat) : ∀ ns : List OutlineNode,
    renderAllAt depth ns = Text.unlines ((rowsAll depth ns).map Row.text)
  | [] => rfl
  | n :: ns => by
    rw [renderAllAt, renderAt_eq depth n, renderAllAt_eq depth ns, rowsAll, List.map_append,
      unlines_append]

end

mutual

/-- the lines of a tree tell of its nodes -/
theorem map_rows {α : Type} (f : Text → Text → α) (depth : Nat) : ∀ n : OutlineNode,
    (n.rows depth).map (fun row => f row.kind row.label) = n.nodes.map fun m => f m.kind m.label
  | node kind label cs => by
    rw [rows, nodes, List.map_cons, List.map_cons, map_rowsAll f (depth + 1) cs]
    rfl

theorem map_rowsAll {α : Type} (f : Text → Text → α) (depth : Nat) : ∀ ns : List OutlineNode,
    (rowsAll depth ns).map (fun row => f row.kind row.label) =
      (nodesAll ns).map fun m => f m.kind m.label
  | [] => rfl
  | n :: ns => by
    rw [rowsAll, nodesAll, List.map_append, List.map_append, map_rows f depth n,
      map_rowsAll f depth ns]

end

mutual

/-- **a tree is put together from its lines**, if nothing deeper stands below them -/
theorem foldr_rows (depth : Nat) : ∀ (n : OutlineNode) {below : List (Nat × OutlineNode)},
    (∀ p ∈ below.head?, p.1 ≤ depth) →
      (n.rows depth).foldr Row.nest below = (depth, n) :: below
  | node kind label cs, below, h => by
    rw [rows, List.foldr_cons,
      foldr_rowsAll (depth + 1) cs fun p hp => Nat.le_succ_of_le (h p hp)]
    have hdeeper : ∀ p ∈ cs.map (depth + 1, ·), (decide (depth < p.1)) = true := by
      intro p hp
      obtain ⟨c, _, rfl⟩ := List.mem_map.mp hp
      exact decide_eq_true (Nat.lt_succ_self depth)
    have hbelow : below.takeWhile (fun p => decide (depth < p.1)) = [] ∧
        below.dropWhile (fun p => decide (depth < p.1)) = below := by
      cases below with
      | nil => exact ⟨rfl, rfl⟩
      | cons p below => simp [Nat.not_lt.mpr (h p rfl)]
    unfold Row.nest
    dsimp only
    rw [List.takeWhile_append_of_pos hdeeper, List.dropWhile_append_of_pos hdeeper, hbelow.1,
      hbelow.2, List.append_nil, List.map_map]
    simp [Function.comp_def]

theorem foldr_rowsAll (depth : Nat) : ∀ (ns : List OutlineNode)
    {below : List (Nat × OutlineNode)}, (∀ p ∈ below.head?, p.1 ≤ depth) →
      (rowsAll depth ns).foldr Row.nest below = ns.map (depth, ·) ++ below
  | [], _, _ => rfl
  | n :: ns, below, h => by
    rw [rowsAll, List.foldr_append, foldr_rowsAll depth ns h, foldr_rows depth n]
    · rfl
    · cases ns with
      | nil => exact h
      | cons m ns => simp

end

/-! ## one line -/

/-- the kind is a word without a colon, and the label keeps to its line -/
structure IsLegible (kind label : Text) : Prop where
  ne_nil : kind ≠ []
  colon : ':' ∉ kind
  blank : ∀ c ∈ kind, isBlank c = false
  newline : '\n' ∉ label

section
variable {kind label : Text} (h : IsLegible kind label)
include h

theorem splitAtPart_line :
    (Text.splitAtPart [':', ' '] (line kind label)).getD (line kind label, []) = (kind, label) := by
  unfold line
  split
  · next hlabel =>
    have hnone : Text.splitAtPart [':', ' '] kind = none := by
      have hpart : ¬Text.hasPart [':', ' '] kind = true := fun hpart =>
        h.colon ((Text.hasPart_iff.mp hpart).subset List.mem_cons_self)
      simpa [Text.hasPart] using hpart
    rw [hnone, List.isEmpty_iff.mp hlabel]
    rfl
  · have hskips : Text.Skips [':', ' '] kind := Text.Skips.of_not_mem h.colon
    have hsplit := hskips.splitAtPart (List.cons_ne_nil _ _) label
    rw [List.cons_append, List.cons_append, List.nil_append] at hsplit
    rw [hsplit]
    rfl

theorem takeWhile_text (depth : Nat) :
    ((⟨depth, kind, label⟩ : Row).text.takeWhile (· = ' ')) = Text.blanks (2 * depth) := by
  have hfirst : (line kind label).takeWhile (· = ' ') = [] := by
    obtain ⟨c, rest, rfl⟩ := List.exists_cons_of_ne_nil h.ne_nil
    have hc : c ≠ ' ' := by
      rintro rfl
      exact absurd (h.blank ' ' List.mem_cons_self) (by decide)
    unfold line
    split <;> simp [hc]
  unfold Row.text
  rw [List.takeWhile_append_of_pos, hfirst, List.append_nil]
  intro c hc
  exact decide_eq_true (List.eq_of_mem_replicate hc)

/-- **a line is read** as it was written -/
theorem ofLine_text (depth : Nat) :
    Row.ofLine (⟨depth, kind, label⟩ : Row).text = ⟨depth, kind, label⟩ := by
  have hcolumns : (Text.blanks (2 * depth)).length = 2 * depth := List.length_replicate
  unfold Row.ofLine
  dsimp only
  rw [takeWhile_text h, hcolumns]
  have hdrop : (⟨depth, kind, label⟩ : Row).text.drop (2 * depth) = line kind label :=
    List.drop_left' hcolumns
  rw [hdrop, splitAtPart_line h]
  simp

theorem newline_not_mem_text (depth : Nat) : '\n' ∉ (⟨depth, kind, label⟩ : Row).text := by
  have hkind : '\n' ∉ kind := fun hmem => absurd (h.blank '\n' hmem) (by decide)
  have hblanks : '\n' ∉ Text.blanks (2 * depth) := fun hmem =>
    absurd (List.eq_of_mem_replicate hmem) (by decide)
  unfold Row.text line
  split <;> simp [hkind, hblanks, h.newline]

end

/-! ## the whole text -/

theorem length_rows (depth : Nat) (n : OutlineNode) : (n.rows depth).length = n.nodes.length := by
  have := congrArg List.length (map_rows (fun kind _ => kind) depth n)
  rwa [List.length_map, List.length_map] at this

section
variable {n : OutlineNode} (h : ∀ m ∈ n.nodes, IsLegible m.kind m.label)
include h

theorem isLegible_of_mem_rows {depth : Nat} {row : Row} (hrow : row ∈ n.rows depth) :
    IsLegible row.kind row.label := by
  have hmem : (row.kind, row.label) ∈ n.nodes.map fun m => (m.kind, m.label) :=
    map_rows Prod.mk depth n ▸ List.mem_map_of_mem hrow
  obtain ⟨m, hm, heq⟩ := List.mem_map.mp hmem
  obtain ⟨hkind, hlabel⟩ := Prod.mk.inj heq
  rw [← hkind, ← hlabel]
  exact h m hm

theorem withEnds_render :
    Text.withEnds n.render = ((n.rows 0).map Row.text).map (· ++ ['\n']) := by
  unfold render
  rw [renderAt_eq]
  refine Text.withEnds_unlines fun line hline => ?_
  obtain ⟨row, hrow, rfl⟩ := List.mem_map.mp hline
  exact newline_not_mem_text (isLegible_of_mem_rows h hrow) row.depth

theorem map_ofLine_render :
    ((Text.withEnds n.render).map fun line => (Text.dropSuffix? ['\n'] line).getD line).map
      Row.ofLine = n.rows 0 := by
  rw [withEnds_render h, List.map_map, List.map_map, List.map_map]
  refine (List.map_congr_left fun row hrow => ?_).trans (List.map_id _)
  show Row.ofLine ((Text.dropSuffix? ['\n'] (row.text ++ ['\n'])).getD _) = row
  rw [Text.dropSuffix?_eq_some_iff.mpr rfl]
  exact ofLine_text (isLegible_of_mem_rows h hrow) row.depth

/-- **an outline is read from its text**, and there is one line a node -/
theorem read?_render_of_legible :
    read? n.render = some n ∧ (Text.withEnds n.render).length = n.nodes.length := by
  constructor
  · unfold read?
    dsimp only
    rw [map_ofLine_render h, foldr_rows 0 n (by simp)]
    rfl
  · rw [withEnds_render h, List.length_map, List.length_map, length_rows]

end

end OutlineNode

/-! ## the outline of a script -/

namespace Outline

/-- all that is printed of a tree keeps to its lines -/
def IsLegible (n : OutlineNode) : Prop := ∀ m ∈ n.nodes, OutlineNode.IsLegible m.kind m.label

theorem isLegible_node_iff {kind label : Text} {children : List OutlineNode} :
    IsLegible (.node kind label children) ↔
      OutlineNode.IsLegible kind label ∧ ∀ c ∈ children, IsLegible c := by
  unfold IsLegible
  rw [OutlineNode.nodes_node, List.forall_mem_cons, List.forall_mem_flatMap]
  rfl

/-- the kinds that cards are printed with -/
def kinds : List Text := ["quest", "roleplay", "choice", "combat", "event", "trigger", "error"]

theorem isLegible_kind {kind label : Text} (hkind : kind ∈ kinds) (hlabel : '\n' ∉ label) :
    OutlineNode.IsLegible kind label := by
  have hkinds : ∀ kind ∈ kinds, kind ≠ [] ∧ ':' ∉ kind ∧ kind.all (!isBlank ·) = true := by decide
  obtain ⟨hne, hcolon, hblank⟩ := hkinds kind hkind
  refine ⟨hne, hcolon, fun c hc => ?_, hlabel⟩
  simpa using List.all_eq_true.mp hblank c hc

theorem isLegible_roleplay {card : Roleplay OutlineNode}
    (hlabels : ∀ label ∈ (Card.roleplay card).labels, '\n' ∉ label)
    (hplaced : ∀ v ∈ card.placed, IsLegible v) : IsLegible (format.roleplay card) := by
  refine isLegible_node_iff.mpr ⟨isLegible_kind (by decide) fun h => ?_, fun c hc => ?_⟩
  · obtain ⟨title, htitle, h⟩ := mem_getD_nil h
    exact hlabels title (List.mem_append_left _ (Option.mem_toList.mpr htitle)) h
  · obtain ⟨item, hitem, hc⟩ := List.mem_filterMap.mp hc
    have hitems : ∀ v ∈ item.placed, IsLegible v := fun v hv =>
      hplaced v (List.mem_flatMap.mpr ⟨item, hitem, hv⟩)
    cases item with
    | paragraph text => cases hc
    | choice text children =>
      rw [← Option.some.inj hc]
      refine isLegible_node_iff.mpr ⟨isLegible_kind (by decide) (hlabels text ?_), hitems⟩
      exact List.mem_append_right _ (List.mem_filterMap.mpr ⟨_, hitem, rfl⟩)
    | child value =>
      rw [← Option.some.inj hc]
      exact hitems value (List.mem_singleton_self value)

theorem isLegible_combat {card : Combat OutlineNode}
    (hlabels : ∀ label ∈ (Card.combat card).labels, '\n' ∉ label)
    (hplaced : ∀ v ∈ card.placed, IsLegible v) : IsLegible (format.combat card) := by
  refine isLegible_node_iff.mpr ⟨isLegible_kind (by decide) fun h => ?_, fun c hc => ?_⟩
  · rcases Text.mem_join h with h | ⟨name, hname, h⟩
    · exact absurd h (by decide)
    · exact hlabels name (List.mem_append_left _ hname) h
  · obtain ⟨e, he, rfl⟩ := List.mem_map.mp hc
    refine isLegible_node_iff.mpr ⟨isLegible_kind (by decide) (hlabels e.on ?_), fun v hv => ?_⟩
    · exact List.mem_append_right _ (List.mem_map_of_mem he)
    · exact hplaced v (List.mem_flatMap.mpr ⟨e, he, hv⟩)

theorem isLegible_write : ∀ {card : Card OutlineNode}, (∀ label ∈ card.labels, '\n' ∉ label) →
    (∀ v ∈ card.placed, IsLegible v) → IsLegible (format.write card)
  | .quest _, hlabels, _ | .trigger _, hlabels, _ | .placeholder _, hlabels, _ =>
    isLegible_node_iff.mpr
      ⟨isLegible_kind (by decide) (hlabels _ (List.mem_singleton_self _)), fun _ h => nomatch h⟩
  | .roleplay _, hlabels, hplaced => isLegible_roleplay hlabels hplaced
  | .combat _, hlabels, hplaced => isLegible_combat hlabels hplaced

theorem isLegible_untitled : IsLegible (format.quest .untitled) :=
  isLegible_node_iff.mpr ⟨isLegible_kind (by decide) List.not_mem_nil, fun _ h => nomatch h⟩

/-- **what is printed of a script** keeps to its lines -/
theorem isLegible_document (source : Text) :
    IsLegible (Compilation.ofSource format.renderer source).document := by
  refine Compilation.document_induction_of_unit format _ (fun u hown hplaced => ?_)
    isLegible_untitled (fun _ => rfl) fun q vs _ hq hvs => ?_
  · refine isLegible_write (Card.newline_not_mem_labels (fun line hline => ?_) _) hplaced
    obtain ⟨m, hm, hline⟩ := List.mem_flatMap.mp hline
    cases m with
    | own id b =>
      have hb := Block.isNormal_of_mem_ofLines (fun _ => Text.newline_not_mem_lines) (hown id b hm)
      exact (hb.lines line hline).newline
    | folded id v => cases hline
  · cases q with
    | node kind label children =>
      obtain ⟨hlabel, hchildren⟩ := isLegible_node_iff.mp hq
      refine isLegible_node_iff.mpr ⟨hlabel, fun c hc => ?_⟩
      exact (List.mem_append.mp hc).elim (hchildren c) (hvs c)

/-- **The text of an outline determines it.**  A tree whose kinds are words without a colon and whose
labels keep to their lines is read from its text, which has one line a node; and the outline of a
script is such a tree. -/
theorem read?_render :
    (∀ n : OutlineNode, (∀ m ∈ n.nodes, OutlineNode.IsLegible m.kind m.label) →
      OutlineNode.read? n.render = some n ∧ (Text.withEnds n.render).length = n.nodes.length) ∧
    ∀ source, let n := (Compilation.ofSource format.renderer source).document
      (∀ m ∈ n.nodes, OutlineNode.IsLegible m.kind m.label) ∧
      OutlineNode.read? n.render = some n ∧ (Text.withEnds n.render).length = n.nodes.length :=
  ⟨fun _ => OutlineNode.read?_render_of_legible, fun source =>
    ⟨isLegible_document source, OutlineNode.read?_render_of_legible (isLegible_document source)⟩⟩

example : OutlineNode.read? "quest: Q\n  roleplay\n    choice:  a: b\n  trigger: end\n" =
    some (.node "quest" "Q" [.node "roleplay" [] [.node "choice" " a: b" []],
      .node "trigger" "end" []]) := rfl

end Outline

end QuestScript

import QuestScript.Proofs.Render.States
import QuestScript.Proofs.Group.Owner
import QuestScript.Proofs.Block.Lines

/-!
# The value of a source line

After a script is rendered, a line that is not blank is found in a block, the block in a group, and
the value of the group on its first block.

* `Fresh.exists_owner`               the owner of a block carries the value of the unit of its group;
* `Compilation.valueAt?_of_hasLine`  and a line of the block is looked up there;
* `Compilation.IsUnitAt`             what the renderer made of the unit of a line;
* `Session.valueAt?_renderSource`    what a session answers about a line.
-/

namespace QuestScript

open Character (isBlank)

variable {V D : Type}

namespace Compilation

namespace Fresh

variable {r : Renderer V D} {blocks : List Block} {c : Compilation V D}

/-- **the owner of a block** carries what the renderer made of the unit of its group -/
theorem exists_owner (h : c.Fresh r blocks) {id : Nat} {b : Block} (hb : blocks[id]? = some b) :
    ∃ l ∈ c.table, ∃ g ∈ l.nonEmpty, id ∈ g ∧ ∃ s ∈ c.segments, s.group = g ∧
      ∃ kind u, s.outcome = .rendered kind u (r.unit kind u).1 (r.unit kind u).2 ∧
        g.head? = some u.anchorId ∧ c.table.owner id = u.anchorId ∧
        c.value? u.anchorId = some (r.unit kind u).1 := by
  obtain ⟨l, hl, _, g, hg, hid⟩ := h.table_over.exists_group hb
  have hhead := h.table_over.owner_eq_head hl (Level.mem_nonEmpty.mp hg).1 hid
  have hs := h.mem_segments.mpr ⟨l, hl, g, hg, rfl⟩
  obtain ⟨kind, u, hout⟩ := h.exists_unit hs
  obtain ⟨_, _, _, _, hout', hanchor, hvalue⟩ := h.kept _ hs
  obtain ⟨rfl, rfl, rfl, rfl⟩ := Outcome.rendered.inj (hout.symm.trans hout')
  exact ⟨l, hl, g, hg, hid, _, hs, rfl, kind, u, hout, hanchor,
    Option.some.inj (hhead.symm.trans hanchor), hvalue⟩

/-- two blocks of one group have one owner -/
theorem owner_congr (h : c.Fresh r blocks) {l : Level} (hl : l ∈ c.table) {g : Group}
    (hg : g ∈ l.nonEmpty) {i j : Nat} (hi : i ∈ g) (hj : j ∈ g) :
    c.table.owner i = c.table.owner j := by
  have hgroup := (Level.mem_nonEmpty.mp hg).1
  have hi := h.table_over.owner_eq_head hl hgroup hi
  have hj := h.table_over.owner_eq_head hl hgroup hj
  exact Option.some.inj (hi.symm.trans hj)

end Fresh

section
variable (r : Renderer V D) (source : Text)

theorem blocks_ofSource : (ofSource r source).blocks = Block.ofSource source :=
  (fresh r (Block.ofSource source)).settled.blocks_eq

theorem atLine?_ofSource {n id : Nat} : Block.atLine? (ofSource r source).blocks n = some id ↔
    ∃ b, (Block.ofSource source)[id]? = some b ∧ b.hasLine n = true := by
  rw [blocks_ofSource]
  exact Block.atLine?_eq_some (Block.pairwise_ofLines _)

/-- the value of a line is kept on the owner of its block -/
theorem valueAt?_of_hasLine {n id : Nat} {b : Block}
    (hb : (Block.ofSource source)[id]? = some b) (hn : b.hasLine n = true) :
    (ofSource r source).valueAt? n =
      (ofSource r source).value? ((ofSource r source).table.owner id) := by
  have hat := (atLine?_ofSource r source).mpr ⟨b, hb, hn⟩
  unfold valueAt?
  rw [hat, Option.bind_some]

theorem valueAt?_isSome_iff {n : Nat} : ((ofSource r source).valueAt? n).isSome ↔
    ∃ line, (Text.lines source)[n]? = some line ∧ line.all isBlank = false := by
  have h : (ofSource r source).Fresh r (Block.ofSource source) := fresh r _
  constructor
  · intro hsome
    obtain ⟨v, hv⟩ := Option.isSome_iff_exists.mp hsome
    obtain ⟨id, hid, _⟩ := Option.bind_eq_some_iff.mp hv
    obtain ⟨b, hb, hn⟩ := (atLine?_ofSource r source).mp hid
    obtain ⟨_, line, _, hline, hblank, _⟩ :=
      Block.getElem?_of_hasLine (List.mem_of_getElem? hb) hn
    exact ⟨line, hline, hblank⟩
  · rintro ⟨line, hline, hblank⟩
    obtain ⟨b, hb, hn⟩ := Block.exists_hasLine hline hblank
    obtain ⟨id, hid⟩ := List.mem_iff_getElem?.mp hb
    obtain ⟨_, _, _, _, _, _, _, _, _, u, _, _, howner, hvalue⟩ := h.exists_owner hid
    rw [valueAt?_of_hasLine r source hid hn, howner, hvalue]
    rfl

/-- `v` is what the renderer made of the unit of the group that the source line `n` belongs to, lines
counted from 0 -/
def IsUnitAt (n : Nat) (v : V) : Prop :=
  let c := ofSource r source
  ∃ id b, (Block.ofSource source)[id]? = some b ∧ b.hasLine n = true ∧
    ∃ l ∈ c.table, ∃ g ∈ l.nonEmpty, id ∈ g ∧ ∃ s ∈ c.segments, s.group = g ∧
      ∃ kind u log, s.outcome = .rendered kind u v log ∧ r.unit kind u = (v, log) ∧
        g.head? = some u.anchorId

/-- **the value of a line** is that of its unit -/
theorem valueAt?_eq_some_iff {n : Nat} {v : V} :
    (ofSource r source).valueAt? n = some v ↔ IsUnitAt r source n v := by
  have h : (ofSource r source).Fresh r (Block.ofSource source) := fresh r _
  constructor
  · intro hv
    obtain ⟨id, hid, _⟩ := Option.bind_eq_some_iff.mp hv
    obtain ⟨b, hb, hn⟩ := (atLine?_ofSource r source).mp hid
    obtain ⟨l, hl, g, hg, hidg, s, hs, hgroup, kind, u, hout, hhead, howner, hvalue⟩ :=
      h.exists_owner hb
    rw [valueAt?_of_hasLine r source hb hn, howner, hvalue] at hv
    obtain rfl := Option.some.inj hv
    exact ⟨id, b, hb, hn, l, hl, g, hg, hidg, s, hs, hgroup, kind, u, _, hout, rfl, hhead⟩
  · rintro ⟨id, b, hb, hn, l, hl, g, hg, hid, s, hs, rfl, kind, u, log, hout, _, hhead⟩
    have howner := h.table_over.owner_eq_head hl (Level.mem_nonEmpty.mp hg).1 hid
    obtain ⟨_, _, _, _, hout', _, hvalue⟩ := h.kept s hs
    obtain ⟨rfl, rfl, rfl, rfl⟩ := Outcome.rendered.inj (hout.symm.trans hout')
    rw [valueAt?_of_hasLine r source hb hn, Option.some.inj (howner.symm.trans hhead), hvalue]

end

end Compilation

/-- **The value of a source line.**  After a script is rendered, a line has a value just if it is not
blank.  It is the value that the renderer gave for the group of the block of the line; this is kept
on the first block of the group, where the table of owners finds it; and all lines of the group have
it. -/
theorem Session.valueAt?_renderSource (s : Session V D) (source : Text) (n : Nat) :
    let r := s.renderer
    let after := s.renderSource source
    let c := Compilation.ofSource r source
    after.last = some c ∧ c.blocks = Block.ofSource source ∧
    ((after.valueAt? n).isSome ↔
      ∃ line, (Text.lines source)[n]? = some line ∧ line.all isBlank = false) ∧
    (after.valueAt? n = (Block.atLine? c.blocks n).bind fun id =>
      ((c.table.owners c.blocks.length)[id]?).bind c.value?) ∧
    ∀ id b, c.blocks[id]? = some b → b.hasLine n = true →
      ∃ l ∈ c.table, ∃ g ∈ l.nonEmpty, id ∈ g ∧
        ∃ segment ∈ c.segments, segment.group = g ∧
          ∃ kind u v log, segment.outcome = .rendered kind u v log ∧ r.unit kind u = (v, log) ∧
            g.head? = some u.anchorId ∧ c.value? u.anchorId = some v ∧
            after.valueAt? n = some v ∧
            ∀ id' ∈ g, ∀ b', c.blocks[id']? = some b' → ∀ m, b'.hasLine m = true →
              after.valueAt? m = some v := by
  intro r after c
  have h : c.Fresh r (Block.ofSource source) := Compilation.fresh r _
  have hblocks : c.blocks = Block.ofSource source := Compilation.blocks_ofSource r source
  refine ⟨rfl, hblocks, Compilation.valueAt?_isSome_iff r source, ?_, ?_⟩
  · show c.valueAt? n = _
    unfold Compilation.valueAt?
    cases hat : Block.atLine? c.blocks n with
    | none => rfl
    | some id =>
      obtain ⟨b, hb, _⟩ := (Compilation.atLine?_ofSource r source).mp hat
      have hlt : id < c.blocks.length := by
        rw [hblocks]
        exact (List.getElem?_eq_some_iff.mp hb).1
      rw [Option.bind_some, Option.bind_some, GroupTable.getElem?_owners _ hlt, Option.bind_some]
  · intro id b hb hn
    rw [hblocks] at hb
    obtain ⟨l, hl, g, hg, hid, segment, hsegment, hgroup, kind, u, hout, hanchor, howner, hvalue⟩ :=
      h.exists_owner hb
    have hall : ∀ id' ∈ g, ∀ b', c.blocks[id']? = some b' → ∀ m, b'.hasLine m = true →
        after.valueAt? m = some (r.unit kind u).1 := by
      intro id' hid' b' hb' m hm
      rw [hblocks] at hb'
      have howner' : c.table.owner id' = u.anchorId :=
        (h.owner_congr hl hg hid' hid).trans howner
      show c.valueAt? m = _
      rw [Compilation.valueAt?_of_hasLine r source hb' hm]
      show c.value? (c.table.owner id') = _
      rw [howner', hvalue]
    exact ⟨l, hl, g, hg, hid, segment, hsegment, hgroup, kind, u, _, _, hout, rfl, hanchor, hvalue,
      hall id hid b (hblocks ▸ hb) n hn, hall⟩

end QuestScript

import QuestScript.Proofs.Group.Append
import QuestScript.Proofs.Render.Jump
import QuestScript.Proofs.Nest.Pass
import QuestScript.Proofs.Card.Rename
import QuestScript.Outline.Node
import Mathlib.Data.List.Perm.Basic

/-!
# Cards do not change each other

Two lists of blocks that are put one after the other are rendered as each of them alone, if the
second one starts with a header block at depth 0.  The next depth that a pass looks for may differ,
as it is taken from all depths that occur; but where every block is at most one level deeper than the
one before it, the next depth is one more, or no block is there to make a difference.

* `Block.Stepped`                     every block is at most one level deeper than the one before it;
* `Fresh.ofValues_nextDepth`          then the next depth may be taken as one more;
* `Block.Embeds.value?_eq`            blocks that stand in a longer list have the same values there;
* `Compilation.perm_segments_append`  the segments of two lists;
* `CardFormat.ofBlocks_append`        what that comes to for cards.
-/

namespace QuestScript

open scoped List

variable {V D : Type}

/-! ## stepped lists -/

/-- the first block is at depth 0, and every other one at most one level deeper than the one before -/
structure Block.Stepped (blocks : List Block) : Prop where
  first : ∀ b ∈ blocks.head?, b.indent = 0
  step : blocks.IsChain fun b b' => b'.indent ≤ b.indent + 1

namespace Block.Stepped

variable {blocks : List Block}

theorem regular (h : Stepped blocks) : Regular blocks where
  first b hb z _ := by
    rw [h.first b hb]
    exact Nat.zero_le _
  step := h.step.imp fun {b b'} hle z _ hlt => by omega

/-- every depth up to that of a block occurs -/
theorem exists_indent (h : Stepped blocks) {d : Nat} (i : Nat) :
    ∀ b, blocks[i]? = some b → d ≤ b.indent → ∃ z ∈ blocks, z.indent = d := by
  induction i with
  | zero =>
    intro b hb hle
    have := h.first b (List.head?_eq_getElem?.trans hb)
    exact ⟨b, List.mem_of_getElem? hb, by omega⟩
  | succ i ih =>
    intro b hb hle
    obtain ⟨hlt, rfl⟩ := List.getElem?_eq_some_iff.mp hb
    have hstep := List.isChain_iff_getElem.mp h.step i hlt
    by_cases heq : blocks[i + 1].indent = d
    · exact ⟨_, List.mem_of_getElem? hb, heq⟩
    · exact ih _ (List.getElem?_eq_getElem (Nat.lt_of_succ_lt hlt)) (by omega)

theorem append {as bs : List Block} (ha : Stepped as) (hb : Stepped bs) : Stepped (as ++ bs) where
  first := by
    cases as with
    | nil => exact hb.first
    | cons a as => exact ha.first
  step := by
    refine List.isChain_append.mpr ⟨ha.step, hb.step, fun a _ b hb' => ?_⟩
    rw [hb.first b hb']
    exact Nat.zero_le _

end Block.Stepped

theorem Block.exists_indent_lt (blocks : List Block) : ∃ k, ∀ b ∈ blocks, b.indent < k := by
  induction blocks with
  | nil => exact ⟨0, by simp⟩
  | cons b bs ih =>
    obtain ⟨k, hk⟩ := ih
    refine ⟨max (b.indent + 1) k, List.forall_mem_cons.mpr ⟨by omega, fun z hz => ?_⟩⟩
    have := hk z hz
    omega

/-! ## the next depth -/

/-- a depth that does not occur makes no difference as the next depth -/
theorem Segment.ofValues_of_none (r : Renderer V D) {blocks : List Block}
    (value : Nat → Option V) {d n : Nat} (hn : ∀ b ∈ blocks, b.indent ≠ n) (g : Group) :
    ofValues r blocks value (some n) d g = ofValues r blocks value none d g := by
  have hextent : ∀ stop, Group.extent blocks (some n) d stop = Group.extent blocks none d stop := by
    intro stop
    rw [Group.extent_eq_zero, Group.extent_eq_zero]
    · exact fun _ _ heq => nomatch heq
    · intro b hb heq
      exact hn b (List.mem_of_mem_drop (List.mem_of_head? hb)) (Option.some.inj heq).symm
  have hspan : Group.span blocks (some n) d g = Group.span blocks none d g := by
    unfold Group.span
    simp only [hextent]
  have hmember : memberAt blocks value (some n) d = memberAt blocks value none d := by
    funext id
    unfold memberAt
    cases hb : blocks[id]? with
    | none => rfl
    | some b => simp [hn b (List.mem_of_getElem? hb)]
  unfold ofValues
  rw [hspan, hmember]

theorem flatMap_filter_of_nil {α β : Type} {p : α → Bool} {f : α → List β} {l : List α}
    (h : ∀ a ∈ l, p a = false → f a = []) : (l.filter p).flatMap f = l.flatMap f := by
  induction l with
  | nil => rfl
  | cons a l ih =>
    obtain ⟨ha, hl⟩ := List.forall_mem_cons.mp h
    cases hp : p a with
    | true => rw [List.filter_cons_of_pos hp, List.flatMap_cons, List.flatMap_cons, ih hl]
    | false =>
      rw [List.filter_cons_of_neg (by simp [hp]), ih hl, List.flatMap_cons, ha hp,
        List.nil_append]

theorem GroupTable.Over.perm_depths {blocks : List Block} {P : Level → Prop} {table : GroupTable}
    (h : table.Over blocks P) {k : Nat} (hk : ∀ b ∈ blocks, b.indent < k) :
    table.depths ~ (List.range k).filter (· ∈ table.depths) := by
  have hsorted : table.depths.Pairwise (· < ·) := List.pairwise_map.mpr h.sorted
  refine (List.perm_ext_iff_of_nodup (hsorted.imp Nat.ne_of_lt)
    (List.nodup_range.filter _)).mpr fun d => ?_
  rw [List.mem_filter, List.mem_range, decide_eq_true_iff]
  refine (and_iff_right_of_imp fun hd => ?_).symm
  obtain ⟨b, hb, rfl⟩ := (h.depths d).mp hd
  exact hk b hb

/-- the segments of the groups of depth `d`, where the next depth is one more -/
def Segment.atDepth (r : Renderer V D) (blocks : List Block) (value : Nat → Option V) (d : Nat) :
    List (Segment V) := (Block.groupsAt blocks d).map (ofValues r blocks value (some (d + 1)) d)

namespace Compilation.Fresh

variable {r : Renderer V D} {blocks : List Block} {c : Compilation V D}

theorem ofValues_nextDepth (h : c.Fresh r blocks) (hs : Block.Stepped blocks)
    (value : Nat → Option V) {l : Level} (hl : l ∈ c.table) (g : Group) :
    Segment.ofValues r blocks value (c.table.nextDepth? l.depth) l.depth g =
      Segment.ofValues r blocks value (some (l.depth + 1)) l.depth g := by
  by_cases hnext : ∃ b ∈ blocks, b.indent = l.depth + 1
  · have hadjacent : c.table.Adjacent l.depth (l.depth + 1) :=
      ⟨List.mem_map_of_mem hl, (h.table_over.depths _).mpr hnext, Nat.lt_succ_self _,
        fun m _ => by omega⟩
    rw [(h.table_over.nextDepth?_eq_some hadjacent.left).mpr hadjacent]
  · have hnone : c.table.nextDepth? l.depth = none := by
      refine List.find?_eq_none.mpr fun m hm hlt => hnext ?_
      obtain ⟨b, hb, rfl⟩ := (h.table_over.depths m).mp hm
      obtain ⟨i, hi⟩ := List.mem_iff_getElem?.mp hb
      exact hs.exists_indent i b hi (of_decide_eq_true hlt)
    rw [hnone, Segment.ofValues_of_none r value fun b hb hd => hnext ⟨b, hb, hd⟩]

/-- the segments of a stepped list, depth by depth -/
theorem perm_segments (h : c.Fresh r blocks) (hs : Block.Stepped blocks) {k : Nat}
    (hk : ∀ b ∈ blocks, b.indent < k) :
    c.segments ~ (List.range k).flatMap (Segment.atDepth r blocks c.value?) := by
  have hempty : ∀ d ∈ List.range k, decide (d ∈ c.table.depths) = false →
      Segment.atDepth r blocks c.value? d = [] := by
    intro d _ hd
    have hnil : Block.idsAt blocks d = [] := Block.idsAt_eq_nil fun b hb heq =>
      of_decide_eq_false hd ((h.table_over.depths d).mpr ⟨b, hb, heq⟩)
    unfold Segment.atDepth Block.groupsAt
    rw [hnil]
    rfl
  calc c.segments
      = c.table.reverse.flatMap fun l => Segment.atDepth r blocks c.value? l.depth := by
        rw [h.segments_eq]
        refine List.flatMap_congr fun l hl => ?_
        rw [List.mem_reverse] at hl
        rw [(h.table_over.levels l hl).groups]
        exact List.map_congr_left fun g _ => h.ofValues_nextDepth hs c.value? hl g
    _ ~ c.table.flatMap fun l => Segment.atDepth r blocks c.value? l.depth :=
        (List.reverse_perm _).flatMap_right _
    _ = c.table.depths.flatMap (Segment.atDepth r blocks c.value?) := (List.flatMap_map _ _ _).symm
    _ ~ ((List.range k).filter (· ∈ c.table.depths)).flatMap (Segment.atDepth r blocks c.value?) :=
        (h.table_over.perm_depths hk).flatMap_right _
    _ = (List.range k).flatMap (Segment.atDepth r blocks c.value?) := flatMap_filter_of_nil hempty

/-- the value of a block is the one that the segment of its group leaves on it -/
theorem value?_eq_valueOn (h : c.Fresh r blocks) (hs : Block.Stepped blocks) {d : Nat} {g : Group}
    (hg : g ∈ Block.groupsAt blocks d) {id : Nat} (hid : id ∈ g) :
    c.value? id = (Segment.ofValues r blocks c.value? (some (d + 1)) d g).valueOn id := by
  obtain ⟨l, hl, rfl, hgroup⟩ := Block.exists_level h.table_over hg
  rw [← h.ofValues_nextDepth hs c.value? hl]
  obtain ⟨kind, u, v, log, hout, hhead, hvalue⟩ :=
    h.kept _ (h.mem_segments.mpr ⟨l, hl, g, hgroup, rfl⟩)
  obtain ⟨more, hmore⟩ := List.head?_eq_some_iff.mp hhead
  obtain rfl : g = u.anchorId :: more := hmore
  unfold Segment.valueOn
  rw [hout]
  dsimp only
  split
  · next heq => rw [heq, hvalue]
  · next hne =>
    exact h.value?_eq_none hl hgroup ((List.mem_cons.mp hid).resolve_left hne)

end Compilation.Fresh

/-! ## a list within a longer one -/

section
variable {φ : Nat → Nat} {part blocks : List Block} (he : Block.Embeds φ part blocks)
include he

theorem Block.Embeds.memberAt_eq {value value' : Nat → Option V} {d i : Nat} {b : Block}
    (hb : part[i]? = some b) (hv : d < b.indent → value' (φ i) = value i) (hle : d ≤ b.indent) :
    memberAt blocks value' (some (d + 1)) d (φ i) =
      (memberAt part value (some (d + 1)) d i).map (Member.rename φ) := by
  unfold memberAt
  rw [he.getElem?_eq i (List.getElem?_eq_some_iff.mp hb).1, hb, Option.bind_some, Option.bind_some]
  by_cases hd : b.indent = d
  · rw [if_pos hd, if_pos hd]
    rfl
  · rw [if_neg hd, if_neg hd, hv (by omega)]
    split
    · cases value i <;> rfl
    · rfl

variable {r : Renderer V D} (hr : r.Renames)
include hr

/-- the segment of a group is the same in the longer list, as long as the deeper blocks have the same
values there -/
theorem Block.Embeds.ofValues_eq {value value' : Nat → Option V} {d : Nat}
    (hv : ∀ i b, part[i]? = some b → d < b.indent → value' (φ i) = value i) {g : Group}
    (hg : g ∈ Block.groupsAt part d) : Segment.ofValues r blocks value' (some (d + 1)) d (g.map φ) =
      (Segment.ofValues r part value (some (d + 1)) d g).rename φ := by
  obtain ⟨_, _, hcov⟩ := covers_of_mem_groupsAt hg
  have hmembers : (Group.span blocks (some (d + 1)) d (g.map φ)).filterMap
      (memberAt blocks value' (some (d + 1)) d) =
      ((Group.span part (some (d + 1)) d g).filterMap
        (memberAt part value (some (d + 1)) d)).map (Member.rename φ) := by
    rw [he.span_eq d g hg, List.filterMap_map, List.map_filterMap]
    refine List.filterMap_congr fun i hi => ?_
    have hb := List.getElem?_eq_getElem (hcov.lt_length_of_mem_span hi)
    refine he.memberAt_eq hb (hv i _ hb) ?_
    rcases hcov.le_indent_of_mem_span hi hb with hlt | ⟨heq, _⟩
    · exact hlt.le
    · exact heq.ge
  unfold Segment.ofValues
  dsimp only
  rw [hmembers, Segment.outcomeOf_rename hr]
  rfl

variable {cp c : Compilation V D} (hp : cp.Fresh r part) (h : c.Fresh r blocks)
  (hsp : Block.Stepped part) (hs : Block.Stepped blocks)
include hp h hsp hs

/-- **the values of blocks** are the same in the longer list: a block has the value of the segment of
its group, and that depends on the values of deeper blocks alone -/
theorem Block.Embeds.value?_eq_of_le {k : Nat} (hk : ∀ b ∈ part, b.indent < k) (n : Nat) :
    ∀ i b, part[i]? = some b → k ≤ b.indent + n → c.value? (φ i) = cp.value? i := by
  -- from the deepest blocks on, one depth at a time
  induction n with
  | zero =>
    intro i b hb hle
    have := hk b (List.mem_of_getElem? hb)
    omega
  | succ n ih =>
    intro i b hb hle
    obtain ⟨g, hg, hi⟩ := exists_mem_groupsAt hb
    rw [h.value?_eq_valueOn hs (he.group_mem _ g hg) (List.mem_map_of_mem hi),
      hp.value?_eq_valueOn hsp hg hi,
      he.ofValues_eq hr (fun j z hz hlt => ih j z hz (by omega)) hg,
      Segment.valueOn_rename he.injective]

theorem Block.Embeds.value?_eq {i : Nat} (hi : i < part.length) :
    c.value? (φ i) = cp.value? i := by
  obtain ⟨k, hk⟩ := exists_indent_lt part
  exact he.value?_eq_of_le hr hp h hsp hs hk k i _ (List.getElem?_eq_getElem hi)
    (Nat.le_add_left _ _)

/-- the segments of a depth stand among those of the longer list -/
theorem Block.Embeds.map_atDepth (d : Nat) : ((groupsAt part d).map (List.map φ)).map
    (Segment.ofValues r blocks c.value? (some (d + 1)) d) =
      (Segment.atDepth r part cp.value? d).map (Segment.rename φ) := by
  unfold Segment.atDepth
  rw [List.map_map, List.map_map]
  refine List.map_congr_left fun g hg => he.ofValues_eq hr (fun i b hb _ => ?_) hg
  exact he.value?_eq hr hp h hsp hs (List.getElem?_eq_some_iff.mp hb).1

end

/-! ## two lists -/

namespace Compilation

theorem roots_of_stepped (r : Renderer V D) {blocks : List Block} (h : Block.Stepped blocks) :
    (ofBlocks r blocks).roots = (Block.idsAt blocks 0).filterMap (ofBlocks r blocks).value? := by
  cases blocks with
  | nil => rfl
  | cons b bs =>
    have hroots := (fresh r (b :: bs)).filterMap_roots List.mem_cons_self (h.regular.first b rfl)
    rw [h.first b rfl] at hroots
    exact hroots

section
variable {r : Renderer V D} (hr : r.Renames) {as bs : List Block} (ha : Block.Stepped as)
  (hb : Block.Stepped bs) (hhead : ∀ b ∈ bs.head?, b.indent = 0 ∧ b.isHeader = true)
include hr ha hb hhead

theorem value?_append {i : Nat} (hi : i < as.length) :
    (ofBlocks r (as ++ bs)).value? i = (ofBlocks r as).value? i :=
  (Block.embeds_left hhead).value?_eq hr (fresh r as) (fresh r (as ++ bs)) ha (ha.append hb) hi

theorem value?_append_right {i : Nat} (hi : i < bs.length) :
    (ofBlocks r (as ++ bs)).value? (as.length + i) = (ofBlocks r bs).value? i :=
  (Block.embeds_right hhead).value?_eq hr (fresh r bs) (fresh r (as ++ bs)) hb (ha.append hb) hi

theorem atDepth_append (d : Nat) :
    Segment.atDepth r (as ++ bs) (ofBlocks r (as ++ bs)).value? d =
      Segment.atDepth r as (ofBlocks r as).value? d ++
        (Segment.atDepth r bs (ofBlocks r bs).value? d).map (Segment.rename (as.length + ·)) := by
  have h := fresh r (as ++ bs)
  have hleft := (Block.embeds_left hhead).map_atDepth hr (fresh r as) h ha (ha.append hb) d
  have hright := (Block.embeds_right hhead).map_atDepth hr (fresh r bs) h hb (ha.append hb) d
  have hid : List.map id = (id : Group → Group) := funext List.map_id
  have hrename : Segment.rename id = (id : Segment V → Segment V) := funext Segment.rename_id
  rw [hid, hrename, List.map_id, List.map_id] at hleft
  rw [← hleft, ← hright, ← List.map_append, ← Block.groupsAt_append hhead]
  rfl

/-- **the segments of two lists** -/
theorem perm_segments_append : (ofBlocks r (as ++ bs)).segments ~
    (ofBlocks r as).segments ++ (ofBlocks r bs).segments.map (Segment.rename (as.length + ·)) := by
  obtain ⟨k, hk⟩ := Block.exists_indent_lt (as ++ bs)
  have hka : ∀ b ∈ as, b.indent < k := fun b hb => hk b (List.mem_append_left _ hb)
  have hkb : ∀ b ∈ bs, b.indent < k := fun b hb => hk b (List.mem_append_right _ hb)
  let left := Segment.atDepth r as (ofBlocks r as).value?
  let right := Segment.atDepth r bs (ofBlocks r bs).value?
  calc (ofBlocks r (as ++ bs)).segments
      ~ (List.range k).flatMap (Segment.atDepth r (as ++ bs) (ofBlocks r (as ++ bs)).value?) :=
        (fresh r (as ++ bs)).perm_segments (ha.append hb) hk
    _ = (List.range k).flatMap fun d =>
          left d ++ (right d).map (Segment.rename (as.length + ·)) :=
        List.flatMap_congr fun d _ => atDepth_append hr ha hb hhead d
    _ ~ (List.range k).flatMap left ++
          (List.range k).flatMap fun d => (right d).map (Segment.rename (as.length + ·)) :=
        (List.flatMap_append_perm _ _ _).symm
    _ = (List.range k).flatMap left ++
          ((List.range k).flatMap right).map (Segment.rename (as.length + ·)) := by
        rw [List.map_flatMap]
    _ ~ _ := ((fresh r as).perm_segments ha hka).symm.append
          (((fresh r bs).perm_segments hb hkb).symm.map _)

/-- **the values of two lists** at the least depth -/
theorem roots_append :
    (ofBlocks r (as ++ bs)).roots = (ofBlocks r as).roots ++ (ofBlocks r bs).roots := by
  rw [roots_of_stepped r (ha.append hb), roots_of_stepped r ha, roots_of_stepped r hb,
    Block.idsAt_append, List.filterMap_append, List.filterMap_map]
  congr 1
  · exact List.filterMap_congr fun i hi => value?_append hr ha hb hhead (Block.lt_of_mem_idsAt hi)
  · exact List.filterMap_congr fun i hi =>
      value?_append_right hr ha hb hhead (Block.lt_of_mem_idsAt hi)

end

end Compilation

/-! ## cards -/

namespace CardFormat

variable (f : CardFormat V)

theorem filter_assemble (roots : List V) :
    (f.assemble roots).2.filter (·.code ≠ 425) = [] := by
  unfold assemble
  split
  · rfl
  · split <;> rfl

/-- but for the missing quest header, the messages of a stepped list are those of its segments -/
theorem filter_diagnostics {blocks : List Block} (h : Block.Stepped blocks) :
    (Compilation.ofBlocks f.renderer blocks).diagnostics.filter (·.code ≠ 425) =
      ((Compilation.ofBlocks f.renderer blocks).segments.flatMap Segment.diagnostics).filter
        (·.code ≠ 425) := by
  have hnil := Compilation.unattached_eq_nil f.renderer h.regular
  let c := Compilation.ofBlocks f.renderer blocks
  have hd : c.diagnostics = c.segments.flatMap Segment.diagnostics ++
      c.unattached.map (fun x => (Problem.unattached x.2).on [x.1]) ++ (f.assemble c.roots).2 := rfl
  show c.diagnostics.filter _ = _
  rw [hd, hnil, List.filter_append, filter_assemble, List.map_nil, List.append_nil, List.append_nil]

/-- **Cards do not change each other.**  Let two lists of blocks start at depth 0, each block be at
most one level deeper than the one before it, and the second list start with a header block.  If one
is put after the other, the document is made of the values of the first list and then those of the
second.  But for the message 425 on a missing quest header, the messages are those of both lists,
where the second list has its ids moved on by the length of the first. -/
theorem ofBlocks_append {as bs : List Block} (ha : Block.Stepped as) (hb : Block.Stepped bs)
    (hhead : ∀ b ∈ bs.head?, b.isHeader = true) :
    let c := Compilation.ofBlocks f.renderer (as ++ bs)
    let ca := Compilation.ofBlocks f.renderer as
    let cb := Compilation.ofBlocks f.renderer bs
    c.roots = ca.roots ++ cb.roots ∧ c.document = (f.assemble (ca.roots ++ cb.roots)).1 ∧
      (c.diagnostics.filter (·.code ≠ 425)).Perm
        (ca.diagnostics.filter (·.code ≠ 425) ++ (cb.diagnostics.filter (·.code ≠ 425)).map
          fun m => ⟨m.severity, m.code, m.message, m.blocks.map (as.length + ·)⟩) := by
  intro c ca cb
  have hr : f.renderer.Renames := f.renderer_renames
  have hhead' : ∀ b ∈ bs.head?, b.indent = 0 ∧ b.isHeader = true :=
    fun b h => ⟨hb.first b h, hhead b h⟩
  have hroots : c.roots = ca.roots ++ cb.roots := Compilation.roots_append hr ha hb hhead'
  refine ⟨hroots, ?_, ?_⟩
  · rw [← hroots]
    rfl
  have hmessages : (cb.segments.map (Segment.rename (as.length + ·))).flatMap Segment.diagnostics =
      (cb.segments.flatMap Segment.diagnostics).map (Diagnostic.rename (as.length + ·)) := by
    rw [List.flatMap_map, List.map_flatMap]
    exact List.flatMap_congr fun s _ => Segment.diagnostics_rename s
  show c.diagnostics.filter _ ~ ca.diagnostics.filter _ ++
    (cb.diagnostics.filter _).map (Diagnostic.rename (as.length + ·))
  rw [filter_diagnostics f (ha.append hb), filter_diagnostics f ha, filter_diagnostics f hb]
  calc (c.segments.flatMap Segment.diagnostics).filter (·.code ≠ 425)
      ~ ((ca.segments ++ cb.segments.map (Segment.rename (as.length + ·))).flatMap
          Segment.diagnostics).filter (·.code ≠ 425) :=
        ((Compilation.perm_segments_append hr ha hb hhead').flatMap_right _).filter _
    _ = (ca.segments.flatMap Segment.diagnostics).filter (·.code ≠ 425) ++
          ((cb.segments.flatMap Segment.diagnostics).filter (·.code ≠ 425)).map
            (Diagnostic.rename (as.length + ·)) := by
        rw [List.flatMap_append, List.filter_append, hmessages, List.filter_map]
        rfl

/-- the first list has one depth, the second one three; there is a choice, and a card that follows no
choice -/
theorem ofBlocks_append_of_deeper_cards :
    let as : List Block := [⟨0, ["# Quest"], 0⟩, ⟨0, ["_Start_", "* go"], 2⟩]
    let bs : List Block := [⟨0, ["_combat_ Rat"], 5⟩, ⟨1, ["_Lost_", "* go on"], 6⟩,
      ⟨2, ["**end**"], 8⟩]
    let c := Compilation.ofBlocks Outline.format.renderer
    let messages := fun blocks => (c blocks).diagnostics.filter (·.code ≠ 425)
    Block.Stepped as ∧ Block.Stepped bs ∧ (∀ b ∈ bs.head?, b.isHeader = true) ∧
      (c (as ++ bs)).roots = (c as).roots ++ (c bs).roots ∧
      (messages (as ++ bs)).Perm (messages as ++ (messages bs).map
        fun m => ⟨m.severity, m.code, m.message, m.blocks.map (2 + ·)⟩) := by
  intro as bs c messages
  have ha : Block.Stepped as := ⟨by decide, by decide⟩
  have hb : Block.Stepped bs := ⟨by decide, by decide⟩
  have hhead : ∀ b ∈ bs.head?, b.isHeader = true := by decide
  obtain ⟨hroots, _, hmessages⟩ := ofBlocks_append Outline.format ha hb hhead
  exact ⟨ha, hb, hhead, hroots, hmessages⟩

end CardFormat

end QuestScript

import QuestScript.Proofs.Group.Cut

/-!
# The table of a list of blocks

`GroupTable.done_build`: there is one level for each depth that occurs, depths ascending, and each
level is cut into its groups (`Level.Done`).  From this:

* `Group.Covers`        a group holds all blocks of its depth from its first to its last one, and no
                        block of a lesser depth stands between them;
* `Level.Cut.covers`    every group of a level is like that;
* `Level.Cut.pairwise`  the groups of a level follow each other;
* `GroupTable.Over.mem_anchors_iff`  of the blocks of a group, the first one is an anchor and the others are not.
-/

namespace QuestScript

open Block (idsAt joins)

namespace GroupTable

/-- one level for each depth that occurs, depths ascending, each with the property `P` -/
structure Over (blocks : List Block) (P : Level → Prop) (table : GroupTable) : Prop where
  sorted : table.Pairwise (·.depth < ·.depth)
  depths : ∀ d, d ∈ table.depths ↔ ∃ b ∈ blocks, b.indent = d
  levels : ∀ l ∈ table, P l

/-! ## adding a block -/

section
variable (id : Nat) (b : Block) (last : Bool)

theorem mem_depths_add (table : GroupTable) (d : Nat) :
    d ∈ (add id b last table).depths ↔ d = b.indent ∨ d ∈ table.depths := by
  induction table with
  | nil => simp [add, depths, Level.add_depth]
  | cons l ls ih =>
    unfold depths at ih ⊢
    rw [add]
    split
    · rw [List.map_cons, List.mem_cons, ih, List.map_cons, List.mem_cons]
      exact or_left_comm
    · have hclose : Level.depth ∘ Level.close = Level.depth := funext Level.close_depth
      split
      · next h => simp [Level.add_depth, hclose, h]
      · simp [Level.add_depth, hclose, Level.close_depth]

theorem pairwise_add {table : GroupTable} (h : table.Pairwise (·.depth < ·.depth)) :
    (add id b last table).Pairwise (·.depth < ·.depth) := by
  have hclose : ∀ ls : List Level, ls.Pairwise (·.depth < ·.depth) →
      (ls.map Level.close).Pairwise (·.depth < ·.depth) := by
    intro ls hls
    rw [List.pairwise_map]
    simpa only [Level.close_depth] using hls
  induction table with
  | nil => exact List.pairwise_singleton _ _
  | cons l ls ih =>
    obtain ⟨hl, hls⟩ := List.pairwise_cons.mp h
    rw [add]
    split
    · next hlt =>
      refine List.pairwise_cons.mpr ⟨?_, ih hls⟩
      intro m hm
      have hd := (mem_depths_add id b last ls m.depth).mp (List.mem_map_of_mem hm)
      rcases hd with hd | hd
      · omega
      · obtain ⟨m', hm', e⟩ := List.mem_map.mp hd
        have := hl m' hm'
        omega
    · next hge =>
      split
      · refine List.pairwise_cons.mpr ⟨?_, hclose ls hls⟩
        intro m hm
        obtain ⟨m', hm', rfl⟩ := List.mem_map.mp hm
        rw [Level.add_depth, Level.close_depth]
        exact hl m' hm'
      · refine List.pairwise_cons.mpr ⟨?_, hclose _ h⟩
        intro m hm
        obtain ⟨m', hm', rfl⟩ := List.mem_map.mp hm
        rw [Level.add_depth, Level.close_depth]
        show b.indent < m'.depth
        rcases List.mem_cons.mp hm' with rfl | hm'
        · omega
        · have := hl m' hm'
          omega

/-- every level after a block is a level before it, or a new one, that the block has met -/
theorem mem_add {table : GroupTable} (h : table.Pairwise (·.depth < ·.depth)) {l : Level}
    (hl : l ∈ add id b last table) : ∃ l', l = l'.meet id b last ∧
      (l' ∈ table ∨ (∀ m ∈ table, m.depth ≠ b.indent) ∧ l' = ⟨b.indent, [], []⟩) := by
  have hnew : Level.add ⟨b.indent, [], []⟩ id b last
      = Level.meet ⟨b.indent, [], []⟩ id b last := by
    simp [Level.meet]
  have hdeep : ∀ m : Level, b.indent < m.depth → m.close = m.meet id b last := by
    intro m hm
    rw [Level.meet, if_neg (by omega), if_neg (by omega)]
  induction table with
  | nil =>
    obtain rfl := List.mem_singleton.mp hl
    exact ⟨_, hnew, Or.inr ⟨by simp, rfl⟩⟩
  | cons m ls ih =>
    obtain ⟨hm, hls⟩ := List.pairwise_cons.mp h
    rw [add] at hl
    split at hl
    · next hlt =>
      rcases List.mem_cons.mp hl with rfl | hl
      · refine ⟨l, ?_, Or.inl List.mem_cons_self⟩
        rw [Level.meet, if_pos hlt]
      · obtain ⟨l', e, hl' | ⟨hne, e'⟩⟩ := ih hls hl
        · exact ⟨l', e, Or.inl (List.mem_cons_of_mem _ hl')⟩
        · refine ⟨l', e, Or.inr ⟨?_, e'⟩⟩
          exact List.forall_mem_cons.mpr ⟨hlt.ne, hne⟩
    · next hge =>
      split at hl
      · next heq =>
        rcases List.mem_cons.mp hl with rfl | hl
        · refine ⟨m, ?_, Or.inl List.mem_cons_self⟩
          rw [Level.meet, if_neg hge, if_pos heq]
        · obtain ⟨l', hl', rfl⟩ := List.mem_map.mp hl
          have := hm l' hl'
          exact ⟨l', hdeep l' (by omega), Or.inl (List.mem_cons_of_mem _ hl')⟩
      · next hne =>
        have hall : ∀ m' ∈ m :: ls, b.indent < m'.depth := by
          rw [List.forall_mem_cons]
          refine ⟨by omega, ?_⟩
          intro m' hm'
          have := hm m' hm'
          omega
        rcases List.mem_cons.mp hl with rfl | hl
        · exact ⟨_, hnew, Or.inr ⟨fun m' hm' => (hall m' hm').ne', rfl⟩⟩
        · obtain ⟨l', hl', rfl⟩ := List.mem_map.mp hl
          exact ⟨l', hdeep l' (hall l' hl'), Or.inl hl'⟩

end

/-- the step of a table: what holds of the levels that met a block holds of the table after it -/
theorem Over.add {pre : List Block} {b : Block} {table : GroupTable} {Q : Level → Prop}
    {last : Bool} (h : table.Over pre (Level.Fits pre))
    (hQ : ∀ l : Level, l.Fits pre → Q (l.meet pre.length b last)) :
    (GroupTable.add pre.length b last table).Over (pre ++ [b]) Q where
  sorted := pairwise_add _ _ _ h.sorted
  depths := by
    intro d
    rw [mem_depths_add, h.depths]
    simp [or_comm, eq_comm]
  levels := by
    intro l hl
    obtain ⟨l', rfl, hl' | ⟨hne, rfl⟩⟩ := mem_add _ _ _ h.sorted hl
    · exact hQ l' (h.levels l' hl')
    · refine hQ _ (Level.fits_empty ?_)
      intro b' hb' e
      obtain ⟨m, hm, hd⟩ := List.mem_map.mp ((h.depths b.indent).mpr ⟨b', hb', e⟩)
      exact hne m hm hd

theorem done_addAll (bs : List Block) : ∀ (pre : List Block) (table : GroupTable),
    table.Over pre (Level.Fits pre) → bs ≠ [] →
      (addAll table pre.length bs).Over (pre ++ bs) (Level.Done (pre ++ bs)) := by
  induction bs with
  | nil => intro _ _ _ h; exact absurd rfl h
  | cons b bs ih =>
    intro pre table h _
    rw [addAll]
    cases bs with
    | nil => exact h.add fun l hl => hl.done_meet
    | cons b' bs =>
      have hstep : (GroupTable.add pre.length b false table).Over (pre ++ [b])
          (Level.Fits (pre ++ [b])) := h.add fun l hl => hl.meet
      have := ih (pre ++ [b]) _ hstep (List.cons_ne_nil _ _)
      rwa [List.length_append, List.append_assoc] at this

theorem Over.imp {blocks : List Block} {P Q : Level → Prop} {table : GroupTable}
    (h : table.Over blocks P) (hPQ : ∀ l, P l → Q l) : table.Over blocks Q :=
  ⟨h.sorted, h.depths, fun l hl => hPQ l (h.levels l hl)⟩

/-- **The table of a list of blocks** has one level for each depth that occurs, depths ascending,
and each level holds the blocks of its depth, cut into groups. -/
theorem done_build (blocks : List Block) : (build blocks).Over blocks (Level.Done blocks) := by
  have hnil : Over [] (Level.Fits []) ([] : GroupTable) :=
    ⟨List.Pairwise.nil, by simp [depths], by simp⟩
  by_cases h : blocks = []
  · rw [h]
    exact ⟨List.Pairwise.nil, by simp [depths, build, addAll], by simp [build, addAll]⟩
  · exact done_addAll blocks [] [] hnil h

theorem cut_build (blocks : List Block) : (build blocks).Over blocks (Level.Cut blocks) :=
  (done_build blocks).imp fun _ hl => hl.toCut

end GroupTable

/-! ## neighbouring depths -/

namespace GroupTable

/-- the least depth that occurs above `d` -/
def nextDepth? (table : GroupTable) (d : Nat) : Option Nat := table.depths.find? (d < ·)

/-- `d` and `n` occur, `d` first, and no depth between them does -/
structure Adjacent (table : GroupTable) (d n : Nat) : Prop where
  left : d ∈ table.depths
  right : n ∈ table.depths
  lt : d < n
  none_between : ∀ m ∈ table.depths, m ≤ d ∨ n ≤ m

theorem Adjacent.left_unique {table : GroupTable} {d d' n : Nat} (h : table.Adjacent d n)
    (h' : table.Adjacent d' n) : d = d' := by
  have h1 := (h.none_between d' h'.left).resolve_right (by have := h'.lt; omega)
  have h2 := (h'.none_between d h.left).resolve_right (by have := h.lt; omega)
  exact Nat.le_antisymm h2 h1

theorem nextDepth?_append {shallower deeper : List Level} {l : Level}
    (h : List.Pairwise (·.depth < ·.depth) (shallower ++ l :: deeper)) :
    nextDepth? (shallower ++ l :: deeper) l.depth = deeper.head?.map Level.depth := by
  obtain ⟨_, h2, h3⟩ := List.pairwise_append.mp h
  have hnone : (shallower.map Level.depth).find? (l.depth < ·) = none := by
    rw [List.find?_eq_none]
    intro m hm
    obtain ⟨l', hl', rfl⟩ := List.mem_map.mp hm
    have := h3 l' hl' l List.mem_cons_self
    simp only [decide_eq_true_eq]
    omega
  unfold nextDepth? depths
  rw [List.map_append, List.find?_append, hnone, Option.none_or, List.map_cons,
    List.find?_cons_of_neg (by simp)]
  cases deeper with
  | nil => rfl
  | cons l' deeper =>
    have hlt := List.rel_of_pairwise_cons h2 List.mem_cons_self
    rw [List.map_cons, List.find?_cons_of_pos (by simpa using hlt)]
    rfl

theorem Over.mem_deeper_iff {blocks : List Block} {P : Level → Prop} {table : GroupTable}
    (h : table.Over blocks P) {shallower deeper : List Level} {l : Level}
    (e : table = shallower ++ l :: deeper) {d : Nat} :
    d ∈ deeper.map Level.depth ↔ d ∈ table.depths ∧ l.depth < d := by
  have hs := h.sorted
  rw [e] at hs
  obtain ⟨_, h2, h3⟩ := List.pairwise_append.mp hs
  unfold GroupTable.depths
  constructor
  · intro hd
    obtain ⟨l', hl', rfl⟩ := List.mem_map.mp hd
    exact ⟨List.mem_map_of_mem (by simp [e, hl']), List.rel_of_pairwise_cons h2 hl'⟩
  · rintro ⟨hd, hlt⟩
    obtain ⟨l', hl', rfl⟩ := List.mem_map.mp hd
    rw [e, List.mem_append, List.mem_cons] at hl'
    rcases hl' with hl' | rfl | hl'
    · have := h3 l' hl' l List.mem_cons_self
      omega
    · omega
    · exact List.mem_map_of_mem hl'

theorem Over.mem_depths {blocks : List Block} {P : Level → Prop} {table : GroupTable}
    (h : table.Over blocks P) {id : Nat} {b : Block} (hb : blocks[id]? = some b) :
    b.indent ∈ table.depths := (h.depths b.indent).mpr ⟨b, List.mem_of_getElem? hb, rfl⟩

/-- just the first level has the least depth -/
theorem Over.depth_le_iff {blocks : List Block} {P : Level → Prop} {l : Level} {ls : GroupTable}
    (h : Over blocks P (l :: ls)) {k : Level} (hk : k ∈ l :: ls) :
    (∀ b ∈ blocks, k.depth ≤ b.indent) ↔ k = l := by
  obtain ⟨hlt, _⟩ := List.pairwise_cons.mp h.sorted
  constructor
  · intro hle
    refine (List.mem_cons.mp hk).resolve_right fun hk => ?_
    obtain ⟨b, hb, hd⟩ := (h.depths l.depth).mp List.mem_cons_self
    have := hle b hb
    have := hlt k hk
    omega
  · rintro rfl b hb
    obtain ⟨m, hm, hd⟩ := List.mem_map.mp ((h.depths b.indent).mpr ⟨b, hb, rfl⟩)
    rw [← hd]
    rcases List.mem_cons.mp hm with rfl | hm
    · exact Nat.le_refl _
    · exact (hlt m hm).le

/-- a level that is not the first comes right after another one -/
theorem Over.exists_adjacent {blocks : List Block} {P : Level → Prop} {table : GroupTable}
    (h : table.Over blocks P) {l : Level} (hl : l ∈ table) {b : Block} (hb : b ∈ blocks)
    (hlt : b.indent < l.depth) : ∃ d, table.Adjacent d l.depth := by
  have hs := h.sorted
  obtain ⟨shallower, deeper, e⟩ := List.append_of_mem hl
  obtain ⟨m, hm, hd⟩ := List.mem_map.mp ((h.depths b.indent).mpr ⟨b, hb, rfl⟩)
  rw [e] at hm hs
  obtain ⟨h1, h2, h3⟩ := List.pairwise_append.mp hs
  rcases List.eq_nil_or_concat shallower with rfl | ⟨init, k, e'⟩
  · rcases List.mem_cons.mp hm with rfl | hm
    · omega
    · have := List.rel_of_pairwise_cons h2 hm
      omega
  · rw [List.concat_eq_append] at e'
    subst e'
    refine ⟨k.depth, List.mem_map_of_mem (by simp [e]), List.mem_map_of_mem hl,
      h3 k (by simp) l List.mem_cons_self, ?_⟩
    intro d hd'
    obtain ⟨x, hx, rfl⟩ := List.mem_map.mp hd'
    rw [e, List.mem_append, List.mem_append, List.mem_singleton] at hx
    rcases hx with (hx | rfl) | hx
    · exact Or.inl ((List.pairwise_append.mp h1).2.2 x hx k List.mem_cons_self).le
    · exact Or.inl (Nat.le_refl _)
    · rcases List.mem_cons.mp hx with rfl | hx
      · exact Or.inr (Nat.le_refl _)
      · exact Or.inr (List.rel_of_pairwise_cons h2 hx).le

theorem Over.nextDepth?_eq_some {blocks : List Block} {P : Level → Prop} {table : GroupTable}
    (h : table.Over blocks P) {d n : Nat} (hd : d ∈ table.depths) :
    table.nextDepth? d = some n ↔ table.Adjacent d n := by
  have hs : table.depths.Pairwise (· < ·) := List.pairwise_map.mpr h.sorted
  unfold nextDepth?
  rw [List.find?_eq_some_iff_append]
  constructor
  · rintro ⟨hlt, as, bs, e, has⟩
    refine ⟨hd, by simp [e], by simpa using hlt, ?_⟩
    intro m hm
    rw [e, List.mem_append, List.mem_cons] at hm
    rcases hm with hm | rfl | hm
    · exact Or.inl (by simpa using has m hm)
    · exact Or.inr (Nat.le_refl m)
    · rw [e] at hs
      exact Or.inr (List.rel_of_pairwise_cons (List.pairwise_append.mp hs).2.1 hm).le
  · intro ha
    obtain ⟨as, bs, e⟩ := List.append_of_mem ha.right
    refine ⟨by simpa using ha.lt, as, bs, e, ?_⟩
    intro m hm
    rcases ha.none_between m (by simp [e, hm]) with hle | hle
    · simpa using hle
    · rw [e] at hs
      have := (List.pairwise_append.mp hs).2.2 m hm n List.mem_cons_self
      omega

end GroupTable

/-! ## where a group lies -/

/-- `g` holds the blocks of depth `d` from `start` to `stop`, and no block of a lesser depth stands
between them -/
structure Group.Covers (blocks : List Block) (d : Nat) (g : Group) (start stop : Nat) : Prop where
  head : g.head? = some start
  last : g.getLast? = some stop
  mem_iff : ∀ id, id ∈ g ↔ id ∈ idsAt blocks d ∧ start ≤ id ∧ id ≤ stop
  deep : ∀ id b, blocks[id]? = some b → start ≤ id → id ≤ stop → d ≤ b.indent

namespace Group.Covers

variable {blocks : List Block} {d : Nat} {g : Group} {start stop : Nat}

theorem start_mem (h : Covers blocks d g start stop) : start ∈ g := List.mem_of_head? h.head

theorem stop_mem (h : Covers blocks d g start stop) : stop ∈ g := List.mem_of_getLast? h.last

theorem start_le (h : Covers blocks d g start stop) : start ≤ stop :=
  ((h.mem_iff stop).mp h.stop_mem).2.1

theorem exists_block (h : Covers blocks d g start stop) {id : Nat} (hid : id ∈ g) :
    ∃ b, blocks[id]? = some b ∧ b.indent = d := Block.mem_idsAt.mp ((h.mem_iff id).mp hid).1

theorem indent_eq (h : Covers blocks d g start stop) {id : Nat} {b : Block} (hid : id ∈ g)
    (hb : blocks[id]? = some b) : b.indent = d := by
  obtain ⟨b', hb', e⟩ := h.exists_block hid
  obtain rfl := Option.some.inj (hb.symm.trans hb')
  exact e

end Group.Covers

theorem eq_or_rel_of_pairwise {α : Type} {R : α → α → Prop} {l : List α} (h : l.Pairwise R)
    {a b : α} (ha : a ∈ l) (hb : b ∈ l) : a = b ∨ R a b ∨ R b a := by
  refine List.Pairwise.forall_of_forall_of_flip (R := fun x y => x = y ∨ R x y ∨ R y x) ?_ ?_ ?_
    ha hb
  · exact fun _ _ => Or.inl rfl
  · exact h.imp fun r => Or.inr (Or.inl r)
  · exact h.imp fun r => Or.inr (Or.inr r)

theorem le_head_of_pairwise {l : List Nat} (h : l.Pairwise (· < ·)) {x y : Nat}
    (hx : l.head? = some x) (hy : y ∈ l) : x ≤ y := by
  obtain ⟨l', rfl⟩ := List.head?_eq_some_iff.mp hx
  rcases List.mem_cons.mp hy with rfl | hy
  · exact Nat.le_refl _
  · exact (List.rel_of_pairwise_cons h hy).le

theorem getLast_le_of_pairwise {l : List Nat} (h : l.Pairwise (· < ·)) {x y : Nat}
    (hx : l.getLast? = some x) (hy : y ∈ l) : y ≤ x := by
  obtain ⟨l', rfl⟩ := List.getLast?_eq_some_iff.mp hx
  rcases List.mem_append.mp hy with hy | hy
  · exact ((List.pairwise_append.mp h).2.2 y hy x List.mem_cons_self).le
  · rw [List.mem_singleton.mp hy]

theorem Block.deep_of_joins {blocks : List Block} {d i j k : Nat} {b : Block}
    (h : joins blocks d i j = true) (hb : blocks[k]? = some b) (hi : i < k) (hj : k < j) :
    d ≤ b.indent := by
  unfold joins at h
  rw [Bool.and_eq_true, List.all_eq_true] at h
  have hmem : b ∈ (blocks.take j).drop (i + 1) := by
    refine List.mem_of_getElem? (i := k - (i + 1)) ?_
    rw [List.getElem?_drop, List.getElem?_take, if_pos (by omega), ← hb]
    congr 1
    omega
  simpa using h.2 b hmem

theorem deep_of_isChain_joins {blocks : List Block} {d : Nat} (g : Group) :
    g.IsChain (fun i j => joins blocks d i j = true) → (∀ id ∈ g, id ∈ idsAt blocks d) →
      ∀ start stop, g.head? = some start → g.getLast? = some stop →
        ∀ id b, blocks[id]? = some b → start ≤ id → id ≤ stop → d ≤ b.indent := by
  induction g with
  | nil => intro _ _ start _ h; cases h
  | cons i g ih =>
    intro hc hg start stop hstart hstop id b hb h1 h2
    obtain rfl : i = start := by simpa using hstart
    by_cases hid : i = id
    · obtain ⟨b', hb', e⟩ := Block.mem_idsAt.mp (hg i List.mem_cons_self)
      subst hid
      obtain rfl := Option.some.inj (hb.symm.trans hb')
      exact e.ge
    · cases g with
      | nil =>
        obtain rfl : i = stop := by simpa using hstop
        omega
      | cons j g =>
        rw [List.isChain_cons_cons] at hc
        by_cases hj : id < j
        · exact Block.deep_of_joins hc.1 hb (by omega) hj
        · exact ih hc.2 (fun x hx => hg x (List.mem_cons_of_mem _ hx)) j stop rfl
            (by rwa [List.getLast?_cons_cons] at hstop) id b hb (by omega) h2

namespace Level.Cut

variable {blocks : List Block} {l : Level}

theorem flatten (h : l.Cut blocks) : l.nonEmpty.flatten = idsAt blocks l.depth := by
  rw [h.groups, List.flatten_splitBy]

theorem pairwise (h : l.Cut blocks) :
    l.nonEmpty.Pairwise (fun g g' => ∀ i ∈ g, ∀ j ∈ g', i < j) := by
  have hp := Block.pairwise_idsAt blocks l.depth
  rw [← h.flatten, List.pairwise_flatten] at hp
  exact hp.2

/-- two groups of a level that share a block are the same -/
theorem eq_of_mem (h : l.Cut blocks) {g g' : Group} (hg : g ∈ l.nonEmpty) (hg' : g' ∈ l.nonEmpty)
    {id : Nat} (hi : id ∈ g) (hi' : id ∈ g') : g = g' := by
  rcases eq_or_rel_of_pairwise h.pairwise hg hg' with e | hlt | hlt
  · exact e
  · exact absurd (hlt id hi id hi') (Nat.lt_irrefl id)
  · exact absurd (hlt id hi' id hi) (Nat.lt_irrefl id)

/-- in a group, each block joins the one before it -/
theorem isChain (h : l.Cut blocks) {g : Group} (hg : g ∈ l.nonEmpty) :
    g.IsChain fun i j => joins blocks l.depth i j = true := by
  rw [h.groups] at hg
  exact List.isChain_of_mem_splitBy hg

/-- every group of a level lies between its first and its last block -/
theorem covers (h : l.Cut blocks) {g : Group} (hg : g ∈ l.nonEmpty) :
    ∃ start stop, Group.Covers blocks l.depth g start stop := by
  have hne : g ≠ [] := fun e => by simp [nonEmpty, e] at hg
  obtain ⟨start, hstart⟩ : ∃ start, g.head? = some start := ⟨_, List.head?_eq_some_head hne⟩
  obtain ⟨stop, hstop⟩ : ∃ stop, g.getLast? = some stop := ⟨_, List.getLast?_eq_some_getLast hne⟩
  have hsub : ∀ id ∈ g, id ∈ idsAt blocks l.depth := by
    intro id hid
    rw [← h.flatten]
    exact List.mem_flatten_of_mem hg hid
  have hp := Block.pairwise_idsAt blocks l.depth
  rw [← h.flatten, List.pairwise_flatten] at hp
  have hgp := hp.1 g hg
  refine ⟨start, stop, hstart, hstop, ?_, ?_⟩
  · intro id
    constructor
    · intro hid
      exact ⟨hsub id hid, le_head_of_pairwise hgp hstart hid, getLast_le_of_pairwise hgp hstop hid⟩
    · rintro ⟨hid, h1, h2⟩
      rw [← h.flatten] at hid
      obtain ⟨g', hg', hid'⟩ := List.mem_flatten.mp hid
      rcases eq_or_rel_of_pairwise hp.2 hg hg' with rfl | hlt | hlt
      · exact hid'
      · have := hlt stop (List.mem_of_getLast? hstop) id hid'
        omega
      · have := hlt id hid' start (List.mem_of_head? hstart)
        omega
  · exact deep_of_isChain_joins g (h.isChain hg) hsub start stop hstart hstop

end Level.Cut

/-! ## anchors -/

theorem Level.mem_anchors {l : Level} {id : Nat} :
    id ∈ l.anchors ↔ ∃ g ∈ l.nonEmpty, g.head? = some id := List.mem_filterMap

namespace GroupTable.Over

variable {blocks : List Block} {table : GroupTable}

theorem mem_anchors {id : Nat} :
    id ∈ table.anchors ↔ ∃ l ∈ table, ∃ g ∈ l.nonEmpty, g.head? = some id := by
  simp only [anchors, List.mem_flatMap, Level.mem_anchors]

theorem level_eq {P : Level → Prop} (h : table.Over blocks P) {l l' : Level} (hl : l ∈ table)
    (hl' : l' ∈ table) (hd : l.depth = l'.depth) : l = l' := by
  rcases eq_or_rel_of_pairwise h.sorted hl hl' with e | hlt | hlt
  · exact e
  · omega
  · omega

/-- two groups of the table that share a block are the same, and stand on the same level -/
theorem group_eq (h : table.Over blocks (Level.Cut blocks)) {l l' : Level} (hl : l ∈ table)
    (hl' : l' ∈ table) {g g' : Group} (hg : g ∈ l.nonEmpty) (hg' : g' ∈ l'.nonEmpty) {id : Nat}
    (hi : id ∈ g) (hi' : id ∈ g') : l = l' ∧ g = g' := by
  have hc := h.levels l hl
  have hc' := h.levels l' hl'
  obtain ⟨_, _, hcov⟩ := hc.covers hg
  obtain ⟨_, _, hcov'⟩ := hc'.covers hg'
  obtain ⟨b, hb, e⟩ := hcov.exists_block hi
  have hd : l.depth = l'.depth := e.symm.trans (hcov'.indent_eq hi' hb)
  obtain rfl := h.level_eq hl hl' hd
  exact ⟨rfl, hc.eq_of_mem hg hg' hi hi'⟩

theorem exists_group (h : table.Over blocks (Level.Cut blocks)) {id : Nat} {b : Block}
    (hb : blocks[id]? = some b) :
    ∃ l ∈ table, l.depth = b.indent ∧ ∃ g ∈ l.nonEmpty, id ∈ g := by
  obtain ⟨l, hl, hd⟩ := List.mem_map.mp (h.mem_depths hb)
  refine ⟨l, hl, hd, ?_⟩
  have hid : id ∈ idsAt blocks l.depth := Block.mem_idsAt.mpr ⟨b, hb, hd.symm⟩
  rw [← (h.levels l hl).flatten] at hid
  exact List.mem_flatten.mp hid

/-- of the blocks of a group, the first one is an anchor and the others are not -/
theorem mem_anchors_iff (h : table.Over blocks (Level.Cut blocks)) {l : Level} (hl : l ∈ table)
    {g : Group} (hg : g ∈ l.nonEmpty) {start id : Nat} (hstart : g.head? = some start)
    (hid : id ∈ g) : id ∈ table.anchors ↔ id = start := by
  rw [mem_anchors]
  constructor
  · rintro ⟨l', hl', g', hg', hhead⟩
    obtain ⟨_, rfl⟩ := h.group_eq hl hl' hg hg' hid (List.mem_of_head? hhead)
    exact Option.some.inj (hhead.symm.trans hstart)
  · rintro rfl
    exact ⟨l, hl, g, hg, hstart⟩

end GroupTable.Over

end QuestScript

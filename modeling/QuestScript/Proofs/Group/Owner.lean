import QuestScript.Proofs.Group.Table

/-!
# Groups and owners

What the table of a list of blocks says about single blocks: which neighbours at one depth stand in
one group, where an empty group is left, and what the owner of a block is.

* `Level.Cut.exists_group_iff`       two neighbours at one depth are in one group just if they join;
* `Level.Done.nil_mem_groups_iff`    where an empty group is left;
* `Level.Cut.eq_head_of_header`      a header block is the first of its group;
* `Level.Cut.eq_singleton_of_isolated`  an isolated block is alone in its group;
* `Over.owner_eq_head`               the owner of a block is the first block of its group;
* `GroupTable.build_groups`          all of it together.
-/

namespace QuestScript

open Block (idsAt joins isHeader isIsolated)

theorem Block.joins_iff {blocks : List Block} {d i j : Nat} :
    joins blocks d i j = true ↔ blocks[j]?.any isHeader = false ∧
      blocks[i]?.any isIsolated = false ∧ ∀ b ∈ (blocks.take j).drop (i + 1), d ≤ b.indent := by
  unfold joins
  rw [Bool.and_eq_true, Bool.and_eq_true, Bool.not_eq_true', Bool.not_eq_true', List.all_eq_true,
    and_assoc]
  simp only [decide_eq_true_eq]

/-! ## the groups of a level -/

namespace Level

theorem mem_nonEmpty {l : Level} {g : Group} : g ∈ l.nonEmpty ↔ g ∈ l.groups ∧ g ≠ [] := by
  unfold nonEmpty
  rw [List.mem_filter, Bool.not_eq_true', List.isEmpty_eq_false_iff]

theorem mem_nonEmpty_of_mem {l : Level} {g : Group} (hg : g ∈ l.groups) {id : Nat} (hid : id ∈ g) :
    g ∈ l.nonEmpty := mem_nonEmpty.mpr ⟨hg, List.ne_nil_of_mem hid⟩

theorem flatten_nonEmpty (l : Level) : l.nonEmpty.flatten = l.groups.flatten :=
  List.flatten_filter_not_isEmpty

theorem dropLast_groups (l : Level) : l.groups.dropLast = l.closed := List.dropLast_concat

variable {blocks : List Block} {l : Level}

/-- **two neighbours at one depth** are in one group just if they join -/
theorem Cut.exists_group_iff (h : l.Cut blocks) {i j : Nat} (hij : [i, j] <:+: idsAt blocks l.depth) :
    (∃ g ∈ l.groups, i ∈ g ∧ j ∈ g) ↔ joins blocks l.depth i j = true := by
  have hnodup : (idsAt blocks l.depth).Nodup := (Block.pairwise_idsAt blocks l.depth).imp Nat.ne_of_lt
  rw [← exists_mem_splitBy_iff hnodup hij, ← h.groups]
  constructor
  · rintro ⟨g, hg, hi, hj⟩
    exact ⟨g, mem_nonEmpty_of_mem hg hi, hi, hj⟩
  · rintro ⟨g, hg, hi, hj⟩
    exact ⟨g, (mem_nonEmpty.mp hg).1, hi, hj⟩

/-- **an empty group** is left where a block could not join the last one -/
theorem Done.nil_mem_groups_iff (h : l.Done blocks) {x : Nat}
    (hx : (idsAt blocks l.depth).getLast? = some x) :
    [] ∈ l.groups ↔ (∃ b ∈ blocks.drop (x + 1), b.indent < l.depth) ∨
      blocks[x]?.any isIsolated = true ∧ x + 1 ≠ blocks.length := by
  have hnil : [] ∈ l.groups ↔ l.current = [] := by
    unfold groups
    rw [List.mem_append, List.mem_singleton, eq_comm]
    exact or_iff_right h.closed_ne
  rw [hnil, h.current_eq_nil x hx, or_comm]

/-! ### header blocks -/

/-- after the first block of a group, each one joins another of the group -/
theorem Cut.exists_joins (h : l.Cut blocks) {i j : Nat} {more : Group}
    (hg : i :: more ∈ l.nonEmpty) (hj : j ∈ more) :
    ∃ k ∈ i :: more, joins blocks l.depth k j = true := by
  have hchain := h.isChain hg
  obtain ⟨pre, post, rfl⟩ := List.append_of_mem hj
  rcases List.eq_nil_or_concat pre with rfl | ⟨init, k, hpre⟩
  · exact ⟨i, List.mem_cons_self, (List.isChain_cons_cons.mp hchain).1⟩
  · subst hpre
    refine ⟨k, by simp, ?_⟩
    have happ : i :: (init.concat k ++ j :: post) = (i :: init) ++ k :: j :: post := by simp
    rw [happ, List.isChain_append_cons_cons] at hchain
    exact hchain.2.1

theorem Cut.eq_head_of_header (h : l.Cut blocks) {g : Group} (hg : g ∈ l.nonEmpty) {a id : Nat}
    (ha : g.head? = some a) (hid : id ∈ g) (hh : blocks[id]?.any isHeader = true) : id = a := by
  obtain ⟨more, rfl⟩ := List.head?_eq_some_iff.mp ha
  by_contra hne
  have hmore : id ∈ more := (List.mem_cons.mp hid).resolve_left hne
  obtain ⟨k, _, hk⟩ := h.exists_joins hg hmore
  have hno := (Block.joins_iff.mp hk).1
  rw [hh] at hno
  cases hno

theorem Cut.eq_singleton_of_isolated (h : l.Cut blocks) {g : Group} (hg : g ∈ l.nonEmpty)
    {a : Nat} (ha : g.head? = some a) (hiso : blocks[a]?.any isIsolated = true) : g = [a] := by
  obtain ⟨more, rfl⟩ := List.head?_eq_some_iff.mp ha
  cases more with
  | nil => rfl
  | cons j more =>
    have hno := (Block.joins_iff.mp (List.isChain_cons_cons.mp (h.isChain hg)).1).2.1
    rw [hiso] at hno
    cases hno

end Level

/-! ## owners -/

namespace GroupTable

section
variable {blocks : List Block} {table : GroupTable} (h : table.Over blocks (Level.Cut blocks))
include h

/-- **the owner of a block** is the first block of its group -/
theorem Over.owner_eq_head {l : Level} (hl : l ∈ table) {g : Group} (hg : g ∈ l.groups) {id : Nat}
    (hid : id ∈ g) : g.head? = some (table.owner id) := by
  have hg' := Level.mem_nonEmpty_of_mem hg hid
  unfold owner
  cases hfind : (table.flatMap Level.groups).find? (id ∈ ·) with
  | none =>
    rw [List.find?_eq_none] at hfind
    refine absurd ?_ (hfind g (List.mem_flatMap.mpr ⟨l, hl, hg⟩))
    exact decide_eq_true hid
  | some e =>
    have hide : id ∈ e := by simpa using List.find?_some hfind
    obtain ⟨k, hk, he⟩ := List.mem_flatMap.mp (List.mem_of_find?_eq_some hfind)
    obtain ⟨_, rfl⟩ := h.group_eq hk hl (Level.mem_nonEmpty_of_mem he hide) hg' hide hid
    obtain ⟨start, _, hcov⟩ := (h.levels l hl).covers hg'
    show e.head? = some (e.head?.getD id)
    rw [hcov.head]
    rfl

theorem Over.owner_eq_self {id : Nat} (hid : blocks.length ≤ id) : table.owner id = id := by
  have hnone : (table.flatMap Level.groups).find? (id ∈ ·) = none := by
    rw [List.find?_eq_none]
    intro g hg
    obtain ⟨l, hl, hg⟩ := List.mem_flatMap.mp hg
    intro hidg
    have hidg : id ∈ g := of_decide_eq_true hidg
    have hmem : id ∈ idsAt blocks l.depth := by
      rw [← (h.levels l hl).flatten, Level.flatten_nonEmpty]
      exact List.mem_flatten_of_mem hg hidg
    have := Block.lt_of_mem_idsAt hmem
    omega
  unfold owner
  rw [hnone]
  rfl

end

theorem getElem?_owners (table : GroupTable) {n i : Nat} (hi : i < n) :
    (table.owners n)[i]? = some (table.owner i) := by
  unfold owners
  rw [List.getElem?_map, List.getElem?_range hi, Option.map_some]

/-- **The groups of a list of blocks.**  The groups of a depth are the ids of its blocks in ascending
order, cut between two neighbours just if the second is a header, the first is isolated, or a block
of a lesser depth stands between them.  An empty group is at most the last one of its depth, and
there is one just if a block of a lesser depth follows the last block of the depth, or that block is
isolated and not the last of all.  The owner of a block is the first block of its group. -/
theorem build_groups (blocks : List Block) :
    let table := build blocks
    (table.Pairwise (·.depth < ·.depth) ∧ ∀ d, d ∈ table.depths ↔ ∃ b ∈ blocks, b.indent = d) ∧
    (∀ l ∈ table,
      l.groups.flatten = idsAt blocks l.depth ∧
      (∀ i j, [i, j] <:+: idsAt blocks l.depth → ((∃ g ∈ l.groups, i ∈ g ∧ j ∈ g) ↔
        blocks[j]?.any isHeader = false ∧ blocks[i]?.any isIsolated = false ∧
          ∀ b ∈ (blocks.take j).drop (i + 1), l.depth ≤ b.indent)) ∧
      [] ∉ l.groups.dropLast ∧
      ∃ x, (idsAt blocks l.depth).getLast? = some x ∧ ([] ∈ l.groups ↔
        (∃ b ∈ blocks.drop (x + 1), b.indent < l.depth) ∨
          blocks[x]?.any isIsolated = true ∧ x + 1 ≠ blocks.length)) ∧
    ∀ n, (table.owners n).length = n ∧ ∀ i < n,
      (i < blocks.length → ∃ l ∈ table, ∃ g ∈ l.groups, i ∈ g ∧ (table.owners n)[i]? = g.head?) ∧
      (blocks.length ≤ i → (table.owners n)[i]? = some i) := by
  intro table
  have h : table.Over blocks (Level.Done blocks) := done_build blocks
  have hcut : table.Over blocks (Level.Cut blocks) := cut_build blocks
  refine ⟨⟨h.sorted, h.depths⟩, fun l hl => ?_, fun n => ⟨?_, fun i hi => ⟨fun hlt => ?_, ?_⟩⟩⟩
  · have hd := h.levels l hl
    obtain ⟨b, hb, hdepth⟩ := (h.depths l.depth).mp (List.mem_map_of_mem hl)
    obtain ⟨id, hid⟩ := List.mem_iff_getElem?.mp hb
    have hne : idsAt blocks l.depth ≠ [] :=
      List.ne_nil_of_mem (Block.mem_idsAt.mpr ⟨b, hid, hdepth⟩)
    refine ⟨?_, fun i j hij => ?_, ?_, _, List.getLast?_eq_some_getLast hne, ?_⟩
    · rw [← Level.flatten_nonEmpty, hd.toCut.flatten]
    · rw [hd.toCut.exists_group_iff hij, Block.joins_iff]
    · rw [Level.dropLast_groups]
      exact hd.closed_ne
    · exact hd.nil_mem_groups_iff (List.getLast?_eq_some_getLast hne)
  · unfold owners
    rw [List.length_map, List.length_range]
  · obtain ⟨l, hl, _, g, hg, hid⟩ := hcut.exists_group (List.getElem?_eq_getElem hlt)
    have hg' := (Level.mem_nonEmpty.mp hg).1
    exact ⟨l, hl, g, hg', hid, by rw [getElem?_owners table hi, hcut.owner_eq_head hl hg' hid]⟩
  · intro hle
    rw [getElem?_owners table hi, hcut.owner_eq_self hle]

/-- a trigger leaves an empty group, unless it is the last block of all -/
example : (build [⟨0, [], 0⟩, ⟨1, ["**end**"], 1⟩, ⟨0, [], 2⟩, ⟨0, ["**end**"], 3⟩]).map Level.groups =
    [[[0, 2], [3]], [[1], []]] := by
  decide

end GroupTable

end QuestScript

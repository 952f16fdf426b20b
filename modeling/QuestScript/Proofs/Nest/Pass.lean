import QuestScript.Proofs.Nest.Run
import QuestScript.Proofs.Render.Fresh

/-!
# The pass and the recursion

On a regular list of blocks that no render has met, the pass from the deepest level up gives every
group the value that the recursion from the top down gives it.

* `Fresh.exists_value`        the value of a group is that of the unit of its segment;
* `Run.exists_nest`           a piece of a run and its group, where the runs of its stems agree;
* `Run.agrees`                the values in a run, by induction on its length;
* `Compilation.ofBlocks_eq_nests`  a whole render.
-/

namespace QuestScript

open Block (idsAt)

variable {V D : Type}

/-! ## values in a stretch of blocks -/

/-- the values that are kept on the blocks of depth `d`, as members of a unit -/
def membersAt (value : Nat → Option V) (d : Nat) (bs : List (Block × Nat)) : List (Member V) :=
  bs.filterMap fun x => if x.1.indent = d then (value x.2).map (@Member.folded V x.2 x.1) else none

/-- the values that are kept on any blocks, by their ids -/
def valuesAt (value : Nat → Option V) (bs : List (Block × Nat)) : List (Nat × V) :=
  bs.filterMap fun x => (value x.2).map (x.2, ·)

theorem membersAt_append (value : Nat → Option V) (d : Nat) (as bs : List (Block × Nat)) :
    membersAt value d (as ++ bs) = membersAt value d as ++ membersAt value d bs :=
  List.filterMap_append

theorem valuesAt_append (value : Nat → Option V) (as bs : List (Block × Nat)) :
    valuesAt value (as ++ bs) = valuesAt value as ++ valuesAt value bs := List.filterMap_append

theorem membersAt_flatMap {α : Type} (value : Nat → Option V) (d : Nat) (l : List α)
    (f : α → List (Block × Nat)) :
    membersAt value d (l.flatMap f) = l.flatMap fun a => membersAt value d (f a) :=
  List.filterMap_flatMap

theorem valuesAt_flatMap {α : Type} (value : Nat → Option V) (l : List α)
    (f : α → List (Block × Nat)) :
    valuesAt value (l.flatMap f) = l.flatMap fun a => valuesAt value (f a) :=
  List.filterMap_flatMap

theorem membersAt_parts (value : Nat → Option V) {d : Nat} {bs : List (Block × Nat)} {s : Stem}
    (hs : s ∈ stems d bs) : membersAt value d s.parts =
      ((value s.id).map (@Member.folded V s.id s.block)).toList := by
  obtain ⟨hd, hdeep⟩ := indent_of_mem_stems hs
  have hnil : membersAt value d s.run = [] := by
    unfold membersAt
    rw [List.filterMap_eq_nil_iff]
    intro x hx
    exact if_neg (hdeep x hx).ne'
  show ((s.block, s.id) :: s.run).filterMap _ = _
  rw [List.filterMap_cons]
  dsimp only
  rw [if_pos hd, show s.run.filterMap _ = [] from hnil]
  cases value s.id <;> rfl

/-- the values in a stretch of blocks are those of its groups -/
structure Agrees (r : Renderer V D) (value : Nat → Option V) (d : Nat)
    (bs : List (Block × Nat)) : Prop where
  members : membersAt value d bs = (nests r bs).map Nest.member
  values : valuesAt value bs = Nest.allList (nests r bs)

theorem agrees_nil (r : Renderer V D) (value : Nat → Option V) (d : Nat) :
    Agrees r value d [] := by
  constructor <;> rw [nests_nil] <;> rfl

theorem Nest.allList_flatMap {α : Type} (l : List α) (f : α → List (Nest V)) :
    allList (l.flatMap f) = l.flatMap fun a => allList (f a) := by
  induction l with
  | nil => rfl
  | cons a l ih => rw [List.flatMap_cons, List.flatMap_cons, allList_append, ih]

/-! ## the value of a group -/

namespace Compilation.Fresh

variable {r : Renderer V D} {blocks : List Block} {c : Compilation V D} {l : Level} {g : Group}

/-- the value of a group is that of the unit of its segment -/
theorem exists_value (h : c.Fresh r blocks) (hl : l ∈ c.table) (hg : g ∈ l.nonEmpty) :
    ∃ id b rest, (Segment.ofValues r blocks c.value? (c.table.nextDepth? l.depth) l.depth g).members
      = .own id b :: rest ∧
      c.value? id = some (r.unit b.kind ⟨id, b, if b.kind = .root then [] else rest⟩).1 := by
  obtain ⟨start, stop, hcov⟩ := (h.table_over.levels l hl).covers hg
  obtain ⟨b, rest, _, hmembers, hout⟩ := Segment.ofValues_outcome r hcov c.value?
    (c.table.nextDepth? l.depth)
  refine ⟨start, b, rest, hmembers, ?_⟩
  obtain ⟨kind, u, v, log, hout', _, hv⟩ := h.kept _ (h.mem_segments.mpr ⟨l, hl, g, hg, rfl⟩)
  rw [hout] at hout'
  obtain ⟨_, rfl, rfl, _⟩ := Outcome.rendered.inj hout'
  exact hv

theorem value?_eq_none (h : c.Fresh r blocks) (hl : l ∈ c.table) {i j : Nat} {more : Group}
    (hg : i :: more ∈ l.nonEmpty) (hj : j ∈ more) : c.value? j = none := by
  rw [← Option.not_isSome_iff_eq_none, h.value?_isSome,
    h.table_over.mem_anchors_iff hl hg rfl (List.mem_cons_of_mem _ hj)]
  rintro rfl
  have hp := Block.pairwise_idsAt blocks l.depth
  rw [← (h.table_over.levels l hl).flatten, List.pairwise_flatten] at hp
  exact Nat.lt_irrefl _ (List.rel_of_pairwise_cons (hp.1 _ hg) hj)

end Compilation.Fresh

/-! ## the groups of a run -/

namespace Run

section
variable {r : Renderer V D} {blocks : List Block} {c : Compilation V D}
  {before run after : List (Block × Nat)} {d : Nat} (hrun : Run blocks before run after d)
  (h : c.Fresh r blocks) (hreg : Block.Regular blocks)
  (ih : ∀ before run' after n, run'.length < run.length → Run blocks before run' after n →
    Agrees r c.value? n run')
include hrun h hreg ih

/-- the values folded into a segment from the run of a stem are those of the groups there -/
theorem filterMap_memberAt {s : Stem} (hs : s ∈ stems d run) :
    s.run.filterMap (fun x => memberAt blocks c.value? (c.table.nextDepth? d) d x.2) =
      (nests r s.run).map Nest.member := by
  by_cases hne : s.run = []
  · rw [hne, nests_nil]
    rfl
  obtain ⟨ss, ts, hst⟩ := List.append_of_mem hs
  obtain ⟨n, had, hsub⟩ := hrun.of_stem hst h.table_over hreg hne
  rw [← (ih _ _ _ n (length_run_lt hs) hsub).members, (h.table_over.nextDepth?_eq_some had.left).mpr had]
  refine List.filterMap_congr fun x hx => ?_
  have hdeep := (indent_of_mem_stems hs).2 x hx
  unfold memberAt
  rw [getElem?_of_mem_zipIdx (hsub.mem_zipIdx hx), Option.bind_some, if_neg hdeep.ne']
  simp only [Option.some.injEq]

/-- the members of the segment of a piece: each block of it, then the values in its run -/
theorem members_eq {p : List Stem} (hp : p ∈ (stems d run).splitBy Stem.joins) :
    (Segment.ofValues r blocks c.value? (c.table.nextDepth? d) d (p.map Stem.id)).members =
      p.flatMap fun s => Nest.membersOf (s, nests r s.run) := by
  show (Group.span blocks _ d (p.map Stem.id)).filterMap _ = _
  rw [hrun.span_eq h.table_over hreg hp, List.filterMap_map, List.filterMap_flatMap]
  refine List.flatMap_congr fun s hs => ?_
  have hmem : s ∈ stems d run := mem_of_mem_splitBy hp hs
  have hown : memberAt blocks c.value? (c.table.nextDepth? d) d s.id =
      some (.own s.id s.block) := by
    unfold memberAt
    rw [hrun.getElem?_of_mem_stems hmem, Option.bind_some, if_pos (indent_of_mem_stems hmem).1]
  have hcons : s.parts.filterMap (memberAt blocks c.value? (c.table.nextDepth? d) d ∘ Prod.snd) =
      .own s.id s.block :: s.run.filterMap fun x =>
        memberAt blocks c.value? (c.table.nextDepth? d) d x.2 := List.filterMap_cons_some hown
  rw [hcons, hrun.filterMap_memberAt h hreg ih hmem]
  rfl

/-- the values in a stem are that on its block, and those of the groups in its run -/
theorem valuesAt_parts {s : Stem} (hs : s ∈ stems d run) : valuesAt c.value? s.parts =
    ((c.value? s.id).map (s.id, ·)).toList ++ Nest.allList (nests r s.run) := by
  have hsub : valuesAt c.value? s.run = Nest.allList (nests r s.run) := by
    by_cases hne : s.run = []
    · rw [hne]
      exact (agrees_nil r c.value? d).values
    · obtain ⟨ss, ts, hst⟩ := List.append_of_mem hs
      obtain ⟨n, _, hsub⟩ := hrun.of_stem hst h.table_over hreg hne
      exact (ih _ _ _ n (length_run_lt hs) hsub).values
  rw [← hsub]
  show ((s.block, s.id) :: s.run).filterMap _ = _
  rw [List.filterMap_cons]
  cases c.value? s.id <;> rfl

/-- **a piece of a run and its group** -/
theorem exists_nest {p : List Stem} (hp : p ∈ (stems d run).splitBy Stem.joins) :
    ∃ n, nestOf? r p = some n ∧
      membersAt c.value? d (p.flatMap Stem.parts) = [n.member] ∧
      valuesAt c.value? (p.flatMap Stem.parts) = n.all := by
  obtain ⟨s, more, rfl⟩ := List.exists_cons_of_ne_nil (List.ne_nil_of_mem_splitBy hp)
  have hmem : ∀ t ∈ s :: more, t ∈ stems d run := fun t ht => mem_of_mem_splitBy hp ht
  obtain ⟨l, hl, rfl⟩ : ∃ l ∈ c.table, l.depth = d := by
    have hs := hmem s List.mem_cons_self
    obtain ⟨l, hl, hd⟩ := List.mem_map.mp (h.table_over.mem_depths (hrun.getElem?_of_mem_stems hs))
    exact ⟨l, hl, hd.trans (indent_of_mem_stems hs).1⟩
  have hg := hrun.mem_nonEmpty (h.table_over.levels l hl) rfl hp
  obtain ⟨id, b, rest, hmembers, hv⟩ := h.exists_value hl hg
  have heq : Member.own s.id s.block :: ((nests r s.run).map Nest.member ++
      more.flatMap fun t => Nest.membersOf (t, nests r t.run)) = .own id b :: rest :=
    (hrun.members_eq h hreg ih hp).symm.trans hmembers
  obtain ⟨hown, hrest⟩ := List.cons.inj heq
  obtain ⟨rfl, rfl⟩ := Member.own.inj hown
  have hnone : ∀ t ∈ more, c.value? t.id = none :=
    fun t ht => h.value?_eq_none hl hg (List.mem_map_of_mem ht)
  refine ⟨.node s.id s.block (r.unit s.block.kind ⟨s.id, s.block,
    if s.block.kind = .root then [] else rest⟩).1 (nests r s.run ++
      more.flatMap fun t => nests r t.run), ?_, ?_, ?_⟩
  · rw [← hrest, nestOf?, List.map_cons, Nest.ofGroup?, List.flatMap_map, List.flatMap_map]
  · have hnil : (more.flatMap fun t => membersAt c.value? l.depth t.parts) = [] := by
      rw [List.flatMap_eq_nil_iff]
      intro t ht
      rw [membersAt_parts _ (hmem t (List.mem_cons_of_mem _ ht)), hnone t ht]
      rfl
    rw [membersAt_flatMap, List.flatMap_cons, hnil, membersAt_parts _ (hmem s List.mem_cons_self),
      hv]
    rfl
  · have hinner : (more.flatMap fun t => valuesAt c.value? t.parts) =
        more.flatMap fun t => Nest.allList (nests r t.run) := by
      refine List.flatMap_congr fun t ht => ?_
      rw [hrun.valuesAt_parts h hreg ih (hmem t (List.mem_cons_of_mem _ ht)), hnone t ht]
      rfl
    rw [valuesAt_flatMap, List.flatMap_cons, hinner,
      hrun.valuesAt_parts h hreg ih (hmem s List.mem_cons_self), hv, Nest.all,
      Nest.allList_append, Nest.allList_flatMap]
    rfl

end

theorem agrees_pieces {r : Renderer V D} {value : Nat → Option V} {d : Nat} (ps : List (List Stem))
    (h : ∀ p ∈ ps, ∃ n, nestOf? r p = some n ∧
      membersAt value d (p.flatMap Stem.parts) = [n.member] ∧
      valuesAt value (p.flatMap Stem.parts) = n.all) :
    membersAt value d (ps.flatten.flatMap Stem.parts) =
        (ps.filterMap (nestOf? r)).map Nest.member ∧
      valuesAt value (ps.flatten.flatMap Stem.parts) = Nest.allList (ps.filterMap (nestOf? r)) := by
  induction ps with
  | nil => exact ⟨rfl, rfl⟩
  | cons p ps ih =>
    obtain ⟨⟨n, hn, hmembers, hvalues⟩, hps⟩ := List.forall_mem_cons.mp h
    obtain ⟨ih1, ih2⟩ := ih hps
    rw [List.flatten_cons, List.flatMap_append, List.filterMap_cons_some hn, List.map_cons,
      Nest.allList, membersAt_append, valuesAt_append, hmembers, hvalues, ih1, ih2]
    exact ⟨rfl, rfl⟩

/-- **the values in a run** are those of its groups -/
theorem agrees {r : Renderer V D} {blocks : List Block} {c : Compilation V D}
    {before run after : List (Block × Nat)} {d : Nat} (hrun : Run blocks before run after d)
    (h : c.Fresh r blocks) (hreg : Block.Regular blocks) : Agrees r c.value? d run := by
  induction hn : run.length using Nat.strong_induction_on generalizing before run after d with
  | _ n ih =>
    -- the runs of the stems are shorter, and runs of the next depth where they are not empty
    subst hn
    obtain ⟨h1, h2⟩ := agrees_pieces ((stems d run).splitBy Stem.joins) fun p hp =>
      hrun.exists_nest h hreg (fun _ _ _ _ hlt hsub => ih _ hlt hsub rfl) hp
    have hnests : nests r run = ((stems d run).splitBy Stem.joins).filterMap (nestOf? r) := by
      obtain ⟨x, hx, rfl⟩ := hrun.head
      exact nests_eq r hx
    rw [List.flatten_splitBy, hrun.flatMap_stems, ← hnests] at h1 h2
    exact ⟨h1, h2⟩

theorem of_regular {blocks : List Block} (hreg : Block.Regular blocks) {b : Block}
    (hb : blocks.head? = some b) : Run blocks [] blocks.zipIdx [] b.indent where
  eq := by simp
  head := by
    obtain ⟨rest, rfl⟩ := List.head?_eq_some_iff.mp hb
    exact ⟨(b, 0), rfl, rfl⟩
  le := fun x hx => hreg.first b hb x.1 (List.mem_of_getElem? (getElem?_of_mem_zipIdx hx))
  before_lt := by simp
  after_lt := by simp

end Run

/-! ## a whole render -/

theorem filterMap_value?_membersAt (value : Nat → Option V) (d : Nat) (bs : List (Block × Nat)) :
    (membersAt value d bs).filterMap Member.value? = (idsOf d bs).filterMap value := by
  induction bs with
  | nil => rfl
  | cons x bs ih =>
    unfold membersAt idsOf at ih ⊢
    rw [List.filterMap_cons]
    by_cases hx : x.1.indent = d
    · rw [if_pos hx, List.filter_cons_of_pos (by simpa using hx), List.map_cons,
        List.filterMap_cons]
      cases value x.2 with
      | none => exact ih
      | some v => exact congrArg (v :: ·) ih
    · rw [if_neg hx, List.filter_cons_of_neg (by simpa using hx)]
      exact ih

theorem filterMap_value?_member (ns : List (Nest V)) :
    (ns.map Nest.member).filterMap Member.value? = ns.map Nest.value := by
  rw [List.filterMap_map, ← List.filterMap_eq_map]
  refine List.filterMap_congr ?_
  rintro ⟨id, b, v, inner⟩ _
  rfl

/-- where only the first of each group has a value, the values are those of the first ones -/
theorem filterMap_filterMap_head? (value : Nat → Option V) (gs : List Group)
    (h : ∀ i more, i :: more ∈ gs → ∀ j ∈ more, value j = none) :
    (gs.filterMap List.head?).filterMap value = gs.flatten.filterMap value := by
  induction gs with
  | nil => rfl
  | cons g gs ih =>
    have hgs := ih fun i more hg => h i more (List.mem_cons_of_mem _ hg)
    cases g with
    | nil => exact hgs
    | cons i more =>
      have hnil : more.filterMap value = [] := by
        rw [List.filterMap_eq_nil_iff]
        exact h i more List.mem_cons_self
      have hhead : (i :: more).head? = some i := rfl
      rw [List.filterMap_cons_some hhead, List.flatten_cons, List.filterMap_append,
        List.filterMap_cons, List.filterMap_cons, hnil, hgs]
      cases value i <;> rfl

namespace Compilation

/-- the values of the document are those that are kept at the least depth -/
theorem Fresh.filterMap_roots {r : Renderer V D} {blocks : List Block} {c : Compilation V D}
    (h : c.Fresh r blocks) {b : Block} (hb : b ∈ blocks) (hleast : ∀ z ∈ blocks, b.indent ≤ z.indent) :
    c.table.roots.filterMap c.value? = (idsAt blocks b.indent).filterMap c.value? := by
  obtain ⟨k, hk, hd⟩ := List.mem_map.mp ((h.table_over.depths b.indent).mpr ⟨b, hb, rfl⟩)
  obtain ⟨l, ls, htable⟩ := List.exists_cons_of_ne_nil (List.ne_nil_of_mem hk)
  have hover := h.table_over
  rw [htable] at hk hover
  obtain rfl : k = l := (hover.depth_le_iff hk).mp fun z hz => hd ▸ hleast z hz
  have hl : k ∈ c.table := htable ▸ hk
  have hroots : c.table.roots = k.nonEmpty.filterMap List.head? := by
    rw [htable]
    rfl
  rw [hroots, ← hd, ← (h.table_over.levels k hl).flatten]
  exact filterMap_filterMap_head? _ _ fun i more hg j hj => h.value?_eq_none hl hg hj

theorem filterMap_cells (r : Renderer V D) (blocks : List Block) :
    ((ofBlocks r blocks).cells.zipIdx.filterMap fun x => x.1.state.value?.map (x.2, ·)) =
      valuesAt (ofBlocks r blocks).value? blocks.zipIdx := by
  have hzip : blocks.zipIdx =
      (ofBlocks r blocks).cells.zipIdx.map (Prod.map Cell.block id) := by
    rw [← List.zipIdx_map, (fresh r blocks).settled.blocks_eq]
  rw [hzip]
  unfold valuesAt
  rw [List.filterMap_map]
  refine List.filterMap_congr fun x hx => ?_
  show _ = ((ofBlocks r blocks).value? x.2).map (x.2, ·)
  unfold value?
  rw [getElem?_of_mem_zipIdx hx]
  rfl

/-- **The pass is the recursion.**  After a render of a regular list of fresh blocks, the values that
are kept on blocks are those of all groups of the recursion, and the document is made of the values
of the outermost groups, in order. -/
theorem ofBlocks_eq_nests (r : Renderer V D) (blocks : List Block) (hreg : Block.Regular blocks) :
    let c := ofBlocks r blocks
    let ns := nests r blocks.zipIdx
    (c.cells.zipIdx.filterMap fun x => x.1.state.value?.map (x.2, ·)) = Nest.allList ns ∧
      c.roots = ns.map Nest.value ∧ c.document = (r.document (ns.map Nest.value)).1 := by
  intro c ns
  have h : c.Fresh r blocks := fresh r blocks
  suffices hvalues : valuesAt c.value? blocks.zipIdx = Nest.allList ns ∧
      c.roots = ns.map Nest.value by
    obtain ⟨hall, hroots⟩ := hvalues
    refine ⟨(filterMap_cells r blocks).trans hall, hroots, ?_⟩
    rw [← hroots]
    rfl
  cases blocks with
  | nil =>
    have hns : ns = [] := nests_nil r
    rw [hns]
    exact ⟨rfl, rfl⟩
  | cons b bs =>
    obtain ⟨hmembers, hall⟩ := (Run.of_regular hreg (b := b) rfl).agrees h hreg
    refine ⟨hall, ?_⟩
    calc c.roots = c.table.roots.filterMap c.value? := rfl
      _ = (idsAt (b :: bs) b.indent).filterMap c.value? :=
        h.filterMap_roots List.mem_cons_self (hreg.first b rfl)
      _ = (membersAt c.value? b.indent (b :: bs).zipIdx).filterMap Member.value? :=
        (filterMap_value?_membersAt _ _ _).symm
      _ = ns.map Nest.value := by rw [hmembers, filterMap_value?_member]

/-- two steps deeper at once, where no block lies between the two depths -/
theorem ofBlocks_eq_nests_of_steps :
    let blocks : List Block := [⟨0, [], 0⟩, ⟨2, [], 1⟩, ⟨5, [], 2⟩, ⟨2, [], 3⟩, ⟨0, [], 4⟩]
    Block.Regular blocks ∧ (ofBlocks Renderer.anchorIds blocks).roots =
      (nests Renderer.anchorIds blocks.zipIdx).map Nest.value := by
  intro blocks
  have hreg : Block.Regular blocks := ⟨by decide, by decide⟩
  exact ⟨hreg, (ofBlocks_eq_nests Renderer.anchorIds blocks hreg).2.1⟩

end Compilation

end QuestScript

import QuestScript.Proofs.Render.Taken
import QuestScript.Proofs.Nest.Basic

/-!
# Irregular indentation is reported

A block jumps if some depth lies between the one of the block before it and its own; the first block
jumps if some depth is less than its own.  A list of blocks is regular just if none of them jumps.

* `Fresh.unattached_of_jumps`             a block that jumps heads a group, and no segment takes it in;
* `Fresh.folded_of_regular`               in a regular list, all values below the least depth are taken in;
* `Compilation.unattached_iff_irregular`  so there is a warning just if the list is irregular.
-/

namespace QuestScript

variable {V D : Type}

/-! ## jumps -/

/-- the block `i` is deeper than some depth that the block before it does not reach -/
def Block.Jumps (blocks : List Block) (i : Nat) : Prop :=
  ∃ b, blocks[i]? = some b ∧ ∃ z ∈ blocks, z.indent < b.indent ∧
    ∀ j a, j + 1 = i → blocks[j]? = some a → a.indent < z.indent

theorem Block.regular_iff {blocks : List Block} : Regular blocks ↔ ∀ i, ¬Jumps blocks i := by
  constructor
  · rintro hreg i ⟨b, hb, z, hz, hlt, hbefore⟩
    cases i with
    | zero =>
      have := hreg.first b (List.head?_eq_getElem?.trans hb) z hz
      omega
    | succ j =>
      obtain ⟨hj, rfl⟩ := List.getElem?_eq_some_iff.mp hb
      have hlow := hbefore j blocks[j] rfl (List.getElem?_eq_getElem (by omega))
      have := (List.isChain_iff_getElem.mp hreg.step j hj) z hz hlow
      omega
  · intro h
    refine ⟨?_, ?_⟩
    · intro b hb z hz
      by_contra hlt
      refine h 0 ⟨b, List.head?_eq_getElem?.symm.trans hb, z, hz, by omega, ?_⟩
      intro j a hj
      omega
    · rw [List.isChain_iff_getElem]
      intro j hj z hz hlow
      by_contra hlt
      refine h (j + 1) ⟨_, List.getElem?_eq_getElem hj, z, hz, by omega, ?_⟩
      intro k a hk ha
      obtain rfl : k = j := by omega
      rw [List.getElem?_eq_getElem (by omega)] at ha
      rwa [← Option.some.inj ha]

/-! ## blocks that jump -/

namespace Compilation.Fresh

variable {r : Renderer V D} {blocks : List Block} {c : Compilation V D}

/-- the block before a jump is shallower, so the group of the block that jumps starts there -/
theorem head_of_jumps (h : c.Fresh r blocks) {i : Nat} (hjump : Block.Jumps blocks i) :
    ∃ l ∈ c.table, (∃ b ∈ blocks, b.indent < l.depth) ∧ blocks[i]?.map Block.indent = some l.depth ∧
      ∃ g ∈ l.nonEmpty, g.head? = some i := by
  obtain ⟨b, hb, z, hz, hlt, hbefore⟩ := hjump
  obtain ⟨l, hl, hd, g, hg, hi⟩ := h.table_over.exists_group hb
  obtain ⟨start, stop, hcov⟩ := (h.table_over.levels l hl).covers hg
  obtain ⟨_, hstart, hstop⟩ := (hcov.mem_iff i).mp hi
  have hi0 : start = i := by
    by_contra hne
    have hlen := (List.getElem?_eq_some_iff.mp hb).1
    have hj : blocks[i - 1]? = some blocks[i - 1] := List.getElem?_eq_getElem (by omega)
    have hlow := hbefore (i - 1) _ (by omega) hj
    have := hcov.deep (i - 1) _ hj (by omega) (by omega)
    omega
  refine ⟨l, hl, ⟨z, hz, by omega⟩, ?_, g, hg, hi0 ▸ hcov.head⟩
  rw [hb, Option.map_some, hd]

/-- a depth lies between a block that jumps and the nearest block below it, so it is not taken in -/
theorem not_folded_of_jumps (h : c.Fresh r blocks) {i : Nat} (hjump : Block.Jumps blocks i) :
    ∀ s ∈ c.segments, i ∉ s.folded := by
  intro s hs hf
  obtain ⟨l, hl, _, hdepth, g, hg, ha⟩ := h.head_of_jumps hjump
  obtain ⟨b, hb, z, hz, hlt, hbefore⟩ := hjump
  have hd : b.indent = l.depth := by simpa [hb] using hdepth
  obtain ⟨l', hl', g', hg', rfl⟩ := h.mem_segments.mp hs
  obtain ⟨had, p, hp, hpg, _⟩ := (h.mem_folded_iff hl hg ha hl' hg').mp hf
  have hzdepth : z.indent ∈ c.table.depths := (h.table_over.depths _).mpr ⟨z, hz, rfl⟩
  obtain ⟨_, _, hcov⟩ := (h.table_over.levels l' hl').covers hg'
  obtain ⟨bp, hbp, hlp⟩ := hp.below
  have hdp := hcov.indent_eq hpg hbp
  obtain ⟨j, rfl⟩ : ∃ j, i = j + 1 := ⟨i - 1, by have := hp.before; omega⟩
  -- the block before `j + 1` is below `z` already, so it is the nearest one
  have hlen := (List.getElem?_eq_some_iff.mp hb).1
  have hj : blocks[j]? = some blocks[j] := List.getElem?_eq_getElem (by omega)
  have hlow := hbefore j _ rfl hj
  obtain rfl : p = j := by
    by_contra hne
    have := hp.between j _ hj (by have := hp.before; omega) (by omega)
    omega
  rw [← Option.some.inj (hbp.symm.trans hj)] at hlow
  have := had.none_between _ hzdepth
  omega

end Compilation.Fresh

/-- **a block that jumps is reported** -/
theorem Compilation.unattached_of_jumps (r : Renderer V D) {blocks : List Block} {i : Nat}
    (hjump : Block.Jumps blocks i) : ∃ n, (i, n) ∈ (ofBlocks r blocks).unattached := by
  have h := fresh r blocks
  obtain ⟨l, hl, hlow, hdepth, hg⟩ := h.head_of_jumps hjump
  exact ⟨l.depth, (mem_unattached r blocks).mpr
    ⟨⟨l, hl, hlow, hg⟩, h.not_folded_of_jumps hjump, hdepth⟩⟩

/-! ## regular lists -/

/-- **in a regular list every value below the least depth is taken in**: the nearest block below is
at the depth before, and the block right after that is at the depth of the anchor -/
theorem Compilation.Fresh.folded_of_regular {r : Renderer V D} {blocks : List Block}
    {c : Compilation V D} (h : c.Fresh r blocks) (hreg : Block.Regular blocks) {l : Level}
    {g : Group} {a : Nat} (hl : l ∈ c.table) (hlow : ∃ b ∈ blocks, b.indent < l.depth)
    (hg : g ∈ l.nonEmpty) (ha : g.head? = some a) : ∃ s ∈ c.segments, a ∈ s.folded := by
  obtain ⟨start, stop, hcov⟩ := (h.table_over.levels l hl).covers hg
  obtain ⟨b, hb, hd⟩ := hcov.exists_block (List.mem_of_head? ha)
  have hlen := (List.getElem?_eq_some_iff.mp hb).1
  have hfirst : blocks[0].indent < l.depth := by
    obtain ⟨z, hz, hlt⟩ := hlow
    have hhead : blocks.head? = some blocks[0] :=
      List.head?_eq_getElem?.trans (List.getElem?_eq_getElem _)
    have := hreg.first blocks[0] hhead z hz
    omega
  have hpos : 0 < a := by
    rw [Nat.pos_iff_ne_zero]
    rintro rfl
    rw [List.getElem?_eq_getElem hlen, Option.some.injEq] at hb
    rw [hb, hd] at hfirst
    exact Nat.lt_irrefl _ hfirst
  obtain ⟨p, hp, _⟩ := Block.NearestBelow.exists_of_lt hpos (List.getElem?_eq_getElem _) hfirst
  obtain ⟨bp, hbp, hlp⟩ := hp.below
  have hbefore := hp.before
  have hq : blocks[p + 1]? = some blocks[p + 1] := List.getElem?_eq_getElem (by omega)
  -- the block right after `p` is no deeper than any depth below the one of `p`
  have hstep : ∀ z ∈ blocks, bp.indent < z.indent → blocks[p + 1].indent ≤ z.indent := by
    obtain ⟨_, rfl⟩ := List.getElem?_eq_some_iff.mp hbp
    exact List.isChain_iff_getElem.mp hreg.step p (by omega)
  have hle := hstep b (List.mem_of_getElem? hb) (by omega)
  have hge : l.depth ≤ blocks[p + 1].indent := by
    rcases Nat.lt_or_eq_of_le hbefore with hlt | rfl
    · exact hp.between (p + 1) _ hq (by omega) hlt
    · rw [Option.some.inj (hq.symm.trans hb), hd]
  obtain ⟨l', hl', hd', g', hg', hpg⟩ := h.table_over.exists_group hbp
  refine ⟨_, h.mem_segments.mpr ⟨l', hl', g', hg', rfl⟩, ?_⟩
  rw [h.mem_folded_iff hl hg ha hl' hg', hd']
  refine ⟨⟨h.table_over.mem_depths hbp, List.mem_map_of_mem hl, hlp, ?_⟩, p, hp, hpg, Or.inl ?_⟩
  · intro m hm
    obtain ⟨z, hz, rfl⟩ := (h.table_over.depths m).mp hm
    by_cases hzp : z.indent ≤ bp.indent
    · exact Or.inl hzp
    · have := hstep z hz (by omega)
      exact Or.inr (by omega)
  · rw [hq, Option.map_some, Option.some.injEq]
    omega

theorem Compilation.unattached_eq_nil (r : Renderer V D) {blocks : List Block}
    (hreg : Block.Regular blocks) : (ofBlocks r blocks).unattached = [] := by
  rw [List.eq_nil_iff_forall_not_mem]
  rintro ⟨a, n⟩ hx
  obtain ⟨⟨l, hl, hlow, g, hg, ha⟩, hfree, _⟩ := (mem_unattached r blocks).mp hx
  obtain ⟨s, hs, hf⟩ := (fresh r blocks).folded_of_regular hreg hl hlow hg ha
  exact hfree s hs hf

/-! ## the warning -/

/-- no message of the renderer has the number `code` -/
structure Renderer.Omits (r : Renderer V D) (code : Nat) : Prop where
  unit : ∀ kind u, ∀ m ∈ (r.unit kind u).2, m.code ≠ code
  document : ∀ values, ∀ m ∈ (r.document values).2, m.code ≠ code

namespace Compilation

/-- a message that the renderer does not give comes from the pass -/
theorem mem_notices_of_omits {r : Renderer V D} {blocks : List Block} {m : Diagnostic}
    (hr : r.Omits m.code) (hm : m ∈ (ofBlocks r blocks).diagnostics) :
    m ∈ (ofBlocks r blocks).notices := by
  have h := fresh r blocks
  rcases (mem_diagnostics r _ m).mp hm with hm | ⟨s, hs, hm⟩ | hm
  · exact hm
  · obtain ⟨kind, u, hout⟩ := h.exists_unit hs
    rw [hout] at hm
    exact absurd rfl (hr.unit _ _ m hm)
  · exact absurd rfl (hr.document _ m hm)

theorem mem_notices_iff_unattached (r : Renderer V D) (blocks : List Block) {m : Diagnostic}
    (hcode : m.code = 429) : m ∈ (ofBlocks r blocks).notices ↔
      ∃ a n, (a, n) ∈ (ofBlocks r blocks).unattached ∧ (Problem.unattached n).on [a] = m := by
  have h := fresh r blocks
  unfold notices
  rw [List.mem_append, List.mem_flatMap, List.mem_map]
  constructor
  · rintro (⟨s, hs, hm⟩ | ⟨⟨a, n⟩, hx, rfl⟩)
    · rw [h.notices_segment hs m hm] at hcode
      cases hcode
    · exact ⟨a, n, hx, rfl⟩
  · rintro ⟨a, n, hx, rfl⟩
    exact Or.inr ⟨(a, n), hx, rfl⟩

/-- **Irregular indentation is reported.**  If the renderer itself does not use the number of the
warning, a render of fresh blocks gives it just if the list is irregular: the first block has not the
least depth, or some block is deeper than the next depth after that of the block before it.  Every
block that jumps so is named by a warning of its own. -/
theorem unattached_iff_irregular (r : Renderer V D) (hr : r.Omits 429) (blocks : List Block) :
    let c := ofBlocks r blocks
    ((∃ m ∈ c.diagnostics, m.severity = .warning ∧ m.code = 429) ↔ ¬Block.Regular blocks) ∧
      ∀ i, Block.Jumps blocks i → ∃ m ∈ c.diagnostics, m.severity = .warning ∧ m.code = 429 ∧
        m.blocks = [i] := by
  intro c
  have hjumps : ∀ i, Block.Jumps blocks i → ∃ m ∈ c.diagnostics, m.severity = .warning ∧
      m.code = 429 ∧ m.blocks = [i] := by
    intro i hi
    obtain ⟨n, hn⟩ := unattached_of_jumps r hi
    have hm := (mem_notices_iff_unattached r blocks rfl).mpr ⟨i, n, hn, rfl⟩
    exact ⟨_, (mem_diagnostics r _ _).mpr (Or.inl hm), rfl, rfl, rfl⟩
  refine ⟨⟨?_, ?_⟩, hjumps⟩
  · rintro ⟨m, hm, _, hcode⟩ hreg
    have hnotice := mem_notices_of_omits (hcode ▸ hr) hm
    obtain ⟨a, n, hx, _⟩ := (mem_notices_iff_unattached r blocks hcode).mp hnotice
    rw [unattached_eq_nil r hreg] at hx
    cases hx
  · intro hirr
    obtain ⟨i, hi⟩ := not_forall_not.mp fun h => hirr (Block.regular_iff.mpr h)
    obtain ⟨m, hm, hs, hcode, _⟩ := hjumps i hi
    exact ⟨m, hm, hs, hcode⟩

/-- the depth 1 is skipped first, and then present -/
theorem unattached_of_late_depth :
    let blocks : List Block := [⟨0, [], 0⟩, ⟨2, [], 1⟩, ⟨1, [], 2⟩, ⟨2, [], 3⟩]
    Renderer.anchorIds.Omits 429 ∧ ∃ m ∈ (ofBlocks Renderer.anchorIds blocks).diagnostics,
      m.severity = .warning ∧ m.code = 429 := by
  intro blocks
  have homits : Renderer.anchorIds.Omits 429 :=
    ⟨fun _ _ _ hm => absurd hm List.not_mem_nil, fun _ _ hm => absurd hm List.not_mem_nil⟩
  refine ⟨homits, (unattached_iff_irregular Renderer.anchorIds homits blocks).1.mpr ?_⟩
  intro hreg
  exact absurd hreg.step (by decide)

end Compilation

end QuestScript

import QuestScript.Proofs.Nest.Basic
import QuestScript.Proofs.Render.Span

/-!
# Runs and groups

In a regular list of blocks the run after a block lies at the next depth and deeper.  This module
finds the groups of the table in such a run:

* `Run`              a stretch of blocks from a depth on that is not part of a longer one;
* `Run.of_stem`      the run of a stem is one, at the next depth;
* `Run.mem_nonEmpty` the pieces that the stems of a run are cut into are groups of the table;
* `Run.span_eq`      the segment of such a group spans its blocks and their runs.
-/

namespace QuestScript

open Block (idsAt joins)

/-! ## lists with positions -/

theorem map_snd_of_zipIdx_eq {α : Type} {l : List α} {as ms bs : List (α × Nat)}
    (e : l.zipIdx = as ++ ms ++ bs) : ms.map Prod.snd = List.range' as.length ms.length := by
  have hlen : l.length = as.length + ms.length + bs.length := by
    rw [← List.length_zipIdx (l := l), e, List.length_append, List.length_append]
  have h := List.zipIdx_map_snd (l := l) (i := 0)
  rw [e, hlen, List.map_append, List.map_append, ← List.range'_append_1, ← List.range'_append_1,
    Nat.zero_add] at h
  have hlen' : (as.map Prod.snd ++ ms.map Prod.snd).length =
      (List.range' 0 as.length ++ List.range' as.length ms.length).length := by simp
  exact (List.append_inj (List.append_inj h hlen').1 (by simp)).2

theorem drop_of_zipIdx_eq {α : Type} {l : List α} {as bs : List (α × Nat)} {x : α × Nat}
    (e : l.zipIdx = as ++ x :: bs) : x.2 = as.length ∧ l.drop (x.2 + 1) = bs.map Prod.fst := by
  have e' : l.zipIdx = as ++ [x] ++ bs := by simpa using e
  have hx : x.2 = as.length := by simpa using map_snd_of_zipIdx_eq e'
  have hl := congrArg (List.map Prod.fst) e
  rw [List.zipIdx_map_fst] at hl
  refine ⟨hx, ?_⟩
  rw [hx, hl]
  simp [List.drop_append]

/-! ## where groups are cut -/

/-- the ids of the blocks of depth `d` in a stretch of blocks -/
def idsOf (d : Nat) (bs : List (Block × Nat)) : List Nat :=
  (bs.filter (·.1.indent = d)).map Prod.snd

theorem mem_idsOf {d : Nat} {bs : List (Block × Nat)} {id : Nat} :
    id ∈ idsOf d bs ↔ ∃ x ∈ bs, x.1.indent = d ∧ x.2 = id := by
  simp [idsOf]

theorem idsOf_append (d : Nat) (as bs : List (Block × Nat)) :
    idsOf d (as ++ bs) = idsOf d as ++ idsOf d bs := by
  rw [idsOf, List.filter_append, List.map_append]
  rfl

theorem idsOf_eq_map_stems (d : Nat) (bs : List (Block × Nat)) :
    idsOf d bs = (stems d bs).map Stem.id := by
  rw [idsOf, ← map_stems, List.map_map]
  rfl

/-- a shallower block on either side of a place cuts the groups there -/
theorem splitBy_idsOf_append {blocks : List Block} {d : Nat} {as bs : List (Block × Nat)}
    (hsub : (as ++ bs).Sublist blocks.zipIdx)
    (hcut : (∀ x ∈ as.getLast?, x.1.indent < d) ∨ ∀ x ∈ bs.head?, x.1.indent < d) :
    (idsOf d (as ++ bs)).splitBy (joins blocks d) =
      (idsOf d as).splitBy (joins blocks d) ++ (idsOf d bs).splitBy (joins blocks d) := by
  obtain ⟨has, hbs, hab⟩ := List.pairwise_append.mp ((pairwise_zipIdx blocks).sublist hsub)
  rw [idsOf_append]
  refine List.splitBy_append ?_
  intro i hi j hj
  obtain ⟨x, hx, hxd, rfl⟩ := mem_idsOf.mp (List.mem_of_getLast? hi)
  obtain ⟨y, hy, hyd, rfl⟩ := mem_idsOf.mp (List.mem_of_head? hj)
  have hbetween : ∃ z ∈ as ++ bs, z.1.indent < d ∧ x.2 < z.2 ∧ z.2 < y.2 := by
    rcases hcut with hcut | hcut
    · obtain ⟨init, z, rfl⟩ := List.eq_nil_or_concat as |>.resolve_left (List.ne_nil_of_mem hx)
      rw [List.concat_eq_append] at *
      have hz : z.1.indent < d := hcut z (by simp)
      refine ⟨z, by simp, hz, ?_, hab z (by simp) y hy⟩
      rcases List.mem_append.mp hx with hx | hx
      · exact (List.pairwise_append.mp has).2.2 x hx z List.mem_cons_self
      · rw [List.mem_singleton.mp hx] at hxd
        omega
    · obtain ⟨z, rest, rfl⟩ := List.exists_cons_of_ne_nil (List.ne_nil_of_mem hy)
      have hz : z.1.indent < d := hcut z rfl
      refine ⟨z, by simp, hz, hab x hx z List.mem_cons_self, ?_⟩
      rcases List.mem_cons.mp hy with rfl | hy
      · omega
      · exact List.rel_of_pairwise_cons hbs hy
  obtain ⟨z, hz, hlt, h1, h2⟩ := hbetween
  rw [Bool.eq_false_iff]
  intro hj
  have := Block.deep_of_joins hj (getElem?_of_mem_zipIdx (hsub.subset hz)) h1 h2
  omega

/-! ## runs -/

/-- a stretch of blocks that starts at depth `d`, goes nowhere above it, and is not part of a longer
one -/
structure Run (blocks : List Block) (before run after : List (Block × Nat)) (d : Nat) : Prop where
  eq : blocks.zipIdx = before ++ run ++ after
  head : ∃ x, run.head? = some x ∧ x.1.indent = d
  le : ∀ x ∈ run, d ≤ x.1.indent
  before_lt : ∀ x ∈ before.getLast?, x.1.indent < d
  after_lt : ∀ x ∈ after.head?, x.1.indent < d

namespace Run

variable {blocks : List Block} {before run after : List (Block × Nat)} {d : Nat}

theorem mem_zipIdx (h : Run blocks before run after d) {x : Block × Nat} (hx : x ∈ run) :
    x ∈ blocks.zipIdx := by
  rw [h.eq]
  simp [hx]

theorem flatMap_stems (h : Run blocks before run after d) :
    (stems d run).flatMap Stem.parts = run := by
  obtain ⟨x, hx, hd⟩ := h.head
  obtain ⟨rest, rfl⟩ := List.head?_eq_some_iff.mp hx
  have hsplit := takeWhile_append_stems h.le
  rwa [List.takeWhile_cons_of_neg (by simp [hd]), List.nil_append] at hsplit

section
variable (h : Run blocks before run after d) {ss ts : List Stem} {s : Stem}
  (hs : stems d run = ss ++ s :: ts)
include h hs

theorem zipIdx_eq : blocks.zipIdx = before ++ ss.flatMap Stem.parts ++ (s.block, s.id) ::
    (s.run ++ (ts.flatMap Stem.parts ++ after)) := by
  have hrun := h.flatMap_stems
  rw [hs, List.flatMap_append, List.flatMap_cons] at hrun
  rw [h.eq, ← hrun]
  simp [Stem.parts]

theorem stem_depth : s.block.indent = d ∧ (∀ x ∈ s.run, d < x.1.indent) ∧
    ∀ x ∈ (ts.flatMap Stem.parts ++ after).head?, x.1.indent ≤ d := by
  have hmem : ∀ t ∈ ss ++ s :: ts, t.block.indent = d ∧ ∀ x ∈ t.run, d < x.1.indent :=
    fun t ht => indent_of_mem_stems (hs ▸ ht)
  obtain ⟨hd, hdeep⟩ := hmem s (by simp)
  refine ⟨hd, hdeep, ?_⟩
  intro x hx
  cases ts with
  | nil => exact (h.after_lt x hx).le
  | cons t ts =>
    obtain rfl : (t.block, t.id) = x := by simpa [Stem.parts] using hx
    exact (hmem t (by simp)).1.le

variable {table : GroupTable} (ht : table.Over blocks (Level.Cut blocks))
  (hreg : Block.Regular blocks)
include ht hreg

/-- **the run of a stem** is a run of the next depth -/
theorem of_stem (hne : s.run ≠ []) : ∃ n, table.Adjacent d n ∧
    Run blocks (before ++ ss.flatMap Stem.parts ++ [(s.block, s.id)]) s.run
      (ts.flatMap Stem.parts ++ after) n := by
  obtain ⟨hd, hdeep, hafter⟩ := h.stem_depth hs
  obtain ⟨x, rest, hrun⟩ := List.exists_cons_of_ne_nil hne
  have hx : d < x.1.indent := hdeep x (by simp [hrun])
  have heq := h.zipIdx_eq hs
  have hdepth : ∀ y ∈ blocks.zipIdx, y.1.indent ∈ table.depths :=
    fun y hy => ht.mem_depths (getElem?_of_mem_zipIdx hy)
  -- `x` comes right after the stem, so it is at most as deep as the next depth
  have hstep : ∀ z ∈ blocks, s.block.indent < z.indent → x.1.indent ≤ z.indent := by
    have hblocks := congrArg (List.map Prod.fst) heq
    rw [List.zipIdx_map_fst, hrun, List.map_append, List.map_cons, List.cons_append,
      List.map_cons] at hblocks
    have hchain := hreg.step
    rw [hblocks, List.isChain_append_cons_cons, ← hblocks] at hchain
    exact hchain.2.1
  have hleast : ∀ m ∈ table.depths, m ≤ d ∨ x.1.indent ≤ m := by
    intro m hm
    obtain ⟨b, hb, rfl⟩ := (ht.depths m).mp hm
    by_cases hle : b.indent ≤ d
    · exact Or.inl hle
    · exact Or.inr (hstep b hb (by omega))
  refine ⟨x.1.indent, ⟨?_, ?_, hx, hleast⟩, ?_, ⟨x, by rw [hrun]; rfl, rfl⟩, ?_, ?_, ?_⟩
  · rw [← hd]
    exact hdepth (s.block, s.id) (by simp [heq])
  · exact hdepth x (by simp [heq, hrun])
  · rw [heq]
    simp
  · intro y hy
    refine (hleast y.1.indent (hdepth y (by simp [heq, hy]))).resolve_left ?_
    have := hdeep y hy
    omega
  · intro y hy
    obtain rfl : (s.block, s.id) = y := by simpa using hy
    exact hd.trans_lt hx
  · intro y hy
    exact (hafter y hy).trans_lt hx

theorem extent_eq : Group.extent blocks (table.nextDepth? d) d s.id = s.run.length := by
  obtain ⟨hd, hdeep, hafter⟩ := h.stem_depth hs
  have hdrop := (drop_of_zipIdx_eq (h.zipIdx_eq hs)).2
  have htake : ((s.run ++ (ts.flatMap Stem.parts ++ after)).map Prod.fst).takeWhile
      (d < ·.indent) = s.run.map Prod.fst := by
    rw [List.takeWhile_map, List.takeWhile_append_of_pos fun x hx => by simpa using hdeep x hx]
    have hnil : (ts.flatMap Stem.parts ++ after).takeWhile (d < ·.1.indent) = [] := by
      cases hrest : ts.flatMap Stem.parts ++ after with
      | nil => rfl
      | cons y rest =>
        refine List.takeWhile_cons_of_neg ?_
        have := hafter y (by rw [hrest]; rfl)
        simpa using this
    show (s.run ++ (ts.flatMap Stem.parts ++ after).takeWhile (d < ·.1.indent)).map _ = _
    rw [hnil, List.append_nil]
  unfold Group.extent
  dsimp only at hdrop ⊢
  rw [hdrop, htake, List.length_map]
  split
  · rfl
  · next hif =>
    by_contra hne
    obtain ⟨n, had, hrun⟩ := h.of_stem hs ht hreg fun e => hne (by rw [e]; rfl)
    obtain ⟨x, hx, hxd⟩ := hrun.head
    refine hif ?_
    rw [(ht.nextDepth?_eq_some had.left).mpr had, List.head?_map, List.head?_append, hx]
    simp [hxd]

end

/-! ## groups in a run -/

section
variable (h : Run blocks before run after d)
include h

theorem pairwise : (before ++ run ++ after).Pairwise fun x y => x.2 < y.2 :=
  h.eq ▸ pairwise_zipIdx blocks

theorem mem_of_mem_stems {s : Stem} (hs : s ∈ stems d run) : (s.block, s.id) ∈ run := by
  rw [← h.flatMap_stems]
  exact List.mem_flatMap_of_mem hs List.mem_cons_self

theorem getElem?_of_mem_stems {s : Stem} (hs : s ∈ stems d run) :
    blocks[s.id]? = some s.block :=
  getElem?_of_mem_zipIdx (h.mem_zipIdx (h.mem_of_mem_stems hs))

/-- in a run, two stems join just if no group begins between them -/
theorem joins_eq {s t : Stem} (hs : s ∈ stems d run) (ht : t ∈ stems d run) :
    joins blocks d s.id t.id = s.joins t := by
  have hdeep : ((blocks.take t.id).drop (s.id + 1)).all (d ≤ ·.indent) = true := by
    rw [List.all_eq_true]
    intro b hb
    obtain ⟨k, hk⟩ := List.mem_iff_getElem?.mp hb
    rw [List.getElem?_drop, List.getElem?_take] at hk
    split at hk
    · next hlt =>
      obtain ⟨hbefore, _, hrun⟩ := List.pairwise_append.mp h.pairwise
      have hin := List.mk_mem_zipIdx_iff_getElem?.mpr hk
      rw [h.eq, List.mem_append, List.mem_append] at hin
      rcases hin with (hin | hin) | hin
      · have := (List.pairwise_append.mp hbefore).2.2 _ hin _ (h.mem_of_mem_stems hs)
        dsimp only at this
        omega
      · simpa using h.le _ hin
      · have := hrun _ (List.mem_append_right _ (h.mem_of_mem_stems ht)) _ hin
        dsimp only at this
        omega
    · cases hk
  unfold joins Stem.joins
  rw [h.getElem?_of_mem_stems hs, h.getElem?_of_mem_stems ht, hdeep, Bool.and_true]
  rfl

/-- **the pieces of a run** are groups of the level of its depth -/
theorem mem_nonEmpty {l : Level} (hl : l.Cut blocks) (hd : l.depth = d) {p : List Stem}
    (hp : p ∈ (stems d run).splitBy Stem.joins) : p.map Stem.id ∈ l.nonEmpty := by
  have hids : idsAt blocks d = idsOf d (before ++ run ++ after) := by
    rw [← h.eq]
    rfl
  have hsub : (before ++ run ++ after).Sublist blocks.zipIdx := by rw [h.eq]
  rw [hl.groups, hd, hids, splitBy_idsOf_append hsub (Or.inr h.after_lt),
    splitBy_idsOf_append ((List.sublist_append_left _ _).trans hsub) (Or.inl h.before_lt),
    idsOf_eq_map_stems d run, splitBy_map Stem.id fun s hs t ht => h.joins_eq hs ht]
  refine List.mem_append_left _ (List.mem_append_right _ ?_)
  exact List.mem_map_of_mem hp

variable {table : GroupTable} (ht : table.Over blocks (Level.Cut blocks))
  (hreg : Block.Regular blocks)
include ht hreg

/-- **the segment of a piece** spans its blocks and their runs -/
theorem span_eq {p : List Stem} (hp : p ∈ (stems d run).splitBy Stem.joins) :
    Group.span blocks (table.nextDepth? d) d (p.map Stem.id) =
      (p.flatMap Stem.parts).map Prod.snd := by
  obtain ⟨ps, qs, hsplit⟩ := List.append_of_mem hp
  have hstems : stems d run = ps.flatten ++ (p ++ qs.flatten) := by
    rw [← List.flatten_splitBy Stem.joins (stems d run), hsplit]
    simp
  have hne := List.ne_nil_of_mem_splitBy hp
  obtain ⟨s, more, hfirst⟩ := List.exists_cons_of_ne_nil hne
  obtain ⟨init, z, hlast⟩ := (List.eq_nil_or_concat p).resolve_left hne
  rw [List.concat_eq_append] at hlast
  -- where the first and the last stem of the piece stand
  have hs : stems d run = ps.flatten ++ s :: (more ++ qs.flatten) := by
    rw [hstems, hfirst]
    rfl
  have hz : stems d run = (ps.flatten ++ init) ++ z :: qs.flatten := by
    rw [hstems, hlast]
    simp
  have hstart : s.id = (before ++ ps.flatten.flatMap Stem.parts).length :=
    (drop_of_zipIdx_eq (h.zipIdx_eq hs)).1
  have hstop : z.id = s.id + (init.flatMap Stem.parts).length := by
    have hz' : z.id = _ := (drop_of_zipIdx_eq (h.zipIdx_eq hz)).1
    rw [hz', hstart, List.flatMap_append, ← List.append_assoc, List.length_append]
  have hids : (p.flatMap Stem.parts).map Prod.snd =
      List.range' s.id (p.flatMap Stem.parts).length := by
    have heq : blocks.zipIdx = (before ++ ps.flatten.flatMap Stem.parts) ++ p.flatMap Stem.parts ++
        (qs.flatten.flatMap Stem.parts ++ after) := by
      rw [h.zipIdx_eq hz, hlast]
      simp [Stem.parts]
    rw [hstart]
    exact map_snd_of_zipIdx_eq heq
  have hlen : (p.flatMap Stem.parts).length = z.id + 1 - s.id + z.run.length := by
    rw [hlast, List.flatMap_append, List.length_append, List.flatMap_singleton, hstop]
    show _ + (z.run.length + 1) = _
    omega
  have hhead : (p.map Stem.id).head? = some s.id := by
    rw [hfirst]
    rfl
  have hend : (p.map Stem.id).getLast? = some z.id := by
    rw [hlast]
    simp
  unfold Group.span
  rw [hhead, hend]
  dsimp only
  rw [h.extent_eq hz ht hreg, hids, hlen]

end

end Run

end QuestScript

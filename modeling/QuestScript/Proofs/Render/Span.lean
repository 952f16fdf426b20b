import QuestScript.Render.Segment
import QuestScript.Proofs.Group.Table

/-!
# The blocks of a segment

Which blocks a segment spans depends on the blocks alone, not on their states.  `Group.span` is the
list of their ids, and `Group.Covers.mem_span` says what it is: the blocks from the first to the
last one of the group, and, if a block of the next depth stands right after, the deeper blocks that
follow.

`Segment.filterMap_span` reads the members of a segment off these ids.
-/

namespace QuestScript

/-! ## lists -/

theorem lt_length_takeWhile_iff {α : Type} (p : α → Bool) (l : List α) (k : Nat) :
    k < (l.takeWhile p).length ↔ ∀ j ≤ k, ∃ x, l[j]? = some x ∧ p x = true := by
  induction l generalizing k with
  | nil =>
    constructor
    · intro h
      exact absurd h (Nat.not_lt_zero k)
    · intro h
      obtain ⟨x, hx, _⟩ := h 0 (Nat.zero_le k)
      cases hx
  | cons a l ih =>
    rw [List.takeWhile_cons]
    split
    · next ha =>
      cases k with
      | zero =>
        refine ⟨fun _ j hj => ?_, fun _ => Nat.succ_pos _⟩
        obtain rfl := Nat.le_zero.mp hj
        exact ⟨a, rfl, ha⟩
      | succ k =>
        rw [List.length_cons, Nat.succ_lt_succ_iff, ih]
        constructor
        · intro h j hj
          cases j with
          | zero => exact ⟨a, rfl, ha⟩
          | succ j => exact h j (Nat.le_of_succ_le_succ hj)
        · intro h j hj
          exact h (j + 1) (Nat.succ_le_succ hj)
    · next ha =>
      refine ⟨fun h => absurd h (Nat.not_lt_zero k), fun h => ?_⟩
      obtain ⟨x, hx, hp⟩ := h 0 (Nat.zero_le k)
      obtain rfl : a = x := by simpa using hx
      exact absurd hp ha

theorem filterMap_zipIdx_take_drop {α β : Type} (l : List α) (f : α × Nat → Option β) (k : Nat) :
    ∀ start, (((l.drop start).take k).zipIdx start).filterMap f =
      (List.range' start k).filterMap fun id => l[id]?.bind fun x => f (x, id) := by
  induction k with
  | zero => intro start; rfl
  | succ k ih =>
    intro start
    rw [List.range'_succ, List.filterMap_cons]
    by_cases h : start < l.length
    · rw [List.drop_eq_getElem_cons h, List.take_succ_cons, List.zipIdx_cons, List.filterMap_cons,
        ih (start + 1), List.getElem?_eq_getElem h]
      rfl
    · have hnone : ∀ id ∈ List.range' start (k + 1), l[id]? = none := by
        intro id hid
        rw [List.getElem?_eq_none_iff]
        have := (List.mem_range'_1.mp hid).1
        omega
      rw [List.range'_succ, List.forall_mem_cons] at hnone
      have hnil : ((List.range' (start + 1) k).filterMap fun id => l[id]?.bind fun x => f (x, id))
          = [] := by
        rw [List.filterMap_eq_nil_iff]
        intro id hid
        rw [hnone.2 id hid]
        rfl
      rw [List.drop_of_length_le (by omega), hnone.1, hnil]
      rfl

/-! ## the ids of a segment -/

/-- how many blocks after `stop` still belong to the segment of a group that ends there -/
def Group.extent (blocks : List Block) (next : Option Nat) (base stop : Nat) : Nat :=
  let after := blocks.drop (stop + 1)
  if next.isSome && after.head?.map (·.indent) == next then
    (after.takeWhile (base < ·.indent)).length
  else 0

/-- the ids of the blocks that the segment of a group spans -/
def Group.span (blocks : List Block) (next : Option Nat) (base : Nat) (g : Group) : List Nat :=
  match g.head?, g.getLast? with
  | some start, some stop =>
    List.range' start (stop + 1 - start + extent blocks next base stop)
  | _, _ => []

theorem Segment.extension_eq_take {V : Type} (cells : List (Cell V)) (next : Option Nat)
    (base stop : Nat) : Segment.extension cells next base stop =
      (cells.drop (stop + 1)).take (Group.extent (cells.map Cell.block) next base stop) := by
  have hhead : ((cells.map Cell.block).drop (stop + 1)).head?.map Block.indent
      = (cells.drop (stop + 1)).head?.map (·.block.indent) := by
    rw [← List.map_drop, List.head?_map, Option.map_map]
    rfl
  have hlen : (((cells.map Cell.block).drop (stop + 1)).takeWhile (base < ·.indent)).length
      = ((cells.drop (stop + 1)).takeWhile (base < ·.block.indent)).length := by
    rw [← List.map_drop, List.takeWhile_map, List.length_map]
    rfl
  unfold Segment.extension Group.extent
  dsimp only
  rw [hhead, hlen]
  split
  · exact List.prefix_iff_eq_take.mp (List.takeWhile_prefix _)
  · rfl

/-- what is read off the cells of a segment can be read off their ids -/
theorem Segment.filterMap_span {V β : Type} (cells : List (Cell V)) (next : Option Nat)
    (base : Nat) {g : Group} {start stop : Nat} (hstart : g.head? = some start)
    (hstop : g.getLast? = some stop) (hle : start ≤ stop)
    (f : Cell V × Nat → Option β) :
    (Segment.span cells next base start stop).filterMap f =
      (Group.span (cells.map Cell.block) next base g).filterMap fun id =>
        cells[id]?.bind fun c => f (c, id) := by
  unfold Segment.span Group.span
  rw [hstart, hstop, Segment.extension_eq_take, ← filterMap_zipIdx_take_drop]
  have hdrop : cells.drop (stop + 1) = (cells.drop start).drop (stop + 1 - start) := by
    rw [List.drop_drop]
    congr 1
    omega
  rw [hdrop, ← List.take_add]

namespace Group.Covers

variable {blocks : List Block} {d : Nat} {g : Group} {start stop : Nat}

theorem span_eq (h : Covers blocks d g start stop) (next : Option Nat) :
    Group.span blocks next d g =
      List.range' start (stop + 1 - start + extent blocks next d stop) := by
  unfold Group.span
  rw [h.head, h.last]

/-- **the blocks of a segment**: those from the first to the last one of the group, and those that
follow at a greater depth if the first that follows has the next depth -/
theorem mem_span (h : Covers blocks d g start stop) {next : Option Nat} {id : Nat} :
    id ∈ Group.span blocks next d g ↔ start ≤ id ∧ (id ≤ stop ∨
      (∃ n, next = some n ∧ blocks[stop + 1]?.map Block.indent = some n) ∧
        ∀ j, stop < j → j ≤ id → ∃ b, blocks[j]? = some b ∧ d < b.indent) := by
  have hle := h.start_le
  rw [h.span_eq, List.mem_range'_1]
  refine and_congr_right fun hstart => ?_
  by_cases hid : id ≤ stop
  · refine iff_of_true ?_ (Or.inl hid)
    omega
  · have hlt : id < start + (stop + 1 - start + extent blocks next d stop) ↔
        id - (stop + 1) < extent blocks next d stop := by
      omega
    rw [hlt, or_iff_right hid]
    unfold extent
    dsimp only
    rw [List.head?_drop]
    split
    · next hn =>
      rw [Bool.and_eq_true, beq_iff_eq, Option.isSome_iff_exists] at hn
      obtain ⟨⟨n, rfl⟩, hhead⟩ := hn
      rw [lt_length_takeWhile_iff, and_iff_right ⟨n, rfl, hhead⟩]
      constructor
      · intro hj j h1 h2
        obtain ⟨b, hb, hp⟩ := hj (j - (stop + 1)) (by omega)
        rw [List.getElem?_drop, show stop + 1 + (j - (stop + 1)) = j by omega] at hb
        exact ⟨b, hb, by simpa using hp⟩
      · intro hj j h2
        obtain ⟨b, hb, hp⟩ := hj (stop + 1 + j) (by omega) (by omega)
        rw [← List.getElem?_drop] at hb
        exact ⟨b, hb, by simpa using hp⟩
    · next hn =>
      refine iff_of_false (Nat.not_lt_zero _) ?_
      rintro ⟨⟨n, rfl, hhead⟩, _⟩
      exact hn (by simp [hhead])

/-- in a segment, the blocks of the depth of the group are its own and the others are deeper -/
theorem le_indent_of_mem_span (h : Covers blocks d g start stop) {next : Option Nat} {id : Nat}
    {b : Block} (hid : id ∈ Group.span blocks next d g) (hb : blocks[id]? = some b) :
    d < b.indent ∨ b.indent = d ∧ id ∈ g := by
  obtain ⟨hstart, hspan⟩ := h.mem_span.mp hid
  by_cases hstop : id ≤ stop
  · rcases Nat.lt_or_eq_of_le (h.deep id b hb hstart hstop) with hlt | heq
    · exact Or.inl hlt
    · have hmem := Block.mem_idsAt.mpr ⟨b, hb, heq.symm⟩
      exact Or.inr ⟨heq.symm, (h.mem_iff id).mpr ⟨hmem, hstart, hstop⟩⟩
  · obtain ⟨b', hb', hd⟩ := (hspan.resolve_left hstop).2 id (by omega) (Nat.le_refl id)
    obtain rfl := Option.some.inj (hb.symm.trans hb')
    exact Or.inl hd

theorem mem_span_of_le (h : Covers blocks d g start stop) {next : Option Nat} {id j : Nat}
    (hid : id ∈ Group.span blocks next d g) (hstart : start ≤ j) (hj : j ≤ id) :
    j ∈ Group.span blocks next d g := by
  rw [h.span_eq, List.mem_range'_1] at hid ⊢
  omega

theorem lt_length_of_mem_span (h : Covers blocks d g start stop) {next : Option Nat} {id : Nat}
    (hid : id ∈ Group.span blocks next d g) : id < blocks.length := by
  rcases (h.mem_span.mp hid).2 with hle | ⟨_, hafter⟩
  · exact hle.trans_lt (Block.lt_of_mem_idsAt ((h.mem_iff stop).mp h.stop_mem).1)
  · by_cases hle : id ≤ stop
    · exact hle.trans_lt (Block.lt_of_mem_idsAt ((h.mem_iff stop).mp h.stop_mem).1)
    · obtain ⟨b, hb, _⟩ := hafter id (by omega) (Nat.le_refl id)
      exact (List.getElem?_eq_some_iff.mp hb).1

/-- the segment of a group ends before the next group of its depth -/
theorem span_lt (h : Covers blocks d g start stop) {next : Option Nat} {id start' : Nat} {b : Block}
    (hid : id ∈ Group.span blocks next d g) (hb : blocks[start']? = some b) (hd : b.indent = d)
    (hlt : ∀ i ∈ g, i < start') : id < start' := by
  by_contra hle
  have hspan := h.mem_span_of_le hid (hlt start h.start_mem).le (Nat.le_of_not_lt hle)
  rcases h.le_indent_of_mem_span hspan hb with hdeep | ⟨_, hmem⟩
  · omega
  · exact Nat.lt_irrefl _ (hlt start' hmem)

/-- the segment of a deeper group lies within each segment that reaches its first block -/
theorem span_subset (h : Covers blocks d g start stop) {next next' : Option Nat} {n : Nat}
    {g' : Group} {a stop' : Nat} (h' : Covers blocks n g' a stop') (hdn : d < n)
    (ha : a ∈ Group.span blocks next d g) {id : Nat} (hid : id ∈ Group.span blocks next' n g') :
    id ∈ Group.span blocks next d g := by
  obtain ⟨hstart, hspan⟩ := h.mem_span.mp ha
  obtain ⟨hle, _⟩ := h'.mem_span.mp hid
  -- all blocks from `a` to `id` are deeper than `d`
  have hdeep : ∀ j, a ≤ j → j ≤ id → ∀ b, blocks[j]? = some b → d < b.indent := by
    intro j h1 h2 b hb
    rcases h'.le_indent_of_mem_span (h'.mem_span_of_le hid h1 h2) hb with hlt | ⟨heq, _⟩
    · omega
    · omega
  refine h.mem_span.mpr ⟨by omega, ?_⟩
  by_cases hstop : id ≤ stop
  · exact Or.inl hstop
  · have hlast : ¬a ≤ stop := by
      intro hle'
      obtain ⟨b, hb, hd⟩ := h.exists_block h.stop_mem
      have := hdeep stop hle' (by omega) b hb
      omega
    obtain ⟨hnext, hafter⟩ := hspan.resolve_left hlast
    refine Or.inr ⟨hnext, fun j h1 h2 => ?_⟩
    by_cases hja : j ≤ a
    · exact hafter j h1 hja
    · have hb := List.getElem?_eq_getElem (h2.trans_lt (h'.lt_length_of_mem_span hid))
      exact ⟨_, hb, hdeep j (by omega) h2 _ hb⟩

theorem mem_filterMap_span {V β : Type} {cells : List (Cell V)}
    (h : Covers (cells.map Cell.block) d g start stop) {next : Option Nat}
    {f : Cell V × Nat → Option β} {x : β} :
    x ∈ (Segment.span cells next d start stop).filterMap f ↔
      ∃ id ∈ Group.span (cells.map Cell.block) next d g, ∃ c, cells[id]? = some c ∧
        f (c, id) = some x := by
  rw [Segment.filterMap_span cells next d h.head h.last h.start_le, List.mem_filterMap]
  simp only [Option.bind_eq_some_iff]

theorem mem_span_of_mem (h : Covers blocks d g start stop) (next : Option Nat) {id : Nat}
    (hid : id ∈ g) : id ∈ Group.span blocks next d g := by
  obtain ⟨_, h1, h2⟩ := (h.mem_iff id).mp hid
  exact h.mem_span.mpr ⟨h1, Or.inl h2⟩

end Group.Covers

end QuestScript

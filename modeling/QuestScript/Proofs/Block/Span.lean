import QuestScript.Report.Span
import QuestScript.Proofs.Block.Lines
import QuestScript.Proofs.Text.Lines

/-!
# Where a block is in the source

A block spans its lines in full.  What it spans is the block and nothing else: cut into blocks by
itself, that part of the source is the block again.

* `Block.ofLines_eq_singleton`  lines that are all in one block;
* `Block.ofLines_drop_take`     the lines of a block, cut into blocks by themselves;
* `Block.SpannedBy`             what the span of a block covers;
* `Block.exists_spannedBy`      every block of a source has such a span;
* `Block.forall₂_spans`         so the spans of blocks are theirs, one for each;
* `Block.stop_le_start`         the spans of different blocks do not meet.
-/

namespace QuestScript

open Character (isBlank)

namespace Block

/-! ## the lines of a block by themselves -/

/-- **lines of one depth** are in one block, if no line but the first is a header line -/
theorem ofLines_eq_singleton {d : Nat} {ls : List Text} (hne : ls ≠ [])
    (hls : ∀ line ∈ ls, line.all isBlank = false ∧ Line.indent line = d)
    (htail : ∀ line ∈ ls.tail, Line.isHeader (Text.trim line) = false) (n : Nat) :
    ofLines n ls = [⟨d, ls.map Text.trim, n⟩] := by
  induction ls generalizing n with
  | nil => exact absurd rfl hne
  | cons line rest ih =>
    obtain ⟨⟨hblank, rfl⟩, hrest⟩ := List.forall_mem_cons.mp hls
    rw [ofLines, if_neg (Bool.eq_false_iff.mp hblank)]
    cases rest with
    | nil => rfl
    | cons next rest =>
      obtain ⟨hheader, htail⟩ := List.forall_mem_cons.mp htail
      rw [ih (List.cons_ne_nil _ _) hrest htail]
      refine if_pos ?_
      simp [continues, isHeader, firstLine?, hheader]

section
variable {ls : List Text} {b : Block} (hb : b ∈ ofLines 0 ls)
include hb

theorem add_length_le : b.startLine + b.lines.length ≤ ls.length := by
  have hpos := List.length_pos_of_ne_nil (lines_ne_nil ls hb)
  have hlast := List.getElem?_eq_getElem (show b.lines.length - 1 < b.lines.length by omega)
  obtain ⟨_, hline, _⟩ := line_of_getElem? hb hlast
  have := (List.getElem?_eq_some_iff.mp hline).1
  omega

/-- **the lines of a block by themselves** are that block -/
theorem ofLines_drop_take : ofLines 0 ((ls.drop b.startLine).take b.lines.length) =
    [⟨b.indent, b.lines, 0⟩] := by
  have hlength := add_length_le hb
  let raw := (ls.drop b.startLine).take b.lines.length
  have hraw : raw.length = b.lines.length := by
    rw [List.length_take, List.length_drop]
    omega
  -- the lines that are cut out are the lines of the block, one by one
  have hget (k : Nat) (line : Text) (hk : raw[k]? = some line) :
      line.all isBlank = false ∧ Line.indent line = b.indent ∧ b.lines[k]? = some (Text.trim line) := by
    have hlt : k < b.lines.length := hraw ▸ (List.getElem?_eq_some_iff.mp hk).1
    have htext := List.getElem?_eq_getElem hlt
    obtain ⟨line', hline', hblank, hindent, heq⟩ := line_of_getElem? hb htext
    have hline : ls[b.startLine + k]? = some line := by
      rwa [List.getElem?_take_of_lt hlt, List.getElem?_drop] at hk
    obtain rfl := Option.some.inj (hline.symm.trans hline')
    exact ⟨hblank, hindent.symm, heq ▸ htext⟩
  have hlines : raw.map Text.trim = b.lines := by
    refine List.ext_getElem (by rw [List.length_map, hraw]) fun k hk hk' => ?_
    rw [List.length_map] at hk
    have htrim := (hget k raw[k] (List.getElem?_eq_getElem hk)).2.2
    rw [List.getElem_map]
    exact (List.getElem_eq_iff hk').mpr htrim |>.symm
  have hne : raw ≠ [] := fun h => lines_ne_nil ls hb (by rw [← hlines, h, List.map_nil])
  have hsingle : ofLines 0 raw = [⟨b.indent, raw.map Text.trim, 0⟩] := by
    refine ofLines_eq_singleton hne (fun line hline => ?_) (fun line hline => ?_) 0
    · obtain ⟨k, hk⟩ := List.mem_iff_getElem?.mp hline
      exact ⟨(hget k line hk).1, (hget k line hk).2.1⟩
    · obtain ⟨k, hk⟩ := List.mem_iff_getElem?.mp hline
      rw [List.getElem?_tail] at hk
      refine Bool.eq_false_iff.mpr fun hheader => ?_
      cases eq_zero_of_isHeader hb (hget (k + 1) line hk).2.2 hheader
  rwa [hlines] at hsingle

end

/-! ## the span of a block -/

/-- the span `s` of a block covers `body`, between `before` and `after`: that is the lines of the
block, from the start of the first one to the end of the last one, and it is the block again if it
is cut into blocks by itself -/
structure SpannedBy (source : Text) (b : Block) (s : Span) (before body after : Text) : Prop where
  source_eq : source = before ++ body ++ after
  start_eq : s.start = before.byteLength
  stop_eq : s.stop = (before ++ body).byteLength
  slice : s.slice? source = some body
  ne_nil : body ≠ []
  first_line : before.count '\n' = b.startLine
  starts : before = [] ∨ before.getLast? = some '\n'
  line_count : (Text.lines body).length = b.lines.length
  ends : after = [] ∨ body.getLast? = some '\n'
  alone : ofSource body = [⟨b.indent, b.lines, 0⟩]

section
variable {source : Text} {b : Block} (hb : b ∈ ofSource source)
include hb

theorem add_length_le_withEnds : b.startLine + b.lines.length ≤ (Text.withEnds source).length := by
  have := add_length_le hb
  rwa [Text.lines, List.length_map] at this

theorem span?_eq : b.span? (Text.allLines source) =
    some ⟨Text.totalLength ((Text.withEnds source).take b.startLine),
      Text.totalLength ((Text.withEnds source).take (b.startLine + b.lines.length))⟩ := by
  have hle := add_length_le_withEnds hb
  have hpos := List.length_pos_of_ne_nil (lines_ne_nil _ hb)
  unfold span?
  rw [Span.ofLines?_allLines (by omega) (by omega), Nat.add_assoc, Nat.sub_add_cancel hpos]

/-- **the span of a block** covers its lines and nothing else -/
theorem exists_spannedBy : ∃ s before body after, b.span? (Text.allLines source) = some s ∧
    SpannedBy source b s before body after := by
  have hpos := List.length_pos_of_ne_nil (lines_ne_nil _ hb)
  obtain ⟨before, body, after, h⟩ := Text.exists_isPart (add_length_le_withEnds hb) hpos
  refine ⟨_, before, body, after, span?_eq hb, ?_⟩
  have hstart : Text.totalLength ((Text.withEnds source).take b.startLine) = before.byteLength :=
    congrArg Text.byteLength h.before_eq.symm
  have hstop : Text.totalLength ((Text.withEnds source).take (b.startLine + b.lines.length)) =
      (before ++ body).byteLength := congrArg Text.byteLength h.until_eq.symm
  have hlines : Text.lines body =
      ((Text.lines source).drop b.startLine).take b.lines.length := by
    unfold Text.lines
    rw [h.cut, List.map_take, List.map_drop]
  have hcount : (Text.lines body).length = b.lines.length := by
    have := add_length_le hb
    rw [hlines, List.length_take, List.length_drop]
    omega
  constructor
  case source_eq => exact h.eq
  case start_eq => exact hstart
  case stop_eq => exact hstop
  case slice =>
    have hslice := Span.slice?_append before body after
    rwa [← h.eq, ← hstart, ← hstop] at hslice
  case ne_nil =>
    rintro rfl
    exact Nat.ne_of_lt hpos hcount
  case first_line => exact h.count
  case starts => exact h.starts
  case line_count => exact hcount
  case ends => exact h.ends
  case alone =>
    show ofLines 0 (Text.lines body) = _
    rw [hlines]
    exact ofLines_drop_take hb

end

/-! ## the spans of blocks -/

section
variable {source : Text}

/-- **the spans of blocks** that are in the source, one for each and in the same order -/
theorem forall₂_spans {ids : List Nat} (hids : ∀ id ∈ ids, id < (ofSource source).length) :
    List.Forall₂ (fun id s => ∃ b before body after, (ofSource source)[id]? = some b ∧
      SpannedBy source b s before body after) ids (spans source (ofSource source) ids) := by
  induction ids with
  | nil => exact .nil
  | cons id ids ih =>
    obtain ⟨hid, hids⟩ := List.forall_mem_cons.mp hids
    have hb := List.getElem?_eq_getElem hid
    obtain ⟨s, before, body, after, hs, h⟩ := exists_spannedBy (List.mem_of_getElem? hb)
    have hcons : spans source (ofSource source) (id :: ids) =
        s :: spans source (ofSource source) ids := by
      unfold spans
      refine List.filterMap_cons_some ?_
      rw [hb, Option.bind_some, hs]
    rw [hcons]
    exact .cons ⟨_, before, body, after, hb, h⟩ (ih hids)

example : spans "é\r\nb\n\n  c" (ofSource "é\r\nb\n\n  c") [1, 0] = [⟨7, 10⟩, ⟨0, 6⟩] := by
  decide

theorem mem_spans_singleton {id : Nat} {s : Span} :
    s ∈ spans source (ofSource source) [id] ↔
      ∃ b, (ofSource source)[id]? = some b ∧ b.span? (Text.allLines source) = some s := by
  unfold spans
  simp only [List.mem_filterMap, List.mem_singleton, exists_eq_left, Option.bind_eq_some_iff]

/-- **the spans of different blocks** do not meet -/
theorem stop_le_start {i j : Nat} (hij : i < j) {s s' : Span}
    (hs : s ∈ spans source (ofSource source) [i]) (hs' : s' ∈ spans source (ofSource source) [j]) :
    s.stop ≤ s'.start := by
  obtain ⟨b, hb, hs⟩ := mem_spans_singleton.mp hs
  obtain ⟨b', hb', hs'⟩ := mem_spans_singleton.mp hs'
  obtain rfl := Option.some.inj ((span?_eq (List.mem_of_getElem? hb)).symm.trans hs)
  obtain rfl := Option.some.inj ((span?_eq (List.mem_of_getElem? hb')).symm.trans hs')
  obtain ⟨hi, rfl⟩ := List.getElem?_eq_some_iff.mp hb
  obtain ⟨hj, rfl⟩ := List.getElem?_eq_some_iff.mp hb'
  have hapart := List.pairwise_iff_getElem.mp (pairwise_ofLines (Text.lines source)) i j hi hj hij
  exact Text.totalLength_take_le hapart _

end

end Block

end QuestScript

import QuestScript.Proofs.Render.Contract
import QuestScript.Proofs.Render.Lookup

/-!
# Header lines and the units they head

A header line starts its block, the block starts its group, and the renderer is called with the kind
that the line announces.  So the units of each kind but narrative are counted by the lines of a
script.

* `Line.numbersOf`               the lines of a script that pass a test;
* `Compilation.calls`            the calls of a render;
* `Compilation.exists_heading`   a header line is the first line of the anchor of a unit;
* `Compilation.perm_startLines`  the units of a kind and the lines that announce it;
* `Session.header_lines_head_units`  all of it together.
-/

namespace QuestScript

open Text (trim)

variable {V D : Type}

/-! ## lines of a script -/

namespace Line

/-- the numbers of the lines of a script that pass a test once they are trimmed -/
def numbersOf (test : Text → Bool) (source : Text) : List Nat :=
  let ls := Text.lines source
  (List.range ls.length).filter fun n => ls[n]?.any fun line => test (trim line)

theorem mem_numbersOf {test : Text → Bool} {source : Text} {n : Nat} :
    n ∈ numbersOf test source ↔
      ∃ line, (Text.lines source)[n]? = some line ∧ test (trim line) = true := by
  unfold numbersOf
  dsimp only
  rw [List.mem_filter, List.mem_range, Option.any_eq_true]
  refine and_iff_right_of_imp ?_
  rintro ⟨line, hline, _⟩
  exact (List.getElem?_eq_some_iff.mp hline).1

theorem nodup_numbersOf (test : Text → Bool) (source : Text) : (numbersOf test source).Nodup :=
  List.nodup_range.filter _

end Line

/-! ## blocks and calls -/

namespace Block

variable {ls : List Text} {b : Block} (hb : b ∈ ofLines 0 ls)
include hb

theorem hasLine_startLine : b.hasLine b.startLine = true := by
  have hpos := List.length_pos_of_ne_nil (lines_ne_nil ls hb)
  unfold hasLine
  simp only [Bool.and_eq_true, decide_eq_true_iff]
  omega

/-- the first line of a block, as the script has it -/
theorem exists_firstLine : ∃ line, ls[b.startLine]? = some line ∧
    b.firstLine? = some (trim line) := by
  obtain ⟨k, line, hk, hline, _, htext⟩ := getElem?_of_hasLine hb (hasLine_startLine hb)
  obtain rfl : k = 0 := by omega
  exact ⟨line, hline, List.head?_eq_getElem?.trans htext⟩

omit hb in
theorem atLine?_startLine {id : Nat} (hid : (ofLines 0 ls)[id]? = some b) :
    atLine? (ofLines 0 ls) b.startLine = some id :=
  (atLine?_eq_some (pairwise_ofLines ls)).mpr
    ⟨b, hid, hasLine_startLine (List.mem_of_getElem? hid)⟩

end Block

theorem Segment.Contract.anchor_eq {blocks : List Block} {table : GroupTable}
    {earlier : List (Segment V)} {before : List (Cell V)} {s : Segment V} {kind : LineKind}
    {u : RenderUnit V} (h : s.Contract blocks table earlier before kind u) :
    u.anchorId ∈ s.group ∧ blocks[u.anchorId]? = some u.anchor :=
  (h.own_iff _ _).mp List.mem_cons_self

theorem Segment.mem_calls {s : Segment V} {kind : LineKind} {u : RenderUnit V} :
    (kind, u) ∈ s.calls ↔ ∃ v log, s.outcome = .rendered kind u v log := by
  unfold calls
  cases s.outcome <;> simp [eq_comm]

namespace Compilation

/-- the calls of the renderer in order -/
def calls (c : Compilation V D) : List (LineKind × RenderUnit V) := c.segments.flatMap Segment.calls

theorem Fresh.segment_eq {r : Renderer V D} {blocks : List Block} {c : Compilation V D}
    (h : c.Fresh r blocks) {s s' : Segment V} (hs : s ∈ c.segments) (hs' : s' ∈ c.segments)
    {id : Nat} (hid : id ∈ s.group) (hid' : id ∈ s'.group) : s = s' := by
  obtain ⟨l, hl, g, hg, rfl⟩ := h.mem_segments.mp hs
  obtain ⟨l', hl', g', hg', rfl⟩ := h.mem_segments.mp hs'
  obtain ⟨rfl, rfl⟩ := h.table_over.group_eq hl hl' hg hg' hid hid'
  rfl

theorem contract_of_mem (r : Renderer V D) {blocks : List Block} {s : Segment V}
    (hs : s ∈ (ofBlocks r blocks).segments) {kind : LineKind} {u : RenderUnit V}
    (hcall : (kind, u) ∈ s.calls) :
    ∃ earlier before, s.Contract blocks (ofBlocks r blocks).table earlier before kind u := by
  obtain ⟨v, log, hout⟩ := Segment.mem_calls.mp hcall
  obtain ⟨pre, post, hsegments⟩ := List.append_of_mem hs
  obtain ⟨_, _, hout', hcontract⟩ := exists_contract r hsegments
  obtain ⟨rfl, rfl, _, _⟩ := Outcome.rendered.inj (hout.symm.trans hout')
  exact ⟨pre, _, hcontract⟩

/-! ## header lines -/

section
variable (r : Renderer V D) (source : Text)

/-- **a header line heads a unit** of the kind that it announces, and has the value of the unit -/
theorem exists_heading {n : Nat} {line : Text} (hline : (Text.lines source)[n]? = some line)
    (hh : Line.isHeader (trim line) = true) : ∃ kind u, kind = Line.kind (trim line) ∧
      (kind, u) ∈ (ofSource r source).calls ∧ u.anchor.startLine = n ∧
      u.anchor.firstLine? = some (trim line) ∧
      (ofSource r source).valueAt? n = some (r.unit kind u).1 := by
  have h : (ofSource r source).Fresh r (Block.ofSource source) := fresh r _
  obtain ⟨b, hb, hn⟩ := Block.exists_hasLine hline (Line.not_blank_of_isHeader hh)
  obtain ⟨k, line', hk, hline', _, htext⟩ := Block.getElem?_of_hasLine hb hn
  obtain rfl : line = line' := Option.some.inj (hline.symm.trans hline')
  obtain rfl : k = 0 := Block.eq_zero_of_isHeader hb htext hh
  have hfirst : b.firstLine? = some (trim line) := List.head?_eq_getElem?.trans htext
  obtain ⟨id, hid⟩ := List.mem_iff_getElem?.mp hb
  obtain ⟨l, hl, g, hg, hmem, s, hs, hgroup, kind, u, hout, hhead, howner, hvalue⟩ :=
    h.exists_owner hid
  -- the block is the first of its group, so it is the anchor of the unit
  have hheader : (Block.ofSource source)[id]?.any Block.isHeader = true := by
    unfold Block.ofSource
    rw [hid, Option.any_some, Block.isHeader, hfirst, Option.any_some, hh]
  obtain rfl : id = u.anchorId :=
    (h.table_over.levels l hl).eq_head_of_header hg hhead hmem hheader
  have hcall : (kind, u) ∈ s.calls := Segment.mem_calls.mpr ⟨_, _, hout⟩
  obtain ⟨_, _, hcontract⟩ := contract_of_mem r hs hcall
  obtain rfl : b = u.anchor := Option.some.inj (hid.symm.trans hcontract.anchor_eq.2)
  refine ⟨kind, u, ?_, List.mem_flatMap.mpr ⟨s, hs, hcall⟩, hk.symm, hfirst, ?_⟩
  · rw [hcontract.kind_eq, hfirst, Option.getD_some]
  · rw [valueAt?_of_hasLine r source hid hn, howner, hvalue]

/-- no two calls have anchors that start on the same line -/
theorem nodup_startLines :
    ((ofSource r source).calls.map (·.2.anchor.startLine)).Nodup := by
  have h : (ofSource r source).Fresh r (Block.ofSource source) := fresh r _
  unfold calls
  rw [List.map_flatMap, List.nodup_flatMap]
  constructor
  · intro s _
    unfold Segment.calls
    split
    · exact List.nodup_singleton _
    · exact List.nodup_nil
  · refine h.nodup_segments.imp_of_mem ?_
    intro s s' hs hs' hne n hn hn'
    obtain ⟨⟨kind, u⟩, hu, hstart⟩ := List.mem_map.mp hn
    obtain ⟨⟨kind', u'⟩, hu', hstart'⟩ := List.mem_map.mp hn'
    obtain ⟨_, _, hcontract⟩ := contract_of_mem r hs hu
    obtain ⟨_, _, hcontract'⟩ := contract_of_mem r hs' hu'
    -- both anchors are the block of the line `n`
    have hid := Block.atLine?_startLine hcontract.anchor_eq.2
    rw [hstart, ← hstart', Block.atLine?_startLine hcontract'.anchor_eq.2] at hid
    exact hne (h.segment_eq hs hs' hcontract.anchor_eq.1
      (Option.some.inj hid ▸ hcontract'.anchor_eq.1))

/-- **the units of a kind** and the lines that announce it are in one-to-one correspondence -/
theorem perm_startLines {kind : LineKind} (hkind : kind ≠ .narrative) {test : Text → Bool}
    (htest : ∀ line, Line.kind line = kind ↔ test line = true) :
    (((ofSource r source).calls.filter (·.1 = kind)).map (·.2.anchor.startLine)).Perm
      (Line.numbersOf test source) := by
  have hleft := (nodup_startLines r source).sublist
    ((List.filter_sublist (p := fun x => x.1 = kind)).map _)
  refine (List.perm_ext_iff_of_nodup hleft (Line.nodup_numbersOf test source)).mpr fun n => ?_
  rw [Line.mem_numbersOf, List.mem_map]
  constructor
  · rintro ⟨⟨kind', u⟩, hmem, rfl⟩
    obtain ⟨hcall, hkind'⟩ := List.mem_filter.mp hmem
    obtain ⟨s, hs, hcall⟩ := List.mem_flatMap.mp hcall
    obtain ⟨_, _, hcontract⟩ := contract_of_mem r hs hcall
    obtain ⟨line, hline, hfirst⟩ :=
      Block.exists_firstLine (List.mem_of_getElem? hcontract.anchor_eq.2)
    refine ⟨line, hline, (htest _).mp ?_⟩
    rw [← of_decide_eq_true hkind', hcontract.kind_eq, hfirst, Option.getD_some]
  · rintro ⟨line, hline, hpass⟩
    have hk := (htest _).mpr hpass
    obtain ⟨_, u, rfl, hcall, hstart, _⟩ :=
      exists_heading r source hline (Line.isHeader_of_kind (hk ▸ hkind))
    exact ⟨(_, u), List.mem_filter.mpr ⟨hcall, decide_eq_true hk⟩, hstart⟩

end

end Compilation

/-- **Header lines head their own units.**  The calls of the renderer for quest headers, combat cards
and triggers are in one-to-one correspondence with the lines that start with `#`, that start with
`_combat_`, and that are triggers: the anchor of the call starts on the line.  Each other line that
starts with `_` is the first line of the anchor of a narrative unit.  A session answers about a header
line with the value of the unit it heads, and no unit has a header line in another place. -/
theorem Session.header_lines_head_units (s : Session V D) (source : Text) :
    let r := s.renderer
    let after := s.renderSource source
    let c := Compilation.ofSource r source
    let startLines := fun kind => (c.calls.filter (·.1 = kind)).map (·.2.anchor.startLine)
    after.last = some c ∧
    ((c.calls.map (·.2.anchor.startLine)).Nodup ∧
      (startLines .root).Perm (Line.numbersOf Line.isRoot source) ∧
      (startLines .combat).Perm (Line.numbersOf (Text.startsWith Line.combatMark) source) ∧
      (startLines .trigger).Perm (Line.numbersOf Line.isTrigger source)) ∧
    (∀ n line, (Text.lines source)[n]? = some line → Line.isHeader (trim line) = true →
      ∃ kind u v log, (kind, u) ∈ c.calls ∧ r.unit kind u = (v, log) ∧
        u.anchor.startLine = n ∧ u.anchor.firstLine? = some (trim line) ∧
        after.valueAt? n = some v ∧
        (kind = .root ↔ Line.isRoot (trim line) = true) ∧
        (kind = .combat ↔ Text.startsWith Line.combatMark (trim line) = true) ∧
        (kind = .trigger ↔ Line.isTrigger (trim line) = true) ∧
        (kind = .narrative ↔ Line.isRoot (trim line) = false ∧
          Text.startsWith Line.combatMark (trim line) = false ∧
          Line.isTrigger (trim line) = false)) ∧
    ∀ kind u, (kind, u) ∈ c.calls → ∀ id b, .own id b ∈ u.members → ∀ k text,
      b.lines[k]? = some text → Line.isHeader text = true → id = u.anchorId ∧ k = 0 := by
  intro r after c startLines
  have h : c.Fresh r (Block.ofSource source) := Compilation.fresh r _
  refine ⟨rfl, ⟨Compilation.nodup_startLines r source, ?_, ?_, ?_⟩, ?_, ?_⟩
  · exact Compilation.perm_startLines r source (by decide) Line.kind_eq_root_iff
  · exact Compilation.perm_startLines r source (by decide) Line.kind_eq_combat_iff
  · exact Compilation.perm_startLines r source (by decide) Line.kind_eq_trigger_iff
  · intro n line hline hh
    obtain ⟨_, u, rfl, hcall, hstart, hfirst, hvalue⟩ :=
      Compilation.exists_heading r source hline hh
    exact ⟨_, u, _, _, hcall, rfl, hstart, hfirst, hvalue, Line.kind_eq_root_iff _,
      Line.kind_eq_combat_iff _, Line.kind_eq_trigger_iff _, Line.kind_eq_narrative_iff _⟩
  · intro kind u hcall id b hmem k text hk hh
    obtain ⟨s, hs, hcall⟩ := List.mem_flatMap.mp hcall
    obtain ⟨_, _, hcontract⟩ := Compilation.contract_of_mem r hs hcall
    obtain ⟨hid, hb⟩ := (hcontract.own_iff id b).mp hmem
    obtain rfl : k = 0 := Block.eq_zero_of_isHeader (List.mem_of_getElem? hb) hk hh
    obtain ⟨l, hl, g, hg, rfl⟩ := h.mem_segments.mp hs
    refine ⟨(h.table_over.levels l hl).eq_head_of_header hg hcontract.head hid ?_, rfl⟩
    rw [hb, Option.any_some, Block.isHeader, Block.firstLine?, List.head?_eq_getElem?, hk,
      Option.any_some, hh]

end QuestScript

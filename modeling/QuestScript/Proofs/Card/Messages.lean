import QuestScript.Proofs.Block.Span
import QuestScript.Proofs.Card.Codes
import QuestScript.Proofs.Card.Outline
import QuestScript.Proofs.Render.Emission
import QuestScript.Proofs.Render.Lookup
import QuestScript.Proofs.Render.Taken
import QuestScript.Command.Format

/-!
# The messages of a script

The messages of a first render are about the script: none is about the render itself, and all but the
one on a missing quest header tell of some blocks, which are blocks of the script.

* `Fresh.exists_unit_ids`      the unit of a segment, and the blocks that the segment tells of;
* `Diagnostic.IsAbout`         what is said of a message;
* `Compilation.isAbout_of_mem`  it holds of every message;
* `Format.diagnostics_render`  the messages are the same in both formats;
* `Format.spans_of_messages`   where in the source the blocks of a message are.
-/

namespace QuestScript

variable {V D : Type}

namespace Compilation.Fresh

variable {r : Renderer V D} {blocks : List Block} {c : Compilation V D}

/-- **the blocks of a segment** are blocks of the script, and its unit has some of them -/
theorem exists_unit_ids (h : c.Fresh r blocks) {s : Segment V} (hs : s ∈ c.segments) :
    ∃ kind u, s.outcome = .rendered kind u (r.unit kind u).1 (r.unit kind u).2 ∧
      u.ids ⊆ s.members.map Member.id ∧ ∀ id ∈ s.members.map Member.id, id < blocks.length := by
  obtain ⟨l, hl, g, hg, rfl⟩ := h.mem_segments.mp hs
  obtain ⟨start, stop, hcov⟩ := (h.table_over.levels l hl).covers hg
  obtain ⟨b, rest, _, hmembers, hout⟩ := Segment.ofValues_outcome r hcov c.value?
    (c.table.nextDepth? l.depth)
  refine ⟨b.kind, _, hout, ?_, fun id hid => ?_⟩
  · rw [hmembers]
    unfold RenderUnit.ids RenderUnit.members
    refine List.map_subset _ (List.cons_subset_cons _ ?_)
    dsimp only
    split
    · exact List.nil_subset _
    · exact List.Subset.refl _
  · exact hcov.lt_length_of_mem_span ((Segment.mem_ids_ofValues r _ _).mp hid).1

end Compilation.Fresh

/-- the message is about a script of `n` blocks and not about its render; only the message on a
missing quest header tells of no block -/
structure Diagnostic.IsAbout (n : Nat) (d : Diagnostic) : Prop where
  not_internal : d.severity ≠ .internal
  ne_nil : d.code ≠ 425 → d.blocks ≠ []
  lt : ∀ id ∈ d.blocks, id < n

theorem Problem.isAbout_on {p : Problem} {on : List Nat} {n : Nat} (hcode : p.code < 500)
    (hne : on ≠ []) (hlt : ∀ id ∈ on, id < n) : (p.on on).IsAbout n where
  not_internal hinternal := by
    have hcode' : Diagnostic.isInternalCode p.code = true :=
      p.severity_eq_internal_iff.mp hinternal
    unfold Diagnostic.isInternalCode at hcode'
    exact absurd (of_decide_eq_true hcode') (Nat.not_le.mpr hcode)
  ne_nil _ := hne
  lt := hlt

theorem Card.code_lt {n : Nat} (hn : n ∈ codes) : n < 500 := by
  revert n
  decide

theorem Card.isAbout_of_mem {kind : LineKind} {u : RenderUnit V} {n : Nat}
    (hlt : ∀ id ∈ u.ids, id < n) {d : Diagnostic} (hd : d ∈ (ofUnit kind u).2) : d.IsAbout n := by
  obtain ⟨p, on, rfl, hne, hsub, hp⟩ := mem_log hd
  refine Problem.isAbout_on ?_ hne fun id hid => hlt id (hsub hid)
  rcases hp with hcode | ⟨_, _, rfl, _⟩
  · exact code_lt hcode
  · decide

namespace Compilation

/-- **every message of a first render** is about the script -/
theorem isAbout_of_mem (f : CardFormat V) (blocks : List Block) {d : Diagnostic}
    (hd : d ∈ (ofBlocks f.renderer blocks).diagnostics) : d.IsAbout blocks.length := by
  have h := fresh f.renderer blocks
  -- a message is of the pass itself, of the renderer on a unit, or of the document
  rcases (mem_diagnostics f.renderer _ d).mp hd with hd | ⟨s, hs, hd⟩ | hd
  · rcases List.mem_append.mp hd with hd | hd
    · obtain ⟨s, hs, hd⟩ := List.mem_flatMap.mp hd
      obtain ⟨_, _, _, hsub, hlt⟩ := h.exists_unit_ids hs
      rw [h.notices_segment hs d hd]
      exact Problem.isAbout_on (by decide)
        (List.ne_nil_of_mem (hsub List.mem_cons_self)) hlt
    · obtain ⟨⟨a, n⟩, hmem, rfl⟩ := List.mem_map.mp hd
      have hindent := ((mem_unattached f.renderer blocks).mp hmem).2.2
      obtain ⟨b, hb, _⟩ := Option.map_eq_some_iff.mp hindent
      refine Problem.isAbout_on (by show 429 < 500; decide) (List.cons_ne_nil _ _) ?_
      exact List.forall_mem_singleton.mpr (List.getElem?_eq_some_iff.mp hb).1
  · obtain ⟨kind, u, hout, hsub, hlt⟩ := h.exists_unit_ids hs
    rw [hout] at hd
    change d ∈ (f.unit kind u).2 at hd
    rw [CardFormat.unit_eq] at hd
    exact Card.isAbout_of_mem (fun id hid => hlt id (hsub hid)) hd
  · obtain rfl := CardFormat.mem_assemble hd
    exact ⟨by decide, fun hne => absurd rfl hne, fun _ hid => nomatch hid⟩

/-- the messages do not depend on how cards are written -/
theorem diagnostics_outline (source : Text) :
    (ofSource Outline.format.renderer source).diagnostics =
      (ofSource Xml.format.renderer source).diagnostics := by
  have hx := ofBlocks_map XmlCard.maps_node.renderer (Block.ofSource source)
  have ho := ofBlocks_map XmlCard.maps_toOutline.renderer (Block.ofSource source)
  unfold ofSource
  rw [hx, ho]
  rfl

end Compilation

namespace Format

section
variable (format : Format) (source : Text)

theorem blocks_render : (format.render source).blocks = Block.ofSource source := by
  cases format
  · exact Compilation.blocks_ofSource Xml.format.renderer source
  · exact Compilation.blocks_ofSource Outline.format.renderer source

theorem diagnostics_render : (format.render source).diagnostics =
    Categorized.ofList (Compilation.ofSource Xml.format.renderer source).diagnostics := by
  cases format
  · rfl
  · exact congrArg Categorized.ofList (Compilation.diagnostics_outline source)

theorem isAbout_of_mem {d : Diagnostic} (hd : d ∈ (format.render source).diagnostics.all) :
    d.IsAbout (format.render source).blocks.length := by
  rw [diagnostics_render] at hd
  rw [blocks_render]
  exact Compilation.isAbout_of_mem Xml.format _ ((Categorized.perm_all_ofList _).mem_iff.mp hd)

end

/-- **Messages point at their blocks.**  In both formats, every message about a script but the one on a
missing quest header names blocks of the script.  Its spans are those of the blocks, one for each and
in the same order.  The span of a block is a part of the source, and not an empty one: it starts where
the first line of the block starts and ends where the last one ends, line feed included, and by
itself it is one block with the same lines at the same depth.  The spans of different blocks do not
meet. -/
theorem spans_of_messages (format : Format) (source : Text) :
    let r := format.render source
    (∀ d ∈ r.diagnostics.all, d.code ≠ 425 →
      d.blocks ≠ [] ∧ (∀ id ∈ d.blocks, id < r.blocks.length) ∧
      List.Forall₂ (fun id s => ∃ b before body after, r.blocks[id]? = some b ∧
        Block.SpannedBy source b s before body after) d.blocks
          (Block.spans source r.blocks d.blocks)) ∧
    ∀ i j, i < j → ∀ s ∈ Block.spans source r.blocks [i], ∀ s' ∈ Block.spans source r.blocks [j],
      s.stop ≤ s'.start := by
  intro r
  have hblocks : r.blocks = Block.ofSource source := format.blocks_render source
  refine ⟨fun d hd hcode => ?_, fun i j hij s hs s' hs' => ?_⟩
  · have habout := format.isAbout_of_mem source hd
    refine ⟨habout.ne_nil hcode, habout.lt, ?_⟩
    have hlt := habout.lt
    change ∀ id ∈ d.blocks, id < r.blocks.length at hlt
    rw [hblocks] at hlt ⊢
    exact Block.forall₂_spans hlt
  · rw [hblocks] at hs hs'
    exact Block.stop_le_start hij hs hs'

/-- a message about two blocks, with a carriage return and a character of two bytes in them -/
theorem spans_of_trigger_extra :
    let source : Text := "# Q\n**é**\r\n  b"
    let r := xml.render source
    let d := Problem.triggerExtra.on [1, 2]
    d ∈ r.diagnostics.all ∧ d.code ≠ 425 ∧
      Block.spans source r.blocks d.blocks = [⟨4, 12⟩, ⟨12, 15⟩] ∧
      List.Forall₂ (fun id s => ∃ b before body after, r.blocks[id]? = some b ∧
        Block.SpannedBy source b s before body after) d.blocks
          (Block.spans source r.blocks d.blocks) := by
  intro source r d
  have hd : d ∈ r.diagnostics.all := by decide
  have hcode : d.code ≠ 425 := by decide
  exact ⟨hd, hcode, by decide, ((spans_of_messages xml source).1 d hd hcode).2.2⟩

end Format

end QuestScript

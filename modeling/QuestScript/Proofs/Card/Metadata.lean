import QuestScript.Proofs.Card.Header
import QuestScript.Proofs.Quest.Attributes
import QuestScript.Xml.Format

/-!
# Metadata and the quest of a document

The metadata of a script is what its first block says about the quest, and the quest of a document is
made from the first block of the least depth, if that is a quest header at depth 0.  So where the
script starts with a quest header that is not indented, both say the same.

* `Compilation.document_of_headsQuest`  the document of a script that starts with its quest;
* `Session.metadata_eq_attributes`      its metadata are the attributes of the quest element;
* `Session.metadata_of_indented_quest`  an indented quest header is metadata of no quest.
-/

namespace QuestScript

variable {V : Type}

/-- a block at depth 0 that comes first is the first block of the least depth -/
theorem Block.firstLeast?_of_head {blocks : List Block} {b : Block} (hb : blocks.head? = some b)
    (hindent : b.indent = 0) : firstLeast? blocks = some b := by
  obtain ⟨rest, rfl⟩ := List.head?_eq_some_iff.mp hb
  refine List.find?_cons_of_pos ?_
  simp [hindent]

/-- **the document of a script that starts with its quest**: the quest is made from the header -/
theorem Compilation.document_of_headsQuest (f : CardFormat V)
    (hf : ∀ header, f.isQuest (f.quest header) = true) {blocks : List Block} {b : Block}
    (hfirst : Block.firstLeast? blocks = some b) (hheads : b.headsQuest = true) :
    ∃ rest, (ofBlocks f.renderer blocks).document =
      f.document (f.quest (QuestHeader.ofBlock b).1) rest := by
  have h := fresh f.renderer blocks
  have hroots := roots_eq f.renderer blocks
  obtain ⟨id, hid, hb⟩ := Option.bind_eq_some_iff.mp (h.head?_roots.trans hfirst)
  obtain ⟨ids, hids⟩ := List.head?_eq_some_iff.mp hid
  rw [hids, List.map_cons] at hroots
  obtain ⟨v, vs, hvs, hv, _⟩ := List.map_eq_cons_iff.mp hroots
  obtain ⟨_, _, _, _, _, u, rfl, hanchor, hvalue, _⟩ := h.exists_unit_of_value hv.symm
  obtain rfl : u.anchor = b := Option.some.inj (hanchor.symm.trans hb)
  obtain ⟨hindent, hkind⟩ := Block.headsQuest_iff.mp hheads
  -- the first value is that of a quest header at depth 0
  have hquest : v = f.quest (QuestHeader.ofBlock u.anchor).1 := by
    rw [← hvalue, hkind]
    show (f.questUnit u).1 = _
    unfold CardFormat.questUnit
    rw [if_neg (by omega)]
  refine ⟨vs, ?_⟩
  show (f.assemble (ofBlocks f.renderer blocks).roots).1 = _
  rw [hvs, hquest]
  exact congrArg Prod.fst (if_pos (hf _))

namespace Session

/-- **Metadata agree with the document.**  Where the first block of a script is a quest header that is
not indented, the document is a quest element, and the metadata are its attributes, ordered by key:
no key comes twice on either side, and a key has the same value on both. -/
theorem metadata_eq_attributes (s : Session XmlNode XmlNode)
    (hs : s.renderer = Xml.format.renderer) (source : Text) {b : Block} {line : Text}
    (hb : (Block.ofSource source).head? = some b) (hline : b.firstLine? = some line)
    (hquest : Text.startsWith ['#'] line = true) (hindent : b.indent = 0) :
    let after := s.renderSource source
    ∃ document, after.last.map Compilation.document = some document ∧
      document.name? = some Xml.questName ∧
      (document.attributes.map Prod.fst).Nodup ∧
      (after.metadata.map Prod.fst).Pairwise (· < ·) ∧
      after.metadata.Perm document.attributes ∧
      ∀ key, after.metadata.lookup key = document.attribute? key := by
  intro after
  have hstarts : b.startsQuest = true := by
    unfold Block.startsQuest
    rw [hline]
    exact hquest
  have hheads : b.headsQuest = true :=
    Block.headsQuest_iff.mpr ⟨hindent, Block.kind_eq_root_iff.mpr hstarts⟩
  obtain ⟨rest, hdocument⟩ := Compilation.document_of_headsQuest Xml.format (fun _ => rfl)
    (Block.firstLeast?_of_head hb hindent) hheads
  let q := (QuestHeader.ofBlock b).1
  have hmetadata : after.metadata =
      q.pairs.foldl (fun m x => Attributes.insert x.1 x.2 m) [] := by
    have hcells : after.cells.head?.map Cell.block = some b := by
      show (Compilation.ofSource s.renderer source).cells.head?.map Cell.block = _
      rw [← List.head?_map]
      exact (congrArg List.head? (Compilation.blocks_ofSource s.renderer source)).trans hb
    show s.renderer.metadata (after.cells.head?.map Cell.block) = _
    rw [hs, hcells]
    exact if_pos hstarts
  have hnodup := q.nodup_keys_pairs
  have hperm : after.metadata.Perm q.pairs := by
    rw [hmetadata]
    exact Attributes.perm_foldl_insert q.pairs hnodup
  refine ⟨Xml.format.document (Xml.format.quest q) rest, ?_, rfl, hnodup, ?_, hperm, fun key => ?_⟩
  · show some (Compilation.ofSource s.renderer source).document = _
    rw [hs]
    exact congrArg some hdocument
  · rw [hmetadata]
    exact Attributes.pairwise_foldl_insert q.pairs List.Pairwise.nil
  · exact lookup_of_perm hperm ((hperm.map _).nodup_iff.mpr hnodup) key

/-- a key that comes twice has its last value in both, and its first spelling is no other key -/
theorem metadata_eq_attributes_of_repeated_key :
    let source : Text := "# Q\nauthor: Sam\nzeta: 1\nAuthor: Kim\n  # Deep\nText"
    let after := (start Xml.format.renderer).renderSource source
    ∃ b line, (Block.ofSource source).head? = some b ∧ b.firstLine? = some line ∧
      Text.startsWith ['#'] line = true ∧ b.indent = 0 ∧
      ∃ document, after.last.map Compilation.document = some document ∧
        ∀ key, after.metadata.lookup key = document.attribute? key := by
  intro source after
  have hb : (Block.ofSource source).head? =
      some ⟨0, ["# Q", "author: Sam", "zeta: 1", "Author: Kim"], 0⟩ := by decide
  obtain ⟨document, hlast, _, _, _, _, hlookup⟩ :=
    metadata_eq_attributes (start Xml.format.renderer) rfl source hb rfl (by decide) rfl
  exact ⟨_, _, hb, rfl, by decide, rfl, document, hlast, hlookup⟩

/-- the header is indented: it is metadata, and the document is a quest without a title -/
theorem metadata_of_indented_quest :
    let source : Text := "  # Q"
    let after := (start Xml.format.renderer).renderSource source
    (Block.ofSource source).head? = some ⟨1, ["# Q"], 0⟩ ∧
      after.metadata = ([("title", "Q")] : Attributes) ∧
      (after.last.map Compilation.document).map XmlNode.attributes =
        some ([("title", [])] : Attributes) ∧
      ¬∀ document, after.last.map Compilation.document = some document →
        ∀ key, after.metadata.lookup key = document.attribute? key := by
  intro source after
  refine ⟨by decide, by decide, by decide, fun h => ?_⟩
  have htitle := h _ rfl ("title" : Text)
  exact absurd htitle (by decide)

end Session

end QuestScript

import QuestScript.Render.Unit
import QuestScript.Proofs.Block.Lines
import QuestScript.Proofs.Text.Lines
import QuestScript.Proofs.Text.Trim

/-!
# The lists of blocks that scripts have

The blocks of a script are in normal form, and every list of blocks in normal form is that of a
script: of the one that has each line on its row and at its depth, and empty lines elsewhere.

* `Block.IsNormal`, `Block.Precedes`  what holds of a block and of two blocks in a row;
* `Block.Laid`                        the rows that hold the lines of some blocks;
* `Block.ofLines_of_laid`             the blocks are read from rows that hold them;
* `Block.rows`, `Block.script`        such rows, and the script with these rows;
* `Cell.isNormal_source`              the lists that scripts have are those in normal form.
-/

namespace QuestScript

open Character (isBlank)

/-! ## one line -/

namespace Line

/-- a line as a block holds it -/
structure IsTrimmed (line : Text) : Prop where
  ne_nil : line ≠ []
  head : ∀ c ∈ line.head?, isBlank c = false
  last : ∀ c ∈ line.getLast?, isBlank c = false
  newline : '\n' ∉ line

theorem isTrimmed_trim {line : Text} (hblank : line.all isBlank = false) (hnewline : '\n' ∉ line) :
    IsTrimmed (Text.trim line) where
  ne_nil := by
    intro h
    rw [List.all_eq_true.mpr (Text.trim_eq_nil_iff.mp h)] at hblank
    cases hblank
  head := (Text.trim_eq_self_iff.mp (Text.trim_trim line)).1
  last := (Text.trim_eq_self_iff.mp (Text.trim_trim line)).2
  newline := fun h => hnewline (Text.mem_of_mem_trim h)

namespace IsTrimmed

variable {line : Text} (h : IsTrimmed line)
include h

theorem trim_indented (n : Nat) : Text.trim (Text.blanks n ++ line) = line := by
  induction n with
  | zero => exact Text.trim_eq_self h.head h.last
  | succ n ih => exact (Text.trim_cons_of_blank rfl _).trans ih

theorem margin_indented (n : Nat) : margin (Text.blanks n ++ line) = n := by
  induction n with
  | zero =>
    obtain ⟨c, rest, rfl⟩ := List.exists_cons_of_ne_nil h.ne_nil
    show (if isBlank c then _ else 0) = 0
    rw [h.head c rfl, if_neg Bool.false_ne_true]
  | succ n ih =>
    show 1 + margin (Text.blanks n ++ line) = n + 1
    rw [ih, Nat.add_comm]

theorem indent_indented (d : Nat) : indent (Text.blanks (2 * d) ++ line) = d := by
  unfold indent
  rw [h.margin_indented]
  omega

theorem not_blank_indented (n : Nat) : (Text.blanks n ++ line).all isBlank = false := by
  rw [Bool.eq_false_iff]
  intro hall
  have := Text.trim_eq_nil_iff.mpr (List.all_eq_true.mp hall)
  rw [h.trim_indented] at this
  exact h.ne_nil this

theorem newline_not_mem_indented (n : Nat) : '\n' ∉ Text.blanks n ++ line := by
  rw [List.mem_append, not_or]
  refine ⟨fun hmem => ?_, h.newline⟩
  have := List.eq_of_mem_replicate hmem
  simp at this

theorem getLast?_indented (n : Nat) : ∀ c ∈ (Text.blanks n ++ line).getLast?, c ≠ '\r' := by
  rw [List.getLast?_append_of_ne_nil _ h.ne_nil]
  rintro c hc rfl
  exact absurd (h.last _ hc) (by decide)

end IsTrimmed

end Line

/-- lines in ascending order are told by which lines there are -/
theorem SourceLine.eq_of_mem_iff {ss ts : List SourceLine}
    (hss : ss.Pairwise fun s t => s.number < t.number)
    (hts : ts.Pairwise fun s t => s.number < t.number) (h : ∀ s, s ∈ ss ↔ s ∈ ts) : ss = ts := by
  have hnodup {ss : List SourceLine} (h : ss.Pairwise fun s t => s.number < t.number) :
      ss.Nodup := h.imp fun hlt e => Nat.ne_of_lt hlt (congrArg _ e)
  refine List.Perm.eq_of_pairwise (fun s t _ _ hst hts => absurd hst (Nat.lt_asymm hts)) hss hts ?_
  exact (List.perm_ext_iff_of_nodup (hnodup hss) (hnodup hts)).mpr h

namespace Block

/-! ## blocks and their lines -/

/-- a block by its lines -/
def ofSourceLines (ss : List SourceLine) : Block where
  indent := (ss.head?.map SourceLine.indent).getD 0
  lines := ss.map SourceLine.text
  startLine := (ss.head?.map SourceLine.number).getD 0

theorem map_text_sourceLines (b : Block) : b.sourceLines.map SourceLine.text = b.lines := by
  unfold sourceLines
  rw [List.map_map]
  exact List.zipIdx_map_fst _ _

theorem ofSourceLines_sourceLines {b : Block} (h : b.lines ≠ []) :
    ofSourceLines b.sourceLines = b := by
  unfold ofSourceLines
  obtain ⟨line, hline⟩ := Option.ne_none_iff_exists'.mp (mt List.head?_eq_none_iff.mp h)
  rw [map_text_sourceLines, head?_sourceLines, firstLine?, hline]
  rfl

theorem map_ofSourceLines {bs : List Block} (h : ∀ b ∈ bs, b.lines ≠ []) :
    (bs.map sourceLines).map ofSourceLines = bs := by
  rw [List.map_map]
  calc bs.map (ofSourceLines ∘ sourceLines) = bs.map id :=
        List.map_congr_left fun b hb => ofSourceLines_sourceLines (h b hb)
    _ = bs := List.map_id bs

/-- the first line of a block joins the last line of another one just if it comes right after it, at
its depth, and is no header line -/
theorem joins_getLast_head {b b' : Block} (h : b.sourceLines ≠ []) (h' : b'.sourceLines ≠ []) :
    SourceLine.joins (b.sourceLines.getLast h) (b'.sourceLines.head h') =
      (b'.startLine == b.startLine + b.lines.length && b'.indent == b.indent && !b'.isHeader) := by
  have hpos := List.length_pos_of_ne_nil (mt sourceLines_eq_nil.mpr h)
  obtain ⟨line, rest, hlines⟩ := List.exists_cons_of_ne_nil (mt sourceLines_eq_nil.mpr h')
  unfold SourceLine.joins isHeader firstLine?
  simp only [List.getLast_eq_getElem, List.head_eq_getElem]
  simp only [sourceLines, hlines, List.getElem_map, List.getElem_zipIdx, List.length_map,
    List.length_zipIdx, List.getElem_cons_zero, List.head?_cons, Option.any_some, Nat.add_zero]
  rw [show b.startLine + (b.lines.length - 1) + 1 = b.startLine + b.lines.length by omega]

/-! ## normal form -/

/-- the form of a block that was read -/
structure IsNormal (b : Block) : Prop where
  ne_nil : b.lines ≠ []
  lines : ∀ line ∈ b.lines, Line.IsTrimmed line
  tail : ∀ line ∈ b.lines.tail, Line.isHeader line = false

/-- the block `b'` may come after the block `b` -/
structure Precedes (b b' : Block) : Prop where
  le : b.startLine + b.lines.length ≤ b'.startLine
  apart : b.startLine + b.lines.length = b'.startLine → b.indent ≠ b'.indent ∨ b'.isHeader = true

theorem precedes_iff {b b' : Block} (h : b.sourceLines ≠ []) (h' : b'.sourceLines ≠ []) :
    b.Precedes b' ↔ b.startLine + b.lines.length ≤ b'.startLine ∧
      SourceLine.joins (b.sourceLines.getLast h) (b'.sourceLines.head h') = false := by
  rw [joins_getLast_head]
  constructor
  · rintro ⟨hle, hapart⟩
    refine ⟨hle, ?_⟩
    by_cases hstart : b'.startLine = b.startLine + b.lines.length
    · rcases hapart hstart.symm with hindent | hheader
      · simp [Ne.symm hindent]
      · simp [hheader]
    · simp [hstart]
  · rintro ⟨hle, hjoins⟩
    refine ⟨hle, fun hstart => ?_⟩
    by_cases hindent : b.indent = b'.indent
    · simpa [hstart, hindent] using hjoins
    · exact Or.inl hindent

theorem isChain_sourceLines {b : Block} (h : b.IsNormal) :
    b.sourceLines.IsChain fun s t => SourceLine.joins s t = true := by
  rw [List.isChain_iff_getElem]
  intro i hi
  have hlength : b.sourceLines.length = b.lines.length := by simp [sourceLines]
  have hmem : b.lines[i + 1] ∈ b.lines.tail := by
    rw [← List.getElem_tail (h := by rw [List.length_tail]; omega)]
    exact List.getElem_mem _
  simp [sourceLines, SourceLine.joins, h.tail _ hmem, Nat.add_assoc]

/-- the lines of blocks in normal form are cut where a block starts -/
theorem splitBy_flatMap_sourceLines {bs : List Block} (hbs : ∀ b ∈ bs, b.IsNormal)
    (hchain : bs.IsChain Precedes) :
    (bs.flatMap sourceLines).splitBy SourceLine.joins = bs.map sourceLines := by
  have hne : ∀ b ∈ bs, b.sourceLines ≠ [] := fun b hb => mt sourceLines_eq_nil.mp (hbs b hb).ne_nil
  rw [List.splitBy_eq_iff]
  refine ⟨List.flatMap_def, fun hnil => ?_, fun ss hss => ?_, ?_⟩
  · obtain ⟨b, hb, heq⟩ := List.mem_map.mp hnil
    exact hne b hb heq
  · obtain ⟨b, hb, rfl⟩ := List.mem_map.mp hss
    exact isChain_sourceLines (hbs b hb)
  · rw [List.isChain_map]
    refine hchain.imp_of_mem_imp fun b b' hb hb' h => ?_
    exact ⟨hne b hb, hne b' hb', ((precedes_iff _ _).mp h).2⟩

/-! ## what is read is in normal form -/

section
variable {ls : List Text}

theorem isNormal_of_mem_ofLines (hls : ∀ line ∈ ls, '\n' ∉ line) {b : Block}
    (hb : b ∈ ofLines 0 ls) : b.IsNormal where
  ne_nil := lines_ne_nil ls hb
  lines := by
    intro text htext
    obtain ⟨k, hk⟩ := List.mem_iff_getElem?.mp htext
    obtain ⟨line, hline, hblank, _, rfl⟩ := line_of_getElem? hb hk
    exact Line.isTrimmed_trim hblank (hls line (List.mem_of_getElem? hline))
  tail := by
    intro text htext
    obtain ⟨k, hk⟩ := List.mem_iff_getElem?.mp htext
    rw [List.getElem?_tail] at hk
    rw [Bool.eq_false_iff]
    intro hheader
    exact Nat.succ_ne_zero k (eq_zero_of_isHeader hb hk hheader)

theorem isChain_ofLines : (ofLines 0 ls).IsChain Precedes := by
  have hcut : ((ofLines 0 ls).map sourceLines).IsChain fun ss ss' =>
      ∃ h h', SourceLine.joins (ss.getLast h) (ss'.head h') = false := by
    rw [sourceLines_ofLines]
    exact List.isChain_getLast_head_splitBy _ _
  have hle := (pairwise_ofLines ls).isChain
  rw [List.isChain_map] at hcut
  rw [List.isChain_iff_getElem] at hcut hle ⊢
  intro i hi
  obtain ⟨h, h', hjoins⟩ := hcut i hi
  exact (precedes_iff h h').mpr ⟨hle i hi, hjoins⟩

end

/-! ## rows that hold blocks -/

/-- the rows have the lines of the blocks, each at its depth, and are empty elsewhere -/
structure Laid (bs : List Block) (rows : List Text) : Prop where
  line : ∀ b ∈ bs, ∀ (j : Nat) (text : Text), b.lines[j]? = some text →
    rows[b.startLine + j]? = some (Text.blanks (2 * b.indent) ++ text)
  empty : ∀ (n : Nat) (row : Text), rows[n]? = some row →
    (∀ b ∈ bs, b.hasLine n = false) → row = []

theorem mem_ofLines_of_laid {bs : List Block} {rows : List Text} (h : Laid bs rows)
    (hbs : ∀ b ∈ bs, b.IsNormal) {s : SourceLine} :
    s ∈ SourceLine.ofLines 0 rows ↔ s ∈ bs.flatMap sourceLines := by
  rw [List.mem_flatMap]
  -- the row of a line of a block
  have hrow : ∀ b ∈ bs, ∀ (k : Nat) (text : Text), b.lines[k]? = some text →
      ⟨b.startLine + k, b.indent, text⟩ ∈ SourceLine.ofLines 0 rows := by
    intro b hb k text hk
    have htext := (hbs b hb).lines text (List.mem_of_getElem? hk)
    have := SourceLine.mk_mem_ofLines (h.line b hb k text hk) (htext.not_blank_indented _)
    rwa [htext.indent_indented, htext.trim_indented] at this
  constructor
  · intro hs
    obtain ⟨row, hget, hblank, _⟩ := SourceLine.mem_ofLines.mp hs
    -- a row that is not blank is a line of a block
    obtain ⟨b, hb, hn⟩ : ∃ b ∈ bs, b.hasLine s.number = true := by
      by_contra hnone
      rw [h.empty _ _ hget fun b hb => Bool.eq_false_iff.mpr fun hn => hnone ⟨b, hb, hn⟩] at hblank
      cases hblank
    obtain ⟨t, ht, hnumber⟩ := hasLine_iff.mp hn
    obtain ⟨k, text, hk, rfl⟩ := mem_sourceLines.mp ht
    refine ⟨b, hb, ?_⟩
    rwa [SourceLine.eq_of_number hs (hrow b hb k text hk) hnumber.symm]
  · rintro ⟨b, hb, hs⟩
    obtain ⟨k, text, hk, rfl⟩ := mem_sourceLines.mp hs
    exact hrow b hb k text hk

theorem pairwise_of_isChain {bs : List Block} (h : bs.IsChain Precedes) :
    bs.Pairwise fun b b' => b.startLine + b.lines.length ≤ b'.startLine := by
  let after (b b' : Block) : Prop := b.startLine + b.lines.length ≤ b'.startLine
  have : Trans after after after := ⟨fun h h' => (Nat.le_add_right_of_le h).trans h'⟩
  exact List.IsChain.pairwise (R := after) (h.imp fun _ _ h => h.le)

theorem pairwise_flatMap_sourceLines {bs : List Block} (h : bs.IsChain Precedes) :
    (bs.flatMap sourceLines).Pairwise fun s t => s.number < t.number := by
  rw [List.pairwise_flatMap]
  constructor
  · intro b _
    unfold sourceLines
    rw [List.pairwise_map, ← List.pairwise_map (f := Prod.snd) (R := (· < ·)), List.zipIdx_map_snd]
    exact List.pairwise_lt_range'
  · refine (pairwise_of_isChain h).imp fun {b b'} hle s hs t ht => ?_
    obtain ⟨k, text, hk, rfl⟩ := mem_sourceLines.mp hs
    obtain ⟨k', text', hk', rfl⟩ := mem_sourceLines.mp ht
    have := (List.getElem?_eq_some_iff.mp hk).1
    show b.startLine + k < b'.startLine + k'
    omega

/-- **blocks in normal form** are read from rows that hold them -/
theorem ofLines_of_laid {bs : List Block} {rows : List Text} (h : Laid bs rows)
    (hbs : ∀ b ∈ bs, b.IsNormal) (hchain : bs.IsChain Precedes) : ofLines 0 rows = bs := by
  have hlines : SourceLine.ofLines 0 rows = bs.flatMap sourceLines :=
    SourceLine.eq_of_mem_iff (SourceLine.pairwise_ofLines rows)
      (pairwise_flatMap_sourceLines hchain) fun _ => mem_ofLines_of_laid h hbs
  calc ofLines 0 rows = ((ofLines 0 rows).map sourceLines).map ofSourceLines :=
        (map_ofSourceLines fun b hb => lines_ne_nil rows hb).symm
    _ = (bs.map sourceLines).map ofSourceLines := by
        rw [sourceLines_ofLines, hlines, splitBy_flatMap_sourceLines hbs hchain]
    _ = bs := map_ofSourceLines fun b hb => (hbs b hb).ne_nil

/-! ## writing blocks -/

/-- the rows from `n` on that hold some blocks -/
def rows (n : Nat) : List Block → List Text
  | [] => []
  | b :: bs => List.replicate (b.startLine - n) [] ++
      (b.lines.map (Text.blanks (2 * b.indent) ++ ·) ++ rows (b.startLine + b.lines.length) bs)

theorem mem_rows {n : Nat} {bs : List Block} {row : Text} (h : row ∈ rows n bs) :
    row = [] ∨ ∃ b ∈ bs, ∃ line ∈ b.lines, row = Text.blanks (2 * b.indent) ++ line := by
  induction bs generalizing n with
  | nil => cases h
  | cons b bs ih =>
    rw [rows, List.mem_append, List.mem_append] at h
    rcases h with h | h | h
    · exact Or.inl (List.eq_of_mem_replicate h)
    · obtain ⟨line, hline, rfl⟩ := List.mem_map.mp h
      exact Or.inr ⟨b, List.mem_cons_self, line, hline, rfl⟩
    · refine (ih h).imp_right ?_
      rintro ⟨b', hb', hrow⟩
      exact ⟨b', List.mem_cons_of_mem _ hb', hrow⟩

section
variable {bs : List Block}
  (hpairwise : bs.Pairwise fun b b' => b.startLine + b.lines.length ≤ b'.startLine)
include hpairwise

theorem getElem?_rows {n : Nat} (hn : ∀ b ∈ bs, n ≤ b.startLine) {b : Block} (hb : b ∈ bs) {j : Nat}
    {text : Text} (hj : b.lines[j]? = some text) :
    (rows n bs)[b.startLine + j - n]? = some (Text.blanks (2 * b.indent) ++ text) := by
  induction bs generalizing n with
  | nil => cases hb
  | cons b₀ bs ih =>
    obtain ⟨hb₀, hbs⟩ := List.pairwise_cons.mp hpairwise
    have hstart := hn b₀ List.mem_cons_self
    have hlt := (List.getElem?_eq_some_iff.mp hj).1
    rw [rows]
    rcases List.mem_cons.mp hb with rfl | hb
    · rw [List.getElem?_append_right (by simp; omega), List.length_replicate,
        List.getElem?_append_left (by simp; omega), List.getElem?_map,
        show b.startLine + j - n - (b.startLine - n) = j by omega, hj, Option.map_some]
    · have hafter := hb₀ b hb
      rw [List.getElem?_append_right (by simp; omega), List.length_replicate,
        List.getElem?_append_right (by simp; omega), List.length_map, ← ih hbs hb₀ hb]
      congr 1
      omega

theorem eq_nil_of_getElem?_rows {n : Nat} (hn : ∀ b ∈ bs, n ≤ b.startLine) {i : Nat} {row : Text}
    (hrow : (rows n bs)[i]? = some row) (hnone : ∀ b ∈ bs, b.hasLine (n + i) = false) :
    row = [] := by
  induction bs generalizing n i with
  | nil => cases hrow
  | cons b bs ih =>
    obtain ⟨hb, hbs⟩ := List.pairwise_cons.mp hpairwise
    obtain ⟨hnoneb, hnone⟩ := List.forall_mem_cons.mp hnone
    have hstart := hn b List.mem_cons_self
    simp only [hasLine, Bool.and_eq_false_iff, decide_eq_false_iff_not] at hnoneb
    rw [rows] at hrow
    by_cases hbefore : i < b.startLine - n
    · rw [List.getElem?_append_left (by simpa using hbefore)] at hrow
      exact List.eq_of_mem_replicate (List.mem_of_getElem? hrow)
    · rw [List.getElem?_append_right (by simpa using hbefore), List.length_replicate,
        List.getElem?_append_right (by simp; omega), List.length_map] at hrow
      refine ih hbs hb hrow fun b' hb' => ?_
      rw [show b.startLine + b.lines.length + (i - (b.startLine - n) - b.lines.length) = n + i by
        omega]
      exact hnone b' hb'

theorem laid_rows : Laid bs (rows 0 bs) where
  line := fun _ hb _ _ hj => getElem?_rows hpairwise (fun _ _ => Nat.zero_le _) hb hj
  empty := fun n _ hrow hnone =>
    eq_nil_of_getElem?_rows hpairwise (fun _ _ => Nat.zero_le _) hrow (by simpa using hnone)

end

/-- the script with each line of some blocks on its row -/
def script (bs : List Block) : Text := Text.unlines (rows 0 bs)

theorem lines_script {bs : List Block} (hbs : ∀ b ∈ bs, b.IsNormal) :
    Text.lines (script bs) = rows 0 bs := by
  have hrow : ∀ row ∈ rows 0 bs, '\n' ∉ row ∧ ∀ c ∈ row.getLast?, c ≠ '\r' := by
    intro row hrow
    rcases mem_rows hrow with rfl | ⟨b, hb, line, hline, rfl⟩
    · exact ⟨List.not_mem_nil, fun c hc => nomatch hc⟩
    · have hline := (hbs b hb).lines line hline
      exact ⟨hline.newline_not_mem_indented _, hline.getLast?_indented _⟩
  exact Text.lines_unlines (fun row h => (hrow row h).1) fun row h => (hrow row h).2

end Block

namespace Cell

variable {V : Type}

/-- the form of the cells of a script -/
structure IsNormal (cells : List (Cell V)) : Prop where
  unset : ∀ c ∈ cells, c.state = .unset
  block : ∀ c ∈ cells, c.block.IsNormal
  chain : (cells.map Cell.block).IsChain Block.Precedes

theorem map_block_fresh (bs : List Block) : (bs.map (fresh (V := V))).map block = bs := by
  rw [List.map_map]
  exact List.map_id bs

theorem IsNormal.map_fresh {cells : List (Cell V)} (h : IsNormal cells) :
    (cells.map Cell.block).map fresh = cells := by
  rw [List.map_map]
  calc cells.map (fresh ∘ Cell.block) = cells.map id :=
        List.map_congr_left fun c hc => congrArg (Cell.mk c.block) (h.unset c hc).symm
    _ = cells := List.map_id cells

theorem isNormal_ofSource (source : Text) :
    IsNormal ((Block.ofSource source).map (fresh (V := V))) where
  unset := by
    intro c hc
    obtain ⟨b, _, rfl⟩ := List.mem_map.mp hc
    rfl
  block := by
    intro c hc
    obtain ⟨b, hb, rfl⟩ := List.mem_map.mp hc
    exact Block.isNormal_of_mem_ofLines (fun line => Text.newline_not_mem_lines) hb
  chain := by
    rw [map_block_fresh]
    exact Block.isChain_ofLines

/-- **The lists of blocks that scripts have.**  The blocks of a script are in normal form, and none
of them has a state.  A list of blocks in normal form, none of which has a state, is that of every
script that has each line on its row, at its depth, and empty lines elsewhere; and there is such a
script. -/
theorem isNormal_source :
    (∀ source, IsNormal ((Block.ofSource source).map (fresh (V := V)))) ∧
    ∀ cells : List (Cell V), IsNormal cells →
      let bs := cells.map block
      Block.Laid bs (Text.lines (Block.script bs)) ∧
      (Block.ofSource (Block.script bs)).map fresh = cells ∧
      ∀ source, Block.Laid bs (Text.lines source) → (Block.ofSource source).map fresh = cells := by
  refine ⟨isNormal_ofSource, fun cells h => ?_⟩
  intro bs
  have hbs : ∀ b ∈ bs, b.IsNormal := by
    intro b hb
    obtain ⟨c, hc, rfl⟩ := List.mem_map.mp hb
    exact h.block c hc
  have hlaid : Block.Laid bs (Text.lines (Block.script bs)) := by
    rw [Block.lines_script hbs]
    exact Block.laid_rows (Block.pairwise_of_isChain h.chain)
  have hread : ∀ source, Block.Laid bs (Text.lines source) →
      (Block.ofSource source).map fresh = cells := by
    intro source hsource
    unfold Block.ofSource
    rw [Block.ofLines_of_laid hsource hbs h.chain, h.map_fresh]
  exact ⟨hlaid, hread _ hlaid, hread⟩

example : Block.script [⟨1, ["**end**", "a\r b"], 1⟩, ⟨0, ["c"], 3⟩, ⟨0, ["# d"], 4⟩] =
    "\n  **end**\n  a\r b\nc\n# d\n" := by decide

end Cell

end QuestScript

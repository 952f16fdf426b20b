import QuestScript.Block.Source
import QuestScript.Proofs.Pieces

/-!
# The lines of a script and its blocks

Line by line, a script is a list of lines that are not blank, each with its number and its depth.
The blocks of the script are that list, cut where a line does not join the one before it:

* `SourceLine.ofLines`         the lines that are not blank;
* `SourceLine.joins`           when a line joins the block of the line before it;
* `Block.sourceLines`          the lines of a block;
* `Block.sourceLines_ofLines`  the blocks of a script are its lines, cut where two do not join;
* `Block.ofSource_lines`       what that says about single lines.
-/

namespace QuestScript

open Character (isBlank)

/-- the columns of a margin: one for each character, and one more for each tab -/
theorem Line.margin_eq (line : Text) : margin line =
    (line.takeWhile isBlank).length + (line.takeWhile isBlank).count '\t' := by
  induction line with
  | nil => rfl
  | cons c line ih =>
    rw [margin, List.takeWhile_cons]
    split
    · rw [ih, List.length_cons, List.count_cons, column]
      split <;> omega
    · rfl

/-! ## lines -/

/-- a line that is not blank, with its number -/
structure SourceLine where
  number : Nat
  indent : Nat
  /-- the line without the white space on either side -/
  text : Text

namespace SourceLine

/-- of two lines, the second joins the block of the first -/
def joins (s t : SourceLine) : Bool :=
  t.number == s.number + 1 && t.indent == s.indent && !Line.isHeader t.text

def ofLine? : Text × Nat → Option SourceLine
  | (line, n) => if line.all isBlank then none else some ⟨n, Line.indent line, Text.trim line⟩

/-- the lines that are not blank, numbered from `n` on -/
def ofLines (n : Nat) (ls : List Text) : List SourceLine := (ls.zipIdx n).filterMap ofLine?

theorem ofLines_cons_of_blank {line : Text} (h : line.all isBlank = true) (n : Nat)
    (rest : List Text) : ofLines n (line :: rest) = ofLines (n + 1) rest := by
  unfold ofLines
  rw [List.zipIdx_cons, List.filterMap_cons_none]
  exact if_pos h

theorem ofLines_cons {line : Text} (h : ¬line.all isBlank = true) (n : Nat) (rest : List Text) :
    ofLines n (line :: rest) = ⟨n, Line.indent line, Text.trim line⟩ :: ofLines (n + 1) rest := by
  unfold ofLines
  rw [List.zipIdx_cons, List.filterMap_cons_some]
  exact if_neg h

theorem ofLine?_eq_some {x : Text × Nat} {s : SourceLine} : ofLine? x = some s ↔
    x.1.all isBlank = false ∧ s = ⟨x.2, Line.indent x.1, Text.trim x.1⟩ := by
  obtain ⟨line, n⟩ := x
  unfold ofLine?
  dsimp only
  cases line.all isBlank <;> simp [eq_comm]

theorem mem_ofLines {ls : List Text} {s : SourceLine} : s ∈ ofLines 0 ls ↔
    ∃ line, ls[s.number]? = some line ∧ line.all isBlank = false ∧
      s = ⟨s.number, Line.indent line, Text.trim line⟩ := by
  unfold ofLines
  rw [List.mem_filterMap]
  constructor
  · rintro ⟨x, hx, hs⟩
    obtain ⟨hblank, rfl⟩ := ofLine?_eq_some.mp hs
    exact ⟨x.1, getElem?_of_mem_zipIdx hx, hblank, rfl⟩
  · rintro ⟨line, hline, hblank, hs⟩
    exact ⟨(line, s.number), List.mk_mem_zipIdx_iff_getElem?.mpr hline,
      ofLine?_eq_some.mpr ⟨hblank, hs⟩⟩

theorem pairwise_ofLines (ls : List Text) :
    (ofLines 0 ls).Pairwise fun s t => s.number < t.number := by
  refine (pairwise_zipIdx ls).filterMap _ ?_
  intro x y hlt s hs t ht
  obtain ⟨_, rfl⟩ := ofLine?_eq_some.mp hs
  obtain ⟨_, rfl⟩ := ofLine?_eq_some.mp ht
  exact hlt

theorem eq_of_number {ls : List Text} {s t : SourceLine} (hs : s ∈ ofLines 0 ls)
    (ht : t ∈ ofLines 0 ls) (h : s.number = t.number) : s = t := by
  obtain ⟨line, hline, _, hs⟩ := mem_ofLines.mp hs
  obtain ⟨line', hline', _, ht⟩ := mem_ofLines.mp ht
  rw [h, hline', Option.some.injEq] at hline
  rw [hs, ht, h, hline]

/-- a line that is not blank is in the list -/
theorem mk_mem_ofLines {ls : List Text} {n : Nat} {line : Text} (h : ls[n]? = some line)
    (hblank : line.all isBlank = false) :
    ⟨n, Line.indent line, Text.trim line⟩ ∈ ofLines 0 ls := mem_ofLines.mpr ⟨line, h, hblank, rfl⟩

end SourceLine

/-! ## the lines of a block -/

namespace Block

def sourceLines (b : Block) : List SourceLine :=
  (b.lines.zipIdx b.startLine).map fun x => ⟨x.2, b.indent, x.1⟩

theorem sourceLines_eq_nil {b : Block} : b.sourceLines = [] ↔ b.lines = [] := by
  unfold sourceLines
  rw [List.map_eq_nil_iff, List.zipIdx_eq_nil_iff]

theorem lines_ne_nil_of_mem_splitBy {ss : List SourceLine} {b : Block}
    (h : b.sourceLines ∈ ss.splitBy SourceLine.joins) : b.lines ≠ [] := fun e =>
  List.ne_nil_of_mem_splitBy h (sourceLines_eq_nil.mpr e)

theorem sourceLines_ofLine (n : Nat) (line : Text) :
    (ofLine n line).sourceLines = [⟨n, Line.indent line, Text.trim line⟩] := rfl

theorem head?_sourceLines (b : Block) :
    b.sourceLines.head? = b.firstLine?.map fun text => ⟨b.startLine, b.indent, text⟩ := by
  unfold sourceLines firstLine?
  cases b.lines <;> rfl

/-- a block goes on from the line above it just if its first line joins that line -/
theorem continues_eq_joins {b : Block} {text : Text} (h : b.firstLine? = some text) (n : Nat)
    (line : Text) : b.continues n (Line.indent line) =
      SourceLine.joins ⟨n, Line.indent line, Text.trim line⟩ ⟨b.startLine, b.indent, text⟩ := by
  unfold continues SourceLine.joins isHeader
  rw [h, Option.any_some]

/-- a block that goes on from the line above it has that line first -/
theorem sourceLines_cons {b : Block} {n : Nat} {line : Text}
    (h : b.continues n (Line.indent line) = true) :
    (⟨b.indent, Text.trim line :: b.lines, n⟩ : Block).sourceLines =
      ⟨n, Line.indent line, Text.trim line⟩ :: b.sourceLines := by
  unfold continues at h
  rw [Bool.and_eq_true, Bool.and_eq_true, beq_iff_eq, beq_iff_eq] at h
  obtain ⟨⟨hstart, hindent⟩, _⟩ := h
  unfold sourceLines
  rw [List.zipIdx_cons, List.map_cons, hstart, hindent]

/-- **the blocks of a script** are its lines, cut where two neighbours do not join -/
theorem sourceLines_ofLines (n : Nat) (ls : List Text) :
    (ofLines n ls).map sourceLines = (SourceLine.ofLines n ls).splitBy SourceLine.joins := by
  induction ls generalizing n with
  | nil => rfl
  | cons line rest ih =>
    have ih := ih (n + 1)
    by_cases hblank : line.all isBlank = true
    · rw [SourceLine.ofLines_cons_of_blank hblank, ← ih, ofLines, if_pos hblank]
    · rw [SourceLine.ofLines_cons hblank, ofLines, if_neg hblank]
      cases hbs : ofLines (n + 1) rest with
      | nil =>
        rw [hbs, List.map_nil, eq_comm, List.splitBy_eq_nil] at ih
        rw [ih]
        rfl
      | cons b bs =>
        -- the first line of the block below is the line that comes next
        rw [hbs, List.map_cons] at ih
        have hmem : b.sourceLines ∈ (SourceLine.ofLines (n + 1) rest).splitBy SourceLine.joins :=
          ih ▸ List.mem_cons_self
        obtain ⟨text, hfirst⟩ : ∃ text, b.firstLine? = some text :=
          ⟨_, List.head?_eq_some_head (lines_ne_nil_of_mem_splitBy hmem)⟩
        have hhead : (SourceLine.ofLines (n + 1) rest).head? =
            some ⟨b.startLine, b.indent, text⟩ := by
          rw [← head?_of_splitBy ih.symm, head?_sourceLines, hfirst, Option.map_some]
        dsimp only
        split
        · next hc =>
          rw [List.map_cons, sourceLines_cons hc, splitBy_cons_of_rel ih.symm]
          intro x hx
          obtain rfl := Option.some.inj (hhead.symm.trans hx)
          rw [← continues_eq_joins hfirst]
          exact hc
        · next hc =>
          rw [List.map_cons, List.map_cons, sourceLines_ofLine, splitBy_cons_of_not_rel, ← ih]
          intro x hx
          obtain rfl := Option.some.inj (hhead.symm.trans hx)
          rw [← continues_eq_joins hfirst]
          exact Bool.eq_false_iff.mpr hc

theorem mem_sourceLines {b : Block} {s : SourceLine} : s ∈ b.sourceLines ↔
    ∃ k text, b.lines[k]? = some text ∧ s = ⟨b.startLine + k, b.indent, text⟩ := by
  unfold sourceLines
  rw [List.mem_map]
  constructor
  · rintro ⟨⟨text, n⟩, hx, rfl⟩
    obtain ⟨hle, htext⟩ := List.mk_mem_zipIdx_iff_le_and_getElem?_sub.mp hx
    exact ⟨n - b.startLine, text, htext, by rw [Nat.add_sub_cancel' hle]⟩
  · rintro ⟨k, text, htext, rfl⟩
    refine ⟨(text, b.startLine + k), List.mk_mem_zipIdx_iff_le_and_getElem?_sub.mpr ⟨?_, ?_⟩, rfl⟩
    · exact Nat.le_add_right _ _
    · rwa [Nat.add_sub_cancel_left]

theorem hasLine_iff {b : Block} {n : Nat} :
    b.hasLine n = true ↔ ∃ s ∈ b.sourceLines, s.number = n := by
  unfold hasLine
  rw [Bool.and_eq_true, decide_eq_true_iff, decide_eq_true_iff]
  constructor
  · rintro ⟨hle, hlt⟩
    have hk : n - b.startLine < b.lines.length := by omega
    refine ⟨_, mem_sourceLines.mpr ⟨_, _, List.getElem?_eq_getElem hk, rfl⟩, ?_⟩
    show b.startLine + (n - b.startLine) = n
    omega
  · rintro ⟨s, hs, rfl⟩
    obtain ⟨k, text, hk, rfl⟩ := mem_sourceLines.mp hs
    have := (List.getElem?_eq_some_iff.mp hk).1
    show b.startLine ≤ b.startLine + k ∧ b.startLine + k < b.startLine + b.lines.length
    omega

/-! ## the blocks of a script -/

section
variable (ls : List Text)

theorem flatMap_sourceLines :
    (ofLines 0 ls).flatMap sourceLines = SourceLine.ofLines 0 ls := by
  rw [List.flatMap_def, sourceLines_ofLines, List.flatten_splitBy]

theorem lines_ne_nil {b : Block} (hb : b ∈ ofLines 0 ls) : b.lines ≠ [] := by
  have hmem : b.sourceLines ∈ (SourceLine.ofLines 0 ls).splitBy SourceLine.joins := by
    rw [← sourceLines_ofLines]
    exact List.mem_map_of_mem hb
  exact lines_ne_nil_of_mem_splitBy hmem

/-- blocks lie one after the other -/
theorem pairwise_ofLines :
    (ofLines 0 ls).Pairwise fun b b' => b.startLine + b.lines.length ≤ b'.startLine := by
  have h := SourceLine.pairwise_ofLines ls
  rw [← flatMap_sourceLines, List.pairwise_flatMap] at h
  refine h.2.imp_of_mem fun {b b'} hb hb' hlt => ?_
  -- the last line of `b` comes before the first line of `b'`
  have hpos := List.length_pos_of_ne_nil (lines_ne_nil ls hb)
  have hpos' := List.length_pos_of_ne_nil (lines_ne_nil ls hb')
  have hlast : b.lines.length - 1 < b.lines.length := by omega
  have : b.startLine + (b.lines.length - 1) < b'.startLine + 0 :=
    hlt _ (mem_sourceLines.mpr ⟨_, _, List.getElem?_eq_getElem hlast, rfl⟩)
      _ (mem_sourceLines.mpr ⟨0, _, List.getElem?_eq_getElem hpos', rfl⟩)
  omega

variable {ls}

theorem exists_mem_sourceLines {s : SourceLine} :
    (∃ b ∈ ofLines 0 ls, s ∈ b.sourceLines) ↔ s ∈ SourceLine.ofLines 0 ls := by
  rw [← flatMap_sourceLines, List.mem_flatMap]

/-- the line of a number, in the block that has it -/
theorem mem_sourceLines_iff {b : Block} (hb : b ∈ ofLines 0 ls) {s : SourceLine}
    (hs : s ∈ SourceLine.ofLines 0 ls) : s ∈ b.sourceLines ↔ b.hasLine s.number = true := by
  rw [hasLine_iff]
  constructor
  · exact fun h => ⟨s, h, rfl⟩
  · rintro ⟨t, ht, hn⟩
    rwa [SourceLine.eq_of_number hs (exists_mem_sourceLines.mp ⟨b, hb, ht⟩) hn.symm]

/-- two lines that follow each other are in one block just if the second joins the first -/
theorem exists_hasLine_iff {s t : SourceLine} (hs : s ∈ SourceLine.ofLines 0 ls)
    (ht : t ∈ SourceLine.ofLines 0 ls) (hst : t.number = s.number + 1) :
    (∃ b ∈ ofLines 0 ls, b.hasLine s.number = true ∧ b.hasLine t.number = true) ↔
      t.indent = s.indent ∧ Line.isHeader t.text = false := by
  have hnodup : (SourceLine.ofLines 0 ls).Nodup :=
    (SourceLine.pairwise_ofLines ls).imp fun hlt e => Nat.ne_of_lt hlt (congrArg _ e)
  have hsplit := exists_mem_splitBy_iff (r := SourceLine.joins) hnodup
    (infix_of_succ (SourceLine.pairwise_ofLines ls) hs ht hst)
  have hjoins : SourceLine.joins s t = true ↔
      t.indent = s.indent ∧ Line.isHeader t.text = false := by
    unfold SourceLine.joins
    simp [hst]
  rw [← hjoins, ← hsplit, ← sourceLines_ofLines]
  constructor
  · rintro ⟨b, hb, h1, h2⟩
    exact ⟨_, List.mem_map_of_mem hb, (mem_sourceLines_iff hb hs).mpr h1,
      (mem_sourceLines_iff hb ht).mpr h2⟩
  · rintro ⟨_, hg, h1, h2⟩
    obtain ⟨b, hb, rfl⟩ := List.mem_map.mp hg
    exact ⟨b, hb, (mem_sourceLines_iff hb hs).mp h1, (mem_sourceLines_iff hb ht).mp h2⟩

section
variable {b : Block} (hb : b ∈ ofLines 0 ls) {k : Nat} {text : Text}
include hb

/-- the line of a script that stands in a block -/
theorem line_of_getElem? (hk : b.lines[k]? = some text) : ∃ line, ls[b.startLine + k]? = some line ∧
    line.all isBlank = false ∧ b.indent = Line.indent line ∧ text = Text.trim line := by
  have hs := mem_sourceLines.mpr ⟨k, text, hk, rfl⟩
  obtain ⟨line, hline, hblank, heq⟩ :=
    SourceLine.mem_ofLines.mp (exists_mem_sourceLines.mp ⟨b, hb, hs⟩)
  exact ⟨line, hline, hblank, (SourceLine.mk.inj heq).2⟩

/-- a line that a block has, as the block holds it -/
theorem getElem?_of_hasLine {n : Nat} (hn : b.hasLine n = true) : ∃ k line, n = b.startLine + k ∧
    ls[n]? = some line ∧ line.all isBlank = false ∧ b.lines[k]? = some (Text.trim line) := by
  obtain ⟨s, hs, rfl⟩ := hasLine_iff.mp hn
  obtain ⟨k, text, hk, rfl⟩ := mem_sourceLines.mp hs
  obtain ⟨line, hline, hblank, _, rfl⟩ := line_of_getElem? hb hk
  exact ⟨k, line, rfl, hline, hblank, hk⟩

/-- no line of a block but the first is a header line -/
theorem eq_zero_of_isHeader (hk : b.lines[k]? = some text) (hh : Line.isHeader text = true) :
    k = 0 := by
  cases k with
  | zero => rfl
  | succ k =>
    have hlt := (List.getElem?_eq_some_iff.mp hk).1
    have hprev := List.getElem?_eq_getElem (Nat.lt_of_succ_lt hlt)
    -- the line before it is in the same block, so this one joins that block
    have hmem : ∀ j text, b.lines[j]? = some text →
        (⟨b.startLine + j, b.indent, text⟩ : SourceLine) ∈ b.sourceLines :=
      fun j text hj => mem_sourceLines.mpr ⟨j, text, hj, rfl⟩
    have hin := fun j text hj => exists_mem_sourceLines.mp ⟨b, hb, hmem j text hj⟩
    have hsame := (exists_hasLine_iff (hin k _ hprev) (hin (k + 1) text hk) rfl).mp
      ⟨b, hb, hasLine_iff.mpr ⟨_, hmem k _ hprev, rfl⟩, hasLine_iff.mpr ⟨_, hmem _ _ hk, rfl⟩⟩
    rw [hh] at hsame
    cases hsame.2

end

/-- a line that is not blank is in a block -/
theorem exists_hasLine {n : Nat} {line : Text} (h : ls[n]? = some line)
    (hblank : line.all isBlank = false) : ∃ b ∈ ofLines 0 ls, b.hasLine n = true := by
  obtain ⟨b, hb, hs⟩ := exists_mem_sourceLines.mpr (SourceLine.mk_mem_ofLines h hblank)
  exact ⟨b, hb, hasLine_iff.mpr ⟨_, hs, rfl⟩⟩

end

/-- where blocks lie one after the other, a line is found in the block that has it -/
theorem atLine?_eq_some {bs : List Block}
    (h : bs.Pairwise fun b b' => b.startLine + b.lines.length ≤ b'.startLine) {n id : Nat} :
    atLine? bs n = some id ↔ ∃ b, bs[id]? = some b ∧ b.hasLine n = true := by
  unfold atLine?
  rw [List.findIdx?_eq_some_iff_getElem]
  constructor
  · rintro ⟨hlt, hn, _⟩
    exact ⟨_, List.getElem?_eq_getElem hlt, hn⟩
  · rintro ⟨b, hb, hn⟩
    obtain ⟨hlt, rfl⟩ := List.getElem?_eq_some_iff.mp hb
    refine ⟨hlt, hn, fun j hj => ?_⟩
    have hbefore := List.pairwise_iff_getElem.mp h j id (by omega) hlt hj
    unfold hasLine at hn ⊢
    simp only [Bool.and_eq_true, decide_eq_true_iff] at hn ⊢
    omega

/-- **The blocks of a script** lie one after the other, and a line is in one of them just if it is not
blank.  A block holds its lines without the white space on either side, and all of them have its
depth.  Of two lines that follow each other, the second is in the block of the first just if it has
the same depth and is no header line; so no line of a block but the first is one. -/
theorem ofSource_lines (source : Text) :
    let ls := Text.lines source
    let bs := ofSource source
    let depth := fun line : Text =>
      ((line.takeWhile isBlank).length + (line.takeWhile isBlank).count '\t') / 2
    (bs.Pairwise (fun b b' => b.startLine + b.lines.length ≤ b'.startLine) ∧
      ∀ b ∈ bs, b.lines ≠ []) ∧
    (∀ n, (∃ b ∈ bs, b.hasLine n = true) ↔
      ∃ line, ls[n]? = some line ∧ line.all isBlank = false) ∧
    (∀ b ∈ bs, ∀ k text, b.lines[k]? = some text → ∃ line, ls[b.startLine + k]? = some line ∧
      text = Text.trim line ∧ b.indent = depth line) ∧
    (∀ n line line', ls[n]? = some line → ls[n + 1]? = some line' →
      line.all isBlank = false → line'.all isBlank = false →
        ((∃ b ∈ bs, b.hasLine n = true ∧ b.hasLine (n + 1) = true) ↔
          depth line' = depth line ∧ Line.isHeader (Text.trim line') = false)) ∧
    (∀ b ∈ bs, ∀ k text, b.lines[k + 1]? = some text → Line.isHeader text = false) ∧
    ∀ n id, atLine? bs n = some id ↔ ∃ b, bs[id]? = some b ∧ b.hasLine n = true := by
  intro ls bs depth
  have hdepth : ∀ line, Line.indent line = depth line := fun line => by
    show Line.margin line / 2 = _
    rw [Line.margin_eq]
  have hpairwise := pairwise_ofLines ls
  -- a line of a block is a line of the script
  have hmem : ∀ b ∈ bs, ∀ k text, b.lines[k]? = some text →
      (⟨b.startLine + k, b.indent, text⟩ : SourceLine) ∈ SourceLine.ofLines 0 ls :=
    fun b hb k text hk => exists_mem_sourceLines.mp ⟨b, hb, mem_sourceLines.mpr ⟨k, text, hk, rfl⟩⟩
  refine ⟨⟨hpairwise, fun b hb => lines_ne_nil ls hb⟩, fun n => ?_, fun b hb k text hk => ?_,
    fun n line line' hline hline' hblank hblank' => ?_, fun b hb k text hk => ?_,
    fun n id => atLine?_eq_some hpairwise⟩
  · constructor
    · rintro ⟨b, hb, hn⟩
      obtain ⟨s, hs, rfl⟩ := hasLine_iff.mp hn
      obtain ⟨line, hline, hblank, _⟩ :=
        SourceLine.mem_ofLines.mp (exists_mem_sourceLines.mp ⟨b, hb, hs⟩)
      exact ⟨line, hline, hblank⟩
    · rintro ⟨line, hline, hblank⟩
      obtain ⟨b, hb, hs⟩ := exists_mem_sourceLines.mpr (SourceLine.mk_mem_ofLines hline hblank)
      exact ⟨b, hb, hasLine_iff.mpr ⟨_, hs, rfl⟩⟩
  · obtain ⟨line, hline, _, hs⟩ := SourceLine.mem_ofLines.mp (hmem b hb k text hk)
    obtain ⟨_, hindent, htext⟩ := SourceLine.mk.inj hs
    exact ⟨line, hline, htext, hindent.trans (hdepth line)⟩
  · rw [← hdepth, ← hdepth]
    exact exists_hasLine_iff (SourceLine.mk_mem_ofLines hline hblank)
      (SourceLine.mk_mem_ofLines hline' hblank') rfl
  · have hlt := (List.getElem?_eq_some_iff.mp hk).1
    have hprev := List.getElem?_eq_getElem (Nat.lt_of_succ_lt hlt)
    refine ((exists_hasLine_iff (hmem b hb k _ hprev) (hmem b hb (k + 1) text hk) rfl).mp
      ⟨b, hb, ?_, ?_⟩).2
    · exact hasLine_iff.mpr ⟨_, mem_sourceLines.mpr ⟨k, _, hprev, rfl⟩, rfl⟩
    · exact hasLine_iff.mpr ⟨_, mem_sourceLines.mpr ⟨k + 1, text, hk, rfl⟩, rfl⟩

end Block

end QuestScript

import QuestScript.Proofs.Render.Contract
import Mathlib.Logic.Function.Iterate
import Mathlib.Data.List.Perm.Basic

/-!
# The order of the messages

A pass keeps a log for every place it works on and hands it upward, so that a render ends with one
log of all messages.  They are filed by severity when they are taken, and can be taken once.

* `Log.messages_foldl_extend`      logs taken over one after the other;
* `Segment.log`, `Compilation.log`  the nested logs of a render, and `messages_log` their messages;
* `Categorized.ofList_eq_foldl`, `Categorized.perm_all_ofList`  messages filed by severity;
* `Compilation.diagnostics_segment`  the messages of one group;
* `Session.iterate_take`           taking the messages again and again;
* `Session.messages_in_order`      all of it together.
-/

namespace QuestScript

open scoped List

variable {V D : Type}

/-! ## logs -/

namespace Log

/-- adds a problem of the blocks of the log -/
def report (log : Log) (p : Problem) : Log := log.add p.severity p.message p.code

theorem messages_extend (log other : Log) :
    (log.extend other).messages = log.messages ++ other.messages := rfl

/-- logs that are taken over one after the other keep their order -/
theorem messages_foldl_extend {ι : Type} (f : ι → Log) (l : List ι) : ∀ log : Log,
    (l.foldl (fun log i => log.extend (f i)) log).messages =
      log.messages ++ l.flatMap fun i => (f i).messages := by
  induction l with
  | nil =>
    intro log
    exact (List.append_nil _).symm
  | cons i l ih =>
    intro log
    rw [List.foldl_cons, ih, messages_extend, List.append_assoc, List.flatMap_cons]

/-- a log of its own for every problem -/
theorem messages_foldl_report {ι : Type} (id : ι → Nat) (p : ι → Problem) (l : List ι) :
    (l.foldl (fun log i => log.extend ((forBlocks [id i]).report (p i))) empty).messages =
      l.map fun i => (p i).on [id i] := by
  rw [messages_foldl_extend]
  exact List.map_eq_flatMap.symm

end Log

namespace Segment

/-- the log of the list of members, which takes over that of the unit -/
def membersLog (s : Segment V) : Log :=
  let log := Log.forBlocks (s.members.map Member.id)
  match s.outcome with
  | .empty => Log.empty.report .emptyBlockList
  | .anchorTaken => log.report .anchorRendered
  | .rendered kind _ _ unitLog =>
    let log := if kind = .root ∧ s.members.length ≠ 1 then log.report .manyQuestBlocks else log
    log.extend ⟨[], unitLog⟩

/-- the log of the segment, which takes over those of the members at other depths first -/
def log (s : Segment V) : Log :=
  (s.misplaced.foldl (fun log id => log.extend ((Log.forBlocks [id]).report .unsetOutsideBase))
    Log.empty).extend s.membersLog

theorem messages_log (s : Segment V) : s.log.messages = s.diagnostics := by
  have hmisplaced := Log.messages_foldl_report id (fun _ => .unsetOutsideBase) s.misplaced
  unfold log diagnostics notices
  rw [Log.messages_extend, List.append_assoc]
  refine congrArg₂ (· ++ ·) hmisplaced ?_
  unfold membersLog
  cases s.outcome with
  | empty => rfl
  | anchorTaken => rfl
  | rendered kind u v unitLog =>
    dsimp only
    split <;> rfl

end Segment

namespace Compilation

/-- the log of a render: those of the segments, that of the values that went nowhere, and that of
the document -/
def log (r : Renderer V D) (c : Compilation V D) : Log :=
  ((c.segments.foldl (fun log s => log.extend s.log) Log.empty).extend
    (c.unattached.foldl (fun log x => log.extend ((Log.forBlocks [x.1]).report (.unattached x.2)))
      Log.empty)).extend ⟨[], (r.document c.roots).2⟩

theorem messages_log (r : Renderer V D) (cells : List (Cell V)) :
    ((ofCells r cells).log r).messages = (ofCells r cells).diagnostics := by
  unfold log
  rw [Log.messages_extend, Log.messages_extend, Log.messages_foldl_extend,
    Log.messages_foldl_report Prod.fst fun x => .unattached x.2]
  simp only [Segment.messages_log]
  rfl

end Compilation

/-! ## categories -/

namespace Categorized

theorem ofList_bucket (ds : List Diagnostic) (s : Severity) :
    (ofList ds).bucket s = ds.filter (·.severity = s) := by
  cases s <;> rfl

theorem eq_of_bucket {c c' : Categorized} (h : ∀ s, c.bucket s = c'.bucket s) : c = c' := by
  obtain ⟨info, warning, error, internal⟩ := c
  obtain rfl : info = c'.info := h .info
  obtain rfl : warning = c'.warning := h .warning
  obtain rfl : error = c'.error := h .error
  obtain rfl : internal = c'.internal := h .internal
  rfl

/-- filing all messages is filing one after the other -/
theorem ofList_eq_foldl (ds : List Diagnostic) : ofList ds = ds.foldl push empty := by
  have hfoldl : ∀ (ds : List Diagnostic) (c : Categorized) (s : Severity),
      (ds.foldl push c).bucket s = c.bucket s ++ ds.filter (·.severity = s) := by
    intro ds
    induction ds with
    | nil =>
      intro c s
      exact (List.append_nil _).symm
    | cons d ds ih =>
      intro c s
      rw [List.foldl_cons, ih, bucket_push, List.append_assoc, List.filter_cons]
      simp only [decide_eq_true_eq]
      split <;> rfl
  refine eq_of_bucket fun s => ?_
  rw [hfoldl, ofList_bucket]
  cases s <;> rfl

theorem count_bucket (ds : List Diagnostic) (s : Severity) (d : Diagnostic) :
    ((ofList ds).bucket s).count d = if d.severity = s then ds.count d else 0 := by
  rw [ofList_bucket]
  split
  · next h => exact List.count_filter (decide_eq_true h)
  · next h =>
    rw [List.count_eq_zero, List.mem_filter]
    exact fun hd => h (of_decide_eq_true hd.2)

/-- no message is lost, and none is filed twice -/
theorem perm_all_ofList (ds : List Diagnostic) : (ofList ds).all ~ ds := by
  rw [List.perm_iff_count]
  intro d
  have hsum : (ofList ds).all.count d = ((ofList ds).bucket .info).count d +
      ((ofList ds).bucket .warning).count d + ((ofList ds).bucket .error).count d +
        ((ofList ds).bucket .internal).count d := by
    unfold all
    rw [List.count_append, List.count_append, List.count_append]
    rfl
  rw [hsum]
  simp only [count_bucket]
  cases d.severity <;> simp

end Categorized

/-! ## the messages of a group -/

namespace Compilation

/-- the message 423 comes first, if there is one, and then what the renderer says about the unit -/
theorem diagnostics_segment (r : Renderer V D) {blocks : List Block} {s : Segment V}
    (hs : s ∈ (ofBlocks r blocks).segments) :
    ∃ kind u v log, s.calls = [(kind, u)] ∧ s.group.head? = some u.anchorId ∧
      r.unit kind u = (v, log) ∧ s.diagnostics =
        (if kind = .root ∧ s.members.length ≠ 1 then
          [Problem.manyQuestBlocks.on (s.members.map Member.id)] else []) ++ log := by
  obtain ⟨pre, post, hsegments⟩ := List.append_of_mem hs
  obtain ⟨kind, u, hout, hcontract⟩ := exists_contract r hsegments
  have hmisplaced : s.misplaced = [] := by
    obtain ⟨_, _, _, _, rfl⟩ := (fresh r blocks).mem_segments.mp hs
    rfl
  refine ⟨kind, u, _, _, ?_, hcontract.head, rfl, ?_⟩
  · unfold Segment.calls
    rw [hout]
  · unfold Segment.diagnostics Segment.notices
    rw [hmisplaced, hout]
    rfl

/-- the values that are reported, each with the depth of its group -/
theorem mem_unattached_depth (r : Renderer V D) (blocks : List Block) {a n : Nat} :
    let c := ofBlocks r blocks
    (a, n) ∈ c.unattached ↔ (∃ l ∈ c.table, l.depth = n ∧ (∃ b ∈ blocks, b.indent < n) ∧
      ∃ g ∈ l.nonEmpty, g.head? = some a) ∧ ∀ s ∈ c.segments, a ∉ s.folded := by
  intro c
  have h : c.Fresh r blocks := fresh r blocks
  have hdepth : ∀ l ∈ c.table, ∀ g ∈ l.nonEmpty, g.head? = some a →
      blocks[a]?.map Block.indent = some l.depth := by
    intro l hl g hg ha
    obtain ⟨_, _, hcov⟩ := (h.table_over.levels l hl).covers hg
    obtain ⟨b, hb, hd⟩ := hcov.exists_block (List.mem_of_head? ha)
    rw [hb, Option.map_some, hd]
  refine (mem_unattached r blocks).trans ⟨?_, ?_⟩
  · rintro ⟨⟨l, hl, hlow, g, hg, ha⟩, hfree, hn⟩
    obtain rfl : l.depth = n := Option.some.inj ((hdepth l hl g hg ha).symm.trans hn)
    exact ⟨⟨l, hl, rfl, hlow, g, hg, ha⟩, hfree⟩
  · rintro ⟨⟨l, hl, rfl, hlow, g, hg, ha⟩, hfree⟩
    exact ⟨⟨l, hl, hlow, g, hg, ha⟩, hfree, hdepth l hl g hg ha⟩

end Compilation

/-! ## taking the messages -/

namespace Session

/-- once the messages are taken there are none, however often they are asked for -/
theorem iterate_take (s : Session V D) (n : Nat) :
    (fun t : Session V D => t.takeDiagnostics.2)^[n + 1] s = ⟨s.renderer, s.last, none⟩ := by
  induction n with
  | zero => rfl
  | succ n ih =>
    rw [Function.iterate_succ_apply', ih]
    rfl

/-- **The order of the messages.**  A render of fresh blocks goes through the groups, the deepest
level first and from left to right within a level.  For each it gives the message 423 about all
members of its segment, if there is one, and then what the renderer says about the unit.  Then it
gives one message 429 about every value below the least depth that no unit took in, in the order of
the blocks, and at last what the renderer says about the document.  Just these messages are taken,
filed by severity and in this order within one severity; after that there are none until the next
render. -/
theorem messages_in_order (s : Session V D) (blocks : List Block) :
    let r := s.renderer
    let c := Compilation.ofBlocks r blocks
    let rendered := s.render (blocks.map Cell.fresh)
    rendered.last = some c ∧
    (c.table.Pairwise (·.depth < ·.depth) ∧
      (∀ l ∈ c.table, l.nonEmpty.Pairwise fun g g' => ∀ i ∈ g, ∀ j ∈ g', i < j) ∧
      c.segments.map Segment.group = c.table.reverse.flatMap Level.nonEmpty) ∧
    (∀ t ∈ c.segments, ∃ kind u v log, t.calls = [(kind, u)] ∧ t.group.head? = some u.anchorId ∧
      r.unit kind u = (v, log) ∧ t.diagnostics =
        (if kind = .root ∧ t.members.length ≠ 1 then
          [Problem.manyQuestBlocks.on (t.members.map Member.id)] else []) ++ log) ∧
    (∃ left : List (Nat × Nat), c.diagnostics = c.segments.flatMap Segment.diagnostics ++
        left.map (fun (a, n) => (Problem.unattached n).on [a]) ++ (r.document c.roots).2 ∧
      left.Pairwise (·.1 < ·.1) ∧
      ∀ a n, (a, n) ∈ left ↔ (∃ l ∈ c.table, l.depth = n ∧ (∃ b ∈ blocks, b.indent < n) ∧
        ∃ g ∈ l.nonEmpty, g.head? = some a) ∧ ∀ t ∈ c.segments, a ∉ t.folded) ∧
    (c.log r).messages = c.diagnostics ∧
    (∃ taken, rendered.takeDiagnostics.1 = some taken ∧
      taken = c.diagnostics.foldl Categorized.push Categorized.empty ∧
      (∀ severity, taken.bucket severity = c.diagnostics.filter (·.severity = severity)) ∧
      taken.all ~ c.diagnostics) ∧
    ∀ n, let after := (fun t : Session V D => t.takeDiagnostics.2)^[n + 1] rendered
      after.takeDiagnostics.1 = none ∧ ∀ cells, (after.render cells).takeDiagnostics.1 =
        some (Categorized.ofList (Compilation.ofCells r cells).diagnostics) := by
  intro r c rendered
  have h : c.Fresh r blocks := Compilation.fresh r blocks
  refine ⟨rfl, ⟨h.table_over.sorted, fun l hl => (h.table_over.levels l hl).pairwise,
    (Compilation.steps_ofCells r _).2⟩, fun t ht => Compilation.diagnostics_segment r ht,
    ⟨c.unattached, rfl, Pass.pairwise_unattached _ _, fun a n =>
      Compilation.mem_unattached_depth r blocks⟩, Compilation.messages_log r _,
    ⟨_, rfl, Categorized.ofList_eq_foldl _, Categorized.ofList_bucket _,
      Categorized.perm_all_ofList _⟩, fun n => ?_⟩
  dsimp only
  rw [iterate_take rendered n]
  exact ⟨rfl, fun cells => rfl⟩

end Session

end QuestScript

import QuestScript.Text.Lines
import QuestScript.Text.Span
import QuestScript.Proofs.Text.Parts

/-!
# Lines and the bytes they take

A text is its lines put together, and cutting it finds the same lines again.  The same holds of some
of its lines that follow each other, and where these start and end is counted in bytes.

* `Text.IsLines`              the lists that are the lines of a text;
* `IsLines.withEnds_flatten`  lines that are put together are cut where they were;
* `IsLines.ended`             all lines but the last end with a line feed;
* `Text.lines_unlines`        lines that are written one below the other are read again;
* `Text.IsPart`, `Text.exists_isPart`  some lines of a text that follow each other;
* `Text.withEnds_prefix_allLines`  the two ways of counting lines agree;
* `Span.slice?_append`        the text between two others.
-/

namespace QuestScript

namespace Text

/-! ## the lines of a text -/

/-- one line, with the line feed that ends it -/
def IsEnded (line : Text) : Prop := ∃ t, '\n' ∉ t ∧ line = t ++ ['\n']

/-- the lines of some text -/
inductive IsLines : List Text → Prop
  | nil : IsLines []
  | last {line : Text} (hne : line ≠ []) (hmem : '\n' ∉ line) : IsLines [line]
  | cons {line : Text} {ls : List Text} (hline : IsEnded line) (h : IsLines ls) :
      IsLines (line :: ls)

theorem withEnds_of_not_mem {t : Text} (hne : t ≠ []) (ht : '\n' ∉ t) : withEnds t = [t] := by
  induction t with
  | nil => exact absurd rfl hne
  | cons c t ih =>
    obtain ⟨hc, ht⟩ := List.ne_and_not_mem_of_not_mem_cons ht
    rw [withEnds, if_neg (Ne.symm hc)]
    cases t with
    | nil => rfl
    | cons d t => rw [ih (List.cons_ne_nil _ _) ht]

theorem withEnds_append_newline {t : Text} (ht : '\n' ∉ t) (rest : Text) :
    withEnds (t ++ '\n' :: rest) = (t ++ ['\n']) :: withEnds rest := by
  induction t with
  | nil => rfl
  | cons c t ih =>
    obtain ⟨hc, ht⟩ := List.ne_and_not_mem_of_not_mem_cons ht
    rw [List.cons_append, withEnds, if_neg (Ne.symm hc), ih ht, List.cons_append]

theorem isLines_withEnds (t : Text) : IsLines (withEnds t) := by
  induction t with
  | nil => exact .nil
  | cons c t ih =>
    rw [withEnds]
    split
    · exact .cons ⟨[], List.not_mem_nil, rfl⟩ ih
    · next hc =>
      have hcons {line : Text} (hmem : '\n' ∉ line) : '\n' ∉ c :: line :=
        List.not_mem_cons_of_ne_of_not_mem (Ne.symm hc) hmem
      cases hls : withEnds t with
      | nil => exact .last (List.cons_ne_nil _ _) (hcons List.not_mem_nil)
      | cons line ls =>
        rw [hls] at ih
        cases ih with
        | last _ hmem => exact .last (List.cons_ne_nil _ _) (hcons hmem)
        | cons hline h =>
          obtain ⟨t, hmem, rfl⟩ := hline
          exact .cons ⟨c :: t, hcons hmem, rfl⟩ h

namespace IsLines

variable {ls as bs : List Text}

/-- **lines that are put together** are cut where they were -/
theorem withEnds_flatten (h : IsLines ls) : withEnds ls.flatten = ls := by
  induction h with
  | nil => rfl
  | last hne hmem =>
    rw [List.flatten_singleton]
    exact withEnds_of_not_mem hne hmem
  | cons hline _ ih =>
    obtain ⟨t, ht, rfl⟩ := hline
    rw [List.flatten_cons, List.append_assoc, List.singleton_append, withEnds_append_newline ht, ih]

theorem left (h : IsLines (as ++ bs)) : IsLines as := by
  induction as with
  | nil => exact .nil
  | cons line as ih =>
    rw [List.cons_append] at h
    generalize hls : as ++ bs = ls at h
    cases h with
    | last hne hmem =>
      obtain ⟨rfl, _⟩ := List.append_eq_nil_iff.mp hls
      exact .last hne hmem
    | cons hline h => exact .cons hline (ih (hls ▸ h))

theorem right (h : IsLines (as ++ bs)) : IsLines bs := by
  induction as with
  | nil => exact h
  | cons line as ih =>
    rw [List.cons_append] at h
    generalize hls : as ++ bs = ls at h
    cases h with
    | last _ _ =>
      obtain ⟨_, rfl⟩ := List.append_eq_nil_iff.mp hls
      exact .nil
    | cons _ h => exact ih (hls ▸ h)

/-- **a line with a line after it** ends with a line feed -/
theorem ended (h : IsLines (as ++ bs)) (hbs : bs ≠ []) : ∀ line ∈ as, IsEnded line := by
  induction as with
  | nil => exact fun _ hline => nomatch hline
  | cons line as ih =>
    rw [List.cons_append] at h
    generalize hls : as ++ bs = ls at h
    cases h with
    | last _ _ => exact absurd (List.append_eq_nil_iff.mp hls).2 hbs
    | cons hline h => exact List.forall_mem_cons.mpr ⟨hline, ih (hls ▸ h)⟩

end IsLines

/-! ## without their ends -/

theorem chomp_of_not_mem {t : Text} (ht : '\n' ∉ t) : chomp t = t := by
  cases h : dropSuffix? ['\n'] t with
  | none => simp [chomp, h]
  | some rest => simp [dropSuffix?_eq_some_iff.mp h] at ht

theorem chomp_append_newline (t : Text) :
    chomp (t ++ ['\n']) = (dropSuffix? ['\r'] t).getD t := by
  unfold chomp
  rw [dropSuffix?_eq_some_iff.mpr rfl]

theorem chomp_of_not_return {t : Text} (ht : ∀ c ∈ t.getLast?, c ≠ '\r') :
    chomp (t ++ ['\n']) = t := by
  rw [chomp_append_newline]
  cases h : dropSuffix? ['\r'] t with
  | none => rfl
  | some rest => simp [dropSuffix?_eq_some_iff.mp h] at ht

theorem IsEnded.newline_not_mem_chomp {line : Text} (h : IsEnded line) : '\n' ∉ chomp line := by
  obtain ⟨t, ht, rfl⟩ := h
  rw [chomp_append_newline]
  cases hreturn : dropSuffix? ['\r'] t with
  | none => exact ht
  | some rest =>
    rw [dropSuffix?_eq_some_iff.mp hreturn, List.mem_append, not_or] at ht
    exact ht.1

theorem newline_not_mem_lines {t line : Text} (h : line ∈ lines t) : '\n' ∉ line := by
  obtain ⟨ended, hended, rfl⟩ := List.mem_map.mp h
  have hlines := isLines_withEnds t
  generalize withEnds t = ls at hended hlines
  induction hlines with
  | nil => cases hended
  | last _ hmem =>
    rw [List.mem_singleton.mp hended, chomp_of_not_mem hmem]
    exact hmem
  | cons hline _ ih =>
    rcases List.mem_cons.mp hended with rfl | hended
    · exact hline.newline_not_mem_chomp
    · exact ih hended

theorem withEnds_unlines {ls : List Text} (h : ∀ line ∈ ls, '\n' ∉ line) :
    withEnds (unlines ls) = ls.map (· ++ ['\n']) := by
  have hlines : IsLines (ls.map (· ++ ['\n'])) := by
    induction ls with
    | nil => exact .nil
    | cons line ls ih =>
      obtain ⟨hline, hls⟩ := List.forall_mem_cons.mp h
      exact .cons ⟨line, hline, rfl⟩ (ih hls)
  unfold unlines
  rw [List.flatMap_def, hlines.withEnds_flatten]

/-- **lines that are written one below the other** are read again -/
theorem lines_unlines {ls : List Text} (h : ∀ line ∈ ls, '\n' ∉ line)
    (hreturn : ∀ line ∈ ls, ∀ c ∈ line.getLast?, c ≠ '\r') : lines (unlines ls) = ls := by
  unfold lines
  rw [withEnds_unlines h, List.map_map]
  calc ls.map (chomp ∘ (· ++ ['\n'])) = ls.map id :=
        List.map_congr_left fun line hline => chomp_of_not_return (hreturn line hline)
    _ = ls := List.map_id ls

/-! ## counting line feeds -/

theorem count_flatten {ls : List Text} (h : ∀ line ∈ ls, IsEnded line) :
    ls.flatten.count '\n' = ls.length := by
  induction ls with
  | nil => rfl
  | cons line ls ih =>
    obtain ⟨⟨t, ht, rfl⟩, hls⟩ := List.forall_mem_cons.mp h
    rw [List.flatten_cons, List.count_append, List.count_append, ih hls, List.count_eq_zero.mpr ht,
      List.length_cons]
    exact Nat.add_comm 1 _

theorem getLast?_flatten {ls : List Text} (h : ∀ line ∈ ls, IsEnded line) :
    ls.flatten = [] ∨ ls.flatten.getLast? = some '\n' := by
  rcases List.eq_nil_or_concat ls with rfl | ⟨init, line, rfl⟩
  · exact Or.inl rfl
  · rw [List.concat_eq_append] at h ⊢
    obtain ⟨t, _, rfl⟩ := h line (List.mem_append_right _ List.mem_cons_self)
    refine Or.inr ?_
    rw [List.flatten_append, List.flatten_singleton, ← List.append_assoc, List.getLast?_concat]

/-! ## some lines of a text -/

/-- `body` is `k` lines of the text `t` from the line `m` on, `before` are the lines before them and
`after` are the lines after them -/
structure IsPart (t : Text) (m k : Nat) (before body after : Text) : Prop where
  eq : t = before ++ body ++ after
  before_eq : before = ((withEnds t).take m).flatten
  until_eq : before ++ body = ((withEnds t).take (m + k)).flatten
  cut : withEnds body = ((withEnds t).drop m).take k
  count : before.count '\n' = m
  starts : before = [] ∨ before.getLast? = some '\n'
  ends : after = [] ∨ body.getLast? = some '\n'

/-- **some lines of a text** stand between those before them and those after them -/
theorem exists_isPart {t : Text} {m k : Nat} (hle : m + k ≤ (withEnds t).length) (hk : 0 < k) :
    ∃ before body after, IsPart t m k before body after := by
  -- the lines before, the lines themselves and the lines after
  let as := (withEnds t).take m
  let bs := ((withEnds t).drop m).take k
  let cs := ((withEnds t).drop m).drop k
  have happend : as ++ (bs ++ cs) = withEnds t := by
    rw [List.take_append_drop, List.take_append_drop]
  have hlines : IsLines (as ++ (bs ++ cs)) := happend ▸ isLines_withEnds t
  have hcut : withEnds bs.flatten = bs := hlines.right.left.withEnds_flatten
  have hne : bs ≠ [] := by
    refine List.ne_nil_of_length_pos ?_
    rw [List.length_take, List.length_drop]
    omega
  have hbefore : ∀ line ∈ as, IsEnded line :=
    hlines.ended fun h => hne (List.append_eq_nil_iff.mp h).1
  refine ⟨as.flatten, bs.flatten, cs.flatten, ?_⟩
  constructor
  case eq =>
    rw [← List.flatten_append, ← List.flatten_append, List.append_assoc, happend, flatten_withEnds]
  case before_eq => rfl
  case until_eq => rw [List.take_add, List.flatten_append]
  case cut => exact hcut
  case count =>
    rw [count_flatten hbefore, List.length_take]
    omega
  case starts => exact getLast?_flatten hbefore
  case ends =>
    by_cases hcs : cs = []
    · exact Or.inl (by rw [hcs, List.flatten_nil])
    · refine Or.inr ((getLast?_flatten (hlines.right.ended hcs)).resolve_left fun h => hne ?_)
      rw [← hcut, h]
      rfl

/-- **the two ways of counting lines** agree on all lines that are not empty -/
theorem withEnds_prefix_allLines (t : Text) : withEnds t <+: allLines t := by
  induction t with
  | nil => exact List.nil_prefix
  | cons c t ih =>
    rw [withEnds, allLines]
    split
    · exact List.cons_prefix_cons.mpr ⟨rfl, ih⟩
    · cases hls : withEnds t with
      | nil =>
        have ht : t = [] := by rw [← flatten_withEnds t, hls, List.flatten_nil]
        subst ht
        exact List.prefix_refl _
      | cons line ls =>
        rw [hls] at ih
        obtain ⟨rest, hrest⟩ := ih
        rw [← hrest]
        exact List.cons_prefix_cons.mpr ⟨rfl, List.prefix_append _ _⟩

/-! ## bytes -/

theorem byteLength_append (a b : Text) : byteLength (a ++ b) = byteLength a + byteLength b := by
  induction a with
  | nil => exact (Nat.zero_add _).symm
  | cons c a ih => rw [List.cons_append, byteLength, byteLength, ih, Nat.add_assoc]

theorem totalLength_take_le {m n : Nat} (h : m ≤ n) (ls : List Text) :
    totalLength (ls.take m) ≤ totalLength (ls.take n) := by
  obtain ⟨k, rfl⟩ := Nat.exists_eq_add_of_le h
  unfold totalLength
  rw [List.take_add, List.flatten_append, byteLength_append]
  exact Nat.le_add_right _ _

end Text

namespace Span

open Text (byteLength byteLength_append)

theorem dropBytes?_append (a b : Text) : dropBytes? (byteLength a) (a ++ b) = some b := by
  induction a with
  | nil => cases b <;> rfl
  | cons c a ih =>
    obtain ⟨n, hn⟩ := Nat.exists_eq_add_of_lt c.utf8Size_pos
    rw [byteLength, List.cons_append, show c.utf8Size + byteLength a = n + byteLength a + 1 by omega,
      dropBytes?, if_pos (by omega), show n + byteLength a + 1 - c.utf8Size = byteLength a by omega,
      ih]

theorem takeBytes?_append (a b : Text) : takeBytes? (byteLength a) (a ++ b) = some a := by
  induction a with
  | nil => cases b <;> rfl
  | cons c a ih =>
    obtain ⟨n, hn⟩ := Nat.exists_eq_add_of_lt c.utf8Size_pos
    rw [byteLength, List.cons_append, show c.utf8Size + byteLength a = n + byteLength a + 1 by omega,
      takeBytes?, if_pos (by omega), show n + byteLength a + 1 - c.utf8Size = byteLength a by omega,
      ih]
    rfl

/-- **the text between two others** -/
theorem slice?_append (a b c : Text) :
    (⟨byteLength a, byteLength (a ++ b)⟩ : Span).slice? (a ++ b ++ c) = some b := by
  unfold slice?
  rw [if_pos (by rw [byteLength_append]; exact Nat.le_add_right _ _), List.append_assoc,
    dropBytes?_append, Option.bind_some, byteLength_append, Nat.add_sub_cancel_left,
    takeBytes?_append]

/-- the span of some lines, as they are cut -/
theorem ofLines?_allLines {t : Text} {first last : Nat} (hfirst : first ≤ last)
    (hlast : last < (Text.withEnds t).length) : ofLines? (Text.allLines t) first last =
      some ⟨Text.totalLength ((Text.withEnds t).take first),
        Text.totalLength ((Text.withEnds t).take (last + 1))⟩ := by
  obtain ⟨rest, hrest⟩ := Text.withEnds_prefix_allLines t
  unfold ofLines?
  rw [← hrest, List.take_append_of_le_length (by omega), List.take_append_of_le_length (by omega),
    List.length_append, if_pos (by omega)]

end Span

end QuestScript

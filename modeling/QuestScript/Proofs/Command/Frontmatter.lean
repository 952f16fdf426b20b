import QuestScript.Proofs.Command.Test
import QuestScript.Proofs.Text.Trim

/-!
# Test files are cut at their delimiters

A test file is the line `---`, the lines of the frontmatter, the line `---` again and the script.  The
end of the frontmatter is searched for as a line feed with the delimiter after it, in what follows the
first line.  No line of the frontmatter starts with the delimiter, so the first place found is the line
that ends it, whatever stands in the script.  Without any line the search is too late: the line feed
before the second delimiter is that of the first line, which was left out.

* `Frontmatter.file`              a test file, lines ended by a line feed alone or with a carriage return;
* `Frontmatter.splitAtPart_lines` where the search ends;
* `Frontmatter.split_of_lines`, `Frontmatter.split_of_no_lines`  a file with and without frontmatter;
* `Frontmatter.split_file`        both, and what is read.
-/

namespace QuestScript.Frontmatter

open Text (dropPrefix? dropWhileEnd join splitAtPart)

/-! ## test files -/

/-- what stands before the line feed that ends a line -/
def returns (crlf : Bool) : Text := if crlf then ['\r'] else []

def lineEnd (crlf : Bool) : Text := returns crlf ++ ['\n']

/-- byte order marks, the delimiter, the lines of the frontmatter, the delimiter, the script -/
def file (marks : Nat) (crlf : Bool) (lines : List Text) (script : Text) : Text :=
  List.replicate marks '\ufeff' ++ (delimiter ++ (lineEnd crlf ++
    (lines.flatMap (· ++ lineEnd crlf) ++ (delimiter ++ (lineEnd crlf ++ script)))))

variable {crlf : Bool} {lines : List Text}

theorem newline_not_mem_returns : '\n' ∉ returns crlf := by cases crlf <;> decide

theorem mem_returns {c : Char} (h : c ∈ returns crlf) : (c == '\r') = true := by
  cases crlf
  · cases h
  · rw [List.mem_singleton.mp h]
    rfl

theorem dropLineEnd_lineEnd (crlf : Bool) (t : Text) : dropLineEnd (lineEnd crlf ++ t) = t := by
  cases crlf <;> rfl

/-- the first delimiter is found behind the byte order marks -/
theorem dropPrefix?_file (marks : Nat) (t : Text) :
    dropPrefix? delimiter
      ((List.replicate marks '\ufeff' ++ (delimiter ++ t)).dropWhile (· == '\ufeff')) = some t := by
  have hmarks : ∀ c ∈ List.replicate marks '\ufeff', (c == '\ufeff') = true := by
    intro c hc
    rw [List.eq_of_mem_replicate hc]
    rfl
  rw [List.dropWhile_append_of_pos hmarks]
  exact Text.dropPrefix?_eq_some_iff.mpr rfl

/-! ## the search for the end -/

/-- a line that does not start with the delimiter does not do so with its end either -/
theorem not_prefix_line {line : Text} (h : ¬delimiter <+: line) (t : Text) :
    ¬delimiter <+: line ++ (lineEnd crlf ++ t) := by
  intro hprefix
  cases crlf
  · exact h (Text.prefix_of_prefix_append_cons (c := '\n') (by decide) hprefix)
  · exact h (Text.prefix_of_prefix_append_cons (c := '\r') (by decide) hprefix)

/-- **the search** ends behind the last line -/
theorem splitAtPart_lines (hline : ∀ line ∈ lines, '\n' ∉ line)
    (hmark : ∀ line ∈ lines, ¬delimiter <+: line) (hne : lines ≠ []) (rest : Text) :
    splitAtPart ('\n' :: delimiter) (lines.flatMap (· ++ lineEnd crlf) ++ (delimiter ++ rest)) =
      some (join (lineEnd crlf) lines ++ returns crlf, rest) := by
  induction lines with
  | nil => exact absurd rfl hne
  | cons line lines ih =>
    obtain ⟨hfirst, hline⟩ := List.forall_mem_cons.mp hline
    obtain ⟨_, hmark⟩ := List.forall_mem_cons.mp hmark
    -- nothing is found in the line itself
    have hskips : Text.Skips ('\n' :: delimiter) (line ++ returns crlf) := by
      apply Text.Skips.of_not_mem
      rw [List.mem_append, not_or]
      exact ⟨hfirst, newline_not_mem_returns⟩
    have hshape (t : Text) : line ++ lineEnd crlf ++ t = (line ++ returns crlf) ++ '\n' :: t := by
      simp [lineEnd]
    rw [List.flatMap_cons, List.append_assoc, hshape]
    cases lines with
    | nil =>
      have hfound := hskips.splitAtPart (List.cons_ne_nil _ _) rest
      rwa [join, List.intercalate_singleton]
    | cons next lines =>
      specialize ih hline hmark (List.cons_ne_nil _ _)
      -- and the line feed is not followed by the delimiter
      have hpass : dropPrefix? ('\n' :: delimiter) ('\n' ::
          ((next :: lines).flatMap (· ++ lineEnd crlf) ++ (delimiter ++ rest))) = none := by
        rw [Text.dropPrefix?_eq_none_iff, List.cons_prefix_cons, List.flatMap_cons,
          List.append_assoc, List.append_assoc]
        rintro ⟨_, hprefix⟩
        exact not_prefix_line (hmark next List.mem_cons_self) _ hprefix
      rw [hskips, splitAtPart, hpass]
      dsimp only
      rw [ih, join, join, List.intercalate_cons_of_ne_nil (List.cons_ne_nil _ _)]
      simp [lineEnd]

/-! ## the frontmatter -/

theorem getLast?_join (crlf : Bool) (hlast : ∀ line ∈ lines.getLast?, line.getLast? ≠ some '\r') :
    (join (lineEnd crlf) lines).getLast? ≠ some '\r' := by
  unfold join
  induction lines with
  | nil => simp
  | cons line lines ih =>
    cases lines with
    | nil =>
      rw [List.intercalate_singleton]
      exact hlast line rfl
    | cons next lines =>
      specialize ih hlast
      rw [List.intercalate_cons_of_ne_nil (List.cons_ne_nil _ _), List.getLast?_append]
      cases hrest : ((lineEnd crlf).intercalate (next :: lines)).getLast? with
      | none => simp [lineEnd]
      | some c =>
        rw [hrest] at ih
        exact ih

/-- no carriage return is cut off the frontmatter but that of a line end -/
theorem dropWhileEnd_join (hlast : ∀ line ∈ lines.getLast?, line.getLast? ≠ some '\r') :
    dropWhileEnd (· == '\r') (join (lineEnd crlf) lines) = join (lineEnd crlf) lines := by
  refine List.rdropWhile_eq_self_iff.mpr fun hne hreturn => getLast?_join crlf hlast ?_
  rw [List.getLast?_eq_some_getLast hne, eq_of_beq hreturn]

/-! ## the whole file -/

theorem split_of_lines (marks : Nat) (crlf : Bool) (hline : ∀ line ∈ lines, '\n' ∉ line)
    (hmark : ∀ line ∈ lines, ¬delimiter <+: line) (hne : lines ≠ []) (script : Text) :
    split (file marks crlf lines script) =
      .ok (dropWhileEnd (· == '\r') (join (lineEnd crlf) lines), script) := by
  unfold split file
  rw [dropPrefix?_file]
  dsimp only
  rw [dropLineEnd_lineEnd, splitAtPart_lines hline hmark hne]
  dsimp only
  rw [dropLineEnd_lineEnd, Text.dropWhileEnd_append_of_pos fun _ => mem_returns]

/-- without any line the second delimiter is read as a part of the frontmatter -/
theorem split_of_no_lines (marks : Nat) (script : Text) : split (file marks crlf [] script) =
    match splitAtPart ('\n' :: delimiter) (lineEnd crlf ++ script) with
    | none => .error .noClosing
    | some (more, rest) =>
      .ok (dropWhileEnd (· == '\r') (delimiter ++ more), dropLineEnd rest) := by
  have hskips : Text.Skips ('\n' :: delimiter) delimiter := Text.Skips.of_not_mem (by decide)
  unfold split file
  rw [dropPrefix?_file]
  dsimp only
  rw [dropLineEnd_lineEnd, List.flatMap_nil, List.nil_append, hskips]
  cases splitAtPart ('\n' :: delimiter) (lineEnd crlf ++ script) <;> rfl

theorem read_of_split {content front script : Text} (h : split content = .ok (front, script)) :
    read content =
      ((Expectations.ofText front).mapError (.malformed front)).map fun x => (x, script) := by
  unfold read
  rw [h]
  cases hx : Expectations.ofText front <;>
    simp [bind, Except.bind, Except.mapError, Except.map, pure, Except.pure, hx]

/-- **A test file is cut at its delimiters.**  Of a test file with at least one line of frontmatter, none
of which starts with the delimiter, the script is what follows the second delimiter, character for
character, and the expectations are read from the lines of the frontmatter.  Only carriage returns at
the very end of the last line would not be read.  In a test file without frontmatter the second
delimiter is not found: the search goes on into the script, and fails unless some line of the script
starts with the delimiter. -/
theorem split_file (marks : Nat) (crlf : Bool) {lines : List Text} (script : Text)
    (hline : ∀ line ∈ lines, '\n' ∉ line) (hmark : ∀ line ∈ lines, ¬delimiter <+: line) :
    let front := dropWhileEnd (· == '\r') (join (lineEnd crlf) lines)
    (lines ≠ [] → split (file marks crlf lines script) = .ok (front, script) ∧
      read (file marks crlf lines script) =
        ((Expectations.ofText front).mapError (.malformed front)).map fun x => (x, script)) ∧
    ((∀ line ∈ lines.getLast?, line.getLast? ≠ some '\r') → front = join (lineEnd crlf) lines) ∧
    (lines = [] → split (file marks crlf lines script) =
      match splitAtPart ('\n' :: delimiter) (lineEnd crlf ++ script) with
      | none => .error .noClosing
      | some (more, rest) =>
        .ok (dropWhileEnd (· == '\r') (delimiter ++ more), dropLineEnd rest)) := by
  intro front
  refine ⟨fun hne => ?_, dropWhileEnd_join, ?_⟩
  · have hsplit := split_of_lines marks crlf hline hmark hne script
    exact ⟨hsplit, read_of_split hsplit⟩
  · rintro rfl
    exact split_of_no_lines marks script

/-- a byte order mark, carriage returns, a blank line, two hyphens and delimiters in the script -/
theorem split_file_of_blank_line :
    let lines : List Text := ["", "--", "format = \"outline\""]
    let script : Text := "---\n# Q\n---\n"
    (∀ line ∈ lines, '\n' ∉ line) ∧ (∀ line ∈ lines, ¬delimiter <+: line) ∧
      split "\ufeff---\r\n\r\n--\r\nformat = \"outline\"\r\n---\r\n---\n# Q\n---\n" =
        .ok (("\r\n--\r\nformat = \"outline\"" : Text), script) := by
  intro lines script
  have hline : ∀ line ∈ lines, '\n' ∉ line := by decide
  have hmark : ∀ line ∈ lines, ¬delimiter <+: line := by decide
  have hfile : file 1 true lines script =
      ("\ufeff---\r\n\r\n--\r\nformat = \"outline\"\r\n---\r\n---\n# Q\n---\n" : Text) := by decide
  have hjoin : join (lineEnd true) lines = ("\r\n--\r\nformat = \"outline\"" : Text) := by decide
  obtain ⟨hsplit, hfront, _⟩ := split_file 1 true script hline hmark
  rw [hfront (by decide), hfile, hjoin] at hsplit
  exact ⟨hline, hmark, (hsplit (by decide)).1⟩

/-- a file with both delimiters and nothing between them is not cut -/
theorem split_file_of_no_lines :
    file 0 false [] "# Q\n" = ("---\n---\n# Q\n" : Text) ∧
      split (file 0 false [] "# Q\n") = .error .noClosing := by
  decide

end QuestScript.Frontmatter

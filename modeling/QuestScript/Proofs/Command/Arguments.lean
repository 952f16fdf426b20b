import QuestScript.Command.Arguments

/-!
# The place of the command

A command line without a command gets the word `compile` before its first operand.  That operand is
searched for in the words as they are written, before any flag is read; the first of them is the one
after the name of the program, at which the search never looks.  It passes over words with a hyphen in
front, and over `--config` together with the word after it, whatever that word looks like.  It ends at
the first other word; if that word names no command, the command is missing.

* `CommonOption`                     the flags of every command, as they are written before it;
* `Arguments.Skipped`                words that the search passes over;
* `Arguments.Skipped.withCommand_append`  the search goes on behind them;
* `Arguments.withCommand_cases`      what becomes of any command line;
* `Arguments.command_before_operand` the place of the command.
-/

namespace QuestScript

/-- a flag of every command, in one of the ways to write it before the command -/
inductive CommonOption where
  | noColor
  | verbose
  /-- the short name, `n + 1` times in one word -/
  | verboseTimes (n : Nat)
  /-- the path is the next word -/
  | config (path : Text)
  /-- the path is in the same word -/
  | configIn (path : Text)

def CommonOption.words : CommonOption → List Text
  | noColor => ["--no-color"]
  | verbose => ["--verbose"]
  | verboseTimes n => ['-' :: List.replicate (n + 1) 'v']
  | config path => ["--config", path]
  | configIn path => [("--config=" : Text) ++ path]

namespace Arguments

/-! ## what is passed over -/

/-- the words are passed over in the search for the first operand -/
inductive Skipped : List Text → Prop
  | nil : Skipped []
  | config (value : Text) {ws : List Text} (h : Skipped ws) : Skipped (configWord :: value :: ws)
  | flag {w : Text} {ws : List Text} (hne : w ≠ configWord) (hhead : w.head? = some '-')
      (h : Skipped ws) : Skipped (w :: ws)

theorem Skipped.append {us ws : List Text} (hus : Skipped us) (hws : Skipped ws) :
    Skipped (us ++ ws) := by
  induction hus with
  | nil => exact hws
  | config value _ ih => exact .config value ih
  | flag hne hhead _ ih => exact .flag hne hhead ih

theorem withCommand_of_config (value : Text) (ws : List Text) :
    withCommand (configWord :: value :: ws) = configWord :: value :: withCommand ws :=
  (withCommand.eq_def _).trans (if_pos rfl)

theorem withCommand_of_ne {w : Text} (hne : w ≠ configWord) (ws : List Text) :
    withCommand (w :: ws) =
      if w.head? = some '-' then w :: withCommand ws
      else if commands.contains w then w :: ws
      else compileWord :: w :: ws :=
  (withCommand.eq_def _).trans (if_neg hne)

/-- **the search goes on** behind words that it passes over -/
theorem Skipped.withCommand_append {before : List Text} (h : Skipped before) (rest : List Text) :
    withCommand (before ++ rest) = before ++ withCommand rest := by
  induction h with
  | nil => rfl
  | config value _ ih =>
    rw [List.cons_append, List.cons_append, withCommand_of_config, ih]
    rfl
  | flag hne hhead _ ih =>
    rw [List.cons_append, withCommand_of_ne hne, if_pos hhead, ih]
    rfl

theorem skipped_words (o : CommonOption) : Skipped o.words := by
  cases o with
  | noColor => exact .flag (by decide) rfl .nil
  | verbose => exact .flag (by decide) rfl .nil
  | verboseTimes n =>
    refine .flag (fun h => ?_) rfl .nil
    -- the second characters differ
    have hsecond : 'v' = '-' := (List.cons.inj (List.cons.inj h).2).1
    exact absurd hsecond (by decide)
  | config path => exact Skipped.config path .nil
  | configIn path =>
    have hne : configWord ++ '=' :: path ≠ configWord := fun h =>
      List.cons_ne_nil _ _ (List.append_right_eq_self.mp h)
    exact .flag hne rfl .nil

theorem skipped_options (options : List CommonOption) :
    Skipped (options.flatMap CommonOption.words) := by
  induction options with
  | nil => exact .nil
  | cons o options ih =>
    rw [List.flatMap_cons]
    exact (skipped_words o).append ih

/-! ## where the search ends -/

theorem withCommand_of_command {w : Text} (h : w ∈ commands) (ws : List Text) :
    withCommand (w :: ws) = w :: ws := by
  have hplain : ∀ w ∈ commands, w ≠ configWord ∧ w.head? ≠ some '-' := by decide
  obtain ⟨hne, hhead⟩ := hplain w h
  rw [withCommand_of_ne hne, if_neg hhead, if_pos (List.contains_iff_mem.mpr h)]

theorem withCommand_of_script {w : Text} (hhead : w.head? ≠ some '-') (h : w ∉ commands)
    (ws : List Text) : withCommand (w :: ws) = compileWord :: w :: ws := by
  have hne : w ≠ configWord := by
    rintro rfl
    exact hhead rfl
  rw [withCommand_of_ne hne, if_neg hhead, if_neg (mt List.contains_iff_mem.mp h)]

/-- **what becomes of a command line**: nothing, or the command is put before its first operand -/
theorem withCommand_cases (args : List Text) : withCommand args = args ∨
    ∃ before w after, Skipped before ∧ w.head? ≠ some '-' ∧ w ∉ commands ∧
      args = before ++ w :: after ∧ withCommand args = before ++ compileWord :: w :: after := by
  -- no words, `--config` at the end and with its path, any other flag, a command, a script
  fun_induction withCommand args with
  | case1 => exact Or.inl rfl
  | case2 => exact Or.inl rfl
  | case3 value ws ih =>
    rcases ih with h | ⟨before, w, after, hskipped, hhead, hscript, rfl, h⟩
    · exact Or.inl (by rw [h])
    · exact Or.inr ⟨_, w, after, .config value hskipped, hhead, hscript, rfl, by rw [h]; rfl⟩
  | case4 flag ws hne hflag ih =>
    rcases ih with h | ⟨before, w, after, hskipped, hhead, hscript, rfl, h⟩
    · exact Or.inl (by rw [h])
    · exact Or.inr ⟨_, w, after, .flag hne hflag hskipped, hhead, hscript, rfl, by rw [h]; rfl⟩
  | case5 => exact Or.inl rfl
  | case6 w ws _ hhead hcommand =>
    exact Or.inr ⟨[], w, ws, .nil, hhead, mt List.contains_iff_mem.mpr hcommand, rfl, rfl⟩

/-- the word that was put in is a command, so the search ends there -/
theorem withCommand_withCommand (args : List Text) :
    withCommand (withCommand args) = withCommand args := by
  rcases withCommand_cases args with h | ⟨before, w, after, hskipped, _, _, _, h⟩
  · rw [h, h]
  · have hcommand : compileWord ∈ commands := List.mem_cons_self
    rw [h, hskipped.withCommand_append, withCommand_of_command hcommand]

/-- **The place of the command.**  Behind any flags of every command, whatever the paths among them look
like, `compile` is put just before the first operand, unless that names a command: then nothing
changes.  In any words at all, `compile` is put in at one place or nothing changes; and a second time
nothing changes. -/
theorem command_before_operand :
    (∀ (options : List CommonOption) (w : Text) (rest : List Text), w.head? ≠ some '-' →
      let words := options.flatMap CommonOption.words
      (w ∉ (["compile", "test", "help"] : List Text) →
        withCommand (words ++ w :: rest) = words ++ compileWord :: w :: rest) ∧
      (w ∈ (["compile", "test", "help"] : List Text) →
        withCommand (words ++ w :: rest) = words ++ w :: rest)) ∧
    ∀ args : List Text,
      (withCommand args = args ∨ ∃ before after,
        args = before ++ after ∧ withCommand args = before ++ compileWord :: after) ∧
      withCommand (withCommand args) = withCommand args := by
  constructor
  · intro options w rest hhead words
    have hskipped := (skipped_options options).withCommand_append (w :: rest)
    refine ⟨fun hscript => ?_, fun hcommand => ?_⟩
    · rw [hskipped, withCommand_of_script hhead hscript]
    · rw [hskipped, withCommand_of_command hcommand]
  · intro args
    refine ⟨?_, withCommand_withCommand args⟩
    rcases withCommand_cases args with h | ⟨before, w, after, _, _, _, hargs, h⟩
    · exact Or.inl h
    · exact Or.inr ⟨before, w :: after, hargs, h⟩

/-- paths that look like a command and like a flag, and a script behind them -/
theorem command_before_operand_of_paths :
    let options : List CommonOption := [.config "test", .verboseTimes 1, .config "-v", .configIn ""]
    let w : Text := "q.md"
    let rest : List Text := ["--meta", "compile"]
    w.head? ≠ some '-' ∧ w ∉ (["compile", "test", "help"] : List Text) ∧
      withCommand (options.flatMap CommonOption.words ++ w :: rest) =
        (["--config", "test", "-vv", "--config", "-v", "--config=", "compile", "q.md", "--meta",
          "compile"] : List Text) := by
  intro options w rest
  have hhead : w.head? ≠ some '-' := by decide
  have hscript : w ∉ (["compile", "test", "help"] : List Text) := by decide
  exact ⟨hhead, hscript, (command_before_operand.1 options w rest hhead).1 hscript⟩

/-- where the path is missing, there is nothing to put the command before -/
example : withCommand ["-v", "--config"] = (["-v", "--config"] : List Text) := by decide

end Arguments

end QuestScript

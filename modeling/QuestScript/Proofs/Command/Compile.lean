import QuestScript.Command.Run
import QuestScript.Proofs.Card.Messages

/-!
# Compiling from the command line

What a command line that compiles a script shows, and how it ends.

* `Compiles`                     the command line compiles a script that can be read;
* `Compiles.run_of_shown`, `Compiles.run_of_error`  what it leaves behind;
* `Format.IsCardAt`              the card that a line of a script belongs to;
* `Arguments.run_line`           a command line that asks for the card of a line;
* `Arguments.exit_eq_zero_iff`   the exit code of one that asks for anything else.
-/

namespace QuestScript

open Character (isBlank)

/-- the command line compiles the script `source` with the options `o` and the configuration
`config` -/
structure Compiles (args : List Text) (fs : FileSystem) (i : Invocation) (o : CompileOptions)
    (config : Config) (source : Text) : Prop where
  arguments : Invocation.ofArguments args = .ok i
  command : i.command = .compile o
  config : Config.load fs i.config = .ok config
  source : fs.read o.file = .ok source

/-! ## what is left behind -/

theorem CompileOptions.show?_of_none {o : CompileOptions} (hout : o.out = none) (fs : FileSystem)
    (t : Text) : o.show? fs (some t) = .ok (t, fs) := by
  unfold show?
  rw [hout]

theorem CompileOptions.show?_of_write {o : CompileOptions} {fs files : FileSystem} {path t : Text}
    (hout : o.out = some path) (hwrite : fs.write path t = .ok files) :
    o.show? fs (some t) = .ok ([], files) := by
  unfold show?
  rw [hout]
  dsimp only
  rw [hwrite]
  rfl

namespace Compiles

variable {args : List Text} {fs : FileSystem} {i : Invocation} {o : CompileOptions}
  {config : Config} {source : Text} (h : Compiles args fs i o config source) (terminal : Bool)
include h

theorem run_eq : Arguments.run args terminal fs =
    match o.ofSource config (terminal && !i.noColor) fs source with
    | .ok e => e
    | .error e => .failure fs e.message := by
  unfold Arguments.run
  rw [h.arguments]
  show Invocation.run i terminal fs = _
  unfold Invocation.run
  rw [h.config]
  dsimp only
  rw [h.command]
  show o.run config _ fs = _
  unfold CompileOptions.run
  rw [h.source]
  rfl

/-- what is left behind where the text to show can be shown -/
theorem run_of_shown {shown : Option Text} {out : Text} {files : FileSystem}
    (houtput : o.output ((o.format.getD config.format).render source) = .ok shown)
    (hshow : o.show? fs shown = .ok (out, files)) :
    let r := (o.format.getD config.format).render source
    Arguments.run args terminal fs =
      ⟨if r.failed (o.denyWarnings || config.denyWarnings) config.showInternal then 1 else 0, out,
        r.reports o.file source (terminal && !i.noColor) config.showInternal, files⟩ := by
  rw [h.run_eq]
  unfold CompileOptions.ofSource
  dsimp only
  rw [houtput]
  simp only [bind, Except.bind, hshow]
  rfl

theorem run_of_error {e : CompileError}
    (houtput : o.output ((o.format.getD config.format).render source) = .error e) :
    Arguments.run args terminal fs = .failure fs e.message := by
  rw [h.run_eq]
  unfold CompileOptions.ofSource
  dsimp only
  rw [houtput]
  rfl

end Compiles

/-! ## the card of a line -/

namespace Format

/-- `card` is the card that the source line `n` belongs to, lines counted from 0 -/
def IsCardAt (source : Text) (n : Nat) (card : Text) : Format → Prop
  | xml => ∃ v, Compilation.IsUnitAt Xml.format.renderer source n v ∧ v.render = card
  | outline => ∃ v, Compilation.IsUnitAt Outline.format.renderer source n v ∧ v.render = card

variable (format : Format) (source : Text) {n : Nat}

theorem valueAt?_eq_some_iff {card : Text} :
    (format.render source).valueAt? n = some card ↔ format.IsCardAt source n card := by
  cases format <;>
  · refine Option.map_eq_some_iff.trans (exists_congr fun v => and_congr_left fun _ => ?_)
    exact Compilation.valueAt?_eq_some_iff _ source

theorem valueAt?_isSome_iff : ((format.render source).valueAt? n).isSome ↔
    ∃ line, (Text.lines source)[n]? = some line ∧ line.all isBlank = false := by
  have hcards {V : Type} (cards : CardFormat V) (write : V → Text) :
      ((renderWith cards write source).valueAt? n).isSome ↔
        ∃ line, (Text.lines source)[n]? = some line ∧ line.all isBlank = false := by
    rw [← Compilation.valueAt?_isSome_iff cards.renderer]
    exact iff_of_eq (congrArg (· = true) Option.isSome_map)
  cases format
  · exact hcards Xml.format XmlNode.render
  · exact hcards Outline.format OutlineNode.render

end Format

/-- **The card of a line.**  A command line that asks for the card of the line `n`, lines counted from
1, shows the card of the unit of that line, if there is such a line and it is not blank.  Otherwise it
shows nothing, and fails with a message.  The line 0 counts as the line 1. -/
theorem Arguments.run_line {args : List Text} {fs : FileSystem} {i : Invocation}
    {o : CompileOptions} {config : Config} {source : Text}
    (h : Compiles args fs i o config source) {n : Nat} (hline : o.line = some n)
    (hcheck : o.check = false) (hmetadata : o.metadata = false) (terminal : Bool) :
    let format := o.format.getD config.format
    let e := Arguments.run args terminal fs
    (∀ line, (Text.lines source)[n - 1]? = some line → line.all isBlank = false →
      ∃ card, format.IsCardAt source (n - 1) card ∧
        (o.out = none → e.out = card ∧ e.files = fs) ∧
        ∀ path files, o.out = some path → fs.write path card = .ok files →
          e.out = [] ∧ e.files = files) ∧
    ((∀ line, (Text.lines source)[n - 1]? = some line → line.all isBlank = true) →
      e.exit = 1 ∧ e.out = [] ∧ e.files = fs ∧
        e.err = "error: no card at line ".toList ++ Text.ofNat n ++ ['\n']) := by
  intro format e
  let r := format.render source
  have houtput : o.output r =
      (r.valueAt? (n - 1)).elim (.error (.noCard n)) fun card => .ok (some card) := by
    unfold CompileOptions.output
    rw [hcheck, hmetadata, hline, if_neg Bool.false_ne_true, if_neg Bool.false_ne_true]
    dsimp only
    cases r.valueAt? (n - 1) <;> rfl
  have hcard := format.valueAt?_isSome_iff source (n := n - 1)
  refine ⟨fun line hget hblank => ?_, fun hnone => ?_⟩
  · obtain ⟨card, hvalue⟩ := Option.isSome_iff_exists.mp (hcard.mpr ⟨line, hget, hblank⟩)
    rw [show r.valueAt? (n - 1) = some card from hvalue] at houtput
    refine ⟨card, (format.valueAt?_eq_some_iff source).mp hvalue, fun hout => ?_,
      fun path files hout hwrite => ?_⟩
    · have he := h.run_of_shown terminal houtput (CompileOptions.show?_of_none hout fs card)
      exact ⟨congrArg Effects.out he, congrArg Effects.files he⟩
    · have he := h.run_of_shown terminal houtput (CompileOptions.show?_of_write hout hwrite)
      exact ⟨congrArg Effects.out he, congrArg Effects.files he⟩
  · have hvalue : r.valueAt? (n - 1) = none := by
      refine Option.not_isSome_iff_eq_none.mp fun hsome => ?_
      obtain ⟨line, hget, hblank⟩ := hcard.mp hsome
      rw [hnone line hget] at hblank
      cases hblank
    rw [hvalue] at houtput
    have he := h.run_of_error terminal houtput
    refine ⟨congrArg Effects.exit he, congrArg Effects.out he, congrArg Effects.files he, ?_⟩
    exact (congrArg Effects.err he).trans (List.append_nil _)

/-- a trigger in the last line -/
theorem Arguments.run_line_of_trigger :
    let source : Text := "# Q\n\n**end**\n"
    let fs : FileSystem := ⟨.directory [("q.md", .file (some source))], []⟩
    let args : List Text := ["compile", "--at", "3", "q.md"]
    let o : CompileOptions := ⟨"q.md", none, none, some 3, false, false, false⟩
    Compiles args fs ⟨false, none, .compile o⟩ o Config.default source ∧
      (Text.lines source)[2]? = some ("**end**" : Text) ∧
      ∃ card, Format.xml.IsCardAt source 2 card ∧ (Arguments.run args true fs).out = card := by
  intro source fs args o
  have h : Compiles args fs ⟨false, none, .compile o⟩ o Config.default source :=
    ⟨by rfl, rfl, by rfl, by rfl⟩
  have hline : (Text.lines source)[2]? = some ("**end**" : Text) := by decide
  obtain ⟨card, hcard, hout, _⟩ := (Arguments.run_line h rfl rfl rfl true).1 _ hline (by decide)
  exact ⟨h, hline, card, hcard, (hout rfl).1⟩

/-- the line 0 counts as the line 1 -/
theorem Arguments.run_line_zero :
    let source : Text := "# Q\n"
    let fs : FileSystem := ⟨.directory [("q.md", .file (some source))], []⟩
    let args : List Text := ["compile", "--at", "0", "q.md"]
    let o : CompileOptions := ⟨"q.md", none, none, some 0, false, false, false⟩
    Compiles args fs ⟨false, none, .compile o⟩ o Config.default source ∧
      (Arguments.run args true fs).exit = 0 ∧
      (Arguments.run args true fs).out = ("<quest title=\"Q\"/>\n" : Text) := by
  intro source fs args o
  exact ⟨⟨by rfl, rfl, by rfl, by rfl⟩, by decide, by decide⟩

/-! ## the exit code -/

namespace FileSystem

/-- a file can be put at the end of a path -/
def CanWrite (fs : FileSystem) (path : Text) : Prop := ∃ t files, fs.write path t = .ok files

/-- **a file is put in its place** whatever is in it -/
theorem CanWrite.exists_names {fs : FileSystem} {path : Text} (h : fs.CanWrite path) :
    ∃ names, ∀ t,
      fs.write path t = .ok { fs with root := fs.root.graft (.file (some t)) names } := by
  obtain ⟨t, files, h⟩ := h
  -- no test on the way to the place looks at the text
  unfold write at h ⊢
  dsimp only at h ⊢
  by_cases hempty : path.isEmpty = true
  · rw [if_pos hempty] at h
    cases h
  · simp only [if_neg hempty, bind, Except.bind, pure, Except.pure] at h ⊢
    split at h
    · cases h
    · split at h
      · split at h
        · cases h
        · next hplain => exact ⟨_, fun t => if_neg hplain⟩
      · cases h

end FileSystem

theorem CompileOptions.exists_shown {o : CompileOptions} {fs : FileSystem} (hline : o.line = none)
    (hout : o.check = false → ∀ path, o.out = some path → fs.CanWrite path) (r : Rendering) :
    ∃ shown out files, o.output r = .ok shown ∧ o.show? fs shown = .ok (out, files) := by
  have hshow (hcheck : o.check = false) (t : Text) :
      ∃ out files, o.show? fs (some t) = .ok (out, files) := by
    cases hpath : o.out with
    | none => exact ⟨t, fs, show?_of_none hpath fs t⟩
    | some path =>
      obtain ⟨names, hwrite⟩ := (hout hcheck path hpath).exists_names
      exact ⟨[], _, show?_of_write hpath (hwrite t)⟩
  unfold output
  rw [hline]
  cases hcheck : o.check with
  | true => exact ⟨none, [], fs, rfl, rfl⟩
  | false =>
    cases o.metadata with
    | true =>
      obtain ⟨out, files, h⟩ := hshow hcheck (Toml.writeEntries r.metadata)
      exact ⟨_, out, files, rfl, h⟩
    | false =>
      obtain ⟨out, files, h⟩ := hshow hcheck r.document
      exact ⟨_, out, files, rfl, h⟩

theorem Categorized.bucket_ofList_eq_nil {ds : List Diagnostic} {s : Severity} :
    (ofList ds).bucket s = [] ↔ ∀ d ∈ (ofList ds).all, d.severity ≠ s := by
  rw [ofList_bucket, List.filter_eq_nil_iff]
  simp only [decide_eq_true_eq, (perm_all_ofList ds).mem_iff]

theorem Categorized.summary_of_no_internal {c : Categorized} (h : c.internal = [])
    (showInternal : Bool) : c.summary showInternal = c.summary true := by
  unfold summary
  rw [h]
  cases showInternal <;> rfl

namespace Format

variable (format : Format) (source : Text)

theorem internal_render : (format.render source).diagnostics.internal = [] := by
  have hall := fun d hd => (format.isAbout_of_mem source (d := d) hd).not_internal
  rw [diagnostics_render] at hall ⊢
  exact Categorized.bucket_ofList_eq_nil.mpr hall

theorem reported_render (showInternal : Bool) :
    (format.render source).reported showInternal = (format.render source).diagnostics.all :=
  List.filter_eq_self.mpr fun d hd => by simp [(format.isAbout_of_mem source hd).not_internal]

/-- **the reports on a script** are the same in both formats, whether or not messages about the render
itself are shown -/
theorem reports_render (file : Text) (colored showInternal : Bool) :
    (format.render source).reports file source colored showInternal =
      (xml.render source).reports file source colored true := by
  have hdiagnostics : (format.render source).diagnostics = (xml.render source).diagnostics :=
    (format.diagnostics_render source).trans (xml.diagnostics_render source).symm
  unfold Rendering.reports
  dsimp only
  rw [reported_render, reported_render, hdiagnostics, blocks_render, blocks_render,
    Categorized.summary_of_no_internal (xml.internal_render source) showInternal]

/-- a script does not fail just if it has no error, and no warning if they are denied -/
theorem failed_render_eq_false (denyWarnings showInternal : Bool) :
    let messages := (format.render source).diagnostics.all
    (format.render source).failed denyWarnings showInternal = false ↔
      (∀ d ∈ messages, d.severity ≠ .error) ∧
        (denyWarnings = true → ∀ d ∈ messages, d.severity ≠ .warning) := by
  intro messages
  have hbucket (s : Severity) : (format.render source).diagnostics.bucket s = [] ↔
      ∀ d ∈ messages, d.severity ≠ s := by
    show _ ↔ ∀ d ∈ (format.render source).diagnostics.all, _
    rw [diagnostics_render]
    exact Categorized.bucket_ofList_eq_nil
  rw [← hbucket .error, ← hbucket .warning]
  unfold Rendering.failed
  rw [internal_render]
  simp [Categorized.bucket]

end Format

/-- **The exit code.**  A command line that compiles a script and does not ask for the card of a line
ends with the exit code 0 or 1.  It is 0 just if the script has no error and, where warnings are
denied, no warning; so it does not depend on what is shown, in which format, or where.  In both
formats, the messages of the script are the same and all of them are reported, whether or not
messages about the render itself are asked for. -/
theorem Arguments.exit_eq_zero_iff {args : List Text} {fs : FileSystem} {i : Invocation}
    {o : CompileOptions} {config : Config} {source : Text}
    (h : Compiles args fs i o config source) (hline : o.line = none)
    (hout : o.check = false → ∀ path, o.out = some path → fs.CanWrite path) (terminal : Bool) :
    let messages := (Format.xml.render source).diagnostics.all
    let e := Arguments.run args terminal fs
    (e.exit = 0 ∨ e.exit = 1) ∧
    (e.exit = 0 ↔ (∀ d ∈ messages, d.severity ≠ .error) ∧
      (o.denyWarnings = true ∨ config.denyWarnings = true →
        ∀ d ∈ messages, d.severity ≠ .warning)) ∧
    ∀ (format : Format) (showInternal : Bool),
      (format.render source).diagnostics.all = messages ∧
      (format.render source).reported showInternal = messages ∧
      e.err = (format.render source).reports o.file source (terminal && !i.noColor) showInternal := by
  intro messages e
  have hmessages (format : Format) : (format.render source).diagnostics.all = messages :=
    congrArg Categorized.all
      ((format.diagnostics_render source).trans (Format.xml.diagnostics_render source).symm)
  obtain ⟨shown, out, files, houtput, hshow⟩ :=
    CompileOptions.exists_shown hline hout ((o.format.getD config.format).render source)
  have he := h.run_of_shown terminal houtput hshow
  have hfailed := Format.failed_render_eq_false (o.format.getD config.format) source
    (o.denyWarnings || config.denyWarnings) config.showInternal
  dsimp only at hfailed
  rw [hmessages, Bool.or_eq_true] at hfailed
  have hexit : e.exit = if ((o.format.getD config.format).render source).failed
      (o.denyWarnings || config.denyWarnings) config.showInternal then 1 else 0 :=
    congrArg Effects.exit he
  refine ⟨?_, ?_, fun format showInternal => ⟨hmessages format, ?_, ?_⟩⟩
  · rw [hexit]
    split
    · exact Or.inr rfl
    · exact Or.inl rfl
  · rw [← hfailed, hexit]
    split
    · next hf => exact iff_of_false Nat.one_ne_zero (by simp [hf])
    · next hf => exact iff_of_true rfl (Bool.eq_false_iff.mpr hf)
  · rw [format.reported_render, hmessages]
  · rw [format.reports_render]
    exact (congrArg Effects.err he).trans (Format.reports_render _ _ _ _ _)

/-- an outline is written to a file, with warnings denied on the command line -/
theorem Arguments.exit_eq_zero_of_outline :
    let source : Text := "# Q\n\nText\n"
    let fs : FileSystem := ⟨.directory [("q.md", .file (some source))], []⟩
    let args : List Text := ["compile", "q.md", "-f", "outline", "-o", "q.txt", "--deny-warnings"]
    let o : CompileOptions := ⟨"q.md", some .outline, some ("q.txt" : Text), none, false, false, true⟩
    Compiles args fs ⟨false, none, .compile o⟩ o Config.default source ∧
      o.line = none ∧ fs.CanWrite "q.txt" ∧ (Arguments.run args true fs).exit = 0 := by
  intro source fs args o
  have h : Compiles args fs ⟨false, none, .compile o⟩ o Config.default source :=
    ⟨by rfl, rfl, by rfl, by rfl⟩
  have hwrite : fs.CanWrite "q.txt" := ⟨[], _, rfl⟩
  have hexit := (Arguments.exit_eq_zero_iff h rfl (fun _ _ hpath => Option.some.inj hpath ▸ hwrite)
    true).2.1.mpr
  exact ⟨h, rfl, hwrite, hexit ⟨by decide, fun _ => by decide⟩⟩

end QuestScript

import ClassChart.CommandLine.Workspace
import ClassChart.Proofs.Verdicts

/-! Verdicts of whole runs. Rendering and checking reach their exit status in different ways, one
through the drawing and one by counting reports, and they agree on every text. A rendering that
fails leaves the files as they were and prints nothing. -/
namespace ClassChart.CommandLine

/-! ## Runs -/

/-- The file that a command writes when it succeeds. -/
def Command.outputFile? : Command → Option String
  | .render _ output .. => filePath? output
  | .check .. => none
  | .tokens .. => none

/-- The arguments ask for this command, and it reads this text. -/
structure Asked (surroundings : Surroundings) (command : Command) (content : String) : Prop where
  arguments : ∃ invocation, readArguments surroundings.arguments = .ok invocation ∧
    invocation.command = command
  reads : surroundings.input command = .ok content

/-- The system takes whatever the command writes. -/
def CanWrite (surroundings : Surroundings) (command : Command) : Prop :=
  ∀ path, command.outputFile? = some path →
    ∀ bytes, ∃ changed, surroundings.workspace.write path bytes = .ok changed

/-- The run ends with the exit status of success. -/
def Succeeds (surroundings : Surroundings) : Prop :=
  ∃ aftermath, surroundings.run = .ok aftermath ∧ aftermath.exitStatus = 0

/-- What a run does is what its command does, apart from notes. -/
theorem run_of_asked (asked : Asked surroundings command content) :
    ∃ notes verbose, surroundings.run =
      .ok (((command.run verbose content).after notes).carryOut surroundings.workspace) := by
  obtain ⟨invocation, arguments, rfl⟩ := asked.arguments
  refine ⟨invocation.opening surroundings.environment, invocation.verbose, ?_⟩
  rw [Surroundings.run, arguments]
  simp only [bind, Except.bind, asked.reads]
  rfl

theorem carry_out_status {outcome : Outcome} {workspace : FileTree}
    (writes : ∀ path text, outcome.saved = some (path, text) →
      ∃ changed, workspace.write path text.toUTF8 = .ok changed) :
    (outcome.carryOut workspace).exitStatus = 0 ↔ outcome.failure = none := by
  have finished (tree : FileTree) :
      (outcome.finish tree outcome.failure).exitStatus = 0 ↔ outcome.failure = none := by
    cases outcome.failure <;> simp [Outcome.finish]
  rw [Outcome.carryOut]
  cases saved : outcome.saved with
  | none => exact finished workspace
  | some file =>
    obtain ⟨path, text⟩ := file
    obtain ⟨changed, written⟩ := writes path text saved
    simp only [written]
    exact finished changed

theorem saved_of_deliver (saved : (deliver output notes printed).saved = some (path, text)) :
    filePath? output = some path := by
  rw [deliver] at saved
  split at saved
  case h_1 file isFile =>
    cases saved
    exact isFile
  case h_2 => cases saved

theorem saved_at_output {command : Command}
    (saved : (command.run verbose content).saved = some (path, text)) :
    command.outputFile? = some path := by
  cases command with
  | render input output strict width height =>
    simp only [Command.run, runRender, Outcome.after] at saved
    split at saved
    case h_1 => cases saved
    case h_2 =>
      split at saved
      case h_1 => cases saved
      case h_2 => exact saved_of_deliver saved
  | check input strict =>
    simp only [Command.run, runCheck, Outcome.after] at saved
    split at saved
    case h_1 => cases saved
    case h_2 => split at saved <;> cases saved
  | tokens input json => exact absurd (saved_of_deliver saved) (by simp [filePath?])

/-- Where everything can be written, a run succeeds unless its command fails. -/
theorem succeeds_iff (asked : Asked surroundings command content)
    (writes : CanWrite surroundings command) :
    ∃ verbose, Succeeds surroundings ↔ (command.run verbose content).failure = none := by
  obtain ⟨notes, verbose, ran⟩ := run_of_asked asked
  refine ⟨verbose, ?_⟩
  have status : (((command.run verbose content).after notes).carryOut
      surroundings.workspace).exitStatus = 0 ↔ (command.run verbose content).failure = none :=
    carry_out_status fun path text saved => writes path (saved_at_output saved) text.toUTF8
  simp [Succeeds, ran, status]

/-! ## Rendering -/

theorem after_deliver (earlier : List String) (output : Option String) (notes : List String)
    (text : String) :
    (deliver output notes text).after earlier = deliver output (earlier ++ notes) text := by
  unfold deliver
  split <;> rfl

/-- A rendering that succeeds delivers its drawing. -/
theorem render_delivers (processed : process geometry strict content = .ok compilation)
    (drawn : compilation.svg = some svg) (output : Option String) (verbose : Bool) :
    ∃ notes, runRender output strict geometry verbose content = deliver output notes svg := by
  rw [runRender, processed]
  simp only [drawn, after_deliver]
  exact ⟨_, rfl⟩

theorem deliver_succeeds (output : Option String) (notes : List String) (text : String) :
    (deliver output notes text).failure = none := by
  unfold deliver
  split <;> rfl

theorem render_fails_iff {output : Option String} {geometry : Geometry} :
    (runRender output strict geometry verbose content).failure = none ↔
      ∃ compilation, process geometry strict content = .ok compilation := by
  cases processed : process geometry strict content with
  | error failure =>
    rw [runRender, processed]
    simp [Outcome.after, Outcome.failed]
  | ok compilation =>
    obtain ⟨svg, drawn⟩ := drawing_of_process processed
    obtain ⟨notes, delivered⟩ := render_delivers processed drawn output verbose
    simp [delivered, deliver_succeeds]

/-- On a canvas that can be drawn on, a full run succeeds unless the source is malformed or a strict
run rejects it. -/
theorem process_succeeds_iff (sound : ¬ Degenerate geometry) :
    (∃ compilation, process geometry strict source = .ok compilation) ↔
      ∃ parsed, parse (scan source).tokens = .ok parsed ∧ ¬ Rejects strict parsed.diagram := by
  constructor
  · rintro ⟨compilation, processed⟩
    have ends := process_ends geometry strict source
    rw [processed] at ends
    cases ends with
    | drawn read accepts => exact ⟨_, read, accepts⟩
  · rintro ⟨parsed, read, accepts⟩
    obtain ⟨svg, -, processed⟩ := process_draws read accepts sound
    exact ⟨_, processed⟩

/-- The sizes that are given are not zero. -/
def Positive (size : Option Nat) : Prop :=
  ∀ given ∈ size, 0 < given

theorem render_geometry_sound (positiveWidth : Positive width) (positiveHeight : Positive height) :
    ¬ Degenerate (renderGeometry width height) := by
  have given {size : Option Nat} (positive : Positive size) {usual : Nat} (usually : 0 < usual) :
      0 < size.getD usual := by
    cases size with
    | none => exact usually
    | some value => exact positive value rfl
  have wide : 0 < width.getD Geometry.standard.width := given positiveWidth (by decide)
  have high : 0 < height.getD Geometry.standard.height := given positiveHeight (by decide)
  have drawable : ¬ Degenerate (Geometry.standard.withCanvas
      (width.getD Geometry.standard.width) (height.getD Geometry.standard.height)) := by
    rintro (narrow | low | flat)
    · exact wide.ne' narrow
    · exact high.ne' low
    · cases flat
  unfold renderGeometry
  split
  case h_1 => exact standard_is_sound
  case h_2 => exact drawable

/-- A run renders the text on a canvas that is not empty, and its output can be written. -/
def Renders (strict : Bool) (content : String) (surroundings : Surroundings) : Prop :=
  ∃ input output width height,
    Asked surroundings (.render input output strict width height) content ∧
      CanWrite surroundings (.render input output strict width height) ∧
      Positive width ∧ Positive height

/-- Rendering succeeds unless the source is malformed or a strict run rejects it. -/
theorem render_succeeds_iff (renders : Renders strict content surroundings) :
    Succeeds surroundings ↔
      ∃ parsed, parse (scan content).tokens = .ok parsed ∧ ¬ Rejects strict parsed.diagram := by
  obtain ⟨input, output, width, height, asked, writes, wide, high⟩ := renders
  obtain ⟨verbose, ends⟩ := succeeds_iff asked writes
  rw [ends, Command.run, render_fails_iff, process_succeeds_iff (render_geometry_sound wide high)]

/-- A rendering of a malformed source, a rejected diagram or an empty canvas leaves only notes. -/
theorem failed_rendering_leaves_nothing
    (asked : Asked surroundings (.render input output strict width height) content)
    (failed : process (renderGeometry width height) strict content = .error reason) :
    ∃ aftermath, surroundings.run = .ok aftermath ∧ aftermath.exitStatus = 1 ∧
      aftermath.standardOutput = "" ∧ aftermath.workspace = surroundings.workspace := by
  obtain ⟨notes, verbose, ran⟩ := run_of_asked asked
  refine ⟨_, ran, ?_⟩
  rw [Command.run, runRender, failed]
  exact ⟨rfl, rfl, rfl⟩

/-! ## Checking -/

theorem check_fails_iff :
    (runCheck strict verbose content).failure = none ↔
      ∃ compilation, compile false content = .ok compilation ∧
        failingCount strict compilation = 0 := by
  rw [runCheck]
  cases compile false content with
  | error failure => simp [Outcome.after]
  | ok compilation =>
    simp only [Outcome.after]
    split
    case isTrue none => simp [none]
    case isFalse some => simp [some]

/-- A run checks the text. -/
def Checks (strict : Bool) (content : String) (surroundings : Surroundings) : Prop :=
  ∃ input, Asked surroundings (.check input strict) content

theorem check_succeeds_iff (checks : Checks strict content surroundings) :
    Succeeds surroundings ↔ ∃ compilation, compile false content = .ok compilation ∧
      failingCount strict compilation = 0 := by
  obtain ⟨input, asked⟩ := checks
  obtain ⟨verbose, ends⟩ := succeeds_iff asked fun path isFile => by cases isFile
  rw [ends, Command.run, check_fails_iff]

theorem compile_lenient_iff :
    compile false source = .ok compilation ↔
      ∃ parsed, parse (scan source).tokens = .ok parsed ∧ compilation = checked source parsed := by
  cases read : parse (scan source).tokens with
  | error error => simp [compile_of_error read]
  | ok parsed => simp [compile_of_acceptance read (lenient_accepts _), eq_comm]

/-- A lenient check passes what a strict rendering accepts. -/
theorem lenient_check_accepts_iff :
    (∃ compilation, compile false source = .ok compilation ∧ failingCount false compilation = 0) ↔
      ∃ parsed, parse (scan source).tokens = .ok parsed ∧ ¬ Rejects true parsed.diagram := by
  constructor
  · rintro ⟨compilation, compiled, none⟩
    obtain ⟨parsed, read, rfl⟩ := compile_lenient_iff.mp compiled
    rw [failingCount, if_neg (by decide), checked_semantic_count read,
      List.length_eq_zero_iff] at none
    exact ⟨parsed, read, fun rejects => rejects.2 none⟩
  · rintro ⟨parsed, read, accepts⟩
    refine ⟨checked source parsed, compile_lenient_iff.mpr ⟨parsed, read, rfl⟩, ?_⟩
    rw [failingCount, if_neg (by decide), checked_semantic_count read, strict_accepts accepts]
    rfl

theorem strict_check_accepts_iff :
    (∃ compilation, compile false source = .ok compilation ∧ failingCount true compilation = 0) ↔
      ∃ compilation, compile false source = .ok compilation ∧ compilation.diagnostics = [] := by
  simp [failingCount]

/-- A text without reports has no problems in its diagram either. -/
theorem clean_accepts (clean : ∃ compilation, compile false source = .ok compilation ∧
      compilation.diagnostics = []) :
    ∃ parsed, parse (scan source).tokens = .ok parsed ∧ ¬ Rejects true parsed.diagram := by
  obtain ⟨compilation, compiled, none⟩ := clean
  obtain ⟨parsed, read, rfl⟩ := compile_lenient_iff.mp compiled
  have nothing := (List.append_eq_nil_iff.mp none).2
  exact ⟨parsed, read, fun rejects => rejects.2 nothing⟩

/-! ## Verdicts -/

/-- The verdicts of four runs on one text. -/
structure VerdictsAgree (content : String)
    (strictRender render check strictCheck : Surroundings) : Prop where
  same : Succeeds strictRender ↔ Succeeds check
  strictest : Succeeds strictCheck → Succeeds strictRender ∧ Succeeds check
  lenient : Succeeds render ↔ ∃ parsed, parse (scan content).tokens = .ok parsed
  clean : Succeeds strictCheck ↔
    ∃ compilation, compile false content = .ok compilation ∧ compilation.diagnostics = []

/-- A strict rendering succeeds on the texts that pass a lenient check, and a strict check passes
fewer still; a rendering that fails has not touched its output. -/
theorem exit_statuses_agree (content : String) :
    (∀ strictRender render check strictCheck, Renders true content strictRender →
        Renders false content render → Checks false content check →
        Checks true content strictCheck →
        VerdictsAgree content strictRender render check strictCheck) ∧
      ∀ surroundings input output strict width height reason,
        Asked surroundings (.render input output strict width height) content →
        process (renderGeometry width height) strict content = .error reason →
        ∃ aftermath, surroundings.run = .ok aftermath ∧ aftermath.exitStatus = 1 ∧
          aftermath.standardOutput = "" ∧ aftermath.workspace = surroundings.workspace := by
  constructor
  · intro strictRender render check strictCheck renders rendersLeniently checks checksStrictly
    have strictly := render_succeeds_iff renders
    have leniently := render_succeeds_iff rendersLeniently
    have checking := check_succeeds_iff checks
    have checkingStrictly := check_succeeds_iff checksStrictly
    rw [lenient_check_accepts_iff] at checking
    rw [strict_check_accepts_iff] at checkingStrictly
    constructor
    · rw [strictly, checking]
    · intro succeeds
      have accepted := clean_accepts (checkingStrictly.mp succeeds)
      exact ⟨strictly.mpr accepted, checking.mpr accepted⟩
    · simpa [lenient_accepts] using leniently
    · exact checkingStrictly
  · intro surroundings input output strict width height reason asked failed
    exact failed_rendering_leaves_nothing asked failed

/-- A run in an empty directory that reads the text from the standard input. -/
def inEmptyDirectory (arguments : List String) (content : String) : Surroundings where
  arguments := arguments
  environment := []
  standardInput := content.toUTF8
  workspace := .directory []

theorem decode_written (text : String) : decodeText text.toUTF8 = .ok text := by
  have valid := text.isValidUTF8
  simp only [decodeText, String.fromUTF8?]
  rw [dif_pos (by simpa using valid)]
  rfl

theorem asked_in_empty_directory (arguments : List String) (content : String)
    (read : readArguments arguments = .ok ⟨command, false, "warn", "compact"⟩)
    (fromStream : command.inputFile? = none) :
    Asked (inEmptyDirectory arguments content) command content where
  arguments := ⟨_, read, rfl⟩
  reads := by
    rw [Surroundings.input, fromStream]
    exact decode_written content

/-- A text with a stray character and no other problem. -/
def stray : String := "@startuml\nclass A $\n@enduml"

def strayParsed : Parsed where
  diagram := ⟨none, [.empty "A"], []⟩
  diagnostics := []

/-- The stray character fails a strict check only, and a canvas without width leaves no file. -/
theorem stray_character_fails_strict_check :
    VerdictsAgree stray (inEmptyDirectory ["render", "--strict", "-o", "a.svg"] stray)
        (inEmptyDirectory ["render", "--width=5"] stray) (inEmptyDirectory ["check"] stray)
        (inEmptyDirectory ["check", "--strict"] stray) ∧
      Succeeds (inEmptyDirectory ["check"] stray) ∧
      ¬ Succeeds (inEmptyDirectory ["check", "--strict"] stray) ∧
      ∃ aftermath, (inEmptyDirectory ["render", "--width=0", "-o", "a.svg"] stray).run =
          .ok aftermath ∧ aftermath.exitStatus = 1 ∧ aftermath.standardOutput = "" ∧
        aftermath.workspace = .directory [] := by
  have read : parse (scan stray).tokens = .ok strayParsed := by decide +kernel
  have problems : strayParsed.diagram.validate = [] := by decide +kernel
  have lexical : (scan stray).diagnostics = [.unexpectedCharacter '$' ⟨2, 9⟩] := by decide +kernel
  have named : filePath? (some "a.svg") = some "a.svg" := by decide +kernel
  have parts : splitPath "a.svg" = ⟨["a.svg"], false⟩ := by decide +kernel
  have writes : CanWrite (inEmptyDirectory ["render", "--strict", "-o", "a.svg"] stray)
      (.render none (some "a.svg") true none none) := by
    intro path isFile bytes
    obtain rfl : "a.svg" = path := Option.some.inj (named.symm.trans isFile)
    refine ⟨.directory [("a.svg", .file bytes)], ?_⟩
    rw [FileTree.write, parts]
    rfl
  have renders : Renders true stray
      (inEmptyDirectory ["render", "--strict", "-o", "a.svg"] stray) :=
    ⟨none, some "a.svg", none, none, asked_in_empty_directory _ _ (by decide +kernel) rfl, writes,
      nofun, nofun⟩
  have rendersLeniently : Renders false stray (inEmptyDirectory ["render", "--width=5"] stray) :=
    ⟨none, none, some 5, none, asked_in_empty_directory _ _ (by decide +kernel) rfl, nofun,
      by simp [Positive], nofun⟩
  have checks : Checks false stray (inEmptyDirectory ["check"] stray) :=
    ⟨none, asked_in_empty_directory _ _ (by decide +kernel) rfl⟩
  have checksStrictly : Checks true stray (inEmptyDirectory ["check", "--strict"] stray) :=
    ⟨none, asked_in_empty_directory _ _ (by decide +kernel) rfl⟩
  have asked : Asked (inEmptyDirectory ["render", "--width=0", "-o", "a.svg"] stray)
      (.render none (some "a.svg") false (some 0) none) stray :=
    asked_in_empty_directory _ _ (by decide +kernel) rfl
  obtain ⟨agree, leaves⟩ := exit_statuses_agree stray
  have verdicts := agree _ _ _ _ renders rendersLeniently checks checksStrictly
  have narrow : Degenerate (renderGeometry (some 0) none) := .inl rfl
  obtain ⟨reason, refused⟩ := process_refuses read (lenient_accepts _) narrow
  refine ⟨verdicts, ?_, ?_, leaves _ _ _ _ _ _ _ asked refused⟩
  · refine verdicts.same.mp ((render_succeeds_iff renders).mpr ⟨strayParsed, read, ?_⟩)
    exact fun rejects => rejects.2 problems
  · rw [verdicts.clean]
    rintro ⟨compilation, compiled, none⟩
    obtain ⟨parsed, -, rfl⟩ := compile_lenient_iff.mp compiled
    rw [checked, lexical] at none
    cases none

end ClassChart.CommandLine

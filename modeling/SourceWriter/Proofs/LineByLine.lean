import SourceWriter.Proofs.Lexical.Rescan
import SourceWriter.Proofs.Writer.Part
import SourceWriter.Reindent

/-! # Reindenting line by line

Reindenting follows the lexical state of what it writes. The same text comes out when every line
is treated on its own (`reindent_eq_lineByLine`): whether it starts in a string literal is found
by reading the lines before it as they were given, and then it either stays as it is or gets the
indentation in front. Neither the indentation nor the line ends that are written instead of those
given make a difference to that, as a line is read from a state at rest.
-/

namespace SourceWriter

/-- Whether the line after these lines starts in a string literal. -/
def startsInString (before : List Text) : Bool :=
  (Lexical.scan .lf {} [] before).inString

/-- The lines of a reindented text: a line that is empty or starts in a string literal stays as it
is, and any other is indented. Only where the whole text is empty, its empty line is indented. -/
def reindentedLines (text : Text) (options : Options) (level : Rat) : List Text :=
  text.lines.mapIdx fun index line =>
    if (line.isEmpty && !text.isEmpty) || startsInString (text.lines.take index) then line
    else options.indentation level ++ line

/-- A line of a text that is not empty, reindented after the lines before it. -/
def reindentedLine (indentation : Text) (before : List Text) (line : Text) : Text :=
  if line.isEmpty || startsInString before then line else indentation ++ line

/-- The lines of a text that is not empty, each reindented after those before it. -/
def laidLines (indentation : Text) (lines : List Text) : List Text :=
  lines.mapIdx fun index line => reindentedLine indentation (lines.take index) line

/-- The lines of a text that is not empty are reindented one by one. -/
theorem reindentedLines_eq_laidLines {text : Text} (nonempty : text ≠ []) (options : Options)
    (level : Rat) :
    reindentedLines text options level = laidLines (options.indentation level) text.lines := by
  have filled : text.isEmpty = false := by simpa using nonempty
  simp [reindentedLines, laidLines, reindentedLine, filled]

/-- One more line is reindented after all the others. -/
theorem laidLines_concat (indentation : Text) (lines : List Text) (line : Text) :
    laidLines indentation (lines ++ [line]) =
      laidLines indentation lines ++ [reindentedLine indentation lines line] := by
  have earlier : lines.mapIdx (fun index earlier =>
        reindentedLine indentation ((lines ++ [line]).take index) earlier) =
      laidLines indentation lines := by
    apply List.mapIdx_eq_mapIdx_iff.mpr
    intro index inside
    rw [List.take_append_of_le_length (Nat.le_of_lt inside)]
  rw [laidLines, List.mapIdx_concat, earlier, List.take_left' rfl]

theorem laidLines_ne_nil {lines : List Text} (nonempty : lines ≠ []) (indentation : Text) :
    laidLines indentation lines ≠ [] := by
  simpa [laidLines] using nonempty

/-- Reading one more line. -/
theorem Lexical.scan_concat {terminator : Terminator} {lines : List Text} (nonempty : lines ≠ [])
    (state : State) (previous line : Text) :
    scan terminator state previous (lines ++ [line]) =
      (scan terminator state previous lines).endLine.feed
        (previous ++ terminator.text.intercalate lines ++ terminator.text) line := by
  rw [← Text.fuse_empty_cons nonempty, scan_fuse nonempty]
  simp only [scan, State.feed_nil, List.append_nil]

namespace Writer

variable {writer : Writer}

/-- A line that is put where a line starts, not inside of a string literal, is indented unless it
is empty. -/
theorem text_putLine (start : writer.atLineStart = true) (line : Text) :
    (writer.putLine line).text =
      writer.text ++
        if line.isEmpty || writer.inString then line else writer.indentation ++ line := by
  cases line with
  | nil => simp [putLine]
  | cons first rest =>
      cases inside : writer.inString <;> simp [putLine, put, startLine, start, inside]

/-- A line is read the same after whatever blanks. -/
theorem lexical_putLine (start : writer.atLineStart = true) (rest : writer.lexical.AtRest)
    {previous : Text} (blank : (Lexical.LookBehind.ofText previous).Blank) (line : Text) :
    (writer.putLine line).lexical = writer.lexical.feed previous line := by
  by_cases empty : line = []
  · subst empty
    rfl
  · simp only [putLine, List.isEmpty_iff, empty, ↓reduceIte, put]
    rw [lexical_append, lexical_startLine]
    exact rest.feedFrom_congr (blank_startLine start) blank line

/-- What a writer has written of a text: the lines of `before`, each of them treated on its own. -/
structure Laid (options : Options) (level : Rat) (before : List Text) (writer : Writer) :
    Prop where
  options_eq : writer.options = options
  level_eq : writer.level = level
  queued_eq : writer.queued = none
  text_eq : writer.text =
    options.terminator.text.intercalate (laidLines (options.indentation level) before)
  lexical_eq : writer.lexical = Lexical.scan .lf {} [] before

namespace Laid

variable {options : Options} {level : Rat} {before : List Text}

/-- Putting a line changes neither options nor levels. -/
theorem putLine_frame (writer : Writer) (line : Text) :
    (writer.putLine line).options = writer.options ∧ (writer.putLine line).level = writer.level ∧
      (writer.putLine line).queued = writer.queued := by
  unfold putLine
  split
  · exact ⟨rfl, rfl, rfl⟩
  · obtain ⟨optionsKept, levelKept, queuedKept, _⟩ := put_frame writer line
    exact ⟨optionsKept, levelKept, queuedKept⟩

theorem first (options : Options) (level : Rat) (line : Text) :
    Laid options level [line] (putLine { options, level } line) := by
  obtain ⟨optionsKept, levelKept, queuedKept⟩ := putLine_frame { options, level } line
  have start : atLineStart { options, level } = true := rfl
  have nothing : (Lexical.LookBehind.ofText []).Blank := Lexical.LookBehind.blank_none none
  refine ⟨optionsKept, levelKept, queuedKept, ?_, ?_⟩
  · rw [text_putLine start]
    exact List.intercalate_singleton.symm
  · exact lexical_putLine start rfl nothing line

/-- One more line, after a line break. -/
theorem next (laid : Laid options level before writer) (nonempty : before ≠ []) (line : Text) :
    Laid options level (before ++ [line]) (writer.breakLine.putLine line) := by
  obtain ⟨optionsKept, levelKept, queuedKept⟩ := putLine_frame writer.breakLine line
  have start : writer.breakLine.atLineStart = true := atLineStart_breakLine writer
  have rest : writer.breakLine.lexical.AtRest := Lexical.State.atRest_endLine _
  have levelSame : writer.breakLine.level = level := by
    rw [breakLine, push, laid.queued_eq, Option.getD_none, laid.level_eq]
  have inside : writer.breakLine.inString = startsInString before := by
    rw [startsInString, ← laid.lexical_eq]
    rfl
  have indentation : writer.breakLine.indentation = options.indentation level := by
    rw [Writer.indentation, levelSame, ← laid.options_eq]
    rfl
  refine ⟨optionsKept.trans laid.options_eq, levelKept.trans levelSame, queuedKept, ?_, ?_⟩
  · rw [laidLines_concat, Text.intercalate_concat (laidLines_ne_nil nonempty _), text_putLine start,
      text_breakLine, laid.text_eq, laid.options_eq, inside, indentation]
    rfl
  · -- The line break before the line need not be the one that was given.
    rw [Lexical.scan_concat nonempty, ← laid.lexical_eq]
    exact lexical_putLine start rest (Terminator.lf.blank_append_text _) line

/-- Laying more lines behind some that are laid lays all of them. -/
theorem putLines (laid : Laid options level before writer) (nonempty : before ≠ [])
    (lines : List Text) : Laid options level (before ++ lines) (writer.putLines lines) := by
  induction lines generalizing before writer with
  | nil =>
      rw [List.append_nil]
      exact laid
  | cons line rest ih =>
      have following := ih (laid.next nonempty line) (List.append_ne_nil_of_left_ne_nil nonempty _)
      rw [List.append_assoc] at following
      exact following

end Laid

/-- A text that is not empty, put at a level into a new writer. -/
theorem text_putText (options : Options) (level : Rat) {text : Text} (nonempty : text ≠ []) :
    (putText { options, level } text).text =
      options.terminator.text.intercalate (laidLines (options.indentation level) text.lines) := by
  rw [putText_eq_putJoined nonempty]
  cases lines : text.lines with
  | nil => exact absurd lines (Text.lines_ne_nil text)
  | cons first rest =>
      exact ((Laid.first options level first).putLines (List.cons_ne_nil _ _) rest).text_eq

end Writer

/-- No line of a reindented text holds a line feed. -/
theorem not_mem_of_mem_reindentedLines {text : Text} {options : Options} {level : Rat}
    {line : Text} (member : line ∈ reindentedLines text options level) : '\n' ∉ line := by
  obtain ⟨index, inside, rfl⟩ := List.mem_mapIdx.mp member
  have clean : '\n' ∉ text.lines[index] := Text.not_mem_of_mem_lines (List.getElem_mem inside)
  split
  · exact clean
  · rw [List.mem_append, not_or]
    exact ⟨Options.not_mem_indentation options level, clean⟩

/-- **Reindenting is done line by line.** The reindented lines, joined by the configured terminator,
are what comes out, and cutting at that terminator gives them back one by one. -/
theorem reindent_eq_lineByLine {options : Options} (valid : options.Valid)
    {indentation : Indentation} {depth : Depth} (accepted : indentation.depth = .ok depth)
    (text : Text) :
    let lines := reindentedLines text options (depth.level options.width)
    reindent text options indentation = .ok (options.terminator.text.intercalate lines) ∧
      options.terminator.cut (options.terminator.text.intercalate lines) = lines := by
  intro lines
  have written : reindent text options indentation =
      .ok (Writer.putText { options, level := depth.level options.width } text).text := by
    rw [reindent, Writer.new_eq_ok_iff.mpr ⟨valid, rfl⟩]
    simp only [Writer.setLevel, accepted]
    rfl
  have noFeeds : ∀ line ∈ lines, '\n' ∉ line := by
    intro line member
    exact not_mem_of_mem_reindentedLines member
  have filled : lines ≠ [] := by
    simpa [lines, reindentedLines] using Text.lines_ne_nil text
  refine ⟨?_, Terminator.cut_intercalate filled noFeeds⟩
  rw [written]
  by_cases empty : text = []
  · subst empty
    have single : lines = [options.indentation (depth.level options.width)] := by
      simp [lines, reindentedLines, Text.lines, startsInString, Lexical.scan,
        Lexical.State.inString]
    have started (writer : Writer) (start : writer.atLineStart && !writer.inString) :
        (writer.putText []).text = writer.text ++ writer.indentation := by
      rw [← Writer.text_push, Writer.putText, Writer.put, Writer.append_nil, Writer.startLine,
        start]
      rfl
    rw [single, List.intercalate_singleton, started _ rfl]
    rfl
  · rw [Writer.text_putText options _ empty, ← reindentedLines_eq_laidLines empty]

/-- The second and third line start in a template literal, the last one in a hole of another. -/
theorem reindent_eq_lineByLine_in_template :
    let options : Options := { terminator := .crlf, tabs := true }
    let indentation : Indentation := .text ['\t', ' ', ' ', ' ']
    let text : Text := "`a\nb\r\n`;\n\n`$\x7b\nc".toList
    let lines := ["\t\t`a", "b", "`;", "", "\t\t`$\x7b", "\t\tc"].map String.toList
    options.Valid ∧ indentation.depth = .ok (.mixed 1 3) ∧
      reindentedLines text options ((Depth.mixed 1 3).level options.width) = lines ∧
      reindent text options indentation = .ok (options.terminator.text.intercalate lines) ∧
      options.terminator.cut (options.terminator.text.intercalate lines) = lines := by
  intro options indentation text lines
  have valid : options.Valid := by decide
  have accepted : indentation.depth = .ok (.mixed 1 3) := rfl
  have laid : reindentedLines text options ((Depth.mixed 1 3).level options.width) = lines := by
    decide +kernel
  have lineByLine := reindent_eq_lineByLine valid accepted text
  rw [laid] at lineByLine
  exact ⟨valid, accepted, laid, lineByLine⟩

end SourceWriter

import SourceWriter.Proofs.Writer.Between

/-! # Outlines

An outline is a tree of lines, and of blocks under headers. Written item by item into a new writer,
it comes out as it would be printed from the tree alone: a line for each item at its depth, a block
as its header with an opening brace, what is in it one level deeper, and a closing brace on a line
of its own (`Outline.text_run_eq_printout`). After a block a line break is owed and after a line it
has been written, which makes no difference once a writer has settled. So an item is said to put
whole lines behind a settled text (`Outline.prints_run`).
-/

namespace SourceWriter

namespace Terminator

/-- Lines with the terminator after each of them. -/
def endLines (terminator : Terminator) (lines : List Text) : Text :=
  (lines.map (· ++ terminator.text)).flatten

@[simp] theorem endLines_nil (terminator : Terminator) : terminator.endLines [] = [] := rfl

@[simp] theorem endLines_cons (terminator : Terminator) (line : Text) (rest : List Text) :
    terminator.endLines (line :: rest) = line ++ terminator.text ++ terminator.endLines rest := rfl

@[simp] theorem endLines_append (terminator : Terminator) (first second : List Text) :
    terminator.endLines (first ++ second) =
      terminator.endLines first ++ terminator.endLines second := by
  simp [endLines]

/-- Lines that are all ended are joined by the terminator, with one more at the end. -/
theorem endLines_eq_intercalate {lines : List Text} (nonempty : lines ≠ [])
    (terminator : Terminator) :
    terminator.endLines lines = terminator.text.intercalate lines ++ terminator.text := by
  induction lines with
  | nil => contradiction
  | cons line rest ih =>
      by_cases last : rest = []
      · subst last
        simp
      · rw [endLines_cons, ih last, List.intercalate_cons_of_ne_nil last]
        simp only [List.append_assoc]

end Terminator

/-- A tree of lines and blocks. -/
inductive Outline where
  | done
  | line (text : Text) (rest : Outline)
  /-- A block behind its header, and what follows it. -/
  | block (header : Text) (body rest : Outline)
  deriving DecidableEq

namespace Outline

/-- The texts are single lines without quotes, and a header is set off from its brace by the one
space that the block writes. -/
def Plain : Outline → Prop
  | .done => True
  | .line text rest => text.Quoteless ∧ rest.Plain
  | .block header body rest =>
    (header.Quoteless ∧ header ≠ [] ∧ header.getLast? ≠ some ' ') ∧ body.Plain ∧ rest.Plain

instance : DecidablePred Plain := decidablePlain
where
  decidablePlain : (outline : Outline) → Decidable outline.Plain
    | .done => inferInstanceAs (Decidable True)
    | .line text rest =>
      have := decidablePlain rest
      inferInstanceAs (Decidable (text.Quoteless ∧ rest.Plain))
    | .block header body rest =>
      have := decidablePlain body
      have := decidablePlain rest
      inferInstanceAs (Decidable
        ((header.Quoteless ∧ header ≠ [] ∧ header.getLast? ≠ some ' ') ∧ body.Plain ∧ rest.Plain))

/-- Writes the items one after the other. -/
def program : Outline → Program
  | .done => .done
  | .line text rest => .act (.writeLine text) rest.program
  | .block header body rest => .act (.write header) (.within .block body.program rest.program)

/-- The texts of the lines, without headers. -/
def texts : Outline → List Text
  | .done => []
  | .line text rest => text :: rest.texts
  | .block _ body rest => body.texts ++ rest.texts

/-- The lines of an outline as they are printed. -/
def lines (options : Options) (depth : Nat) : Outline → List Text
  | .done => []
  | .line text rest => (options.units depth ++ text) :: rest.lines options depth
  | .block header body rest =>
    (options.units depth ++ header ++ [' ', '{']) :: body.lines options (depth + 1) ++
      (options.units depth ++ ['}']) :: rest.lines options depth

/-- Whether the last item is a line. -/
def endsInLine : Outline → Bool
  | .done => false
  | .line _ .done => true
  | .line _ rest => rest.endsInLine
  | .block _ _ rest => rest.endsInLine

/-- The lines joined by the terminator, which also ends the last one if its item is a line. -/
def printout (options : Options) (depth : Nat) (outline : Outline) : Text :=
  options.terminator.text.intercalate (outline.lines options depth) ++
    if outline.endsInLine then options.terminator.text else []

variable {options : Options} {depth : Nat}

theorem lines_ne_nil {outline : Outline} (nonempty : outline ≠ .done) (options : Options)
    (depth : Nat) : outline.lines options depth ≠ [] := by
  cases outline with
  | done => contradiction
  | line text rest => exact List.cons_ne_nil _ _
  | block header body rest => exact List.cons_ne_nil _ _

/-- No line of a plain outline holds a line feed. -/
theorem not_mem_of_mem_lines {outline : Outline} (plain : outline.Plain) {line : Text}
    (member : line ∈ outline.lines options depth) : '\n' ∉ line := by
  induction outline generalizing depth with
  | done => contradiction
  | line text rest ih =>
      obtain ⟨quoteless, restPlain⟩ := plain
      rcases List.mem_cons.mp member with rfl | later
      · simp [options.not_mem_units, quoteless.noFeed]
      · exact ih restPlain later
  | block header body rest body_ih rest_ih =>
      obtain ⟨⟨quoteless, _⟩, bodyPlain, restPlain⟩ := plain
      rcases List.mem_append.mp member with opening | closing
      · rcases List.mem_cons.mp opening with rfl | inside
        · simp [options.not_mem_units, quoteless.noFeed]
        · exact body_ih bodyPlain inside
      · rcases List.mem_cons.mp closing with rfl | later
        · simp [options.not_mem_units]
        · exact rest_ih restPlain later

/-- Only a line whose text is blank is printed as a blank line. -/
theorem exists_text_of_blank {outline : Outline} {line : Text}
    (member : line ∈ outline.lines options depth)
    (blank : ∀ character ∈ line, Lexical.isBlank character = true) :
    ∃ text ∈ outline.texts, ∃ inner, line = options.units (depth + inner) ++ text := by
  induction outline generalizing depth with
  | done => contradiction
  | line text rest ih =>
      rcases List.mem_cons.mp member with rfl | later
      · exact ⟨text, List.mem_cons_self, 0, rfl⟩
      · obtain ⟨found, present, inner, same⟩ := ih later
        exact ⟨found, List.mem_cons_of_mem text present, inner, same⟩
  | block header body rest body_ih rest_ih =>
      rcases List.mem_append.mp member with opening | closing
      · rcases List.mem_cons.mp opening with rfl | inside
        · have brace := blank '{' (by simp)
          contradiction
        · obtain ⟨found, present, inner, same⟩ := body_ih inside
          refine ⟨found, List.mem_append_left _ present, 1 + inner, ?_⟩
          rw [same, Nat.add_assoc]
      · rcases List.mem_cons.mp closing with rfl | later
        · have brace := blank '}' (by simp)
          contradiction
        · obtain ⟨found, present, inner, same⟩ := rest_ih later
          exact ⟨found, List.mem_append_right _ present, inner, same⟩

/-- Between two lines, a plain outline puts its lines behind what is there, each with its end. -/
theorem prints_run {outline : Outline} (plain : outline.Plain) {writer : Writer}
    (between : writer.Between options depth) :
    (outline.program.run writer).Between options depth ∧
      (outline.program.run writer).settle.text =
        writer.settle.text ++ options.terminator.endLines (outline.lines options depth) := by
  induction outline generalizing depth writer with
  | done =>
      rw [lines, Terminator.endLines_nil, List.append_nil]
      exact ⟨between, rfl⟩
  | line text rest ih =>
      obtain ⟨quoteless, restPlain⟩ := plain
      obtain ⟨written, writtenText⟩ := between.writeLine quoteless
      obtain ⟨after, afterText⟩ := ih restPlain written
      refine ⟨after, ?_⟩
      calc
        (rest.program.run (writer.writeLine text)).settle.text =
            (writer.writeLine text).settle.text ++
              options.terminator.endLines (rest.lines options depth) := afterText
        _ = writer.settle.text ++
              options.terminator.endLines ((line text rest).lines options depth) := by
            rw [writtenText, lines, Terminator.endLines_cons]
            simp only [List.append_assoc]
  | block header body rest body_ih rest_ih =>
      obtain ⟨⟨quoteless, nonempty, unspaced⟩, bodyPlain, restPlain⟩ := plain
      obtain ⟨entered, enteredText⟩ := between.enterBlock quoteless nonempty unspaced
      obtain ⟨finished, finishedText⟩ := body_ih bodyPlain entered
      have filled : (body.program.run
          (Scope.block.enter (writer.write header))).settle.text ≠ [] := by
        rw [finishedText, enteredText]
        simp
      obtain ⟨left, leftText⟩ := finished.leaveBlock filled (writer.write header)
      obtain ⟨after, afterText⟩ := rest_ih restPlain left
      refine ⟨after, ?_⟩
      calc
        (rest.program.run (Scope.block.leave (writer.write header)
            (body.program.run (Scope.block.enter (writer.write header))))).settle.text =
          _ := afterText
        _ = writer.settle.text ++
              options.terminator.endLines ((block header body rest).lines options depth) := by
            rw [leftText, finishedText, enteredText, lines, Terminator.endLines_append,
              Terminator.endLines_cons, Terminator.endLines_cons]
            simp only [List.append_assoc]

/-- A line break is owed after a block, and none after a line. -/
theorem owesLine_run {outline : Outline} (nonempty : outline ≠ .done) (writer : Writer) :
    (outline.program.run writer).owesLine = !outline.endsInLine := by
  induction outline generalizing writer with
  | done => contradiction
  | line text rest ih =>
      cases rest with
      | done => rfl
      | line => exact ih (by simp) _
      | block => exact ih (by simp) _
  | block header body rest _ ih =>
      cases rest with
      | done => rfl
      | line => exact ih (by simp) _
      | block => exact ih (by simp) _

/-- What a plain outline leaves in a new writer, at the level it was set to. -/
theorem text_run_leveled {outline : Outline} (plain : outline.Plain) (options : Options)
    (depth : Nat) :
    (outline.program.run { options, level := depth }).text = outline.printout options depth := by
  have between : Writer.Between options depth { options, level := depth } :=
    ⟨⟨rfl, rfl, rfl⟩, rfl⟩
  obtain ⟨after, printed⟩ := prints_run plain between
  by_cases empty : outline = .done
  · subst empty
    rfl
  · have owes := owesLine_run empty { options, level := depth }
    have ends := Terminator.endLines_eq_intercalate (lines_ne_nil empty options depth)
      options.terminator
    cases last : outline.endsInLine with
    | true =>
        rw [last] at owes
        rw [Writer.settle_of_settled owes, ends] at printed
        rw [printed, printout, last, if_pos rfl]
        rfl
    | false =>
        -- The line break that is still owed is the end of the last line.
        rw [last] at owes
        rw [Writer.text_settle_of_owes owes, after.options_eq, ends, ← List.append_assoc] at printed
        rw [List.append_cancel_right printed, printout, last]
        simp only [Bool.false_eq_true, ↓reduceIte, List.append_nil]
        rfl

/-- The terminators of a printout end its lines, and nothing else. -/
theorem cut_printout {outline : Outline} (plain : outline.Plain) (nonempty : outline ≠ .done)
    (options : Options) (depth : Nat) :
    options.terminator.cut (outline.printout options depth) =
      outline.lines options depth ++ if outline.endsInLine then [[]] else [] := by
  have cut : options.terminator.cut
      (options.terminator.text.intercalate (outline.lines options depth)) =
        outline.lines options depth := by
    apply Terminator.cut_intercalate (lines_ne_nil nonempty options depth)
    intro line member
    exact not_mem_of_mem_lines plain member
  cases last : outline.endsInLine with
  | true => simp only [printout, last, ↓reduceIte, Terminator.cut_append_text, cut]
  | false => simp only [printout, last, Bool.false_eq_true, ↓reduceIte, List.append_nil, cut]

/-- **Outlines print as they are.** At every level that is accepted, a new writer comes to hold the
printout of a plain outline. The terminators in it end the lines of the outline, one by one, and no
line is blank but those whose own text is. -/
theorem text_run_eq_printout {options : Options} (valid : options.Valid) {level : Nat}
    (accepted : level ≤ maxLevel) {outline : Outline} (plain : outline.Plain) :
    (∃ fresh leveled, Writer.new options = .ok fresh ∧ fresh.setLevel (.level level) = .ok leveled ∧
      (outline.program.run leveled).text = outline.printout options level) ∧
    (outline ≠ .done → options.terminator.cut (outline.printout options level) =
      outline.lines options level ++ if outline.endsInLine then [[]] else []) ∧
    ∀ line ∈ outline.lines options level,
      (∀ character ∈ line, Lexical.isBlank character = true) →
        ∃ text ∈ outline.texts, ∃ inner, line = options.units (level + inner) ++ text := by
  refine ⟨?_, ?_, ?_⟩
  · have created : Writer.new options = .ok { options } := Writer.new_eq_ok_iff.mpr ⟨valid, rfl⟩
    exact ⟨{ options }, { options, level }, created,
      Writer.setLevel_of_le_maxLevel accepted _,
      text_run_leveled plain options level⟩
  · intro nonempty
    exact cut_printout plain nonempty options level
  · intro line member blank
    exact exists_text_of_blank member blank

/-- Blocks with nothing in them, in a row and at the end of a block, and an empty line. -/
theorem text_run_eq_printout_nested :
    let options : Options := { terminator := .crlf, width := 2 }
    let inner : Outline := .line [] (.block ['c'] .done .done)
    let outline : Outline := .block ['a'] .done (.block ['b'] inner (.line ['/', '*'] .done))
    options.Valid ∧ 1 ≤ maxLevel ∧ outline.Plain ∧
      outline.lines options 1 =
        ["  a \x7b", "  \x7d", "  b \x7b", "    ", "    c \x7b", "    \x7d", "  \x7d",
          "  /*"].map String.toList ∧
      (∃ fresh leveled, Writer.new options = .ok fresh ∧ fresh.setLevel (.level 1) = .ok leveled ∧
        (outline.program.run leveled).text = outline.printout options 1) ∧
      options.terminator.cut (outline.printout options 1) = outline.lines options 1 ++ [[]] ∧
      ∃ text ∈ outline.texts, ∃ inner, "    ".toList = options.units (1 + inner) ++ text := by
  intro options inner outline
  have valid : options.Valid := by decide
  have accepted : 1 ≤ maxLevel := by decide
  have plain : outline.Plain := by decide +kernel
  have lines : outline.lines options 1 =
      ["  a \x7b", "  \x7d", "  b \x7b", "    ", "    c \x7b", "    \x7d", "  \x7d",
        "  /*"].map String.toList := by
    decide +kernel
  obtain ⟨printed, cut, blank⟩ := text_run_eq_printout valid accepted plain
  have member : "    ".toList ∈ outline.lines options 1 := by
    rw [lines]
    decide +kernel
  have spaces : "    ".toList.all Lexical.isBlank = true := rfl
  exact ⟨valid, accepted, plain, lines, printed, cut (by decide),
    blank _ member (List.all_eq_true.mp spaces)⟩

end Outline

end SourceWriter

import SourceWriter.Proofs.Writer.Balance

/-! # Between two lines

A string is the only thing that a text can open and that is then seen in how lines are indented. As
long as no quote is written, every line that is started gets its indentation, and a writer between
two lines is known by its options and its level alone. Three steps lead from there to between two
lines again: a line of its own (`Writer.Between.writeLine`), a header with the opening brace of a
block behind it (`Writer.Between.enterBlock`), and the closing brace (`Writer.Between.leaveBlock`).
For each of them it is stated what it puts behind the settled text.
-/

namespace SourceWriter

open Lexical (Quote)

/-- A text of one line that opens no string. -/
structure Text.Quoteless (text : Text) : Prop where
  noFeed : '\n' ∉ text
  noQuote : ∀ character ∈ text, Quote.ofChar? character = none

theorem Text.quoteless_iff {text : Text} :
    text.Quoteless ↔
      (text.all fun character =>
        character != '\n' && (Quote.ofChar? character).isNone) = true := by
  simp only [List.all_eq_true, Bool.and_eq_true, bne_iff_ne, Option.isNone_iff_eq_none]
  constructor
  · rintro ⟨noFeed, noQuote⟩ character member
    exact ⟨fun feed => noFeed (feed ▸ member), noQuote character member⟩
  · intro clean
    exact ⟨fun feed => (clean '\n' feed).1 rfl, fun character member => (clean character member).2⟩

instance (text : Text) : Decidable text.Quoteless :=
  decidable_of_iff _ Text.quoteless_iff.symm

namespace Lexical.State

theorem contexts_nest (state : State) (code : state.contexts = []) {current : Char}
    (noQuote : Quote.ofChar? current = none) (last : Option Char) :
    (state.nest last current).contexts = [] := by
  simp only [nest, inString, code, Bool.false_eq_true, ↓reduceIte]
  split
  · rfl
  · simp [contextsAfter, noQuote]

/-- Only a quote leads from code into a string. -/
theorem contexts_update {state : State} (code : state.contexts = []) {current : Char}
    (noQuote : Quote.ofChar? current = none) (behind : LookBehind) :
    (state.update behind current).contexts = [] := by
  simp only [update, advance]
  split
  · split
    · exact contexts_nest { state with inRegex := false } code noQuote behind.last
    · exact code
  · split
    · split
      · exact code
      · exact contexts_nest state code noQuote behind.last
    · exact code

/-- A text without quotes opens no literal. -/
theorem contexts_feedFrom {state : State} (code : state.contexts = []) {text : Text}
    (noQuote : ∀ character ∈ text, Quote.ofChar? character = none) (behind : LookBehind) :
    (state.feedFrom behind text).contexts = [] := by
  induction text generalizing state behind with
  | nil => exact code
  | cons current rest ih =>
      have first : Quote.ofChar? current = none := noQuote current List.mem_cons_self
      apply ih (contexts_update code first behind)
      intro character member
      exact noQuote character (List.mem_cons_of_mem current member)

end Lexical.State

namespace Writer

theorem setLevel_of_le_maxLevel {level : Nat} (accepted : level ≤ maxLevel) (writer : Writer) :
    writer.setLevel (.level level) = .ok { writer with level } := by
  have depth : (Indentation.level level).depth = .ok (.whole level) := by
    rw [Indentation.depth, if_neg (by omega), if_neg (by omega), Int.toNat_natCast]
  rw [setLevel, depth]
  rfl

/-- A writer in code, where no string is open, with so many whole levels and none queued. -/
structure InCode (options : Options) (depth : Nat) (writer : Writer) : Prop where
  options_eq : writer.options = options
  levels_eq : writer.levels = ((depth : Rat), none)
  contexts_eq : writer.lexical.contexts = []

/-- A writer between two lines, once it has settled. -/
structure Between (options : Options) (depth : Nat) (writer : Writer) : Prop
    extends InCode options depth writer where
  start : writer.settle.atLineStart = true

variable {options : Options} {depth : Nat} {writer : Writer}

namespace InCode

theorem inString (code : writer.InCode options depth) : writer.inString = false := by
  rw [Writer.inString, Lexical.State.inString, code.contexts_eq]

theorem indentation (code : writer.InCode options depth) :
    writer.indentation = options.units depth := by
  have level : writer.level = depth := congrArg Prod.fst code.levels_eq
  rw [Writer.indentation, level, code.options_eq, Options.indentation_natCast]

/-- Marks keep options and levels, so that only the contexts are left to look at. -/
theorem marks (code : writer.InCode options depth) {after : Writer} (marks : Marks writer after)
    (contexts : after.lexical.contexts = []) : after.InCode options depth := by
  have unqueued : writer.queued = none := congrArg Prod.snd code.levels_eq
  exact ⟨marks.strokes.options_eq.trans code.options_eq,
    (marks.levels_eq unqueued).trans code.levels_eq, contexts⟩

theorem newLine (code : writer.InCode options depth) : writer.newLine.InCode options depth :=
  code.marks writer.marks_newLine code.contexts_eq

theorem settle (code : writer.InCode options depth) : writer.settle.InCode options depth := by
  unfold Writer.settle
  split
  · exact code.newLine
  · exact code

/-- A part without quotes keeps to code. -/
theorem put (code : writer.InCode options depth) (settled : writer.owesLine = false) {part : Text}
    (quoteless : part.Quoteless) : (writer.put part).InCode options depth := by
  apply code.marks (.single (.put settled quoteless.noFeed))
  rw [Writer.put, lexical_append, lexical_startLine]
  exact Lexical.State.contexts_feedFrom code.contexts_eq quoteless.noQuote _

theorem raised (code : writer.InCode options depth) : writer.raised.InCode options (depth + 1) := by
  refine ⟨code.options_eq, ?_, code.contexts_eq⟩
  obtain ⟨level, queued⟩ := Prod.mk.inj code.levels_eq
  rw [levels, Writer.raised, level, queued, Nat.cast_succ]

theorem leaveBlock (code : writer.InCode options (depth + 1)) :
    writer.leaveBlock.InCode options depth := by
  refine ⟨code.options_eq, ?_, code.contexts_eq⟩
  apply levels_leaveBlock (Nat.cast_nonneg depth)
  rw [code.levels_eq, Nat.cast_succ]

/-- A part that is put where a line starts is indented. -/
theorem text_put (code : writer.InCode options depth) (start : writer.atLineStart = true)
    (part : Text) : (writer.put part).text = writer.text ++ (options.units depth ++ part) := by
  rw [Writer.put, text_append, startLine, start, code.inString]
  simp only [Bool.not_false, Bool.and_self, ↓reduceIte, text_push, code.indentation,
    List.append_assoc]

end InCode

/-! ### What the steps come to -/

theorem endsLine_of_atLineStart (start : writer.atLineStart = true) (filled : writer.text ≠ []) :
    writer.endsLine = true := by
  have written : writer.isEmpty = false := by
    rw [isEmpty_eq_isEmpty_text]
    simpa using filled
  rwa [atLineStart, written, Bool.false_or] at start

/-- At the start of a line, the first included, there is no line to be ended. -/
theorem startLine_unneeded (settled : writer.owesLine = false) (start : writer.atLineStart = true) :
    (if writer.isEmpty then writer else writer.newLineIfLastNot) = writer := by
  by_cases empty : writer.isEmpty = true
  · rw [if_pos empty]
  · have ended : writer.endsLine = true := by simpa [atLineStart, empty] using start
    simp only [empty, newLineIfLastNot, settle_of_settled settled, ended, Bool.false_eq_true,
      ↓reduceIte]

theorem setOff_of_started (settled : writer.owesLine = false) (started : writer.atLineStart = false)
    (unspaced : writer.endsSpace = false) : writer.setOff = writer.append [' '] := by
  simp only [setOff, settle_of_settled settled, started, spaceIfLastNot, unspaced,
    Bool.false_eq_true, ↓reduceIte]
  exact putText_of_started started (by simp)

/-- On a line that is started, a brace is appended and a line begun one level higher. -/
theorem openBrace_of_started (settled : writer.owesLine = false)
    (started : writer.atLineStart = false) :
    writer.openBrace = (writer.append ['{']).newLine.raised := by
  have braced : writer.write ['{'] = writer.append ['{'] := by
    rw [write, settle_of_settled settled, putText_of_started started (by simp)]
  have settledStill : (writer.append ['{']).owesLine = false := settled
  have filled : (writer.append ['{']).isEmpty = false := by
    rw [isEmpty_eq_isEmpty_text, text_append]
    simp
  have unended : (writer.append ['{']).endsLine = false :=
    endsLine_append (by simp) (by simp) writer
  rw [openBrace, settle_of_settled settled, braced]
  simp only [enterBlock, filled, newLineIfLastNot, settle_of_settled settledStill, unended,
    Bool.false_eq_true, ↓reduceIte, raised]

/-- A block behind a header: its brace goes on with the line of the header. -/
theorem enter_block_of_started (settled : writer.owesLine = false)
    (started : writer.atLineStart = false) (unspaced : writer.endsSpace = false) :
    Scope.block.enter writer = (writer.append [' ', '{']).newLine.raised := by
  have spaced : (writer.append [' ']).atLineStart = false :=
    atLineStart_append (by simp) (by simp) writer
  calc
    Scope.block.enter writer = (writer.append [' ']).openBrace := by
        rw [Scope.enter, setOff_of_started settled started unspaced]
    _ = ((writer.append [' ']).append ['{']).newLine.raised := openBrace_of_started settled spaced
    _ = (writer.append [' ', '{']).newLine.raised := by
        rw [append_append]
        rfl

/-- Lowering the level and settling then writes the same as settling alone. -/
theorem written_settle_leaveBlock (writer : Writer) :
    writer.leaveBlock.settle.written = writer.settle.written := by
  cases owes : writer.owesLine <;> simp [settle, leaveBlock, owes, newLine, breakLine, push]

/-- Where the last line of a block has been ended, its closing brace starts a line. -/
theorem closeBrace_of_start (start : writer.leaveBlock.settle.atLineStart = true)
    (filled : writer.leaveBlock.settle.text ≠ []) :
    writer.closeBrace = writer.leaveBlock.settle.put ['}'] := by
  have ended : writer.leaveBlock.settle.endsLine = true := endsLine_of_atLineStart start filled
  rw [closeBrace, newLineIfLastNot, if_pos ended, write, settle_of_settled (owesLine_settle _),
    putText_of_not_mem (by decide)]

/-! ### What the steps put behind the text -/

/-- A brace behind a header leaves the lines of the block to come. -/
theorem InCode.enterBlock (code : writer.InCode options depth) (settled : writer.owesLine = false)
    (started : writer.atLineStart = false) (unspaced : writer.endsSpace = false) :
    (Scope.block.enter writer).Between options (depth + 1) ∧
      (Scope.block.enter writer).settle.text =
        writer.text ++ ([' ', '{'] ++ options.terminator.text) := by
  have braced : (writer.append [' ', '{']).InCode options depth := by
    rw [← put_of_started started]
    exact code.put settled (by decide)
  rw [enter_block_of_started settled started unspaced]
  refine ⟨⟨braced.newLine.raised, atLineStart_breakLine _⟩, ?_⟩
  calc
    (writer.append [' ', '{']).newLine.raised.settle.text
      = (writer.append [' ', '{']).newLine.text := rfl
    _ = writer.text ++ ([' ', '{'] ++ options.terminator.text) := by
        rw [text_newLine, braced.options_eq, text_append, List.append_assoc]

namespace Between

/-- A line between two lines. -/
theorem writeLine (between : writer.Between options depth) {text : Text}
    (quoteless : text.Quoteless) :
    (writer.writeLine text).Between options depth ∧
      (writer.writeLine text).settle.text =
        writer.settle.text ++ (options.units depth ++ text ++ options.terminator.text) := by
  have settled : writer.settle.owesLine = false := owesLine_settle writer
  have written : writer.writeLine text = (writer.settle.put text).newLine := by
    simp only [Writer.writeLine, startLine_unneeded settled between.start,
      putText_of_not_mem quoteless.noFeed]
  have code : (writer.settle.put text).InCode options depth :=
    between.settle.put settled quoteless
  rw [written]
  refine ⟨⟨code.newLine, atLineStart_breakLine _⟩, ?_⟩
  calc
    (writer.settle.put text).newLine.settle.text = (writer.settle.put text).newLine.text := rfl
    _ = writer.settle.text ++ (options.units depth ++ text ++ options.terminator.text) := by
        rw [text_newLine, code.options_eq, between.settle.text_put between.start]
        simp only [List.append_assoc]

/-- A header between two lines, with an opening brace behind it. -/
theorem enterBlock (between : writer.Between options depth) {header : Text}
    (quoteless : header.Quoteless) (nonempty : header ≠ [])
    (unspaced : header.getLast? ≠ some ' ') :
    (Scope.block.enter (writer.write header)).Between options (depth + 1) ∧
      (Scope.block.enter (writer.write header)).settle.text = writer.settle.text ++
        (options.units depth ++ header ++ [' ', '{'] ++ options.terminator.text) := by
  have settled : writer.settle.owesLine = false := owesLine_settle writer
  have written : writer.write header = writer.settle.put header :=
    putText_of_not_mem quoteless.noFeed _
  have headed : (writer.settle.put header).owesLine = false := by
    rw [(put_frame _ _).2.2.2, settled]
  have endsUnspaced : (writer.settle.put header).endsSpace = false := by
    rw [endsSpace, put, lastChar_append nonempty]
    simpa using unspaced
  have code : (writer.settle.put header).InCode options depth :=
    between.settle.put settled quoteless
  obtain ⟨entered, text⟩ :=
    code.enterBlock headed (atLineStart_append nonempty quoteless.noFeed _) endsUnspaced
  rw [written]
  refine ⟨entered, ?_⟩
  rw [text, between.settle.text_put between.start]
  simp only [List.append_assoc]

/-- The closing brace of a block in which something has been written. -/
theorem leaveBlock {finished : Writer} (between : finished.Between options (depth + 1))
    (filled : finished.settle.text ≠ []) (entry : Writer) :
    (Scope.block.leave entry finished).Between options depth ∧
      (Scope.block.leave entry finished).settle.text = finished.settle.text ++
        (options.units depth ++ ['}'] ++ options.terminator.text) := by
  have written := finished.written_settle_leaveBlock
  have text : finished.leaveBlock.settle.text = finished.settle.text :=
    congrArg List.reverse written
  have start : finished.leaveBlock.settle.atLineStart = true := by
    rw [atLineStart, isEmpty, endsLine, lastChar, written]
    exact between.start
  have lowered : finished.leaveBlock.settle.InCode options depth :=
    between.toInCode.leaveBlock.settle
  have closed : finished.closeBrace = finished.leaveBlock.settle.put ['}'] :=
    closeBrace_of_start start (text ▸ filled)
  have code : finished.closeBrace.InCode options depth := by
    rw [closed]
    exact lowered.put (owesLine_settle _) (by decide)
  have owes : (Scope.block.leave entry finished).owesLine = true := rfl
  refine ⟨⟨⟨code.options_eq, code.levels_eq, code.contexts_eq⟩, atLineStart_breakLine _⟩, ?_⟩
  calc
    (Scope.block.leave entry finished).settle.text
      = finished.closeBrace.text ++ options.terminator.text := by
        rw [text_settle_of_owes owes, ← code.options_eq]
        rfl
    _ = finished.settle.text ++ (options.units depth ++ ['}'] ++ options.terminator.text) := by
        rw [closed, lowered.text_put start, text]
        simp only [List.append_assoc]

end Between

end Writer

end SourceWriter

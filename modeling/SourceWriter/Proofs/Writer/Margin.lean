import SourceWriter.Proofs.Writer.Part

/-! # Margins and lines

Between two characters that matter, a writer stands at one of three kinds of places. At the margin
(`Writer.AtMargin`) its line has nothing but blanks yet: there it may break lines, indent and put
more blanks without its lexical state noticing. After a space or tab (`Writer.AfterSpace`) it may
put more of these. Anywhere else inside of a line (`Writer.InLine`) every character counts.
-/

namespace SourceWriter.Writer

open Lexical

/-- The characters to look back at from the end of the text. -/
def behind (writer : Writer) : LookBehind :=
  .ofText writer.text

/-- A writer at rest in this state, with a blank to look back at. -/
structure AtMargin (writer : Writer) (state : State) : Prop where
  lexical_eq : writer.lexical = state
  atRest : state.AtRest
  blank : writer.behind.Blank

/-- A writer that looks back at a space or tab, which a backslash may have escaped. -/
structure AfterSpace (writer : Writer) (state : State) : Prop where
  lexical_eq : writer.lexical.forgetEscaped = state
  unescaping : state.escaping = false
  space : writer.lastChar = some ' ' ∨ writer.lastChar = some '\t'

/-- A writer inside of a line, where no query for line breaks holds. -/
structure InLine (writer : Writer) : Prop where
  started : writer.atLineStart = false
  unblank : writer.endsBlankLine = false

/-! ### Looking back -/

theorem last_behind (writer : Writer) : writer.behind.last = writer.lastChar :=
  writer.lastChar_eq_getLast?.symm

/-- After blanks there is a blank to look back at, or what was there before them. -/
theorem blank_push {writer : Writer} (blank : writer.behind.Blank) {part : Text}
    (blanks : ∀ character ∈ part, isBlank character = true) : (writer.push part).behind.Blank := by
  rw [behind, text_push]
  apply LookBehind.blank_ofText_append blanks
  intro _
  exact blank

theorem blank_breakLine (writer : Writer) : writer.breakLine.behind.Blank := by
  rw [behind, text_breakLine]
  exact writer.options.terminator.blank_append_text writer.text

/-- Where a writer has ended a line, it is at the margin. -/
theorem atMargin_newLine (writer : Writer) : writer.newLine.AtMargin writer.lexical.endLine :=
  ⟨rfl, State.atRest_endLine _, blank_breakLine { writer with owesLine := false }⟩

namespace AtMargin

variable {writer : Writer} {state : State}

/-- Levels and line breaks that are owed make no difference. -/
theorem arrange (margin : writer.AtMargin state) (level : Rat) (queued : Option Rat)
    (owesLine onFirstLine : Bool) :
    AtMargin { writer with level, queued, owesLine, onFirstLine } state :=
  ⟨margin.lexical_eq, margin.atRest, margin.blank⟩

/-- At the margin no regular expression is open that a line feed could end. -/
theorem goesOn (margin : writer.AtMargin state) :
    writer.lexical.inRegex = true → writer.behind.last ≠ some '\n' := by
  intro inside
  rw [margin.lexical_eq, margin.atRest.inRegex] at inside
  contradiction

/-- Another line break leaves the writer at the margin. -/
theorem newLine (margin : writer.AtMargin state) : writer.newLine.AtMargin state := by
  have unmoved : writer.lexical.endLine = state := by
    rw [margin.lexical_eq]
    exact margin.atRest
  simpa only [unmoved] using writer.atMargin_newLine

/-- A writer at a margin stays there over the line break that may be owed. -/
theorem settle (margin : writer.AtMargin state) : writer.settle.AtMargin state := by
  unfold Writer.settle
  split
  · exact margin.newLine
  · exact margin

theorem newLineIfLastNot (margin : writer.settle.AtMargin state) :
    writer.newLineIfLastNot.AtMargin state := by
  simp only [Writer.newLineIfLastNot]
  split
  · exact margin
  · exact margin.newLine

/-- Indentation leaves the writer at the margin. -/
theorem startLine (margin : writer.AtMargin state) : writer.startLine.AtMargin state := by
  unfold Writer.startLine
  split
  · refine ⟨margin.lexical_eq, margin.atRest, ?_⟩
    apply blank_push margin.blank
    intro character member
    exact Options.isBlank_of_mem_indentation member
  · exact margin

/-- Blanks leave the writer at the margin. -/
theorem append (margin : writer.AtMargin state) {part : Text}
    (blanks : ∀ character ∈ part, isBlank character = true) :
    (writer.append part).AtMargin state := by
  refine ⟨?_, margin.atRest, blank_push margin.blank blanks⟩
  rw [lexical_append, margin.lexical_eq]
  exact margin.atRest.feedFrom_blank margin.blank blanks

/-- Spaces and tabs leave the writer at the margin, and so does the indentation before them. -/
theorem putText (margin : writer.AtMargin state) {part : Text}
    (spaces : ∀ character ∈ part, character = ' ' ∨ character = '\t') :
    (writer.putText part).AtMargin state := by
  rw [putText_of_not_mem (Text.not_mem_of_spaces spaces)]
  apply margin.startLine.append
  intro character member
  exact isBlank_of_space (spaces character member)

theorem padWith (margin : writer.AtMargin state) {character : Char}
    (space : character = ' ' ∨ character = '\t') : (writer.padWith character).AtMargin state := by
  unfold Writer.padWith
  split
  · exact margin
  · apply margin.putText
    intro other member
    rwa [List.mem_singleton.mp member]

end AtMargin

namespace AfterSpace

variable {writer : Writer} {state : State}

/-- After a space or tab the writer is inside of a line. -/
theorem inLine (spaced : writer.AfterSpace state) : writer.InLine := by
  obtain ⟨character, space, before, written⟩ :
      ∃ character, (character = ' ' ∨ character = '\t') ∧
        ∃ before, writer.written = character :: before := by
    rcases spaced.space with last | last
    · exact ⟨' ', .inl rfl, List.head?_eq_some_iff.mp last⟩
    · exact ⟨'\t', .inr rfl, List.head?_eq_some_iff.mp last⟩
  constructor
  · rcases space with rfl | rfl <;> simp [atLineStart, isEmpty, endsLine, lastChar, written]
  · rcases space with rfl | rfl <;> simp [endsBlankLine, startsBlankLine, written]

/-- There is a blank to look back at, and it is no line feed. -/
theorem blank (spaced : writer.AfterSpace state) : writer.behind.Blank := by
  intro character last
  rw [last_behind] at last
  rcases spaced.space with final | final
  · obtain rfl := Option.some.inj (final.symm.trans last)
    rfl
  · obtain rfl := Option.some.inj (final.symm.trans last)
    rfl

/-- No line feed ends a regular expression there. -/
theorem goesOn (spaced : writer.AfterSpace state) :
    writer.lexical.inRegex = true → writer.behind.last ≠ some '\n' := by
  intro _
  rw [last_behind]
  rcases spaced.space with last | last <;> simp [last]

end AfterSpace

/-- Spaces and tabs put inside of a line close a regular expression that its slash has ended, and
nothing else. -/
theorem afterSpace_putText {writer : Writer} (started : writer.atLineStart = false) {part : Text}
    (nonempty : part ≠ []) (spaces : ∀ character ∈ part, character = ' ' ∨ character = '\t') :
    (writer.putText part).AfterSpace (writer.lexical.spaced writer.lastChar) := by
  rw [putText_of_started started (Text.not_mem_of_spaces spaces)]
  refine ⟨?_, rfl, ?_⟩
  · rw [lexical_append, State.forgetEscaped_feed_spaces nonempty spaces, lastChar_eq_getLast?]
  · obtain ⟨last, ends⟩ := Option.isSome_iff_exists.mp (List.getLast?_isSome.mpr nonempty)
    rw [lastChar_append nonempty, ends]
    rcases spaces last (List.mem_of_getLast? ends) with rfl | rfl
    · exact .inl rfl
    · exact .inr rfl

/-- More spaces and tabs change nothing. -/
theorem AfterSpace.putText {writer : Writer} {state : State} (spaced : writer.AfterSpace state)
    {part : Text} (nonempty : part ≠ [])
    (spaces : ∀ character ∈ part, character = ' ' ∨ character = '\t') :
    (writer.putText part).AfterSpace state := by
  have unended : writer.lexical.regexEnded writer.lastChar = false := by
    rcases spaced.space with last | last <;> simp [State.regexEnded, last]
  have unescaping : writer.lexical.escaping = false :=
    (congrArg State.escaping spaced.lexical_eq).trans spaced.unescaping
  have appended := afterSpace_putText spaced.inLine.started nonempty spaces
  rwa [State.spaced_eq_self unescaping unended, spaced.lexical_eq] at appended

/-- Padding keeps a writer behind a space. -/
theorem AfterSpace.padWith {writer : Writer} {state : State} (spaced : writer.AfterSpace state)
    {character : Char} (space : character = ' ' ∨ character = '\t') :
    (writer.padWith character).AfterSpace state := by
  unfold Writer.padWith
  split
  · exact spaced
  · apply spaced.putText (List.cons_ne_nil _ _)
    intro other member
    rwa [List.mem_singleton.mp member]

/-! ### Inside of a line -/

/-- A text, read backwards, starts with an empty line after some more characters of one line only
if these are carriage returns. -/
theorem startsBlankLine_append {part : Text} (noFeed : '\n' ∉ part) (reversed : Text) :
    startsBlankLine (part ++ reversed) =
      (part.all (· == '\r') && startsBlankLine reversed) := by
  induction part with
  | nil => rfl
  | cons character rest ih =>
      obtain ⟨inLine, later⟩ := not_or.mp (mt List.mem_cons.mpr noFeed)
      by_cases carriage : character = '\r'
      · subst carriage
        exact ih later
      · have kept : (character == '\r') = false := beq_false_of_ne carriage
        rw [List.all_cons, kept, Bool.false_and, Bool.false_and, List.cons_append, startsBlankLine,
          List.dropWhile_cons_of_neg (by simpa using carriage)]
        split
        · rename_i feed
          exact absurd (List.cons.inj feed).1.symm inLine
        · rfl

/-- A part of one line ends no empty line unless it is made of carriage returns. -/
theorem endsBlankLine_append {part : Text} (noFeed : '\n' ∉ part) (writer : Writer) :
    (writer.append part).endsBlankLine =
      (part.all (· == '\r') && writer.endsBlankLine) := by
  have reversed := startsBlankLine_append (mt List.mem_reverse.mp noFeed) writer.written
  rwa [List.all_reverse] at reversed

/-- A character that is not blank puts the writer inside of a line. -/
theorem inLine_append {part : Text} (noFeed : '\n' ∉ part) {character : Char}
    (member : character ∈ part) (visible : isBlank character = false) (writer : Writer) :
    (writer.append part).InLine := by
  refine ⟨atLineStart_append (List.ne_nil_of_mem member) noFeed writer, ?_⟩
  have other : part.all (· == '\r') = false := by
    refine List.all_eq_false.mpr ⟨character, member, ?_⟩
    rintro same
    obtain rfl := beq_iff_eq.mp same
    contradiction
  rw [endsBlankLine_append noFeed, other, Bool.false_and]

namespace InLine

variable {writer : Writer}

theorem unended (inside : writer.InLine) : writer.endsLine = false :=
  (Bool.or_eq_false_iff.mp inside.started).2

theorem filled (inside : writer.InLine) : writer.isEmpty = false :=
  (Bool.or_eq_false_iff.mp inside.started).1

/-- A part of one line leaves the writer inside of a line. -/
theorem append (inside : writer.InLine) {part : Text} (nonempty : part ≠ [])
    (noFeed : '\n' ∉ part) : (writer.append part).InLine := by
  refine ⟨atLineStart_append nonempty noFeed writer, ?_⟩
  rw [endsBlankLine_append noFeed, inside.unblank, Bool.and_false]

end InLine

end SourceWriter.Writer

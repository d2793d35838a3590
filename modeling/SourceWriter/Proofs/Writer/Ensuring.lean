import SourceWriter.Proofs.Writer.Owed

/-! # Making sure of how the text ends

Four operations write a space, a tab, a line break or an empty line unless the text ends in one.
Three of them settle the line break that is owed and then ask, so that what they make sure of holds
afterwards, nothing is owed, and there is nothing left to do the second time
(`Writer.ensures_settlingUnless`). The fourth asks first: behind an empty line with nothing but
carriage returns after it, which still counts as one, it leaves what is owed
(`Writer.ensures_iff`).
-/

namespace SourceWriter.Writer

/-- The operation makes sure of what is asked: afterwards it holds and no line break is owed, so
that the operation has nothing left to do. -/
structure Ensures (operation : Writer → Writer) (query : Writer → Bool) (writer : Writer) :
    Prop where
  holds : query (operation writer) = true
  settled : (operation writer).owesLine = false
  again : operation (operation writer) = operation writer

variable {writer : Writer}

/-- Settles what is owed, and then takes a step unless what is asked holds already. -/
def settlingUnless (query : Writer → Bool) (step : Writer → Writer) (writer : Writer) : Writer :=
  if query writer.settle then writer.settle else step writer.settle

/-- What its step makes sure of, such an operation makes sure of. -/
theorem ensures_settlingUnless {query : Writer → Bool} (step : Writer → Writer)
    (made : ∀ settled : Writer, settled.owesLine = false →
      query (step settled) = true ∧ (step settled).owesLine = false) (writer : Writer) :
    Ensures (settlingUnless query step) query writer := by
  have done : query (settlingUnless query step writer) = true ∧
      (settlingUnless query step writer).owesLine = false := by
    unfold settlingUnless
    split
    · rename_i holds
      exact ⟨holds, owesLine_settle writer⟩
    · exact made _ (owesLine_settle writer)
  obtain ⟨holds, settled⟩ := done
  refine ⟨holds, settled, ?_⟩
  -- Nothing is owed and what is asked holds, so the second time both tests come out empty.
  rw [settlingUnless, settle_of_settled settled, if_pos holds]

/-! ### Spaces, tabs and line breaks -/

theorem lastChar_putText {part : Text} (nonempty : part ≠ []) (noFeed : '\n' ∉ part)
    (writer : Writer) : (writer.putText part).lastChar = part.getLast? := by
  rw [putText_of_not_mem noFeed, put, lastChar_append nonempty]

theorem ensures_spaceIfLastNot (writer : Writer) : Ensures spaceIfLastNot endsSpace writer := by
  apply ensures_settlingUnless fun settled => settled.putText [' ']
  intro settled owes
  rw [endsSpace, lastChar_putText (by decide) (by decide), owesLine_putText]
  exact ⟨rfl, owes⟩

theorem ensures_tabIfLastNot (writer : Writer) : Ensures tabIfLastNot endsTab writer := by
  apply ensures_settlingUnless fun settled => settled.putText ['\t']
  intro settled owes
  rw [endsTab, lastChar_putText (by decide) (by decide), owesLine_putText]
  exact ⟨rfl, owes⟩

theorem ensures_newLineIfLastNot (writer : Writer) : Ensures newLineIfLastNot endsLine writer := by
  apply ensures_settlingUnless newLine
  intro settled _
  exact ⟨endsLine_of_text settled.text_newLine, rfl⟩

/-! ### Empty lines -/

/-- A text, read backwards, starts with an empty line if it has two line feeds with nothing but
carriage returns before them. -/
theorem startsBlankLine_iff {reversed : Text} :
    startsBlankLine reversed = true ↔ ∃ after between before : Text,
      (∀ character ∈ after ++ between, character = '\r') ∧
        reversed = after ++ '\n' :: (between ++ '\n' :: before) := by
  have skip {returns : Text} (only : ∀ character ∈ returns, character = '\r') (rest : Text) :
      (returns ++ '\n' :: rest).dropWhile (· == '\r') = '\n' :: rest := by
    rw [List.dropWhile_append_of_pos fun character member => beq_iff_eq.mpr (only character member)]
    rfl
  have skipped (text : Text) : ∀ character ∈ text.takeWhile (· == '\r'), character = '\r' := by
    intro character member
    simpa using List.mem_takeWhile_imp member
  constructor
  · intro starts
    unfold startsBlankLine at starts
    split at starts
    · next rest first =>
        obtain ⟨before, second⟩ := List.head?_eq_some_iff.mp (beq_iff_eq.mp starts)
        refine ⟨reversed.takeWhile (· == '\r'), rest.takeWhile (· == '\r'), before, ?_, ?_⟩
        · intro character member
          exact (List.mem_append.mp member).elim (skipped _ character) (skipped _ character)
        · rw [← second, List.takeWhile_append_dropWhile, ← first, List.takeWhile_append_dropWhile]
    · contradiction
  · rintro ⟨after, between, before, only, rfl⟩
    obtain ⟨afterOnly, betweenOnly⟩ := List.forall_mem_append.mp only
    rw [startsBlankLine, skip afterOnly]
    simp only [skip betweenOnly, List.head?_cons, BEq.rfl]

/-- A text ends in an empty line exactly if two line feeds are at its end, with nothing but carriage
returns between and behind them. -/
theorem endsBlankLine_iff :
    writer.endsBlankLine = true ↔ ∃ before between after : Text,
      (∀ character ∈ between ++ after, character = '\r') ∧
        writer.text = before ++ '\n' :: (between ++ '\n' :: after) := by
  rw [endsBlankLine, startsBlankLine_iff]
  constructor
  · rintro ⟨after, between, before, only, written⟩
    refine ⟨before.reverse, between.reverse, after.reverse, ?_, ?_⟩
    · intro character member
      apply only
      simpa [or_comm] using member
    · rw [text, written]
      simp
  · rintro ⟨before, between, after, only, shown⟩
    refine ⟨after.reverse, between.reverse, before.reverse, ?_, ?_⟩
    · intro character member
      apply only
      simpa [or_comm] using member
    · have written : writer.written = writer.text.reverse := by rw [text, List.reverse_reverse]
      rw [written, shown]
      simp

/-- A line break behind another one ends an empty line. -/
theorem endsBlankLine_newLine (ended : writer.endsLine = true) :
    writer.newLine.endsBlankLine = true := by
  obtain ⟨before, written⟩ := List.head?_eq_some_iff.mp (beq_iff_eq.mp ended)
  have shown : writer.text = before.reverse ++ ['\n'] := by
    rw [text, written, List.reverse_cons]
  rw [endsBlankLine_iff, text_newLine, shown]
  cases writer.options.terminator with
  | lf => exact ⟨before.reverse, [], [], by simp, by simp [Terminator.text]⟩
  | crlf => exact ⟨before.reverse, ['\r'], [], by simp, by simp [Terminator.text]⟩

/-- The text ends in an empty line afterwards in any case. -/
theorem endsBlankLine_blankLineIfLastNot (writer : Writer) :
    writer.blankLineIfLastNot.endsBlankLine = true := by
  unfold blankLineIfLastNot
  split
  · assumption
  · exact endsBlankLine_newLine writer.ensures_newLineIfLastNot.holds

/-- Only an empty line that is there already keeps what is owed. -/
theorem owesLine_blankLineIfLastNot (writer : Writer) :
    writer.blankLineIfLastNot.owesLine = (writer.endsBlankLine && writer.owesLine) := by
  unfold blankLineIfLastNot
  split
  · next blank => rw [blank, Bool.true_and]
  · next other =>
      rw [Bool.not_eq_true] at other
      rw [other, Bool.false_and]
      rfl

/-- **Making sure of how the text ends.** A space, a tab or a line break is made sure of wherever
the writer is. An empty line is there after it was asked for, and asking again changes nothing; but
it is made sure of, with no line break owed, exactly if none is owed behind an empty line and some
carriage returns. -/
theorem ensures_iff (reachable : writer.Reachable) :
    Ensures spaceIfLastNot endsSpace writer ∧ Ensures tabIfLastNot endsTab writer ∧
      Ensures newLineIfLastNot endsLine writer ∧
      writer.blankLineIfLastNot.endsBlankLine = true ∧
      writer.blankLineIfLastNot.blankLineIfLastNot = writer.blankLineIfLastNot ∧
      (Ensures blankLineIfLastNot endsBlankLine writer ↔
        ¬ (writer.owesLine = true ∧ ∃ before between after : Text, after ≠ [] ∧
          (∀ character ∈ between ++ after, character = '\r') ∧
            writer.text = before ++ '\n' :: (between ++ '\n' :: after))) := by
  have blank := writer.endsBlankLine_blankLineIfLastNot
  have again : writer.blankLineIfLastNot.blankLineIfLastNot = writer.blankLineIfLastNot := by
    rw [blankLineIfLastNot, if_pos blank]
  refine ⟨writer.ensures_spaceIfLastNot, writer.ensures_tabIfLastNot,
    writer.ensures_newLineIfLastNot, blank, again, ?_⟩
  have left := writer.owesLine_blankLineIfLastNot
  constructor
  · rintro ⟨_, settled, _⟩ ⟨owes, before, between, after, _, only, shown⟩
    have ends : writer.endsBlankLine = true :=
      endsBlankLine_iff.mpr ⟨before, between, after, only, shown⟩
    rw [left, ends, owes] at settled
    contradiction
  · intro unowed
    refine ⟨blank, ?_, again⟩
    rw [left, Bool.and_eq_false_iff, ← Bool.not_eq_true, ← Bool.not_eq_true, ← not_and_or]
    rintro ⟨ends, owes⟩
    obtain ⟨before, between, after, only, shown⟩ := endsBlankLine_iff.mp ends
    refine unowed ⟨owes, before, between, after, ?_, only, shown⟩
    -- Without the carriage returns the text would end in a line feed, where nothing is owed.
    rintro rfl
    have ended : writer.text = before ++ '\n' :: between ++ Terminator.lf.text := by
      simpa [Terminator.text] using shown
    exact absurd (endsLine_of_text ended) (Bool.eq_false_iff.mp (reachable.unended owes))

/-- A line break that is owed in a block comment, with an indentation of tabs. -/
theorem ensures_in_comment :
    let body : Program := .act (.write "/* a\r".toList) .done
    let writer := (Program.within .indentBlock body .done).run
      { options := { terminator := .crlf, tabs := true } }
    writer.Reachable ∧ writer.owesLine = true ∧ writer.inComment = true ∧
      Ensures tabIfLastNot endsTab writer ∧ Ensures blankLineIfLastNot endsBlankLine writer ∧
      writer.tabIfLastNot.text = "\t/* a\r\r\n\t".toList ∧
      writer.blankLineIfLastNot.text = "\t/* a\r\r\n\r\n".toList := by
  intro body writer
  have created : Writer.new { terminator := .crlf, tabs := true } = .ok _ := rfl
  have reachable : writer.Reachable := .run created (.within .indentBlock body .done)
  have owes : writer.owesLine = true := by decide +kernel
  obtain ⟨_, tab, _, _, _, blankLine⟩ := ensures_iff reachable
  have unowed : ¬ (writer.owesLine = true ∧ ∃ before between after : Text, after ≠ [] ∧
      (∀ character ∈ between ++ after, character = '\r') ∧
        writer.text = before ++ '\n' :: (between ++ '\n' :: after)) := by
    rintro ⟨_, before, between, after, _, only, shown⟩
    have ends := endsBlankLine_iff.mpr ⟨before, between, after, only, shown⟩
    exact absurd ends (by decide +kernel)
  exact ⟨reachable, owes, by decide +kernel, tab, blankLine.mpr unowed, by decide +kernel,
    by decide +kernel⟩

/-- An indent block that ends in a carriage return behind an empty line owes a line break, which an
empty line that is asked for leaves to what is written next. -/
theorem not_forall_ensures :
    (¬ ∀ writer : Writer, writer.Reachable → Ensures blankLineIfLastNot endsBlankLine writer) ∧
    let body : Program := .act (.setLevel (.level 0)) (.act (.write ['\n', '\n', '\r']) .done)
    let writer := (Program.within .indentBlock body .done).run { options := {} }
    writer.blankLineIfLastNot = writer ∧
      (writer.blankLineIfLastNot.write ['x']).text = ['\n', '\n', '\r', '\n', 'x'] := by
  refine ⟨?_, by decide +kernel, by decide +kernel⟩
  intro always
  let body : Program := .act (.setLevel (.level 0)) (.act (.write ['\n', '\n', '\r']) .done)
  have created : Writer.new {} = .ok { options := {} } := rfl
  have ensured := always _ (.run created (.within .indentBlock body .done))
  exact absurd ensured.settled (by decide +kernel)

end SourceWriter.Writer

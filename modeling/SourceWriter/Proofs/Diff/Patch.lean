import Mathlib.Data.List.Basic
import SourceWriter.Diff.Unified
import SourceWriter.Proofs.Diff.Hunks

/-! # Applying patches

A patch is read line by line, strictly (`Patch.apply`). Hunks have to stand in order, each where its
header says on both sides, and to have as many lines as it says. Every line that is common or
removed has to be the next old line, down to its last character. A note that a line is not ended
takes the line feed off that line, and a line feed alone is an empty common line.

Hunks that turn one list of lines into another one, written out, are followed to the second list
(`Patch.State.foldlM_turns`).
-/

namespace SourceWriter

open Diff

namespace Patch

/-- A range of lines, as a header names it. -/
structure Range where
  start : Nat
  length : Nat
  deriving DecidableEq

/-- How many lines lie before a range. Lines count from one, and an empty range is named by the line
before it. -/
def Range.before? : Range → Option Nat
  | ⟨start, 0⟩ => some start
  | ⟨0, _ + 1⟩ => none
  | ⟨start + 1, _ + 1⟩ => some start

/-- Reads the digits at the start of a text, of which there has to be one. -/
def readNumber (text : Text) : Option (Nat × Text) :=
  let digits := text.takeWhile Char.isDigit
  if digits = [] then none
  else some (Nat.ofDigitChars 10 digits 0, text.dropWhile Char.isDigit)

/-- Reads a range. A length that is left out is one. -/
def readRange (text : Text) : Option (Range × Text) :=
  (readNumber text).bind fun (start, rest) =>
    match rest with
    | ',' :: more => (readNumber more).map fun (length, rest) => (⟨start, length⟩, rest)
    | _ => some (⟨start, 1⟩, rest)

/-- Reads the header of a hunk: its old range and its new one. -/
def readHeader (line : Text) : Option (Range × Range) :=
  ((line.dropPrefix? "@@ -".toList).bind readRange).bind fun (old, rest) =>
    ((rest.dropPrefix? " +".toList).bind readRange).bind fun (new, rest) =>
      if rest = " @@\n".toList then some (old, new) else none

/-- Reads a marked line. -/
def readLine : Text → Option (Mark × Text)
  | ['\n'] => some (.context, ['\n'])
  | ' ' :: line => some (.context, line)
  | '-' :: line => some (.removed, line)
  | '+' :: line => some (.added, line)
  | _ => none

/-- The note that the line before it is not ended. -/
def note : Text :=
  "\\ No newline at end of file\n".toList

/-- Lines without the notes, and without the line feeds that the notes are about. -/
def heedNotes : List Text → List Text
  | line :: next :: rest =>
    if next = note then line.dropLast :: heedNotes rest else line :: heedNotes (next :: rest)
  | lines => lines

/-- The lines of a patch. -/
def lines (patch : Text) : List Text :=
  heedNotes patch.endedLines

/-- How far a patch is applied. -/
structure State where
  /-- How many old lines were taken. -/
  taken : Nat := 0
  /-- The old lines that are left. -/
  rest : List Text
  result : List Text := []
  /-- How many old lines, and how many new ones, the hunk still has to have. -/
  oldLeft : Nat := 0
  newLeft : Nat := 0
  deriving DecidableEq

namespace State

/-- Takes an old line, which has to be this one. -/
def remove (state : State) (line : Text) : Option State :=
  if 0 < state.oldLeft ∧ state.rest.head? = some line then
    some { state with
      taken := state.taken + 1, rest := state.rest.tail, oldLeft := state.oldLeft - 1 }
  else none

/-- Gives out a new line, of which the hunk has to have one left. -/
def add (state : State) (line : Text) : Option State :=
  if 0 < state.newLeft then
    some { state with result := state.result ++ [line], newLeft := state.newLeft - 1 }
  else none

/-- Does what a marked line says: a common line is taken and given out again. -/
def follow (state : State) (line : Text) : Mark → Option State
  | .context => (state.remove line).bind (add · line)
  | .removed => state.remove line
  | .added => state.add line

/-- Starts a hunk, after all lines up to it. -/
def enter (state : State) (old new : Range) : Option State :=
  match old.before?, new.before? with
  | some oldBefore, some newBefore =>
    let skipped := oldBefore - state.taken
    if state.taken ≤ oldBefore ∧ skipped ≤ state.rest.length ∧
        newBefore = state.result.length + skipped then
      some {
        taken := oldBefore
        rest := state.rest.drop skipped
        result := state.result ++ state.rest.take skipped
        oldLeft := old.length
        newLeft := new.length }
    else none
  | _, _ => none

/-- Follows a line of a patch. Between hunks it has to be a header. -/
def step (state : State) (line : Text) : Option State :=
  if state.oldLeft = 0 ∧ state.newLeft = 0 then
    (readHeader line).bind fun (old, new) => state.enter old new
  else (readLine line).bind fun (mark, line) => state.follow line mark

/-- The result, and all lines after the last hunk, which has to be complete. -/
def finish (state : State) : Option (List Text) :=
  if state.oldLeft = 0 ∧ state.newLeft = 0 then some (state.result ++ state.rest) else none

end State

/-- Applies a patch to a text. -/
def apply (patch original : Text) : Option Text :=
  match lines patch with
  | old :: new :: body =>
    if "--- ".toList <+: old ∧ "+++ ".toList <+: new then
      ((body.foldlM State.step { rest := original.endedLines }).bind State.finish).map List.flatten
    else none
  | _ => none

/-- What is not ended in the text has to be so in the patch. -/
example : apply "--- a\n+++ b\n@@ -1 +1 @@\n-x\n+y\n".toList ['x'] = none := by
  decide +kernel

/-- The header of a hunk. -/
def header (hunk : Hunk) : Text :=
  "@@ -".toList ++ range hunk.oldStart hunk.oldLength ++ " +".toList ++
    range hunk.newStart hunk.newLength ++ " @@\n".toList

/-- A marked line, without a note. -/
def markedLine (line : Mark × Text) : Text :=
  markText line.1 line.2 ++ line.2

/-- A number is read as it was written, if no digit follows. -/
theorem readNumber_decimal (number : Nat) {rest : Text}
    (ended : rest.head?.all fun character => !character.isDigit) :
    readNumber (decimal number ++ rest) = some (number, rest) := by
  have digits : ∀ character ∈ decimal number, character.isDigit = true := fun character member =>
    Nat.isDigit_of_mem_toDigits (by decide) (by decide) member
  have none : rest.takeWhile Char.isDigit = [] ∧ rest.dropWhile Char.isDigit = rest := by
    cases rest with
    | nil => exact ⟨rfl, rfl⟩
    | cons first others =>
        have other : first.isDigit = false := by simpa using ended
        simp [other]
  unfold readNumber
  rw [List.takeWhile_append_of_pos digits, List.dropWhile_append_of_pos digits, none.1, none.2,
    List.append_nil]
  simp [decimal, Nat.toDigits_ne_nil, Nat.ofDigitChars_ten_toDigits]

/-- A range is read as it was written, if neither a digit nor a comma follows. -/
theorem readRange_range (start length : Nat) {rest : Text}
    (ended : rest.head?.all fun character => !character.isDigit)
    (single : rest.head? ≠ some ',') :
    readRange (range start length ++ rest) =
      some (⟨if length = 0 then start else start + 1, length⟩, rest) := by
  by_cases one : length = 1
  · subst one
    rw [range, if_pos rfl, List.append_nil, readRange, readNumber_decimal _ ended]
    cases rest with
    | nil => rfl
    | cons first others =>
        have other : first ≠ ',' := by simpa using single
        simp [other]
  · rw [range, if_neg one, List.append_assoc, readRange, readNumber_decimal _ (by simp)]
    simp [readNumber_decimal _ ended]

/-- How many lines lie before a range can be told from how it is written. -/
theorem before?_range (start length : Nat) :
    Range.before? ⟨if length = 0 then start else start + 1, length⟩ = some start := by
  cases length <;> rfl

/-- The header of a hunk says what lies before it and how long it is, on both sides. -/
theorem readHeader_header (hunk : Hunk) :
    ∃ old new, readHeader (header hunk) = some (old, new) ∧
      old.before? = some hunk.oldStart ∧ old.length = hunk.oldLength ∧
      new.before? = some hunk.newStart ∧ new.length = hunk.newLength := by
  refine ⟨_, _, ?_, before?_range hunk.oldStart hunk.oldLength, rfl,
    before?_range hunk.newStart hunk.newLength, rfl⟩
  let oldRange := range hunk.oldStart hunk.oldLength
  let newRange := range hunk.newStart hunk.newLength
  have written : header hunk =
      "@@ -".toList ++ (oldRange ++ (" +".toList ++ (newRange ++ " @@\n".toList))) := by
    change "@@ -".toList ++ oldRange ++ " +".toList ++ newRange ++ " @@\n".toList = _
    simp only [List.append_assoc]
  have afterMark (mark rest : Text) : (mark ++ rest).dropPrefix? mark = some rest :=
    List.dropPrefix?_append_of_beq rest (by simp)
  have old : readRange (oldRange ++ (" +".toList ++ (newRange ++ " @@\n".toList))) = some _ :=
    readRange_range _ _ (by simp) (by simp)
  have new : readRange (newRange ++ " @@\n".toList) = some _ :=
    readRange_range _ _ (by simp) (by simp)
  simp only [written, readHeader, afterMark, Option.bind_some, old, new, if_true]

/-- A line is read back with its mark, an empty one without a mark included. -/
theorem readLine_markedLine (line : Mark × Text) : readLine (markedLine line) = some line := by
  obtain ⟨mark, text⟩ := line
  cases mark with
  | context =>
    by_cases empty : text = ['\n']
    · subst empty
      rfl
    · simp [markedLine, markText, empty, readLine]
  | removed => rfl
  | added => rfl

namespace State

variable {state : State} {others : List Text}

/-- A marked line is followed if it comes next on the old side, and the hunk is to have it. -/
theorem step_markedLine (line : Mark × Text) {oldMore newMore : Nat}
    (next : state.rest = shown .old [line] ++ others)
    (oldLeft : state.oldLeft = (shown .old [line]).length + oldMore)
    (newLeft : state.newLeft = (shown .new [line]).length + newMore) :
    state.step (markedLine line) = some {
      taken := state.taken + (shown .old [line]).length
      rest := others
      result := state.result ++ shown .new [line]
      oldLeft := oldMore
      newLeft := newMore } := by
  obtain ⟨mark, text⟩ := line
  obtain ⟨taken, rest, result, oldCount, newCount⟩ := state
  subst next oldLeft newLeft
  have alone (mark : Mark) (side : Side) :
      shown side [(mark, text)] = if mark.isOn side then [text] else [] := by
    cases mark <;> cases side <;> rfl
  simp only [step, readLine_markedLine, alone]
  cases mark <;> simp [follow, remove, add, Mark.isOn, Nat.add_comm]

/-- All lines of a hunk can be followed where its old lines come next and its counts are right: then
its old lines are taken and its new lines given out. -/
theorem foldlM_markedLine (lines : List (Mark × Text)) (state : State)
    (next : state.rest = shown .old lines ++ others)
    (oldLeft : state.oldLeft = (shown .old lines).length)
    (newLeft : state.newLeft = (shown .new lines).length) :
    (lines.map markedLine).foldlM step state = some {
      taken := state.taken + (shown .old lines).length
      rest := others
      result := state.result ++ shown .new lines
      oldLeft := 0
      newLeft := 0 } := by
  induction lines generalizing state with
  | nil =>
      obtain ⟨taken, rest, result, oldCount, newCount⟩ := state
      subst next oldLeft newLeft
      simp [shown]
  | cons line lines ih =>
      have shownCons (side : Side) : shown side (line :: lines) =
          shown side [line] ++ shown side lines := shown_append side [line] lines
      rw [shownCons, List.append_assoc] at next
      rw [shownCons, List.length_append] at oldLeft newLeft
      rw [List.map_cons, List.foldlM_cons, step_markedLine line next oldLeft newLeft,
        Option.bind_eq_bind, Option.bind_some, ih _ rfl rfl rfl, shownCons, shownCons,
        List.length_append, Nat.add_assoc, List.append_assoc]

/-- A hunk is followed where it stands, if the old lines come next. -/
theorem foldlM_hunk (hunk : Hunk) {skipped : List Text} (state : State)
    (between : state.oldLeft = 0 ∧ state.newLeft = 0)
    (oldStart : hunk.oldStart = state.taken + skipped.length)
    (newStart : hunk.newStart = state.result.length + skipped.length)
    (next : state.rest = skipped ++ shown .old hunk.lines ++ others) :
    (header hunk :: hunk.lines.map markedLine).foldlM step state = some {
      taken := hunk.oldStart + hunk.oldLength
      rest := others
      result := state.result ++ skipped ++ shown .new hunk.lines
      oldLeft := 0
      newLeft := 0 } := by
  obtain ⟨old, new, read, oldBefore, oldLength, newBefore, newLength⟩ := readHeader_header hunk
  have entered : state.step (header hunk) = some {
      taken := hunk.oldStart
      rest := shown .old hunk.lines ++ others
      result := state.result ++ skipped
      oldLeft := hunk.oldLength
      newLeft := hunk.newLength } := by
    rw [step, if_pos between, read, Option.bind_some]
    simp [enter, oldBefore, newBefore, oldStart, newStart, next, oldLength, newLength]
  rw [List.foldlM_cons, entered, Option.bind_eq_bind, Option.bind_some,
    foldlM_markedLine hunk.lines _ rfl hunk.oldLength_eq hunk.newLength_eq, hunk.oldLength_eq]

/-- Hunks that turn the lines that are left into others are followed to their result. -/
theorem foldlM_turns {taken given : Nat} {old new : List Text} {hunks : List Hunk}
    (turns : Turns taken given old hunks new) (state : State)
    (between : state.oldLeft = 0 ∧ state.newLeft = 0) (takenSoFar : state.taken = taken)
    (givenSoFar : state.result.length = given) (next : state.rest = old) :
    ((hunks.flatMap fun hunk => header hunk :: hunk.lines.map markedLine).foldlM step state).bind
        finish = some (state.result ++ new) := by
  induction turns generalizing state with
  | done taken given same =>
      subst next
      simp [finish, between]
  | hunk hunk skipped oldStart newStart rest ih =>
      rw [List.flatMap_cons, List.foldlM_append, foldlM_hunk hunk state between
        (takenSoFar ▸ oldStart) (givenSoFar ▸ newStart) next, Option.bind_eq_bind, Option.bind_some,
        ih _ ⟨rfl, rfl⟩ rfl ?_ rfl]
      · simp
      · simp [hunk.newLength_eq, newStart, givenSoFar, Nat.add_assoc]

end State

end Patch

end SourceWriter

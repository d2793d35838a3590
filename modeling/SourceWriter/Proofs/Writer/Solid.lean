import SourceWriter.Proofs.Lexical.Blank
import SourceWriter.Proofs.Writer.Stroke

/-! # Nothing is lost

Writers add indentation, line ends and paddings, all of them blank, and leave out the line ends that
they are given. Apart from blanks, the text that a program adds is what its steps contribute, in the
order in which they are taken (`Program.solid_text_run`). What a step contributes is read off the
step, except that the end of a comment is only written in one (`Action.content`). A step never takes
anything back: its text is that before it with some more behind.
-/

namespace SourceWriter

open Lexical (isBlank)

/-- A text without its blanks. -/
def Text.solid (text : Text) : Text :=
  text.filter fun character => !isBlank character

namespace Text

@[simp] theorem solid_append (first second : Text) :
    solid (first ++ second) = solid first ++ solid second :=
  List.filter_append first second

theorem solid_eq_nil {text : Text} (blank : ∀ character ∈ text, isBlank character = true) :
    text.solid = [] := by
  apply List.filter_eq_nil_iff.mpr
  intro character member
  simp [blank character member]

theorem solid_replicate {blank : Char} (isBlank_blank : isBlank blank = true) (times : Nat) :
    solid (List.replicate times blank) = [] := by
  apply solid_eq_nil
  intro character member
  rwa [List.eq_of_mem_replicate member]

/-- Between its lines a text has nothing but blanks. -/
theorem solid_flatten_lines (text : Text) : solid (lines text).flatten = text.solid := by
  have skip (character : Char) (blank : isBlank character = true) (rest : Text) :
      solid (character :: rest) = rest.solid := by
    simp [solid, blank]
  fun_induction lines text with
  | case1 => rfl
  | case2 rest ih => rw [List.flatten_cons, List.nil_append, ih, skip _ rfl, skip _ rfl]
  | case3 rest ih => rw [List.flatten_cons, List.nil_append, ih, skip _ rfl]
  | case4 character rest _ _ ih =>
      rw [flatten_pushFirst, ← List.singleton_append, ← List.singleton_append (l := rest),
        solid_append, solid_append, ih]

/-- The parts of a text have all that is solid in it. -/
theorem solid_flatten_parts (text : Text) : solid text.parts.flatten = text.solid := by
  unfold parts
  split
  · next empty =>
      rw [List.isEmpty_iff.mp empty]
      rfl
  · rw [List.flatten_filter_not_isEmpty, solid_flatten_lines]

theorem solid_flatten_flatMap_parts (texts : List Text) :
    solid (texts.flatMap parts).flatten = solid texts.flatten := by
  induction texts with
  | nil => rfl
  | cons text rest ih =>
      rw [List.flatMap_cons, List.flatten_append, List.flatten_cons, solid_append, solid_append,
        solid_flatten_parts, ih]

end Text

/-- What an action contributes to the text of a writer. -/
def Action.content (action : Action) (writer : Writer) : Text :=
  match action with
  | .write text | .writeLine text => text
  | .writeAll texts => texts.flatten
  | .writeIf condition text | .writeLineIf condition text => if condition then text else []
  | .quoteText text =>
    [writer.options.quote] ++ text.escapeWithin writer.options.quote ++ [writer.options.quote]
  | .quote => [writer.options.quote]
  | .closeComment => if writer.lexical.comment = some .block then ['*', '/'] else []
  | .emptyBlock => ['{', '}']
  | _ => []

/-- What a scope contributes before its body. -/
def Scope.opening : Scope → Text
  | .block | .inlineBlock => ['{']
  | .indentBlock | .hanging | .aside => []

/-- What a scope contributes after its body. -/
def Scope.closing : Scope → Text
  | .block | .inlineBlock => ['}']
  | .indentBlock | .hanging | .aside => []

/-- What an event contributes to the text of the writer before it. -/
def Event.content (event : Event) : Text :=
  match event.moment with
  | .acted action => action.content event.before
  | .entered scope => scope.opening
  | .left scope => scope.closing

/-- What the steps of a program contribute, in order. An aside contributes nothing. -/
def Program.content : Program → Writer → Text
  | .done, _ => []
  | .act action rest, writer => action.content writer ++ rest.content (action.run writer)
  | .within scope body rest, writer =>
    let entered := scope.enter writer
    let inside := if scope = .aside then [] else body.content entered
    scope.opening ++ inside ++ scope.closing ++
      rest.content (scope.leave writer (body.run entered))

/-- From one writer to the other the text has grown by this content, blanks apart. -/
def Adds (content : Text) (before after : Writer) : Prop :=
  ∃ added : Text, after.text = before.text ++ added ∧ added.solid = content.solid

namespace Adds

variable {first second content : Text} {before middle after : Writer}

theorem refl (writer : Writer) : Adds [] writer writer :=
  ⟨[], (List.append_nil _).symm, rfl⟩

/-- What two steps add is what the first one adds, and then the second one. -/
theorem trans (one : Adds first before middle) (two : Adds second middle after) :
    Adds (first ++ second) before after := by
  obtain ⟨early, middleText, earlySolid⟩ := one
  obtain ⟨late, afterText, lateSolid⟩ := two
  refine ⟨early ++ late, ?_, ?_⟩
  · rw [afterText, middleText, List.append_assoc]
  · rw [Text.solid_append, Text.solid_append, earlySolid, lateSolid]

/-- Only what is left without blanks matters. -/
theorem congr (adds : Adds first before after) (same : first.solid = second.solid) :
    Adds second before after := by
  obtain ⟨added, text, solid⟩ := adds
  exact ⟨added, text, solid.trans same⟩

end Adds

theorem Writer.adds_newLine (writer : Writer) : Adds [] writer writer.newLine := by
  refine ⟨_, writer.text_newLine, ?_⟩
  cases writer.options.terminator <;> rfl

/-- Putting a part adds what is solid in it, and no more. -/
theorem Writer.adds_put (writer : Writer) (part : Text) : Adds part writer (writer.put part) := by
  have started : Adds [] writer writer.startLine := by
    obtain ⟨margin, spaces, started⟩ := writer.exists_spaces_startLine
    refine ⟨margin, started, ?_⟩
    apply Text.solid_eq_nil
    intro character member
    exact Lexical.isBlank_of_space (spaces character member)
  exact started.trans ⟨part, text_append _ part, rfl⟩

/-- What is spelled out is added, part by part. -/
theorem Spells.adds {parts : List Text} {before after : Writer}
    (spelled : Spells parts before after) : Adds parts.flatten before after := by
  induction spelled with
  | nothing writer => exact .refl writer
  | @newLine parts _ after _ ih =>
      have added := ih.trans after.adds_newLine
      rwa [List.append_nil] at added
  | @put _ _ after _ _ part _ ih =>
      rw [List.flatten_append, List.flatten_singleton]
      exact ih.trans (after.adds_put part)

namespace Writer

theorem solid_padding (writer : Writer) {character : Char} (blank : isBlank character = true) :
    Text.solid (writer.padding character).flatten = [] := by
  unfold padding
  split
  · rfl
  · simp [Text.solid, blank]

theorem solid_separation (writer : Writer) : Text.solid writer.separation.flatten = [] := by
  unfold separation
  split
  · rfl
  · exact writer.settle.solid_padding rfl

theorem solid_commentEnd (writer : Writer) :
    Text.solid writer.commentEnd.flatten =
      Text.solid (if writer.lexical.comment = some .block then ['*', '/'] else []) := by
  unfold commentEnd
  split
  · next block =>
      have spaced : Text.solid
          (if writer.endsLine then [] else writer.settle.padding ' ').flatten = [] := by
        split
        · rfl
        · exact writer.settle.solid_padding rfl
      rw [if_pos block, List.flatten_append, Text.solid_append, spaced]
      rfl
  · next other => rw [if_neg other, List.flatten_nil]

end Writer

namespace Scope

theorem solid_openingParts (scope : Scope) (writer : Writer) :
    Text.solid (scope.openingParts writer).flatten = scope.opening.solid := by
  cases scope with
  | block =>
      rw [openingParts, List.flatten_append, Text.solid_append, writer.solid_separation]
      rfl
  | _ => rfl

/-- Entering a scope adds its opening. -/
theorem adds_enter (scope : Scope) (writer : Writer) :
    Adds scope.opening writer (scope.enter writer) := by
  by_cases block : scope.isBlock = true
  · obtain ⟨started, spelled, entered⟩ := exists_spells_enter block writer
    obtain ⟨added, text, solid⟩ := spelled.adds.congr (scope.solid_openingParts writer)
    rw [entered]
    exact ⟨added, text, solid⟩
  · cases scope with
    | hanging => exact ⟨[], (List.append_nil _).symm, rfl⟩
    | aside => exact .refl writer
    | _ => exact absurd rfl block

/-- Leaving a scope adds its closing. -/
theorem adds_leave {scope : Scope} (notAside : scope ≠ .aside) (entry finished : Writer) :
    Adds scope.closing finished (scope.leave entry finished) := by
  have closed : Adds ['}'] finished finished.closeBrace := finished.spells_closeBrace.adds
  cases scope with
  | block => exact closed
  | inlineBlock => exact closed
  | indentBlock =>
      rcases leave_indentBlock_cases entry finished with ⟨left, _⟩ | ⟨left, _⟩
      · rw [left]
        exact ⟨[], (List.append_nil _).symm, rfl⟩
      · rw [left]
        exact ⟨[], (List.append_nil _).symm, rfl⟩
  | hanging => exact ⟨[], (List.append_nil _).symm, rfl⟩
  | aside => contradiction

end Scope

namespace Action

/-- The parts that an action puts are what it contributes. -/
theorem solid_parts {action : Action} (noBlock : action ≠ .emptyBlock) (writer : Writer) :
    Text.solid (action.parts writer).flatten = (action.content writer).solid := by
  cases action with
  | write text => exact text.solid_flatten_parts
  | writeLine text => exact text.solid_flatten_parts
  | writeAll texts => exact Text.solid_flatten_flatMap_parts texts
  | writeIf condition text =>
      cases condition with
      | true => exact text.solid_flatten_parts
      | false => rfl
  | writeLineIf condition text =>
      cases condition with
      | true => exact text.solid_flatten_parts
      | false => rfl
  | quoteText text => exact Text.solid_flatten_parts _
  | quote => rw [parts, content, List.flatten_singleton]
  | indent times =>
      rw [parts, Text.solid_flatten_flatMap_parts]
      apply Text.solid_eq_nil
      intro character member
      obtain ⟨unit, copies, inside⟩ := List.mem_flatten.mp member
      obtain rfl := List.eq_of_mem_replicate copies
      exact Lexical.isBlank_of_space (Options.space_of_mem_unit inside)
  | space times => exact (Text.solid_flatten_parts _).trans (Text.solid_replicate rfl times)
  | tab times => exact (Text.solid_flatten_parts _).trans (Text.solid_replicate rfl times)
  | spaceIfLastNot => exact writer.settle.solid_padding rfl
  | tabIfLastNot => exact writer.settle.solid_padding rfl
  | closeComment => exact writer.solid_commentEnd
  | emptyBlock => contradiction
  | _ => rfl

/-- An action adds its content. -/
theorem adds_run (action : Action) (writer : Writer) :
    Adds (action.content writer) writer (action.run writer) := by
  by_cases unset : action.setsLevel = false
  · by_cases block : action = .emptyBlock
    · subst block
      have entered := Scope.block.adds_enter writer
      exact entered.trans (Scope.adds_leave (by decide) writer (Scope.block.enter writer))
    · exact (spells_run unset block writer).adds.congr (solid_parts block writer)
  · cases action with
    | setLevel indentation =>
        obtain ⟨level, changed⟩ := writer.run_setLevel indentation
        rw [changed]
        exact ⟨[], (List.append_nil _).symm, rfl⟩
    | queueLevel indentation =>
        obtain ⟨queued, changed⟩ := writer.run_queueLevel indentation
        rw [changed]
        exact ⟨[], (List.append_nil _).symm, rfl⟩
    | _ => exact absurd rfl unset

end Action

namespace Program

/-- A program adds its content. -/
theorem adds_run (program : Program) (writer : Writer) :
    Adds (program.content writer) writer (program.run writer) := by
  induction program generalizing writer with
  | done => exact .refl writer
  | act action rest ih => exact (action.adds_run writer).trans (ih _)
  | within scope body rest body_ih rest_ih =>
      refine Adds.trans ?_ (rest_ih _)
      by_cases aside : scope = .aside
      · subst aside
        exact .refl writer
      · rw [if_neg aside]
        exact ((scope.adds_enter writer).trans (body_ih _)).trans (Scope.adds_leave aside writer _)

/-- **Nothing is lost, written twice or out of order.** Apart from blanks, the text of a writer has
grown by what the steps of the program contribute, one after the other; a new writer has no text to
begin with. Every event but the end of an aside puts some text behind what was there before, which
apart from blanks is what the event contributes. -/
theorem solid_text_run (program : Program) (writer : Writer) :
    (writer.text <+: (program.run writer).text ∧
      (program.run writer).text.solid = writer.text.solid ++ (program.content writer).solid) ∧
    ∀ event ∈ program.trace writer, event.moment ≠ .left .aside →
      event.after.text = event.before.text ++ event.added ∧
        event.added.solid = event.content.solid := by
  refine ⟨?_, ?_⟩
  · obtain ⟨added, text, solid⟩ := program.adds_run writer
    rw [text, Text.solid_append, solid]
    exact ⟨List.prefix_append _ _, rfl⟩
  · intro event member notAside
    have adds : Adds event.content event.before event.after := by
      rcases mem_trace_cases member with ⟨action, before, rfl⟩ | ⟨scope, before, rfl⟩ |
        ⟨scope, entry, finished, rfl⟩
      · exact action.adds_run before
      · exact scope.adds_enter before
      · exact Scope.adds_leave (fun aside => notAside (congrArg Moment.left aside)) entry finished
    obtain ⟨added, text, solid⟩ := adds
    have same : event.added = added := by
      rw [Event.added, text, List.drop_left]
    rw [same]
    exact ⟨text, solid⟩

/-- A comment that is closed in a block, a literal with a line end, and an aside in the middle. -/
theorem solid_text_run_of_comment :
    let options : Options := { terminator := .crlf, singleQuotes := true }
    let aside : Program := .within .aside (.act (.write ['z']) .done) .done
    let body : Program :=
      .act (.write ['/', '*', '\n', 'a', ' ']) (.act .closeComment (aside.append
        (.act (.quoteText ['\'', '\n']) .done)))
    let program : Program :=
      .act (.write ['f']) (.within .block body (.act (.writeLine ['g']) .done))
    (program.run { options }).text =
        "f \x7b\r\n    /*\r\n    a */'\\'\\\r\n'\r\n\x7d\r\ng\r\n".toList ∧
      program.content { options } = "f\x7b/*\na */'\\'\\\n'\x7dg".toList ∧
      (program.run { options }).text.solid = (program.content { options }).solid ∧
      ∀ event ∈ program.trace { options }, event.moment ≠ .left .aside →
        event.after.text = event.before.text ++ event.added ∧
          event.added.solid = event.content.solid := by
  intro options aside body program
  obtain ⟨⟨_, solid⟩, events⟩ := solid_text_run program { options }
  exact ⟨by decide +kernel, by decide +kernel, solid, events⟩

end Program

end SourceWriter

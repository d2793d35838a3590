import Mathlib.Data.List.Infix
import SourceWriter.Proofs.Writer.Stroke

/-! # The first line of a block

A writer has one flag for whether it is on the first line of a block. Which blocks there are around
it, and what has been done in each of them, is told by the events of a run: `Nesting.after` keeps
the bodies that are being run, the innermost first, with all events since they began. The flag says
exactly that the innermost of these bodies has seen no line terminator and no end of a block within
it (`Program.onFirstLine_iff_of_trace`). So it never outlives the line that the body began with, and
that line is the one the text ends in.
-/

namespace SourceWriter

/-! ### What events do to the first line -/

namespace Event

/-- Whether an event wrote a line terminator. -/
def breaksLine (event : Event) : Prop :=
  event.before.options.terminator.text <:+: event.added

instance (event : Event) : Decidable event.breaksLine :=
  inferInstanceAs (Decidable (_ <:+: _))

/-- Whether the body of a block has ended with an event. An empty block has a body too. -/
def endsBlock (event : Event) : Bool :=
  match event.moment with
  | .left scope => scope.isBlock
  | .acted action => action = .emptyBlock
  | .entered _ => false

/-- An event that keeps to the line. -/
structure Stays (event : Event) : Prop where
  flag : event.after.onFirstLine = event.before.onFirstLine
  endsBlock : event.endsBlock = false
  text : ∃ part, event.after.text = event.before.text ++ part ∧ '\n' ∉ part

/-- An event after which a first line is over. -/
structure Leaves (event : Event) : Prop where
  flag : event.after.onFirstLine = false
  reason : event.breaksLine ∨ event.endsBlock = true

variable {event : Event}

theorem added_of_append {part : Text} (text : event.after.text = event.before.text ++ part) :
    event.added = part := by
  rw [added, text, List.drop_left]

theorem Stays.of_same (flag : event.after.onFirstLine = event.before.onFirstLine)
    (within : event.endsBlock = false) (text : event.after.text = event.before.text) :
    event.Stays :=
  ⟨flag, within, [], by rw [text, List.append_nil], List.not_mem_nil⟩

theorem Stays.not_breaksLine (stays : event.Stays) : ¬ event.breaksLine := by
  obtain ⟨part, text, noFeed⟩ := stays.text
  rw [breaksLine, added_of_append text]
  intro broken
  refine noFeed (broken.subset ?_)
  cases event.before.options.terminator <;> decide

end Event

theorem Writer.onFirstLine_put (writer : Writer) (part : Text) :
    (writer.put part).onFirstLine = writer.onFirstLine := by
  simp only [put, append, push, startLine]
  split <;> rfl

/-- What is spelled out stays on the line, or breaks it and lowers the flag. -/
theorem Spells.onFirstLine_cases {parts : List Text} {before after : Writer}
    (spelled : Spells parts before after) :
    ∃ added, after.text = before.text ++ added ∧
      ((after.onFirstLine = before.onFirstLine ∧ '\n' ∉ added) ∨
        (after.onFirstLine = false ∧ before.options.terminator.text <:+: added)) := by
  induction spelled with
  | nothing => exact ⟨[], (List.append_nil _).symm, .inl ⟨rfl, List.not_mem_nil⟩⟩
  | @newLine parts before after spelled ih =>
      obtain ⟨added, text, _⟩ := ih
      refine ⟨added ++ before.options.terminator.text, ?_,
        .inr ⟨rfl, (List.suffix_append _ _).isInfix⟩⟩
      rw [Writer.text_newLine, text, List.append_assoc, spelled.marks.strokes.options_eq]
  | @put parts before after spelled _ part noFeed ih =>
      obtain ⟨added, text, staying⟩ := ih
      obtain ⟨margin, spaces, started⟩ := after.exists_spaces_startLine
      refine ⟨added ++ (margin ++ part), ?_, ?_⟩
      · rw [Writer.put, Writer.text_append, started, text]
        simp only [List.append_assoc]
      · rw [Writer.onFirstLine_put]
        rcases staying with ⟨flag, clean⟩ | ⟨flag, broken⟩
        · refine .inl ⟨flag, ?_⟩
          simp [clean, noFeed, Text.not_mem_of_spaces spaces]
        · exact .inr ⟨flag, broken.trans (List.prefix_append _ _).isInfix⟩

/-- Once a first line is over, nothing that is spelled out brings it back. -/
theorem Spells.onFirstLine_eq_false {parts : List Text} {before after : Writer}
    (spelled : Spells parts before after) (lowered : before.onFirstLine = false) :
    after.onFirstLine = false := by
  obtain ⟨_, _, ⟨same, _⟩ | ⟨broken, _⟩⟩ := spelled.onFirstLine_cases
  · rw [same, lowered]
  · exact broken

theorem Scope.onFirstLine_leave (scope : Scope) (block : scope.isBlock = true)
    (entry finished : Writer) : (scope.leave entry finished).onFirstLine = false := by
  have closed : finished.closeBrace.onFirstLine = false :=
    finished.spells_closeBrace.onFirstLine_eq_false rfl
  cases scope with
  | block => exact closed
  | inlineBlock => exact closed
  | indentBlock =>
      rcases leave_indentBlock_cases entry finished with ⟨left, _⟩ | ⟨left, _⟩ <;> rw [left] <;> rfl
  | hanging => contradiction
  | aside => contradiction

theorem Writer.atLineStart_newLineIfLastNot (writer : Writer) :
    writer.newLineIfLastNot.atLineStart = true := by
  simp only [newLineIfLastNot]
  split
  · next ended => rw [atLineStart, ended, Bool.or_true]
  · exact atLineStart_breakLine _

/-- The body of a block starts at the start of a line. -/
theorem Scope.atLineStart_enter (scope : Scope) (block : scope.isBlock = true) (writer : Writer) :
    (scope.enter writer).atLineStart = true := by
  have started (writer : Writer) : writer.enterBlock.atLineStart = true := by
    by_cases empty : writer.isEmpty = true
    · simp only [Writer.enterBlock, empty, ↓reduceIte]
      exact Bool.or_eq_true_iff.mpr (.inl empty)
    · simp only [Writer.enterBlock, empty]
      exact writer.atLineStart_newLineIfLastNot
  cases scope with
  | block => exact started _
  | inlineBlock => exact started _
  | indentBlock => exact started _
  | hanging => contradiction
  | aside => contradiction

namespace Action

/-- An action keeps to the line, or it ends a line or a block. -/
theorem stays_or_leaves (action : Action) (writer : Writer) :
    Event.Stays ⟨.acted action, writer, action.run writer⟩ ∨
      Event.Leaves ⟨.acted action, writer, action.run writer⟩ := by
  by_cases block : action = .emptyBlock
  · subst block
    exact .inr ⟨Scope.block.onFirstLine_leave rfl writer (Scope.block.enter writer), .inr rfl⟩
  · have within : Event.endsBlock ⟨.acted action, writer, action.run writer⟩ = false :=
      decide_eq_false block
    rcases action.run_cases writer with spelled | empty | ⟨level, queued, changed⟩
    · obtain ⟨added, text, ⟨flag, noFeed⟩ | ⟨flag, broken⟩⟩ := spelled.onFirstLine_cases
      · exact .inl ⟨flag, within, added, text, noFeed⟩
      · refine .inr ⟨flag, .inl ?_⟩
        rwa [Event.breaksLine, Event.added_of_append text]
    · exact absurd empty block
    · rw [changed] at within ⊢
      exact .inl (.of_same rfl within rfl)

end Action

/-! ### Bodies that are being run -/

/-- The body of a block that is being run. -/
structure Body where
  /-- The writer that the body started with. -/
  start : Writer
  /-- What has happened since, first event first. -/
  since : List Event := []
  deriving DecidableEq

namespace Body

/-- A body after more events. -/
def record (events : List Event) (body : Body) : Body :=
  { body with since := body.since ++ events }

/-- Since the body began, no line terminator was written, and no block within it has ended. -/
def Unbroken (body : Body) : Prop :=
  ∀ event ∈ body.since, ¬ event.breaksLine ∧ event.endsBlock = false

instance (body : Body) : Decidable body.Unbroken :=
  inferInstanceAs (Decidable (∀ event ∈ body.since, _))

theorem record_record (first second : List Event) (body : Body) :
    (body.record first).record second = body.record (first ++ second) := by
  simp only [record, List.append_assoc]

theorem record_nil (body : Body) : body.record [] = body := by
  simp only [record, List.append_nil]

/-- A body stays unbroken by one more event exactly if that breaks no line and ends no block. -/
theorem unbroken_record_iff {body : Body} {event : Event} :
    (body.record [event]).Unbroken ↔
      body.Unbroken ∧ ¬ event.breaksLine ∧ event.endsBlock = false := by
  simp only [Unbroken, record, List.forall_mem_append, List.forall_mem_singleton]

end Body

/-- The bodies that are being run. -/
structure Nesting where
  /-- The bodies of blocks, innermost first. -/
  bodies : List Body := []
  /-- What the bodies were where each copy that is in use was made, latest copy first. -/
  copied : List (List Body) := []
  deriving DecidableEq

namespace Nesting

/-- More events happen within every body that is being run. -/
def record (events : List Event) (nesting : Nesting) : Nesting :=
  { nesting with bodies := nesting.bodies.map (Body.record events) }

/-- One more body. -/
def push (start : Writer) (nesting : Nesting) : Nesting :=
  { nesting with bodies := { start } :: nesting.bodies }

/-- All bodies but the innermost. -/
def pop (nesting : Nesting) : Nesting :=
  { nesting with bodies := nesting.bodies.tail }

/-- What is being run after an event. A body sees all that happens within it, but for what is done
to a copy that is then dropped. -/
def next (nesting : Nesting) (event : Event) : Nesting :=
  match event.moment with
  | .acted _ | .entered .hanging | .left .hanging => nesting.record [event]
  | .entered .aside => { nesting.record [event] with copied := nesting.bodies :: nesting.copied }
  | .left .aside => { bodies := nesting.copied.headD [], copied := nesting.copied.tail }
  | .entered _ => (nesting.record [event]).push event.after
  | .left _ => (nesting.record [event]).pop

/-- What is being run after several events, in order. -/
def after (nesting : Nesting) (events : List Event) : Nesting :=
  events.foldl next nesting

/-- The innermost body that is being run. -/
def innermost? (nesting : Nesting) : Option Body :=
  nesting.bodies.head?

variable {scope : Scope} {before after : Writer}

/-- The start of a block is seen by the bodies around it, and begins one more. -/
theorem next_entered_block (block : scope.isBlock = true) (nesting : Nesting) :
    nesting.next ⟨.entered scope, before, after⟩ =
      (nesting.record [⟨.entered scope, before, after⟩]).push after := by
  cases scope with
  | block => rfl
  | inlineBlock => rfl
  | indentBlock => rfl
  | hanging => contradiction
  | aside => contradiction

/-- The end of a block is seen by the bodies around it, and ends one. -/
theorem next_left_block (block : scope.isBlock = true) (nesting : Nesting) :
    nesting.next ⟨.left scope, before, after⟩ =
      (nesting.record [⟨.left scope, before, after⟩]).pop := by
  cases scope with
  | block => rfl
  | inlineBlock => rfl
  | indentBlock => rfl
  | hanging => contradiction
  | aside => contradiction

theorem after_append (nesting : Nesting) (first second : List Event) :
    nesting.after (first ++ second) = (nesting.after first).after second :=
  List.foldl_append

theorem after_concat (nesting : Nesting) (events : List Event) (event : Event) :
    nesting.after (events ++ [event]) = (nesting.after events).next event := by
  rw [after_append]
  rfl

theorem record_record (first second : List Event) (nesting : Nesting) :
    (nesting.record first).record second = nesting.record (first ++ second) := by
  simp only [record, List.map_map, Function.comp_def, Body.record_record]

theorem record_nil (nesting : Nesting) : nesting.record [] = nesting := by
  have same : Body.record [] = id := funext Body.record_nil
  rw [record, same, List.map_id]

/-- A body that has ended leaves what it has seen to the bodies around it. -/
theorem pop_record_push (start : Writer) (seen : List Event) (nesting : Nesting) :
    ((nesting.push start).record seen).pop = nesting.record seen := rfl

end Nesting

/-- Events that begin no body that they do not end, and end none that they did not begin. -/
def Balanced (events : List Event) : Prop :=
  ∀ nesting : Nesting, ∃ seen, nesting.after events = nesting.record seen

namespace Balanced

variable {scope : Scope} {entry entered finished left : Writer} {inside more : List Event}

/-- Balanced events after balanced ones are balanced. -/
theorem append (first : Balanced inside) (second : Balanced more) : Balanced (inside ++ more) := by
  intro nesting
  obtain ⟨seen, same⟩ := first nesting
  obtain ⟨later, still⟩ := second (nesting.record seen)
  exact ⟨seen ++ later, by rw [Nesting.after_append, same, still, Nesting.record_record]⟩

/-- The bodies around a block see its end, too. -/
theorem after_block (balanced : Balanced inside) (block : scope.isBlock = true)
    (nesting : Nesting) :
    ∃ seen, nesting.after
        (⟨.entered scope, entry, entered⟩ :: inside ++ [⟨.left scope, finished, left⟩]) =
      nesting.record (seen ++ [⟨.left scope, finished, left⟩]) := by
  obtain ⟨seen, same⟩ := balanced (nesting.next ⟨.entered scope, entry, entered⟩)
  refine ⟨⟨.entered scope, entry, entered⟩ :: seen, ?_⟩
  calc nesting.after _
      = ((nesting.next ⟨.entered scope, entry, entered⟩).record seen).next
          ⟨.left scope, finished, left⟩ := by rw [Nesting.after_concat, ← same]; rfl
    _ = (nesting.record [⟨.entered scope, entry, entered⟩]).record
          (seen ++ [⟨.left scope, finished, left⟩]) := by
        rw [Nesting.next_left_block block, Nesting.next_entered_block block,
          Nesting.record_record, Nesting.pop_record_push]
    _ = nesting.record (⟨.entered scope, entry, entered⟩ :: seen ++
          [⟨.left scope, finished, left⟩]) := Nesting.record_record _ _ nesting

/-- What is done to a copy is seen by no body around it. -/
theorem after_aside (balanced : Balanced inside) (nesting : Nesting) :
    nesting.after
        (⟨.entered .aside, entry, entered⟩ :: inside ++ [⟨.left .aside, finished, left⟩]) =
      nesting := by
  obtain ⟨seen, same⟩ := balanced (nesting.next ⟨.entered .aside, entry, entered⟩)
  calc nesting.after _
      = ((nesting.next ⟨.entered .aside, entry, entered⟩).record seen).next
          ⟨.left .aside, finished, left⟩ := by rw [Nesting.after_concat, ← same]; rfl
    _ = nesting := rfl

/-- Balanced events in a scope are balanced with it. -/
theorem around (balanced : Balanced inside) (scope : Scope) :
    Balanced (⟨.entered scope, entry, entered⟩ :: inside ++ [⟨.left scope, finished, left⟩]) := by
  intro nesting
  by_cases block : scope.isBlock = true
  · obtain ⟨seen, same⟩ := balanced.after_block block nesting
    exact ⟨_, same⟩
  · cases scope with
    | hanging =>
        have start : Balanced [⟨.entered .hanging, entry, entered⟩] := fun _ => ⟨_, rfl⟩
        have finish : Balanced [⟨.left .hanging, finished, left⟩] := fun _ => ⟨_, rfl⟩
        exact (start.append balanced).append finish nesting
    | aside => exact ⟨[], by rw [balanced.after_aside, Nesting.record_nil]⟩
    | _ => exact absurd rfl block

end Balanced

/-- The events of a program are balanced: every scope that is entered is left. -/
theorem Program.balanced_trace (program : Program) (writer : Writer) :
    Balanced (program.trace writer) := by
  induction program generalizing writer with
  | done => exact fun nesting => ⟨[], nesting.record_nil.symm⟩
  | act action rest ih =>
      have single : Balanced [⟨.acted action, writer, action.run writer⟩] := fun _ => ⟨_, rfl⟩
      exact single.append (ih _)
  | within scope body rest body_ih rest_ih =>
      rw [trace, List.append_cons]
      exact ((body_ih _).around scope).append (rest_ih _)

/-! ### The flag and the bodies -/

namespace Nesting

/-- The flag of a writer is what the bodies say, and what was written since the innermost one began
is on one line as long as it is up. -/
structure Fits (nesting : Nesting) (writer : Writer) : Prop where
  flag : writer.onFirstLine = true ↔ ∃ body ∈ nesting.innermost?, body.Unbroken
  text : ∀ body ∈ nesting.innermost?, body.Unbroken →
    ∃ part, writer.text = body.start.text ++ part ∧ '\n' ∉ part
  start : ∀ body ∈ nesting.bodies, body.start.atLineStart = true

variable {nesting : Nesting}

theorem mem_innermost?_record {seen : List Event} {body : Body} :
    body ∈ (nesting.record seen).innermost? ↔
      ∃ earlier ∈ nesting.innermost?, earlier.record seen = body := by
  simp only [innermost?, record, List.head?_map, Option.mem_def, Option.map_eq_some_iff]

namespace Fits

theorem fresh (options : Options) : Fits {} { options } where
  flag := by simp [innermost?]
  text := by simp [innermost?]
  start := by simp

/-- What the bodies see once a first line is over. -/
theorem of_lowered {writer : Writer} (lowered : writer.onFirstLine = false)
    (broken : ∀ body ∈ nesting.innermost?, ¬ body.Unbroken)
    (start : ∀ body ∈ nesting.bodies, body.start.atLineStart = true) : nesting.Fits writer where
  flag := by
    rw [lowered]
    constructor
    · nofun
    · rintro ⟨body, member, unbroken⟩
      exact absurd unbroken (broken body member)
  text body member unbroken := absurd unbroken (broken body member)
  start := start

theorem start_record {writer : Writer} (fits : nesting.Fits writer) (seen : List Event) :
    ∀ body ∈ (nesting.record seen).bodies, body.start.atLineStart = true := by
  intro body member
  obtain ⟨earlier, known, rfl⟩ := List.mem_map.mp member
  exact fits.start earlier known

/-- An event that keeps to the line, or ends it, is seen by all bodies. -/
theorem record {event : Event} (fits : nesting.Fits event.before)
    (kind : event.Stays ∨ event.Leaves) : (nesting.record [event]).Fits event.after := by
  rcases kind with stays | leaves
  · have unbroken (body : Body) : (body.record [event]).Unbroken ↔ body.Unbroken := by
      rw [Body.unbroken_record_iff]
      exact and_iff_left ⟨stays.not_breaksLine, stays.endsBlock⟩
    refine ⟨?_, ?_, fits.start_record [event]⟩
    · simp only [stays.flag, fits.flag, mem_innermost?_record, exists_exists_and_eq_and, unbroken]
    · rintro _ member still
      obtain ⟨body, known, rfl⟩ := mem_innermost?_record.mp member
      obtain ⟨part, text, noFeed⟩ := fits.text body known ((unbroken body).mp still)
      obtain ⟨more, further, noFeedEither⟩ := stays.text
      refine ⟨part ++ more, ?_, by simp [noFeed, noFeedEither]⟩
      rw [further, text, List.append_assoc]
      rfl
  · refine of_lowered leaves.flag ?_ (fits.start_record [event])
    rintro _ member still
    obtain ⟨body, _, rfl⟩ := mem_innermost?_record.mp member
    obtain ⟨_, whole, within⟩ := Body.unbroken_record_iff.mp still
    rcases leaves.reason with broken | ended
    · exact whole broken
    · simp [within] at ended

/-- Where the body of a block starts, it is the innermost one. -/
theorem push {before writer : Writer} (fits : nesting.Fits before)
    (onFirstLine : writer.onFirstLine = true) (start : writer.atLineStart = true)
    (seen : List Event) : ((nesting.record seen).push writer).Fits writer where
  flag := by simp [onFirstLine, innermost?, Nesting.push, Body.Unbroken]
  text := by
    rintro body ⟨⟩ _
    exact ⟨[], (List.append_nil _).symm, List.not_mem_nil⟩
  start := by
    intro body member
    rcases List.mem_cons.mp member with rfl | outer
    · exact start
    · exact fits.start_record seen body outer

/-- Where the body of a block ends, all bodies around it see the end. -/
theorem leave_block {entry writer : Writer} (fits : nesting.Fits entry) {event : Event}
    (ended : event.endsBlock = true) (lowered : writer.onFirstLine = false) (seen : List Event) :
    (nesting.record (seen ++ [event])).Fits writer := by
  refine of_lowered lowered ?_ (fits.start_record _)
  rintro _ member unbroken
  obtain ⟨body, _, rfl⟩ := mem_innermost?_record.mp member
  have within := (unbroken event (by simp [Body.record])).2
  simp [ended] at within

end Fits

end Nesting

namespace Writer

theorem atLineStart_congr {writer other : Writer} (same : writer.text = other.text) :
    writer.atLineStart = other.atLineStart := by
  have written : writer.written = other.written := List.reverse_injective same
  simp only [atLineStart, isEmpty, endsLine, lastChar, written]

/-- A line starts at the start of the text, and after each line feed. -/
theorem atLineStart_iff_text {writer : Writer} :
    writer.atLineStart = true ↔ writer.text = [] ∨ writer.text.getLast? = some '\n' := by
  rw [atLineStart, Bool.or_eq_true, isEmpty_eq_isEmpty_text, List.isEmpty_iff, endsLine,
    lastChar_eq_getLast?, beq_iff_eq]

/-- A part of a line leads away from its start. -/
theorem atLineStart_of_append {writer other : Writer} {part : Text}
    (text : writer.text = other.text ++ part) (noFeed : '\n' ∉ part)
    (start : writer.atLineStart = true) : part = [] := by
  by_contra nonempty
  rw [atLineStart_iff_text, text] at start
  rcases start with empty | feed
  · exact nonempty (List.append_eq_nil_iff.mp empty).2
  · rw [List.getLast?_append_of_ne_nil _ nonempty] at feed
    exact noFeed (List.mem_of_getLast? feed)

end Writer

namespace Program

/-- What is being run fits the writer after a scope is entered. -/
theorem fits_enter {nesting : Nesting} {writer : Writer} (fits : nesting.Fits writer)
    (scope : Scope) :
    (nesting.next ⟨.entered scope, writer, scope.enter writer⟩).Fits (scope.enter writer) := by
  by_cases block : scope.isBlock = true
  · obtain ⟨started, _, entered⟩ := Scope.exists_spells_enter block writer
    have raised : (scope.enter writer).onFirstLine = true := by rw [entered]; rfl
    rw [Nesting.next_entered_block block]
    exact fits.push raised (scope.atLineStart_enter block writer) _
  · have stays : Event.Stays ⟨.entered scope, writer, scope.enter writer⟩ := by
      cases scope with
      | hanging => exact .of_same rfl rfl rfl
      | aside => exact .of_same rfl rfl rfl
      | _ => exact absurd rfl block
    have seen := Nesting.Fits.record fits (.inl stays)
    cases scope with
    | hanging => exact seen
    | aside => exact ⟨seen.flag, seen.text, seen.start⟩
    | _ => exact absurd rfl block

/-- What is being run fits the writer all through a program. -/
theorem keeps_fits : KeepsRun fun past writer => (Nesting.after {} past).Fits writer where
  act past writer action fits := by
    rw [Nesting.after_concat]
    exact Nesting.Fits.record fits (action.stays_or_leaves writer)
  enter past writer scope fits := by
    rw [Nesting.after_concat]
    exact fits_enter fits scope
  leave past entry scope body fits ran := by
    have balanced := body.balanced_trace (scope.enter entry)
    by_cases block : scope.isBlock = true
    · rw [List.append_assoc, Nesting.after_append]
      obtain ⟨seen, same⟩ := balanced.after_block block (Nesting.after {} past)
      rw [same]
      refine fits.leave_block ?_ (scope.onFirstLine_leave block _ _) seen
      exact block
    · cases scope with
      | hanging =>
          rw [Nesting.after_concat]
          exact Nesting.Fits.record ran (.inl (.of_same rfl rfl rfl))
      | aside =>
          -- What was done on the copy is dropped, the bodies begun there included.
          rw [List.append_assoc, Nesting.after_append, balanced.after_aside]
          exact fits
      | _ => exact absurd rfl block

/-- **The flag for the first line of a block is exact.** Wherever a run is stopped, the flag is up
exactly if the body of a block is being run and since the innermost one began, no line terminator
was written and no block within it has ended. Then what was written since is on one line, and before
it there is nothing or the end of a line. So the writer is at the start of that line exactly if
nothing was written since at all. -/
theorem onFirstLine_iff_of_trace {options : Options} {fresh : Writer}
    (created : Writer.new options = .ok fresh) {program : Program} {history : List Event}
    (passed : history <+: program.trace fresh) :
    let writer := fresh.atEnd history
    let innermost? := (Nesting.after {} history).innermost?
    (writer.onFirstLine = true ↔
      ∃ body ∈ innermost?, ∀ event ∈ body.since, ¬ event.breaksLine ∧ event.endsBlock = false) ∧
    (writer.onFirstLine = true →
      ∃ body ∈ innermost?, ∃ part, writer.text = body.start.text ++ part ∧ '\n' ∉ part ∧
        (body.start.text = [] ∨ body.start.text.getLast? = some '\n')) ∧
    (writer.atStartOfFirstLine = true ↔
      writer.onFirstLine = true ∧ ∃ body ∈ innermost?, writer.text = body.start.text) := by
  obtain ⟨_, rfl⟩ := Writer.new_eq_ok_iff.mp created
  intro writer innermost?
  have none : (Nesting.after {} []).Fits { options } := .fresh options
  have fits : (Nesting.after {} history).Fits writer := keeps_fits.atEnd none passed
  have line : writer.onFirstLine = true → ∃ body ∈ innermost?, body.start.atLineStart = true ∧
      ∃ part, writer.text = body.start.text ++ part ∧ '\n' ∉ part := by
    intro up
    obtain ⟨body, member, unbroken⟩ := fits.flag.mp up
    exact ⟨body, member, fits.start body (List.mem_of_mem_head? member),
      fits.text body member unbroken⟩
  refine ⟨fits.flag, ?_, ?_⟩
  · intro up
    obtain ⟨body, member, start, part, text, noFeed⟩ := line up
    exact ⟨body, member, part, text, noFeed, Writer.atLineStart_iff_text.mp start⟩
  · rw [Writer.atStartOfFirstLine, Bool.and_eq_true]
    apply and_congr_right
    intro up
    constructor
    · intro start
      obtain ⟨body, member, _, part, text, noFeed⟩ := line up
      obtain rfl := Writer.atLineStart_of_append text noFeed start
      exact ⟨body, member, by rw [text, List.append_nil]⟩
    · rintro ⟨body, member, same⟩
      rw [Writer.atLineStart_congr same]
      exact fits.start body (List.mem_of_mem_head? member)

/-- An indent block in a hanging body of a block, behind a copy on which a line was ended and then
dropped: at its start, behind its first character, and behind its end. -/
theorem onFirstLine_iff_of_trace_behind_copy :
    let options : Options := { terminator := .crlf }
    let indented : Program := .within .aside (.act .newLine .done) (.act (.write ['a']) .done)
    let inner : Program := .within .hanging (.within .indentBlock indented .done) .done
    let program : Program := .act (.write ['\r']) (.within .inlineBlock inner .done)
    let history (count : Nat) := (program.trace { options }).take count
    let writer (count : Nat) := Writer.atEnd { options } (history count)
    Writer.new options = .ok { options } ∧ (∀ count, history count <+: program.trace { options }) ∧
      (writer 7).atStartOfFirstLine = true ∧
      (∃ body ∈ (Nesting.after {} (history 7)).innermost?, (writer 7).text = body.start.text) ∧
      (∃ body ∈ (Nesting.after {} (history 8)).innermost?,
        ∀ event ∈ body.since, ¬ event.breaksLine ∧ event.endsBlock = false) ∧
      (writer 8).atStartOfFirstLine = false ∧ (writer 9).onFirstLine = false := by
  intro options indented inner program history writer
  have created : Writer.new options = .ok { options } := rfl
  have passed (count : Nat) : history count <+: program.trace { options } := List.take_prefix _ _
  have start : (writer 7).atStartOfFirstLine = true := by decide +kernel
  have up : (writer 8).onFirstLine = true := by decide +kernel
  obtain ⟨_, _, atStart⟩ := onFirstLine_iff_of_trace created (passed 7)
  obtain ⟨unbroken, _, _⟩ := onFirstLine_iff_of_trace created (passed 8)
  exact ⟨created, passed, start, (atStart.mp start).2, unbroken.mp up, by decide +kernel,
    by decide +kernel⟩

end Program

end SourceWriter

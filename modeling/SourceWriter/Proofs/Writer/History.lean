import SourceWriter.Program
import SourceWriter.Proofs.Text.Prefix

/-! # Histories of a run

A program can be looked at after any of its events, also in the middle of the bodies it is in. The
events up to there are a history, a prefix of the trace, and `Writer.atEnd` is the writer it has
led to. What a new writer has, and every action and both ends of every scope keep, holds after
every history (`Keeps.atEnd`); it may speak of the history itself, as a writer keeps no record of
what it came through.
-/

namespace SourceWriter

/-- The writer after these events, where it has come to this one before them. -/
def Writer.atEnd (writer : Writer) : List Event → Writer
  | [] => writer
  | event :: rest => event.after.atEnd rest

theorem Writer.atEnd_append (writer : Writer) (first second : List Event) :
    writer.atEnd (first ++ second) = (writer.atEnd first).atEnd second := by
  induction first generalizing writer with
  | nil => rfl
  | cons event rest ih => exact ih event.after

/-- Every event of a list is the last one of a prefix. -/
theorem Writer.exists_atEnd_of_mem {events : List Event} {event : Event} (member : event ∈ events)
    (writer : Writer) : ∃ history, history <+: events ∧ writer.atEnd history = event.after := by
  obtain ⟨before, later, rfl⟩ := List.append_of_mem member
  refine ⟨before ++ [event], ⟨later, by simp⟩, ?_⟩
  rw [Writer.atEnd_append]
  rfl

/-- The last writer of a trace is the one after the program. -/
theorem Program.atEnd_trace (program : Program) (writer : Writer) :
    writer.atEnd (program.trace writer) = program.run writer := by
  induction program generalizing writer with
  | done => rfl
  | act action rest ih => exact ih (action.run writer)
  | within scope body rest body_ih rest_ih =>
      rw [trace, Writer.atEnd_append]
      exact rest_ih _

/-- The writers that programs come by: a new one, and those after the events of a program. -/
inductive Writer.Reachable : Writer → Prop where
  | atEnd {options : Options} {fresh : Writer} (created : Writer.new options = .ok fresh)
      {program : Program} {history : List Event} (passed : history <+: program.trace fresh) :
      Reachable (fresh.atEnd history)

/-- A program takes a new writer to one that programs come by. -/
theorem Writer.Reachable.run {options : Options} {fresh : Writer}
    (created : Writer.new options = .ok fresh) (program : Program) :
    (program.run fresh).Reachable := by
  rw [← program.atEnd_trace]
  exact .atEnd created (List.prefix_refl _)

/-- Every event of a program is the run of an action or one end of a scope. -/
theorem Program.mem_trace_cases {program : Program} {writer : Writer} {event : Event}
    (member : event ∈ program.trace writer) :
    (∃ action before, event = ⟨.acted action, before, action.run before⟩) ∨
      (∃ scope before, event = ⟨.entered scope, before, scope.enter before⟩) ∨
        ∃ scope entry finished, event = ⟨.left scope, finished, scope.leave entry finished⟩ := by
  induction program generalizing writer with
  | done => contradiction
  | act action rest ih =>
      rcases List.mem_cons.mp member with rfl | later
      · exact .inl ⟨action, writer, rfl⟩
      · exact ih later
  | within scope body rest body_ih rest_ih =>
      rcases List.mem_append.mp member with inside | outside
      · rcases List.mem_cons.mp inside with rfl | later
        · exact .inr (.inl ⟨scope, writer, rfl⟩)
        · exact body_ih later
      · rcases List.mem_cons.mp outside with rfl | later
        · exact .inr (.inr ⟨scope, writer, _, rfl⟩)
        · exact rest_ih later

/-- What a run keeps, at every event, of a writer and of the events before, where the body of a
scope is at hand at its end. -/
structure KeepsRun (property : List Event → Writer → Prop) : Prop where
  act : ∀ past writer action, property past writer →
    property (past ++ [⟨.acted action, writer, action.run writer⟩]) (action.run writer)
  enter : ∀ past writer scope, property past writer →
    property (past ++ [⟨.entered scope, writer, scope.enter writer⟩]) (scope.enter writer)
  leave : ∀ past entry scope (body : Program), property past entry →
    property (past ++ ⟨.entered scope, entry, scope.enter entry⟩ :: body.trace (scope.enter entry))
      (body.run (scope.enter entry)) →
    property (past ++ ⟨.entered scope, entry, scope.enter entry⟩ ::
        body.trace (scope.enter entry) ++
          [⟨.left scope, body.run (scope.enter entry),
            scope.leave entry (body.run (scope.enter entry))⟩])
      (scope.leave entry (body.run (scope.enter entry)))

variable {property : List Event → Writer → Prop}

/-- Wherever a program is stopped, it has kept what it keeps. -/
theorem KeepsRun.atEnd (keeps : KeepsRun property) {past : List Event} {writer : Writer}
    (start : property past writer) {program : Program} {history : List Event}
    (passed : history <+: program.trace writer) :
    property (past ++ history) (writer.atEnd history) := by
  induction program generalizing past writer history with
  | done =>
      obtain rfl := List.prefix_nil.mp passed
      rwa [List.append_nil]
  | act action rest ih =>
      rcases List.prefix_cons_iff.mp passed with rfl | ⟨later, rfl, following⟩
      · rwa [List.append_nil]
      · have acted := keeps.act past writer action start
        rw [List.append_cons]
        exact ih acted following
  | within scope body rest body_ih rest_ih =>
      have entered := keeps.enter past writer scope start
      rcases prefix_or_goesOn passed with inside | ⟨later, outside, rfl⟩
      · rcases List.prefix_cons_iff.mp inside with rfl | ⟨later, rfl, following⟩
        · rwa [List.append_nil]
        · rw [List.append_cons]
          exact body_ih entered following
      · -- The body was run to its end, so the scope is left from there or not yet left.
        have finished := body_ih entered (List.prefix_refl (body.trace (scope.enter writer)))
        rw [body.atEnd_trace, ← List.append_cons] at finished
        rcases List.prefix_cons_iff.mp outside with rfl | ⟨later, rfl, following⟩
        · rw [List.append_nil, Writer.atEnd, body.atEnd_trace]
          exact finished
        · have left := keeps.leave past writer scope body start finished
          rw [Writer.atEnd_append, ← List.append_assoc past, List.append_cons (past ++ _)]
          exact rest_ih left following

/-- What a run keeps, at every event, of a writer and of the events before. -/
structure Keeps (property : List Event → Writer → Prop) : Prop where
  act : ∀ past writer action, property past writer →
    property (past ++ [⟨.acted action, writer, action.run writer⟩]) (action.run writer)
  enter : ∀ past writer scope, property past writer →
    property (past ++ [⟨.entered scope, writer, scope.enter writer⟩]) (scope.enter writer)
  /-- The events between the start and the end of a scope come after all that was before it. -/
  leave : ∀ past inside entry finished scope, property past entry →
    property (past ++ inside) finished →
    property (past ++ inside ++ [⟨.left scope, finished, scope.leave entry finished⟩])
      (scope.leave entry finished)

namespace Keeps

/-- What is kept whatever is between the start and the end of a scope is kept by a run. -/
theorem keepsRun (keeps : Keeps property) : KeepsRun property where
  act := keeps.act
  enter := keeps.enter
  leave past entry scope _ start finished := keeps.leave past _ entry _ scope start finished

/-- The same, for what is kept whatever is between the start and the end of a scope. -/
theorem atEnd (keeps : Keeps property) {past : List Event} {writer : Writer}
    (start : property past writer) {program : Program} {history : List Event}
    (passed : history <+: program.trace writer) :
    property (past ++ history) (writer.atEnd history) :=
  keeps.keepsRun.atEnd start passed

/-- The same for a whole run, with nothing before it. -/
theorem atEnd_of_start (keeps : Keeps property) {writer : Writer} (start : property [] writer)
    {program : Program} {history : List Event} (passed : history <+: program.trace writer) :
    property history (writer.atEnd history) :=
  keeps.atEnd start passed

end Keeps

end SourceWriter

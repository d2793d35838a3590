import SourceWriter.Writer.Scope

/-! # Programs

A program is a sequence of actions on a writer, some of them surrounded by scopes. Running it
gives the writer at its end; its trace gives every writer on the way, one event for each action
and two for each scope.
-/

namespace SourceWriter

/-- The single steps, each named for what it does to a writer. -/
inductive Action where
  | write (text : Text)
  | writeAll (parts : List Text)
  | writeLine (text : Text)
  | writeIf (condition : Bool) (text : Text)
  | writeLineIf (condition : Bool) (text : Text)
  | quoteText (text : Text)
  | quote
  | newLine
  | newLineIf (condition : Bool)
  | newLineIfLastNot
  | blankLine
  | blankLineIf (condition : Bool)
  | blankLineIfLastNot
  | indent (times : Nat)
  | space (times : Nat)
  | tab (times : Nat)
  | spaceIfLastNot
  | tabIfLastNot
  | closeComment
  | emptyBlock
  | setLevel (indentation : Indentation)
  | queueLevel (indentation : Indentation)
  deriving DecidableEq

namespace Action

/-- The writer after a step. A level that is refused stays as it was. -/
def run (action : Action) (writer : Writer) : Writer :=
  match action with
  | .write text => writer.write text
  | .writeAll parts => writer.writeAll parts
  | .writeLine text => writer.writeLine text
  | .writeIf condition text => writer.writeIf condition text
  | .writeLineIf condition text => writer.writeLineIf condition text
  | .quoteText text => writer.quoteText text
  | .quote => writer.quote
  | .newLine => writer.newLine
  | .newLineIf condition => writer.newLineIf condition
  | .newLineIfLastNot => writer.newLineIfLastNot
  | .blankLine => writer.blankLine
  | .blankLineIf condition => writer.blankLineIf condition
  | .blankLineIfLastNot => writer.blankLineIfLastNot
  | .indent times => writer.indent times
  | .space times => writer.space times
  | .tab times => writer.tab times
  | .spaceIfLastNot => writer.spaceIfLastNot
  | .tabIfLastNot => writer.tabIfLastNot
  | .closeComment => writer.closeComment
  | .emptyBlock => writer.emptyBlock
  | .setLevel indentation => ((writer.setLevel indentation).toOption).getD writer
  | .queueLevel indentation => ((writer.queueLevel indentation).toOption).getD writer

/-- Why a step is refused. -/
def error? : Action → Option Error
  | .setLevel indentation | .queueLevel indentation =>
    match indentation.depth with
    | .ok _ => none
    | .error error => some error
  | _ => none

end Action

/-- A sequence of actions and scopes. -/
inductive Program where
  | done
  | act (action : Action) (rest : Program)
  /-- A scope around its body, and what follows it. -/
  | within (scope : Scope) (body rest : Program)
  deriving DecidableEq, Inhabited

/-- What an event reports. -/
inductive Moment where
  | entered (scope : Scope)
  | acted (action : Action)
  | left (scope : Scope)
  deriving DecidableEq

/-- One moment of a run, with the writers right before and right after it. -/
structure Event where
  moment : Moment
  before : Writer
  after : Writer
  deriving DecidableEq

/-- The text that an event appended. -/
def Event.added (event : Event) : Text :=
  event.after.text.drop event.before.text.length

namespace Program

/-- The writer after a program. -/
def run : Program → Writer → Writer
  | .done, writer => writer
  | .act action rest, writer => rest.run (action.run writer)
  | .within scope body rest, writer =>
    rest.run (scope.leave writer (body.run (scope.enter writer)))

/-- The events of a program, in order. -/
def trace : Program → Writer → List Event
  | .done, _ => []
  | .act action rest, writer =>
    ⟨.acted action, writer, action.run writer⟩ :: rest.trace (action.run writer)
  | .within scope body rest, writer =>
    let entered := scope.enter writer
    let finished := body.run entered
    let left := scope.leave writer finished
    ⟨.entered scope, writer, entered⟩ :: body.trace entered ++
      ⟨.left scope, finished, left⟩ :: rest.trace left

/-- One program, and then another. -/
def append : Program → Program → Program
  | .done, next => next
  | .act action rest, next => .act action (rest.append next)
  | .within scope body rest, next => .within scope body (rest.append next)

end Program

end SourceWriter

import SourceWriter.Diff.Unified
import SourceWriter.Reindent
import SourceWriter.Run.Host

/-! # Jobs

A job says what is done with each of its sources: it is reindented, and the result is printed,
shown as a diff, or written back. Sources are done in order, and the first error ends the run.
-/

namespace SourceWriter

/-- What is done with each source. -/
structure Job where
  options : Options
  indentation : Indentation
  /-- Whether to print a diff instead of the indented text. This goes before `inPlace`. -/
  diff : Bool := false
  /-- Whether to overwrite files with the indented text instead of printing it. -/
  inPlace : Bool := false
  quiet : Bool := false
  deriving DecidableEq

variable {m : Type → Type} [Monad m] [Host m]

/-- The text of a source. -/
def readSource (source : Text) : ExceptT Error m Text := do
  if source = standardStream then
    match ← (Host.readInput : m _) with
    | .ok text => return text
    | .error failure => throw (.unreadable source failure)
  else
    match ← (Host.readFile source : m _) with
    | .content text => return text
    | .failed failure => throw (.unreadable source failure)
    | .missing => throw (.missingSource source)

/-- Prints a text, or fails as the standard output does. -/
def printText (text : Text) : ExceptT Error m Unit := do
  match ← (Host.print text : m _) with
  | .ok _ => return ()
  | .error failure => throw (.unwritable standardStream failure)

/-- Overwrites a source with a text, or fails as the file does. -/
def overwrite (source text : Text) : ExceptT Error m Unit := do
  match ← (Host.writeFile source text : m _) with
  | .ok _ => return ()
  | .error failure => throw (.unwritable source failure)

namespace Job

/-- Passes a notice on unless the job is quiet. -/
def notify (job : Job) (notice : Notice) : ExceptT Error m Unit := do
  if job.quiet then return ()
  else (Host.notify notice : m Unit)

/-- Does one source: reads its text, reindents it, and delivers the result. Only a file is ever
overwritten; the standard input is printed even where files are overwritten. -/
def runSource (job : Job) (source : Text) : ExceptT Error m Unit := do
  let text ← readSource source
  let indented ← (reindent text job.options job.indentation : Except Error Text)
  if job.diff then
    if text = indented then job.notify (.unchanged source)
    else printText (Diff.unified text indented)
  else if job.inPlace ∧ source ≠ standardStream then
    overwrite source indented
    job.notify (.indented source)
  else printText indented

/-- Does all sources in order, up to the first one that fails. -/
def run (job : Job) : List Text → ExceptT Error m Unit
  | [] => return ()
  | source :: rest => do
    job.runSource source
    job.run rest

end Job

end SourceWriter

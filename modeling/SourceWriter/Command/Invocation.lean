import SourceWriter.Command.Arguments
import SourceWriter.Run.Job

/-! # Invocations

An accepted command line asks either for the version or for a job on sources. Carrying it out on
a host gives the exit code, and the line that reports the error if it fails.
-/

namespace SourceWriter.Command

/-- What the program is called. -/
def programName : Text := "code-block-writer".toList

/-- The version of the program. -/
def versionNumber : Text := "0.1.0".toList

/-- What a command line asks for. -/
inductive Invocation where
  /-- To print the version, with the name of the program or without. -/
  | showVersion (named : Bool)
  | work (job : Job) (sources : List Text)
  deriving DecidableEq

namespace Arguments

/-- The number of spaces to a level if nothing is given. -/
def defaultWidth : Nat := 4

/-- The number of levels to indent by if nothing is given. -/
def defaultLevel : Nat := 1

/-- The job that arguments ask for. -/
def job (arguments : Arguments) : Job :=
  { options :=
      { terminator := if arguments.flags.contains .crlf then .crlf else .lf
        width := arguments.width.getD defaultWidth
        tabs := arguments.flags.contains .useTabs }
    indentation :=
      match arguments.indentation with
      | some whitespace => .text whitespace
      | none => .ofCount (arguments.level.getD defaultLevel)
    diff := arguments.flags.contains .diff
    inPlace := arguments.flags.contains .inPlace
    quiet := arguments.flags.contains .quiet }

/-- What arguments ask for. Without sources, the standard input is one. -/
def invocation (arguments : Arguments) : Invocation :=
  if arguments.flags.contains .version then
    .showVersion (!arguments.flags.contains .quiet)
  else
    .work arguments.job
      (if arguments.sources.isEmpty then [standardStream] else arguments.sources)

end Arguments

namespace Invocation

/-- Reads a command line. -/
def ofWords (words : List Text) : Except UsageError Invocation := do
  return (← Arguments.ofWords words).invocation

/-- The line that tells the version. -/
def versionLine (named : Bool) : Text :=
  (if named then programName ++ [' '] else []) ++ versionNumber ++ ['\n']

end Invocation

/-- How a command line ends. -/
inductive Outcome where
  | refused (error : UsageError)
  | finished
  | failed (error : Error)
  /-- It broke off, as the version could not be printed. -/
  | aborted (failure : Failure)
  deriving DecidableEq

namespace Outcome

/-- The code that a process ends with. A command line that is refused has one of its own, and so has
a version that could not be printed. -/
def exitCode : Outcome → UInt8
  | .finished => 0
  | .failed _ => 1
  | .refused _ => 2
  | .aborted _ => 101

/-- The line that reports a job that was given up. -/
def errorLine? : Outcome → Option String
  | .failed error => some ("Error: Indent(" ++ error.detail ++ ")")
  | _ => none

/-- What is told of an outcome that is no success. -/
def report? : Outcome → Option String
  | .refused error => some ("error: " ++ error.message)
  | .aborted failure => some ("failed printing to stdout: " ++ failure.message)
  | outcome => outcome.errorLine?

end Outcome

variable {m : Type → Type} [Monad m] [Host m]

/-- Carries out what a command line asks for. -/
def Invocation.carryOut : Invocation → m Outcome
  | .showVersion named => do
    match ← (Host.print (versionLine named) : m _) with
    | .ok _ => return .finished
    | .error failure => return .aborted failure
  | .work job sources => do
    match ← (job.run sources : ExceptT Error m Unit).run with
    | .ok _ => return .finished
    | .error error => return .failed error

/-- Reads a command line and carries it out. -/
def carryOut (words : List Text) : m Outcome :=
  match Invocation.ofWords words with
  | .ok invocation => invocation.carryOut
  | .error error => return .refused error

end SourceWriter.Command

import SourceWriter.Error

/-! # Hosts

Where sources come from and where results go. A host offers its effects as operations of a
monad, so that the same run can be carried out by a system or by a model of one.
-/

namespace SourceWriter

/-- The name that stands for the standard input, and in messages for the standard output. -/
def standardStream : Text := ['-']

/-- What becomes of reading a file. -/
inductive Reading where
  | missing
  | failed (failure : Failure)
  | content (text : Text)
  deriving DecidableEq

/-- What a run tells about a source. -/
inductive Notice where
  | unchanged (source : Text)
  | indented (source : Text)
  deriving DecidableEq

/-- A notice as a line of text. -/
def Notice.message : Notice → String
  | .unchanged source => "No changes for " ++ String.ofList source
  | .indented source => "Indented " ++ String.ofList source

/-- The effects that a run needs. -/
class Host (m : Type → Type) where
  readInput : m (Except Failure Text)
  readFile : Text → m Reading
  writeFile : Text → Text → m (Except Failure Unit)
  print : Text → m (Except Failure Unit)
  notify : Notice → m Unit

end SourceWriter

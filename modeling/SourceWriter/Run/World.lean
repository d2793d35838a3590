import SourceWriter.Run.FileTree
import SourceWriter.Run.Host

/-! # Worlds

A world is a host that is a value: a tree of files, what is left of the standard input, and what
was printed. What becomes of each print is for the world to say: the standard output takes the text,
or it fails, and then a part of the text may be written all the same.
-/

namespace SourceWriter

/-- What becomes of a text that is printed. -/
inductive Verdict where
  | taken
  /-- It is not taken, but so many of its characters are written. -/
  | refused (part : Nat) (failure : Failure)
  deriving DecidableEq

/-- A model of a host. -/
structure World where
  files : FileTree := {}
  input : Content := .text []
  output : Text := []
  /-- What becomes of the next prints, in order. -/
  verdicts : List Verdict := []
  /-- Whether there is no space left for what is printed after them. -/
  outputFull : Bool := false
  /-- The notices, oldest first. -/
  notices : List Notice := []
  deriving DecidableEq

/-- A file that was found, and could be read or not. -/
def Reading.ofResult : Except Failure Text → Reading
  | .ok text => .content text
  | .error failure => .failed failure

namespace World

/-- Reads what is left of the standard input, after which nothing is left. -/
def readInput (world : World) : Except Failure Text × World :=
  (world.input.read, { world with input := .text [] })

/-- Reads the file that a path leads to, which may be the standard input. -/
def readFile (world : World) (path : Text) : Reading × World :=
  match world.files.find? path with
  | none => (.missing, world)
  | some .directory => (.failed .isDirectory, world)
  | some .null => (.content [], world)
  | some .input => (.ofResult world.readInput.1, world.readInput.2)
  | some (.file content) => (.ofResult content.read, world)

/-- What becomes of one of the prints to come. -/
def verdict (world : World) (index : Nat) : Verdict :=
  world.verdicts[index]?.getD (if world.outputFull then .refused 0 .noSpace else .taken)

/-- Writes to the standard output. There is no verdict on writing nothing, which always succeeds. -/
def print (world : World) (text : Text) : Except Failure Unit × World :=
  if text = [] then (.ok (), world)
  else
    let judged := { world with verdicts := world.verdicts.tail }
    match world.verdict 0 with
    | .taken => (.ok (), { judged with output := world.output ++ text })
    | .refused part failure =>
      (.error failure, { judged with output := world.output ++ text.take part })

/-- A step that changes the world only if it succeeds. -/
def attempt (step : World → Except Failure World) : StateM World (Except Failure Unit) :=
  fun world =>
    match step world with
    | .ok changed => (.ok (), changed)
    | .error failure => (.error failure, world)

instance : Host (StateM World) where
  readInput := readInput
  readFile := fun path world => world.readFile path
  writeFile := fun path text =>
    attempt fun world => do return { world with files := ← world.files.writeFile path text }
  print := fun text world => world.print text
  notify := fun notice world => ((), { world with notices := world.notices ++ [notice] })

end World

end SourceWriter

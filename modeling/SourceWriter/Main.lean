import SourceWriter.Command.Invocation

/-! # The command line tool

The system as a host, and the program that carries out a command line on it. Nothing is decided
here: words go in, and the outcome becomes the exit code.
-/

namespace SourceWriter

/-- The failure that an error of the system stands for. Its number may come with a minus sign. -/
def Failure.ofSystem : IO.Error → Failure
  | .alreadyExists _ code _ | .invalidArgument _ code _ | .permissionDenied _ code _
  | .resourceExhausted _ code _ | .inappropriateType _ code _ | .noSuchThing _ code _
  | .noFileOrDirectory _ code _ | .interrupted _ code _ | .otherError code _
  | .resourceBusy code _ | .resourceVanished code _ | .unsupportedOperation code _
  | .hardwareFault code _ | .unsatisfiedConstraints code _ | .illegalOperation code _
  | .protocolError code _ | .timeExpired code _ =>
    .system (Int.bmod code.toNat (Nat.pow 2 32)).natAbs
  | .unexpectedEof | .userError _ => .system 5

/-- Whether a failure means that a path leads nowhere. -/
def Failure.leadsNowhere : Failure → Bool
  | .system code => [2, 20, 36, 40].contains code
  | .invalidEncoding => false

/-- The text that bytes encode, if they are valid. -/
def decode (bytes : ByteArray) : Except Failure Text :=
  match String.fromUTF8? bytes with
  | some text => .ok text.toList
  | none => .error .invalidEncoding

/-- Reads a stream to its end, behind what was read of it already. -/
partial def readToEnd (stream : IO.FS.Stream) (read : ByteArray) : IO ByteArray := do
  let bytes ← stream.read 65536
  if bytes.isEmpty then return read
  else readToEnd stream (read ++ bytes)

instance : Host IO where
  readInput := do
    match ← (do readToEnd (← IO.getStdin) ByteArray.empty : IO ByteArray).toBaseIO with
    | .ok bytes => return decode bytes
    | .error error => return .error (.ofSystem error)
  readFile path := do
    match ← (IO.FS.readBinFile (String.ofList path)).toBaseIO with
    | .ok bytes =>
      match decode bytes with
      | .ok text => return .content text
      | .error failure => return .failed failure
    | .error error =>
      let failure := Failure.ofSystem error
      return if failure.leadsNowhere then .missing else .failed failure
  writeFile path text := do
    match ← (IO.FS.writeFile (String.ofList path) (String.ofList text)).toBaseIO with
    | .ok _ => return .ok ()
    | .error error => return .error (.ofSystem error)
  print text := do
    let output ← IO.getStdout
    match ← (do output.putStr (String.ofList text); output.flush : IO Unit).toBaseIO with
    | .ok _ => return .ok ()
    | .error error => return .error (.ofSystem error)
  notify notice := IO.eprintln notice.message

end SourceWriter

/-- Carries out a command line, reports its error, and exits with its code. -/
def main (words : List String) : IO UInt32 := do
  let outcome ← SourceWriter.Command.carryOut (words.map String.toList)
  if let some line := outcome.report? then IO.eprintln line
  return outcome.exitCode.toUInt32

import SourceWriter.Text.Quoted

/-! # Errors

What can be wrong with options and indentations, and what can go wrong with sources. An error
names its cause; `Error.message` is the sentence for a reader, and `Error.detail` the exact form
in which the command line tool reports it.
-/

namespace SourceWriter

/-- Why the system could not read or write. -/
inductive Failure where
  | invalidEncoding
  /-- The system refused, and gave the number of its reason. -/
  | system (code : Nat)
  deriving DecidableEq

namespace Failure

/-- There is nothing where the path leads. -/
def notFound : Failure := .system 2

/-- There is a directory where a file is needed. -/
def isDirectory : Failure := .system 21

/-- There is no space left to write to. -/
def noSpace : Failure := .system 28

/-- The kind of a reason of the system, and its description. -/
def reason : Nat → String × String
  | 1 => ("PermissionDenied", "Operation not permitted")
  | 2 => ("NotFound", "No such file or directory")
  | 5 => ("Uncategorized", "Input/output error")
  | 6 => ("Uncategorized", "No such device or address")
  | 9 => ("Uncategorized", "Bad file descriptor")
  | 11 => ("WouldBlock", "Resource temporarily unavailable")
  | 12 => ("OutOfMemory", "Cannot allocate memory")
  | 13 => ("PermissionDenied", "Permission denied")
  | 16 => ("ResourceBusy", "Device or resource busy")
  | 20 => ("NotADirectory", "Not a directory")
  | 21 => ("IsADirectory", "Is a directory")
  | 22 => ("InvalidInput", "Invalid argument")
  | 23 => ("Uncategorized", "Too many open files in system")
  | 24 => ("Uncategorized", "Too many open files")
  | 26 => ("ExecutableFileBusy", "Text file busy")
  | 27 => ("FileTooLarge", "File too large")
  | 28 => ("StorageFull", "No space left on device")
  | 30 => ("ReadOnlyFilesystem", "Read-only file system")
  | 32 => ("BrokenPipe", "Broken pipe")
  | 36 => ("InvalidFilename", "File name too long")
  | 40 => ("FilesystemLoop", "Too many levels of symbolic links")
  | 122 => ("QuotaExceeded", "Disk quota exceeded")
  | code => ("Uncategorized", "Unknown error " ++ toString code)

/-- A failure as a clause, with the number of its reason. -/
def message : Failure → String
  | .invalidEncoding => "stream did not contain valid UTF-8"
  | .system code => (reason code).2 ++ " (os error " ++ toString code ++ ")"

/-- A failure with all its parts. -/
def detail : Failure → String
  | .invalidEncoding =>
    "Error \x7b kind: InvalidData, message: \"stream did not contain valid UTF-8\" \x7d"
  | .system code =>
    "Os \x7b code: " ++ toString code ++ ", kind: " ++ (reason code).1 ++ ", message: " ++
      String.ofList (Text.quoted (reason code).2.toList) ++ " \x7d"

end Failure

/-- What can go wrong. -/
inductive Error where
  | invalidTerminator (text : Text)
  | invalidWidth
  | negativeLevel (level : Int)
  | levelTooLarge (level : Int)
  | invalidIndentationText (text : Text)
  | missingSource (path : Text)
  | unreadable (path : Text) (failure : Failure)
  | unwritable (path : Text) (failure : Failure)
  deriving DecidableEq

/-- The largest indentation level that can be given as a number. -/
def maxLevel : Nat := 1024

namespace Error

/-- An error as a sentence. -/
def message : Error → String
  | .invalidTerminator text =>
    "Only \\n and \\r\\n are allowed as new-line, but got " ++ String.ofList (Text.quoted text)
  | .invalidWidth => "The number of spaces per indentation level has to be at least 1"
  | .negativeLevel level =>
    "Passed in indentation level should be greater than or equal to 0, but was " ++
      toString level
  | .levelTooLarge level =>
    "Passed in indentation level should be at most " ++ toString maxLevel ++ ", but was " ++
      toString level
  | .invalidIndentationText text =>
    "Provided indentation text must be empty or only contain spaces or tabs, but was " ++
      String.ofList (Text.quoted text)
  | .missingSource path =>
    "The target to indent " ++ String.ofList path ++ " does not seem to exist"
  | .unreadable path failure =>
    "Error while reading " ++ String.ofList path ++ ": " ++ failure.message
  | .unwritable path failure =>
    "Error while writing " ++ String.ofList path ++ ": " ++ failure.message

/-- An error with all its parts, texts and paths quoted. -/
def detail : Error → String
  | .invalidTerminator text => "InvalidNewLine(" ++ String.ofList (Text.quoted text) ++ ")"
  | .invalidWidth => "InvalidIndentWidth"
  | .negativeLevel level => "NegativeIndentationLevel(" ++ toString level ++ ")"
  | .levelTooLarge level => "IndentationLevelTooLarge(" ++ toString level ++ ")"
  | .invalidIndentationText text =>
    "InvalidIndentationText(" ++ String.ofList (Text.quoted text) ++ ")"
  | .missingSource path => "TargetFileDoesNotExist(" ++ String.ofList (Text.quoted path) ++ ")"
  | .unreadable path failure =>
    "FailedToReadTargetFile(" ++ String.ofList (Text.quoted path) ++ ", " ++ failure.detail ++ ")"
  | .unwritable path failure =>
    "FailedToWriteFormattedFile(" ++ String.ofList (Text.quoted path) ++ ", " ++
      failure.detail ++ ")"

end Error

end SourceWriter

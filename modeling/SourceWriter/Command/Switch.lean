import SourceWriter.Text.Basic

/-! # Switches

The options of the command line. A flag is given or not; a setting is given with a value. Each
has a long name, and all but one a letter.
-/

namespace SourceWriter.Command

/-- The options without a value. -/
inductive Flag where
  | crlf
  | diff
  | inPlace
  | useTabs
  | quiet
  | verbose
  | version
  deriving DecidableEq

/-- The options with a value. -/
inductive Setting where
  | width
  | indentation
  | level
  deriving DecidableEq

/-- The options. -/
inductive Switch where
  | flag (flag : Flag)
  | setting (setting : Setting)
  deriving DecidableEq

namespace Switch

/-- All options, each once. -/
def all : List Switch :=
  [.flag .crlf, .flag .diff, .flag .inPlace, .flag .useTabs, .flag .quiet, .flag .verbose,
    .flag .version, .setting .width, .setting .indentation, .setting .level]

/-- The long name of an option. -/
def name : Switch → Text
  | .flag .crlf => "crlf".toList
  | .flag .diff => "diff".toList
  | .flag .inPlace => "in-place".toList
  | .flag .useTabs => "use-tabs".toList
  | .flag .quiet => "quiet".toList
  | .flag .verbose => "verbose".toList
  | .flag .version => "version".toList
  | .setting .width => "indent-width".toList
  | .setting .indentation => "indentation".toList
  | .setting .level => "level".toList

/-- The letter of an option, if it has one. -/
def letter? : Switch → Option Char
  | .flag .crlf => none
  | .flag .diff => some 'd'
  | .flag .inPlace => some 'p'
  | .flag .useTabs => some 't'
  | .flag .quiet => some 'q'
  | .flag .verbose => some 'v'
  | .flag .version => some 'V'
  | .setting .width => some 'w'
  | .setting .indentation => some 'i'
  | .setting .level => some 'l'

/-- The option with a long name. Names cannot be shortened. -/
def ofName? (name : Text) : Option Switch :=
  all.find? fun switch => switch.name = name

/-- The option with a letter. Small and capital letters are told apart. -/
def ofLetter? (letter : Char) : Option Switch :=
  all.find? fun switch => switch.letter? = some letter

end Switch

end SourceWriter.Command

import SourceWriter.Command.Switch

/-! # Usage errors

The causes for which a command line is refused, and what is said about each.
-/

namespace SourceWriter.Command

/-- Why a command line is refused. -/
inductive UsageError where
  | unknownSwitch (name : Text)
  | unexpectedValue (flag : Flag)
  | missingValue (setting : Setting)
  | invalidNumber (setting : Setting) (value : Text)
  /-- An option was given twice. -/
  | repeatedSwitch
  | conflictingSwitches
  /-- There are options between the sources. -/
  | scatteredSources
  | emptySource
  deriving DecidableEq

/-- What is said to the user, with the option or the value that is at fault. -/
def UsageError.message : UsageError → String
  | .unknownSwitch name => "There is no option " ++ String.ofList name
  | .unexpectedValue flag =>
    "The option --" ++ String.ofList (Switch.flag flag).name ++ " takes no value"
  | .missingValue setting =>
    "The option --" ++ String.ofList (Switch.setting setting).name ++ " needs a value"
  | .invalidNumber setting value =>
    String.ofList value ++ " is no valid number for --" ++
      String.ofList (Switch.setting setting).name
  | .repeatedSwitch => "An option can be given only once"
  | .conflictingSwitches => "Two of the options exclude each other"
  | .scatteredSources => "The sources have to stand together"
  | .emptySource => "The name of a source is empty"

end SourceWriter.Command

import SourceWriter.Command.Item

/-! # Arguments

The items of a command line are accepted if no option is given twice, no two given options
exclude each other, numbers are in range, and the sources stand together and have names.
-/

namespace SourceWriter.Command

/-- What an accepted command line asks for. -/
structure Arguments where
  flags : List Flag := []
  width : Option Nat := none
  indentation : Option Text := none
  level : Option Nat := none
  sources : List Text := []
  deriving DecidableEq

/-- A number in decimal digits, of which there has to be one. -/
def natural? (digits : Text) : Option Nat :=
  if digits.isEmpty || !digits.all Char.isDigit then none
  else some (digits.foldl (fun number digit => 10 * number + (digit.toNat - 48)) 0)

/-- A number in decimal digits with or without a sign. -/
def integer? : Text → Option Int
  | '+' :: digits => (natural? digits).map Int.ofNat
  | '-' :: digits => (natural? digits).map fun number => -(number : Int)
  | digits => (natural? digits).map Int.ofNat

/-- A number within bounds. -/
def numberWithin? (least greatest : Nat) (value : Text) : Option Nat :=
  match integer? value with
  | some number =>
    if (least : Int) ≤ number ∧ number ≤ greatest then some number.toNat else none
  | none => none

namespace Item

/-- The flag of an item that is one. -/
def flag? : Item → Option Flag
  | .flag given => some given
  | _ => none

/-- The setting of an item that is one, with its value. -/
def setting? : Item → Option (Setting × Text)
  | .setting given value => some (given, value)
  | _ => none

/-- The name of an item that is a source. -/
def source? : Item → Option Text
  | .source name => some name
  | _ => none

/-- Whether an item is the name of a source. -/
def isSource (item : Item) : Bool :=
  item.source?.isSome

/-- Whether all sources stand together. -/
def sourcesTogether (items : List Item) : Bool :=
  let fromFirst := items.dropWhile fun item => !item.isSource
  (fromFirst.dropWhile isSource).all fun item => !item.isSource

end Item

namespace Arguments

/-- The smallest and the largest width. -/
def widthBounds : Nat × Nat := (1, 255)

/-- The largest number of levels, which is the largest number of 32 bits. -/
def greatestLevel : Nat := Nat.pow 2 32 - 1

/-- The number that a setting has as its value. -/
def number (setting : Setting) (least greatest : Nat) (value : Option Text) :
    Except UsageError (Option Nat) :=
  match value with
  | none => .ok none
  | some value =>
    match numberWithin? least greatest value with
    | some number => .ok (some number)
    | none => .error (.invalidNumber setting value)

/-- Whether two options that exclude each other are given: a diff and overwriting, whitespace
and a level, or fewer and more notices. -/
def conflicting (arguments : Arguments) : Bool :=
  (arguments.flags.contains .diff && arguments.flags.contains .inPlace) ||
    (arguments.indentation.isSome && arguments.level.isSome) ||
    (arguments.flags.contains .quiet && arguments.flags.contains .verbose)

/-- The arguments that items make up. -/
def ofItems (items : List Item) : Except UsageError Arguments := do
  let flags := items.filterMap Item.flag?
  let settings := items.filterMap Item.setting?
  let sources := items.filterMap Item.source?
  if ¬ flags.Nodup ∨ ¬ (settings.map Prod.fst).Nodup then throw .repeatedSwitch
  if !Item.sourcesTogether items then throw .scatteredSources
  if sources.contains [] then throw .emptySource
  let width ← number .width widthBounds.1 widthBounds.2 (settings.lookup .width)
  let level ← number .level 0 greatestLevel (settings.lookup .level)
  let arguments : Arguments :=
    { flags, width, indentation := settings.lookup .indentation, level, sources }
  if arguments.conflicting then throw .conflictingSwitches
  return arguments

/-- The arguments that the words of a command line spell out. -/
def ofWords (words : List Text) : Except UsageError Arguments := do
  ofItems (← Item.ofWords words)

end Arguments

end SourceWriter.Command

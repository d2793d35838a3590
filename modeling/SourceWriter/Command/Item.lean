import SourceWriter.Command.UsageError

/-! # Reading command line words

A command line is a list of words, and each word gives some items: options that are set, and
names of sources. A word of two dashes and a name is one option; a word of one dash and letters
is one option for each letter, up to a setting that takes the rest of the word as its value. If
nothing is left of the word, the value is the next word, which must not look like an option.
After a word of two dashes alone, all words are sources.
-/

namespace SourceWriter.Command

/-- One thing that a command line says. -/
inductive Item where
  | flag (flag : Flag)
  | setting (setting : Setting) (value : Text)
  | source (name : Text)
  deriving DecidableEq

/-- What a word says, and the setting whose value is still to come. -/
structure WordReading where
  items : List Item
  /-- The setting that takes the next word as its value. -/
  pending : Option Setting := none
  deriving DecidableEq

namespace WordReading

/-- Reads the letters of a word after its dash. An equals sign right after a setting is not part
of its value. -/
def ofLetters : Text → Except UsageError WordReading
  | [] => .ok ⟨[], none⟩
  | letter :: rest =>
    match Switch.ofLetter? letter, rest with
    | none, _ => .error (.unknownSwitch [letter])
    | some (.flag flag), _ => do
      let reading ← ofLetters rest
      return { reading with items := .flag flag :: reading.items }
    | some (.setting setting), [] => .ok ⟨[], some setting⟩
    | some (.setting setting), '=' :: value => .ok ⟨[.setting setting value], none⟩
    | some (.setting setting), value => .ok ⟨[.setting setting value], none⟩

/-- Reads a word after its two dashes: a name, or a name and a value with an equals sign
between. -/
def ofName (word : Text) : Except UsageError WordReading :=
  let name := word.takeWhile (· ≠ '=')
  match Switch.ofName? name, word.dropWhile (· ≠ '=') with
  | none, _ => .error (.unknownSwitch name)
  | some (.flag flag), [] => .ok ⟨[.flag flag], none⟩
  | some (.flag flag), _ :: _ => .error (.unexpectedValue flag)
  | some (.setting setting), [] => .ok ⟨[], some setting⟩
  | some (.setting setting), _ :: value => .ok ⟨[.setting setting value], none⟩

/-- Reads a word. A dash alone is a source. -/
def ofWord : Text → Except UsageError WordReading
  | '-' :: '-' :: name => ofName name
  | '-' :: letter :: rest => ofLetters (letter :: rest)
  | word => .ok ⟨[.source word], none⟩

end WordReading

/-- Whether a word can be the value of the word before it: it must not start with a dash, unless
it is a dash. -/
def isDetachedValue (word : Text) : Bool :=
  word.head? ≠ some '-' || word = ['-']

/-- What the words of a command line say. -/
def Item.ofWords : List Text → Except UsageError (List Item)
  | [] => .ok []
  | word :: words =>
    if word = ['-', '-'] then .ok (words.map .source)
    else do
      let reading ← WordReading.ofWord word
      match reading.pending with
      | none => return reading.items ++ (← ofWords words)
      | some wanted =>
        match words with
        | [] => throw (.missingValue wanted)
        | value :: rest =>
          if isDetachedValue value then
            return reading.items ++ .setting wanted value :: (← ofWords rest)
          else throw (.missingValue wanted)

end SourceWriter.Command

import Mathlib.Data.List.Forall2
import SourceWriter.Command.Item

/-! # Spelled options

An option can be spelled in several ways (`Item.Spelled`): by its name, or by its letter together
with the letters of flags before it. The value of a setting stands in the same word, with an equals
sign or right after the letter, or it is the next word. Whichever way is taken, the words are read
as the options that they spell, and what follows two dashes as sources (`Item.ofWords_spelled`).
-/

namespace SourceWriter.Command

namespace Switch

/-- The word that an option's name makes. -/
def word (switch : Switch) : Text :=
  '-' :: '-' :: switch.name

/-- No two options have the same letter. -/
theorem ofLetter?_of_letter? {switch : Switch} {letter : Char}
    (lettered : switch.letter? = some letter) : ofLetter? letter = some switch := by
  rcases switch with flag | setting
  · cases flag <;> cases lettered <;> rfl
  · cases setting <;> cases lettered <;> rfl

end Switch

/-- The letters of flags. -/
def Flag.Letters : List Flag → Text → Prop :=
  List.Forall₂ fun flag letter => (Switch.flag flag).letter? = some letter

/-- What can follow the letter of a setting in its word to give it a value. -/
inductive Attached (value : Text) : Text → Prop where
  | directly (given : value ≠ []) (noEquals : value.head? ≠ some '=') : Attached value value
  | afterEquals : Attached value ('=' :: value)

/-- Words that spell options with their values, one after the other. -/
inductive Item.Spelled : List Item → List Text → Prop where
  | nil : Spelled [] []
  | name {items words} (flag : Flag) (others : Spelled items words) :
      Spelled (.flag flag :: items) ((Switch.flag flag).word :: words)
  | nameWithValue {items words} (setting : Setting) (value : Text) (others : Spelled items words) :
      Spelled (.setting setting value :: items)
        (((Switch.setting setting).word ++ '=' :: value) :: words)
  | nameBeforeValue {items words} (setting : Setting) {value : Text}
      (detached : isDetachedValue value) (others : Spelled items words) :
      Spelled (.setting setting value :: items) ((Switch.setting setting).word :: value :: words)
  | letters {items words flags letters} (joined : Flag.Letters flags letters)
      (given : letters ≠ []) (others : Spelled items words) :
      Spelled (flags.map .flag ++ items) (('-' :: letters) :: words)
  | lettersWithValue {items words flags letters} (joined : Flag.Letters flags letters)
      {setting : Setting} {letter : Char} (last : (Switch.setting setting).letter? = some letter)
      {value rest : Text} (attached : Attached value rest) (others : Spelled items words) :
      Spelled (flags.map .flag ++ .setting setting value :: items)
        (('-' :: (letters ++ letter :: rest)) :: words)
  | lettersBeforeValue {items words flags letters} (joined : Flag.Letters flags letters)
      {setting : Setting} {letter : Char} (last : (Switch.setting setting).letter? = some letter)
      {value : Text} (detached : isDetachedValue value) (others : Spelled items words) :
      Spelled (flags.map .flag ++ .setting setting value :: items)
        (('-' :: (letters ++ [letter])) :: value :: words)

/-- All options can be spelled, by their names for one. -/
theorem Item.exists_spelled {items : List Item} (options : ∀ name, .source name ∉ items) :
    ∃ words, Spelled items words := by
  induction items with
  | nil => exact ⟨[], .nil⟩
  | cons item items ih =>
      obtain ⟨words, others⟩ := ih fun name member => options name (.tail _ member)
      cases item with
      | flag flag => exact ⟨_, .name flag others⟩
      | setting setting value => exact ⟨_, .nameWithValue setting value others⟩
      | source name => exact absurd List.mem_cons_self (options name)

namespace WordReading

theorem ofWord_word_flag (flag : Flag) :
    ofWord (Switch.flag flag).word = .ok ⟨[.flag flag], none⟩ := by
  cases flag <;> rfl

theorem ofWord_word_setting (setting : Setting) :
    ofWord (Switch.setting setting).word = .ok ⟨[], some setting⟩ := by
  cases setting <;> rfl

theorem ofWord_word_assigned (setting : Setting) (value : Text) :
    ofWord ((Switch.setting setting).word ++ '=' :: value) =
      .ok ⟨[.setting setting value], none⟩ := by
  cases setting <;> rfl

/-- No option has a dash as its letter. -/
theorem ofWord_letters {letters : Text} {reading : WordReading} (given : letters ≠ [])
    (read : ofLetters letters = .ok reading) : ofWord ('-' :: letters) = .ok reading := by
  cases letters with
  | nil => exact absurd rfl given
  | cons letter rest =>
      by_cases dash : letter = '-'
      · -- Another dash would make it a name, but it is no letter either.
        subst dash
        cases read
      · rw [ofWord, read]
        simpa using dash

variable {flags : List Flag} {letters : Text} {setting : Setting} {letter : Char}

/-- Letters of flags leave the rest of the word as it would be read without them. -/
theorem ofLetters_append (joined : Flag.Letters flags letters) {rest : Text}
    {reading : WordReading} (read : ofLetters rest = .ok reading) :
    ofLetters (letters ++ rest) =
      .ok { reading with items := flags.map .flag ++ reading.items } := by
  induction joined with
  | nil => exact read
  | cons lettered _ ih =>
      simp only [List.cons_append, ofLetters, Switch.ofLetter?_of_letter? lettered, ih]
      rfl

/-- The letters of flags that are joined are read as these flags. -/
theorem ofLetters_letters (joined : Flag.Letters flags letters) :
    ofLetters letters = .ok ⟨flags.map .flag, none⟩ := by
  have none : ofLetters [] = .ok ⟨[], none⟩ := rfl
  simpa using ofLetters_append joined none

theorem ofLetters_singleton (last : (Switch.setting setting).letter? = some letter) :
    ofLetters [letter] = .ok ⟨[], some setting⟩ := by
  simp only [ofLetters, Switch.ofLetter?_of_letter? last]

/-- What is attached to the letter of a setting is read as its value. -/
theorem ofLetters_attached (last : (Switch.setting setting).letter? = some letter)
    {value rest : Text} (attached : Attached value rest) :
    ofLetters (letter :: rest) = .ok ⟨[.setting setting value], none⟩ := by
  simp only [ofLetters, Switch.ofLetter?_of_letter? last]
  cases attached with
  | directly given noEquals =>
      cases value with
      | nil => exact absurd rfl given
      | cons first others =>
          have other : first ≠ '=' := by simpa using noEquals
          simp [other]
  | afterEquals => rfl

theorem ne_dashes_of_ofWord {word : Text} {reading : WordReading}
    (read : ofWord word = .ok reading) : word ≠ ['-', '-'] := by
  rintro rfl
  cases read

end WordReading

namespace Item

/-- A word that waits for no value is read on its own. -/
theorem ofWords_cons_of_complete {word : Text} {words : List Text} {said items : List Item}
    (read : WordReading.ofWord word = .ok ⟨said, none⟩) (others : ofWords words = .ok items) :
    ofWords (word :: words) = .ok (said ++ items) := by
  rw [ofWords, if_neg (WordReading.ne_dashes_of_ofWord read), read]
  simp only [bind, Except.bind, others]
  rfl

/-- A word that waits for a value takes the next word as one. -/
theorem ofWords_cons_of_pending {word value : Text} {words : List Text} {said items : List Item}
    {setting : Setting} (read : WordReading.ofWord word = .ok ⟨said, some setting⟩)
    (detached : isDetachedValue value) (others : ofWords words = .ok items) :
    ofWords (word :: value :: words) = .ok (said ++ .setting setting value :: items) := by
  rw [ofWords, if_neg (WordReading.ne_dashes_of_ofWord read), read]
  simp only [bind, Except.bind, detached, others]
  rfl

/-- **Options are read as they are spelled**, whichever way that is, and everything behind two
dashes is a source, even if it starts with a dash. -/
theorem ofWords_spelled {items : List Item} {words : List Text} (spelled : Spelled items words)
    (sources : List Text) :
    ofWords (words ++ ['-', '-'] :: sources) = .ok (items ++ sources.map .source) := by
  induction spelled with
  | nil => simp [ofWords]
  | name flag _ ih =>
      simpa using ofWords_cons_of_complete (WordReading.ofWord_word_flag flag) ih
  | nameWithValue setting value _ ih =>
      simpa using ofWords_cons_of_complete (WordReading.ofWord_word_assigned setting value) ih
  | nameBeforeValue setting detached _ ih =>
      simpa using ofWords_cons_of_pending (WordReading.ofWord_word_setting setting) detached ih
  | letters joined given _ ih =>
      have read := WordReading.ofLetters_letters joined
      simpa using ofWords_cons_of_complete (WordReading.ofWord_letters given read) ih
  | lettersWithValue joined last attached _ ih =>
      have read :=
        WordReading.ofLetters_append joined (WordReading.ofLetters_attached last attached)
      simpa using ofWords_cons_of_complete (WordReading.ofWord_letters (by simp) read) ih
  | lettersBeforeValue joined last detached _ ih =>
      have read := WordReading.ofLetters_append joined (WordReading.ofLetters_singleton last)
      simpa using ofWords_cons_of_pending (WordReading.ofWord_letters (by simp) read) detached ih

end Item

end SourceWriter.Command

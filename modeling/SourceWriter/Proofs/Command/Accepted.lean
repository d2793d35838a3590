import Mathlib.Data.List.Nodup
import Mathlib.Data.List.TakeWhile
import SourceWriter.Command.Arguments

/-! # Accepted arguments

What is asked of items to be accepted, and which arguments they then make up, is one statement
(`Arguments.MadeUpBy`, `Arguments.ofItems_eq_ok_iff`). The order of options does not matter: items
are accepted for the flags and the values that they give (`Arguments.exists_ofItems_of_giving`). A
number is read as it is written, with zeros and a plus sign before it or without
(`numberWithin?_numeral`).
-/

namespace SourceWriter.Command

section Results

variable {ε α β : Type}

/-- Two steps in turn succeed exactly if the first one does, and the second one from its value. -/
theorem bind_eq_ok_iff {first : Except ε α} {next : α → Except ε β} {result : β} :
    first >>= next = .ok result ↔ ∃ value, first = .ok value ∧ next value = .ok result := by
  cases first <;> simp [bind, Except.bind]

/-- What is refused under a condition is accepted only without it. -/
theorem ite_throw_eq_ok_iff {condition : Prop} [Decidable condition] {error : ε}
    {next : α → Except ε β} {otherwise : Except ε β} {result : β} :
    (if condition then throw error >>= next else otherwise) = .ok result ↔
      ¬ condition ∧ otherwise = .ok result := by
  by_cases refused : condition
  · simp [refused, bind, Except.bind, throw, throwThe, MonadExceptOf.throw]
  · simp [refused]

end Results

/-- The ways to write a number: its decimal digits, with zeros and a plus sign before them or
without. -/
inductive Numeral (number : Nat) : Text → Prop where
  | unsigned (zeros : Nat) :
      Numeral number (List.replicate zeros '0' ++ Nat.toDigits 10 number)
  | positive (zeros : Nat) :
      Numeral number ('+' :: (List.replicate zeros '0' ++ Nat.toDigits 10 number))

/-- Zeros before a number do not change it. -/
theorem natural?_zeros (zeros number : Nat) :
    natural? (List.replicate zeros '0' ++ Nat.toDigits 10 number) = some number := by
  have digits : ∀ digit ∈ Nat.toDigits 10 number, digit.isDigit = true := fun digit member =>
    Nat.isDigit_of_mem_toDigits (by decide) (by decide) member
  have value : Nat.ofDigitChars 10 (List.replicate zeros '0' ++ Nat.toDigits 10 number) 0 =
      number := by
    induction zeros with
    | zero => exact Nat.ofDigitChars_ten_toDigits
    | succ zeros ih => exact ih
  rw [natural?, if_neg]
  · exact congrArg some value
  · simpa [Nat.toDigits_ne_nil] using digits

/-- A number without a sign is not negative. -/
theorem integer?_of_natural? {digits : Text} {number : Nat} (read : natural? digits = some number) :
    integer? digits = some (number : Int) := by
  -- A sign is no digit, so that nothing would have been read.
  unfold integer?
  split
  · cases read
  · cases read
  · rw [read]
    rfl

/-- A numeral of a number within the bounds is accepted as this number. -/
theorem numberWithin?_numeral {least greatest number : Nat} {value : Text}
    (numeral : Numeral number value) (within : least ≤ number ∧ number ≤ greatest) :
    numberWithin? least greatest value = some number := by
  have read : integer? value = some (number : Int) := by
    cases numeral with
    | unsigned zeros => exact integer?_of_natural? (natural?_zeros zeros number)
    | positive zeros => simp [integer?, natural?_zeros]
  simp [numberWithin?, read, within]

theorem within_of_numberWithin? {least greatest number : Nat} {value : Text}
    (read : numberWithin? least greatest value = some number) :
    least ≤ number ∧ number ≤ greatest := by
  unfold numberWithin? at read
  split at read
  · split at read
    · obtain rfl := Option.some.inj read
      omega
    · cases read
  · cases read

/-- All flags, each once. -/
def Flag.all : List Flag :=
  [.crlf, .diff, .inPlace, .useTabs, .quiet, .verbose, .version]

/-- All settings, each once. -/
def Setting.all : List Setting :=
  [.width, .indentation, .level]

/-- The settings that have a value, with it. -/
def Setting.valued (value : Setting → Option Text) : List (Setting × Text) :=
  all.filterMap fun setting => (value setting).map (setting, ·)

theorem Setting.mem_valued_iff {value : Setting → Option Text} {setting : Setting} {text : Text} :
    (setting, text) ∈ valued value ↔ value setting = some text := by
  have listed : setting ∈ all := by cases setting <;> decide
  simp [valued, listed]

theorem Setting.valued_nodup (value : Setting → Option Text) :
    ((valued value).map Prod.fst).Nodup := by
  rw [valued, List.map_filterMap]
  refine List.Nodup.filterMap ?_ (by decide)
  intro first second key fromFirst fromSecond
  simp only [Option.map_map, Option.mem_def, Option.map_eq_some_iff] at fromFirst fromSecond
  obtain ⟨_, -, rfl⟩ := fromFirst
  obtain ⟨_, -, same⟩ := fromSecond
  exact same.symm

/-- A value that is given once is found wherever it stands. -/
theorem lookup_eq_some_iff_mem {settings : List (Setting × Text)}
    (once : (settings.map Prod.fst).Nodup) {setting : Setting} {text : Text} :
    settings.lookup setting = some text ↔ (setting, text) ∈ settings := by
  induction settings with
  | nil => simp
  | cons first others ih =>
      obtain ⟨key, written⟩ := first
      obtain ⟨new, once⟩ := List.nodup_cons.mp once
      by_cases same : setting = key
      · subst same
        have absent : (setting, text) ∉ others := fun member =>
          new (List.mem_map.mpr ⟨_, member, rfl⟩)
        simp [absent, eq_comm]
      · have other : (setting == key) = false := beq_false_of_ne same
        simp [List.lookup_cons, other, same, ih once]

namespace Item

/-- Items that give flags, and values to settings, in any order. -/
def Giving (given : Flag → Bool) (value : Setting → Option Text) (items : List Item) : Prop :=
  items.Perm ((Flag.all.filter given).map .flag ++
    (Setting.valued value).map fun setting => .setting setting.1 setting.2)

instance (given : Flag → Bool) (value : Setting → Option Text) (items : List Item) :
    Decidable (Giving given value items) :=
  inferInstanceAs (Decidable (items.Perm _))

variable {given : Flag → Bool} {value : Setting → Option Text} {items : List Item}

namespace Giving

/-- The flags among items that give them are these, in some order. -/
theorem flags_perm (giving : Giving given value items) :
    (items.filterMap flag?).Perm (Flag.all.filter given) := by
  simpa [List.filterMap_map, Function.comp_def, flag?] using giving.filterMap flag?

/-- The settings among items that give them are those that have a value, in some order. -/
theorem settings_perm (giving : Giving given value items) :
    (items.filterMap setting?).Perm (Setting.valued value) := by
  simpa [List.filterMap_map, Function.comp_def, setting?] using giving.filterMap setting?

theorem source?_eq_none (giving : Giving given value items) :
    ∀ item ∈ items, item.source? = none := by
  simpa [List.filterMap_map, Function.comp_def, source?] using giving.filterMap source?

theorem flags_nodup (giving : Giving given value items) : (items.filterMap flag?).Nodup :=
  giving.flags_perm.nodup_iff.mpr (.filter given (by decide))

theorem settings_nodup (giving : Giving given value items) :
    ((items.filterMap setting?).map Prod.fst).Nodup :=
  (giving.settings_perm.map Prod.fst).nodup_iff.mpr (Setting.valued_nodup value)

theorem contains_eq (giving : Giving given value items) (flag : Flag) :
    (items.filterMap flag?).contains flag = given flag := by
  have listed : flag ∈ Flag.all := by cases flag <;> decide
  rw [giving.flags_perm.contains_eq, Bool.eq_iff_iff]
  simp [listed]

theorem lookup_eq (giving : Giving given value items) (setting : Setting) :
    (items.filterMap setting?).lookup setting = value setting := by
  ext text
  rw [lookup_eq_some_iff_mem giving.settings_nodup, giving.settings_perm.mem_iff,
    Setting.mem_valued_iff]

end Giving

theorem filterMap_flag?_append_sources (items : List Item) (sources : List Text) :
    (items ++ sources.map Item.source).filterMap flag? = items.filterMap flag? := by
  simp [List.filterMap_map, Function.comp_def, flag?]

theorem filterMap_setting?_append_sources (items : List Item) (sources : List Text) :
    (items ++ sources.map Item.source).filterMap setting? = items.filterMap setting? := by
  simp [List.filterMap_map, Function.comp_def, setting?]

/-- Behind items that are no sources, the sources are found in order. -/
theorem filterMap_source?_append_sources (others : ∀ item ∈ items, item.source? = none)
    (sources : List Text) : (items ++ sources.map Item.source).filterMap source? = sources := by
  simpa [List.filterMap_map, Function.comp_def, source?] using others

/-- Sources behind everything else stand together. -/
theorem sourcesTogether_append (others : ∀ item ∈ items, item.source? = none)
    (sources : List Text) : sourcesTogether (items ++ sources.map Item.source) = true := by
  have skipped : ∀ item ∈ items, (!item.isSource) = true := fun item member => by
    simp [isSource, others item member]
  have first : (sources.map source).dropWhile (fun item => !item.isSource) =
      sources.map source := by
    cases sources with
    | nil => rfl
    | cons first rest => rfl
  have rest : (sources.map source).dropWhile isSource = [] := by
    refine List.dropWhile_eq_nil_iff.mpr fun item member => ?_
    obtain ⟨name, -, rfl⟩ := List.mem_map.mp member
    rfl
  simp [sourcesTogether, List.dropWhile_append_of_pos skipped, first, rest]

end Item

namespace Arguments

theorem within_of_number {setting : Setting} {least greatest : Nat} {value : Option Text}
    {read : Option Nat} (accepted : number setting least greatest value = .ok read) :
    ∀ given ∈ read, least ≤ given ∧ given ≤ greatest := by
  intro given member
  obtain rfl := Option.mem_def.mp member
  cases value with
  | none => cases accepted
  | some value =>
      cases result : numberWithin? least greatest value with
      | none => simp [number, result] at accepted
      | some found =>
          simp only [number, result, Except.ok.injEq, Option.some.injEq] at accepted
          exact accepted ▸ within_of_numberWithin? result

/-- Two options conflict exactly if a diff and overwriting are asked for, or whitespace and a level,
or fewer and more notices. -/
theorem conflicting_eq_false_iff {arguments : Arguments} :
    arguments.conflicting = false ↔
      ¬ (arguments.flags.contains .diff ∧ arguments.flags.contains .inPlace) ∧
      (arguments.indentation = none ∨ arguments.level = none) ∧
      ¬ (arguments.flags.contains .quiet ∧ arguments.flags.contains .verbose) := by
  simp only [conflicting, Bool.or_eq_false_iff, Bool.and_eq_false_iff, Option.isSome_eq_false_iff,
    Option.isNone_iff_eq_none, not_and_or, Bool.not_eq_true, and_assoc]

/-- What is asked of items, and the arguments that they make up. -/
structure MadeUpBy (items : List Item) (arguments : Arguments) : Prop where
  flagsOnce : (items.filterMap Item.flag?).Nodup
  settingsOnce : ((items.filterMap Item.setting?).map Prod.fst).Nodup
  together : Item.sourcesTogether items = true
  named : [] ∉ items.filterMap Item.source?
  flags_eq : arguments.flags = items.filterMap Item.flag?
  width_eq : number .width 1 255 ((items.filterMap Item.setting?).lookup .width) =
    .ok arguments.width
  indentation_eq : arguments.indentation = (items.filterMap Item.setting?).lookup .indentation
  level_eq : number .level 0 4294967295 ((items.filterMap Item.setting?).lookup .level) =
    .ok arguments.level
  sources_eq : arguments.sources = items.filterMap Item.source?
  compatible : arguments.conflicting = false

/-- Items are accepted as exactly the arguments that they make up. -/
theorem ofItems_eq_ok_iff {items : List Item} {arguments : Arguments} :
    ofItems items = .ok arguments ↔ arguments.MadeUpBy items := by
  unfold ofItems
  simp only [ite_throw_eq_ok_iff, bind_eq_ok_iff, not_or, not_not]
  constructor
  · rintro ⟨once, together, named, width, readWidth, level, readLevel, compatible, made⟩
    obtain rfl := Except.ok.inj made
    exact ⟨once.1, once.2, by simpa using together, by simpa using named, rfl, readWidth, rfl,
      readLevel, rfl, by simpa using compatible⟩
  · intro made
    obtain ⟨flags, width, indentation, level, sources⟩ := arguments
    obtain ⟨flagsOnce, settingsOnce, together, named, rfl, readWidth, rfl, readLevel, rfl,
      compatible⟩ := made
    exact ⟨⟨flagsOnce, settingsOnce⟩, by simp [together], by simpa using named, width, readWidth,
      level, readLevel, by simpa using compatible, rfl⟩

/-- Items that give flags, and values to settings, are accepted before sources, whatever their
order. -/
theorem exists_ofItems_of_giving {given : Flag → Bool} {value : Setting → Option Text}
    {items : List Item} (giving : Item.Giving given value items) {sources : List Text}
    (named : [] ∉ sources) {width level : Option Nat}
    (readWidth : number .width 1 255 (value .width) = .ok width)
    (readLevel : number .level 0 4294967295 (value .level) = .ok level)
    (oneDelivery : ¬ (given .diff ∧ given .inPlace))
    (oneIndentation : value .indentation = none ∨ level = none)
    (oneVolume : ¬ (given .quiet ∧ given .verbose)) :
    ∃ arguments, ofItems (items ++ sources.map Item.source) = .ok arguments ∧
      (∀ flag, arguments.flags.contains flag = given flag) ∧
      arguments.width = width ∧ arguments.indentation = value .indentation ∧
      arguments.level = level ∧ arguments.sources = sources := by
  refine ⟨⟨items.filterMap Item.flag?, width, value .indentation, level, sources⟩,
    ofItems_eq_ok_iff.mpr ?_, giving.contains_eq, rfl, rfl, rfl, rfl⟩
  have flags := Item.filterMap_flag?_append_sources items sources
  have settings := Item.filterMap_setting?_append_sources items sources
  have names := Item.filterMap_source?_append_sources giving.source?_eq_none sources
  constructor
  · exact flags ▸ giving.flags_nodup
  · exact settings ▸ giving.settings_nodup
  · exact Item.sourcesTogether_append giving.source?_eq_none sources
  · rwa [names]
  · rw [flags]
  · rwa [settings, giving.lookup_eq]
  · rw [settings, giving.lookup_eq]
  · rwa [settings, giving.lookup_eq]
  · rw [names]
  · refine conflicting_eq_false_iff.mpr ⟨?_, oneIndentation, ?_⟩
    · simpa only [giving.contains_eq] using oneDelivery
    · simpa only [giving.contains_eq] using oneVolume

end Arguments

end SourceWriter.Command

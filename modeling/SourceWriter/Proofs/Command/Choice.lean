import SourceWriter.Command.Invocation
import SourceWriter.Proofs.Command.Accepted
import SourceWriter.Proofs.Command.Words
import SourceWriter.Proofs.Run.FailStop

/-! # Choices

What can be chosen for a job can be written as a command line in many ways: the options in any
order, each spelled in any way, and a number left out where it is the usual one
(`Choice.WrittenAs`). Each of them asks for just the job that was chosen, on just the sources. The
other way round, what a command line asks for is never refused for the line terminator, the width
or a negative level (`ofWords_roundTrip`).
-/

namespace SourceWriter

/-- A job to which neither its width nor its level is an obstacle, and which does not both show and
write back what it changes. -/
structure Job.Sound (job : Job) : Prop where
  valid : job.options.Valid
  nonneg : ∀ levels, job.indentation = .level levels → 0 ≤ levels
  oneDelivery : ¬ (job.diff ∧ job.inPlace)

/-- A sound job fails neither for a terminator nor for its width, nor for a negative level. -/
theorem Job.Sound.error_ne {job : Job} (sound : job.Sound) {sources : List Text} {world : World}
    {error : Error} (failed : (job.outcome sources world).1 = .error error) :
    (∀ text, error ≠ .invalidTerminator text) ∧ error ≠ .invalidWidth ∧
      ∀ levels, error ≠ .negativeLevel levels := by
  rcases Job.outcome_error_cases failed with ofSource | ⟨invalid, -⟩ | refused
  · cases ofSource <;> exact ⟨nofun, nofun, nofun⟩
  · exact absurd sound.valid invalid
  · cases asked : job.indentation with
    | level levels =>
        have nonneg : ¬ levels < 0 := Int.not_lt.mpr (sound.nonneg levels asked)
        rw [asked, Indentation.depth, if_neg nonneg] at refused
        split at refused
        · cases refused
          exact ⟨nofun, nofun, nofun⟩
        · cases refused
    | text sample =>
        rw [asked, Indentation.depth] at refused
        split at refused
        · cases refused
        · cases refused
          exact ⟨nofun, nofun, nofun⟩

namespace Command

/-- By how much to indent: by a number of levels, or like a text. -/
inductive Amount where
  | level (levels : Nat) (bounded : levels ≤ 4294967295)
  | text (sample : Text) (given : sample ≠ [])

/-- What can be chosen for a job. -/
structure Choice where
  crlf : Bool := false
  useTabs : Bool := false
  width : Nat := 4
  amount : Amount
  diff : Bool := false
  inPlace : Bool := false
  quiet : Bool := false
  verbose : Bool := false
  positive : 1 ≤ width
  narrow : width ≤ 255
  oneDelivery : ¬ (diff ∧ inPlace)
  oneVolume : ¬ (quiet ∧ verbose)

/-- How a number is given: it is written, or left out if it is the usual one. -/
inductive NumberGiven (usual number : Nat) : Option Text → Prop where
  | written {value : Text} (numeral : Numeral number value) : NumberGiven usual number (some value)
  | leftOut (same : number = usual) : NumberGiven usual number none

namespace Amount

/-- The indentation that an amount stands for, however it was given. -/
def indentation : Amount → Indentation
  | .level levels _ => .level levels
  | .text sample _ => .text sample

/-- The values of settings that give an amount. -/
def GivenBy (value : Setting → Option Text) : Amount → Prop
  | .level levels _ => value .indentation = none ∧ NumberGiven 1 levels (value .level)
  | .text sample _ => value .indentation = some sample ∧ value .level = none

end Amount

namespace Choice

/-- The job that is chosen. -/
def job (choice : Choice) : Job where
  options :=
    { terminator := if choice.crlf then .crlf else .lf
      width := choice.width
      tabs := choice.useTabs
      singleQuotes := false }
  indentation := choice.amount.indentation
  diff := choice.diff
  inPlace := choice.inPlace
  quiet := choice.quiet

/-- The flags that are to be given. -/
def gives (choice : Choice) : Flag → Bool
  | .crlf => choice.crlf
  | .diff => choice.diff
  | .inPlace => choice.inPlace
  | .useTabs => choice.useTabs
  | .quiet => choice.quiet
  | .verbose => choice.verbose
  | .version => false

/-- The options that words spell are those of a choice. -/
def WrittenAs (choice : Choice) (words : List Text) : Prop :=
  ∃ value items, NumberGiven 4 choice.width (value .width) ∧ choice.amount.GivenBy value ∧
    Item.Giving choice.gives value items ∧ Item.Spelled items words

end Choice

theorem numeral_toDigits (number : Nat) : Numeral number (Nat.toDigits 10 number) :=
  .unsigned 0

namespace Choice

/-- The values of all settings that stand for a choice, with nothing left out. -/
def value (choice : Choice) : Setting → Option Text
  | .width => some (Nat.toDigits 10 choice.width)
  | .indentation =>
    match choice.amount with
    | .level _ _ => none
    | .text sample _ => some sample
  | .level =>
    match choice.amount with
    | .level levels _ => some (Nat.toDigits 10 levels)
    | .text _ _ => none

theorem givenBy_value (choice : Choice) : choice.amount.GivenBy choice.value := by
  cases asked : choice.amount with
  | level levels _ =>
      have written : NumberGiven 1 levels (some _) := .written (numeral_toDigits levels)
      simpa [Amount.GivenBy, value, asked] using written
  | text sample _ => simp [Amount.GivenBy, value, asked]

/-- Every choice can be written as words. -/
theorem exists_writtenAs (choice : Choice) : ∃ words, choice.WrittenAs words := by
  have giving : Item.Giving choice.gives choice.value _ := .refl _
  obtain ⟨words, spelled⟩ := Item.exists_spelled fun name member => by
    cases giving.source?_eq_none _ member
  exact ⟨words, choice.value, _, .written (numeral_toDigits choice.width), choice.givenBy_value,
    giving, spelled⟩

end Choice

/-- No level that can be given as a number is held up. -/
theorem ofCount_of_bounded {levels : Nat} (bounded : levels ≤ 4294967295) :
    Indentation.ofCount levels = .level levels := by
  have largest : 4294967295 ≤ Nat.pow 2 63 - 1 := by decide
  rw [Indentation.ofCount, Int.min_eq_left (by omega)]

namespace Arguments

/-- A number that is written, or left out as the usual one, is accepted as itself. -/
theorem exists_number_of_given (setting : Setting) {usual number least greatest : Nat}
    {value : Option Text} (given : NumberGiven usual number value) (above : least ≤ number)
    (below : number ≤ greatest) :
    ∃ read, Arguments.number setting least greatest value = .ok read ∧
      read.getD usual = number := by
  cases given with
  | written numeral =>
      have read := numberWithin?_numeral numeral ⟨above, below⟩
      exact ⟨some number, by simp only [Arguments.number, read], rfl⟩
  | leftOut same => exact ⟨none, rfl, same.symm⟩

/-- An amount that is given is read, be it a number of levels or a text. -/
theorem exists_level_of_given {amount : Amount} {value : Setting → Option Text}
    (given : amount.GivenBy value) :
    ∃ level, number .level 0 4294967295 (value .level) = .ok level ∧
      (value .indentation = none ∨ level = none) ∧
      ∀ arguments : Arguments, arguments.indentation = value .indentation →
        arguments.level = level → arguments.job.indentation = amount.indentation := by
  cases amount with
  | level levels bounded =>
      obtain ⟨noText, numberGiven⟩ := given
      obtain ⟨level, read, level_eq⟩ :=
        exists_number_of_given .level numberGiven levels.zero_le bounded
      refine ⟨level, read, .inl noText, ?_⟩
      rintro arguments text rfl
      rw [job, text, noText]
      calc Indentation.ofCount (arguments.level.getD 1) = .ofCount levels := by rw [level_eq]
        _ = .level levels := ofCount_of_bounded bounded
  | text sample _ =>
      obtain ⟨textGiven, noLevel⟩ := given
      refine ⟨none, by rw [noLevel]; rfl, .inr rfl, ?_⟩
      intro arguments text _
      rw [job, text, textGiven]
      rfl

end Arguments

/-- Words ask for an invocation exactly if they spell items that make up arguments for it. -/
theorem Invocation.ofWords_eq_ok_iff {words : List Text} {invocation : Invocation} :
    Invocation.ofWords words = .ok invocation ↔
      ∃ items arguments, Item.ofWords words = .ok items ∧
        Arguments.ofItems items = .ok arguments ∧ arguments.invocation = invocation := by
  simp only [Invocation.ofWords, Arguments.ofWords, bind_eq_ok_iff]
  constructor
  · rintro ⟨arguments, ⟨items, read, accepted⟩, asked⟩
    exact ⟨items, arguments, read, accepted, Except.ok.inj asked⟩
  · rintro ⟨items, arguments, read, accepted, rfl⟩
    exact ⟨arguments, ⟨items, read, accepted⟩, rfl⟩

/-- However a choice is written, the command line asks for its job. -/
theorem Choice.ofWords_of_writtenAs {choice : Choice} {words sources : List Text}
    (written : choice.WrittenAs words) (given : sources ≠ []) (named : [] ∉ sources) :
    Invocation.ofWords (words ++ ['-', '-'] :: sources) = .ok (.work choice.job sources) := by
  obtain ⟨value, items, widthGiven, amountGiven, giving, spelled⟩ := written
  obtain ⟨width, readWidth, width_eq⟩ :=
    Arguments.exists_number_of_given .width widthGiven choice.positive choice.narrow
  obtain ⟨level, readLevel, oneIndentation, amount⟩ := Arguments.exists_level_of_given amountGiven
  obtain ⟨arguments, accepted, flags, rfl, text, rfl, rfl⟩ :=
    Arguments.exists_ofItems_of_giving giving named readWidth readLevel choice.oneDelivery
      oneIndentation choice.oneVolume
  refine Invocation.ofWords_eq_ok_iff.mpr
    ⟨_, arguments, Item.ofWords_spelled spelled arguments.sources, accepted, ?_⟩
  have options : arguments.job.options = choice.job.options := by
    simp only [Arguments.job, flags, gives, Choice.job, Arguments.defaultWidth, width_eq]
  have job : arguments.job = choice.job := by
    change Job.mk _ _ _ _ _ = Job.mk _ _ _ _ _
    rw [Job.mk.injEq]
    exact ⟨options, amount arguments text rfl, flags .diff, flags .inPlace, flags .quiet⟩
  have work : ¬ arguments.flags.contains .version := by rw [flags]; exact Bool.false_ne_true
  have some : ¬ arguments.sources.isEmpty := by simpa using given
  rw [Arguments.invocation, if_neg work, if_neg some, job]

/-- Accepted arguments ask for a sound job. -/
theorem sound_of_madeUpBy {items : List Item} {arguments : Arguments}
    (made : arguments.MadeUpBy items) : arguments.job.Sound where
  valid := by
    change 0 < arguments.width.getD 4
    cases given : arguments.width with
    | none => decide
    | some width => exact (Arguments.within_of_number made.width_eq width given).1
  nonneg levels counted := by
    -- A count is held up by a bound that is not negative.
    have largest : 1 ≤ Nat.pow 2 63 := by decide
    cases given : arguments.indentation with
    | none =>
        rw [Arguments.job, given] at counted
        obtain rfl := Indentation.level.inj counted
        omega
    | some text =>
        rw [Arguments.job, given] at counted
        cases counted
  oneDelivery := (Arguments.conflicting_eq_false_iff.mp made.compatible).1

theorem sound_of_ofWords {words sources : List Text} {job : Job}
    (asked : Invocation.ofWords words = .ok (.work job sources)) : job.Sound := by
  obtain ⟨items, arguments, -, accepted, work⟩ := Invocation.ofWords_eq_ok_iff.mp asked
  rw [Arguments.invocation] at work
  split at work
  · cases work
  · obtain ⟨rfl, -⟩ := Invocation.work.inj work
    exact sound_of_madeUpBy (Arguments.ofItems_eq_ok_iff.mp accepted)

theorem bind_apply {α β : Type} (first : StateM World α) (next : α → StateM World β)
    (world : World) : (first >>= next) world = next (first world).1 (first world).2 :=
  rfl

/-- Only a job can fail. -/
theorem Invocation.exists_work_of_failed {invocation : Invocation} {world : World} {error : Error}
    (failed : ((invocation.carryOut : StateM World Outcome) world).1 = .failed error) :
    ∃ job sources, invocation = .work job sources ∧
      (job.outcome sources world).1 = .error error := by
  cases invocation with
  | showVersion named =>
      simp only [carryOut, bind_apply] at failed
      cases printed : ((Host.print (versionLine named) : StateM World _) world).1 with
      | error failure =>
          rw [printed] at failed
          cases failed
      | ok _ =>
          rw [printed] at failed
          cases failed
  | work job sources =>
      have ran : (job.run sources : Attempt Unit).run world = job.outcome sources world := rfl
      simp only [carryOut, bind_apply, ran] at failed
      refine ⟨job, sources, rfl, ?_⟩
      cases ended : (job.outcome sources world).1 with
      | error cause =>
          rw [ended] at failed
          cases failed
          rfl
      | ok _ =>
          rw [ended] at failed
          cases failed

/-- Where a command line fails with an error, it is one that a job failed with. -/
theorem exists_work_of_failed {words : List Text} {world : World} {error : Error}
    (failed : ((carryOut words : StateM World Outcome) world).1 = .failed error) :
    ∃ job sources, Invocation.ofWords words = .ok (.work job sources) ∧
      (job.outcome sources world).1 = .error error := by
  unfold carryOut at failed
  cases read : Invocation.ofWords words with
  | error refusal =>
      rw [read] at failed
      cases failed
  | ok invocation =>
      rw [read] at failed
      obtain ⟨job, sources, rfl, ended⟩ := Invocation.exists_work_of_failed failed
      exact ⟨job, sources, rfl, ended⟩

/-- **What is chosen with options is what is done.** Every choice can be written as a command line,
and however it is written, with two dashes and then sources behind it, the command line asks for the
job that was chosen on these sources. Whatever command line asks for a job, the job has a positive
width and no negative level, and does not both show and write back what it changes; so nothing ever
fails for a line terminator, a width or a negative level. -/
theorem ofWords_roundTrip :
    (∀ choice : Choice, (∃ words, choice.WrittenAs words) ∧
      ∀ words sources, choice.WrittenAs words → sources ≠ [] → [] ∉ sources →
        Invocation.ofWords (words ++ ['-', '-'] :: sources) = .ok (.work choice.job sources)) ∧
    ∀ words : List Text,
      (∀ job sources, Invocation.ofWords words = .ok (.work job sources) →
        1 ≤ job.options.width ∧ (∀ levels, job.indentation = .level levels → 0 ≤ levels) ∧
          ¬ (job.diff ∧ job.inPlace)) ∧
      ∀ (world : World) (error : Error),
        ((carryOut words : StateM World Outcome) world).1 = .failed error →
          (∀ text, error ≠ .invalidTerminator text) ∧ error ≠ .invalidWidth ∧
            ∀ levels, error ≠ .negativeLevel levels := by
  refine ⟨fun choice => ⟨?_, ?_⟩, fun words => ⟨?_, ?_⟩⟩
  · exact choice.exists_writtenAs
  · intro words sources written given named
    exact choice.ofWords_of_writtenAs written given named
  · intro job sources asked
    have sound := sound_of_ofWords asked
    exact ⟨sound.valid, sound.nonneg, sound.oneDelivery⟩
  · intro world error failed
    obtain ⟨job, sources, asked, ended⟩ := exists_work_of_failed failed
    exact (sound_of_ofWords asked).error_ne ended

/-- A choice with joined letters, a number behind a plus sign and zeros, a value in the next word,
and sources that look like options. -/
theorem ofWords_roundTrip_joined_letters :
    let words : List Text := ["-tvl=+07".toList, "--indent-width".toList, "12".toList,
      "--crlf".toList, "-p".toList]
    let sources : List Text := ["-x".toList, "--".toList]
    let job : Job :=
      { options := { terminator := .crlf, width := 12, tabs := true }, indentation := .level 7,
        inPlace := true }
    let missing : Error := .missingSource "-x".toList
    Invocation.ofWords (words ++ ['-', '-'] :: sources) = .ok (.work job sources) ∧
      1 ≤ job.options.width ∧ ¬ (job.diff ∧ job.inPlace) ∧
      ((carryOut (words ++ ['-', '-'] :: sources) : StateM World Outcome) {}).1 =
        .failed missing ∧
      missing ≠ .invalidWidth := by
  intro words sources job missing
  let choice : Choice :=
    { crlf := true, useTabs := true, width := 12, amount := .level 7 (by decide), inPlace := true,
      verbose := true, positive := by decide, narrow := by decide, oneDelivery := by decide,
      oneVolume := by decide }
  let value : Setting → Option Text
    | .width => some ['1', '2']
    | .indentation => none
    | .level => some ['+', '0', '7']
  let items : List Item :=
    [.flag .useTabs, .flag .verbose, .setting .level ['+', '0', '7'], .setting .width ['1', '2'],
      .flag .crlf, .flag .inPlace]
  have tabsVerbose : Flag.Letters [.useTabs, .verbose] ['t', 'v'] := .cons rfl (.cons rfl .nil)
  have inPlace : Flag.Letters [.inPlace] ['p'] := .cons rfl .nil
  have spelled : Item.Spelled items words :=
    .lettersWithValue tabsVerbose rfl .afterEquals
      (.nameBeforeValue .width (by decide) (.name .crlf (.letters inPlace nofun .nil)))
  have written : choice.WrittenAs words := by
    refine ⟨value, items, ?_, ?_, ?_, spelled⟩
    · have twelve : Numeral 12 ['1', '2'] := .unsigned 0
      exact .written twelve
    · have seven : Numeral 7 ['+', '0', '7'] := .positive 1
      exact ⟨rfl, .written seven⟩
    · decide
  have asked := (ofWords_roundTrip.1 choice).2 words sources written (by decide) (by decide)
  obtain ⟨sound, unfailing⟩ := ofWords_roundTrip.2 (words ++ ['-', '-'] :: sources)
  have failed : ((carryOut (words ++ ['-', '-'] :: sources) : StateM World Outcome) {}).1 =
      .failed missing := by decide +kernel
  exact ⟨asked, (sound job sources asked).1, (sound job sources asked).2.2, failed,
    (unfailing {} _ failed).2.1⟩

end Command

end SourceWriter

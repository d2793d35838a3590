import SourceWriter.Proofs.Whitespace

/-! # Limits of levels

No level below zero or above `maxLevel` is meant to be set or queued, and no text but whitespace is
meant to give one (`Indentation.Excluded`). Numbers are held to all of this and text to all but the
limit above: whitespace that is worth a higher level is accepted (`Indentation.TooWide`). Any other
indentation is either granted within the limits or refused for a reason that they give, and then
nothing is changed (`Writer.granted_or_refused_iff`).
-/

namespace SourceWriter

namespace Indentation

/-- The level that is asked for, granted or not. -/
def asked (width : Nat) : Indentation → Rat
  | .level levels => levels
  | .text whitespace => whitespace.count '\t' + whitespace.count ' ' / width

/-- The reasons that the limits give against an indentation. -/
inductive Excluded (width : Nat) : Indentation → Error → Prop where
  | negative {levels : Int} (negative : levels < 0) :
      Excluded width (.level levels) (.negativeLevel levels)
  | tooLarge {levels : Int} (above : (maxLevel : Int) < levels) :
      Excluded width (.level levels) (.levelTooLarge levels)
  | notWhitespace {text : Text} {character : Char} (member : character ∈ text)
      (noSpace : character ≠ ' ') (noTab : character ≠ '\t') :
      Excluded width (.text text) (.invalidIndentationText text)
  /-- Whitespace is too large like the number of its levels, whichever whole number is named. -/
  | tooWide {whitespace : Text}
      (spaces : ∀ character ∈ whitespace, character = ' ' ∨ character = '\t')
      (above : maxLevel < asked width (.text whitespace)) (levels : Int) :
      Excluded width (.text whitespace) (.levelTooLarge levels)

/-- Whitespace for more than the highest level. -/
def TooWide (width : Nat) (indentation : Indentation) : Prop :=
  ∃ whitespace : Text, indentation = .text whitespace ∧
    (∀ character ∈ whitespace, character = ' ' ∨ character = '\t') ∧
    maxLevel < indentation.asked width

/-- Text with anything but spaces and tabs is refused. -/
theorem depth_text_of_other {text : Text} {character : Char} (member : character ∈ text)
    (noSpace : character ≠ ' ') (noTab : character ≠ '\t') :
    (Indentation.text text).depth = .error (.invalidIndentationText text) := by
  rw [depth, if_neg]
  intro accepted
  have space := List.all_eq_true.mp accepted character member
  simp [noSpace, noTab] at space

/-- A number of levels within the limits is not excluded. -/
theorem not_excluded_level {width : Nat} {levels : Int} (nonneg : 0 ≤ levels)
    (within : levels ≤ maxLevel) (error : Error) :
    ¬ (Indentation.level levels).Excluded width error := by
  intro excluded
  cases excluded with
  | negative negative => omega
  | tooLarge above => omega

/-- Whitespace within the limits is not excluded. -/
theorem not_excluded_text {width : Nat} {whitespace : Text}
    (spaces : ∀ character ∈ whitespace, character = ' ' ∨ character = '\t')
    (within : asked width (.text whitespace) ≤ maxLevel) (error : Error) :
    ¬ (Indentation.text whitespace).Excluded width error := by
  intro excluded
  cases excluded with
  | notWhitespace member noSpace noTab => exact (spaces _ member).elim noSpace noTab
  | tooWide _ above _ => exact absurd within (not_le.mpr above)

/-- An accepted indentation gives the level that it asks for, which is within the limits unless
whitespace is too wide; any other is refused for a reason that the limits give. -/
theorem depth_cases (width : Nat) (indentation : Indentation) :
    (∃ depth, indentation.depth = .ok depth ∧ depth.level width = indentation.asked width ∧
        0 ≤ indentation.asked width ∧
        (indentation.asked width ≤ maxLevel ∧ (∀ error, ¬ indentation.Excluded width error) ∨
          indentation.TooWide width)) ∨
      ∃ error, indentation.depth = .error error ∧ indentation.Excluded width error := by
  cases indentation with
  | level levels =>
      by_cases negative : levels < 0
      · exact .inr ⟨_, by rw [depth, if_pos negative], .negative negative⟩
      by_cases above : (maxLevel : Int) < levels
      · exact .inr ⟨_, by rw [depth, if_neg negative, if_pos above], .tooLarge above⟩
      have nonneg : 0 ≤ levels := not_lt.mp negative
      have within : levels ≤ maxLevel := not_lt.mp above
      have accepted : (Indentation.level levels).depth = .ok (.whole levels.toNat) := by
        rw [depth, if_neg negative, if_neg above]
      have kept : ((levels.toNat : Nat) : Rat) = levels := by
        exact_mod_cast Int.toNat_of_nonneg nonneg
      refine .inl ⟨_, accepted, kept, Int.cast_nonneg nonneg, .inl ⟨?_, ?_⟩⟩
      · rw [asked, ← Int.cast_natCast]
        exact Int.cast_le.mpr within
      · exact not_excluded_level nonneg within
  | text whitespace =>
      by_cases spaces : ∀ character ∈ whitespace, character = ' ' ∨ character = '\t'
      · have nonneg : 0 ≤ asked width (.text whitespace) :=
          add_nonneg (Nat.cast_nonneg _) (div_nonneg (Nat.cast_nonneg _) (Nat.cast_nonneg width))
        refine .inl ⟨_, depth_text spaces, rfl, nonneg, ?_⟩
        rcases le_or_gt (asked width (.text whitespace)) maxLevel with within | above
        · exact .inl ⟨within, not_excluded_text spaces within⟩
        · exact .inr ⟨whitespace, rfl, spaces, above⟩
      · push Not at spaces
        obtain ⟨character, member, noSpace, noTab⟩ := spaces
        exact .inr ⟨_, depth_text_of_other member noSpace noTab,
          .notWhitespace member noSpace noTab⟩

/-- Too large a count is refused whether or not it is held up at the largest number of 64 bits. -/
theorem exists_excluded_ofCount_iff (width count : Nat) :
    (∃ error, (ofCount count).Excluded width error) ↔ maxLevel < count := by
  have largest : maxLevel < Nat.pow 2 63 - 1 := by decide
  constructor
  · rintro ⟨error, excluded⟩
    cases excluded with
    | negative negative => omega
    | tooLarge above => omega
  · intro above
    exact ⟨_, .tooLarge (by omega)⟩

end Indentation

namespace Writer

/-- A level is given within the limits and in one step. What is asked for is within them and is
stored, and nothing else changes; or there is a reason against it, and nothing changes at all. -/
def GrantedOrRefused (writer : Writer) (indentation : Indentation) (store : Rat → Writer)
    (result : Except Error Writer) (after : Writer) : Prop :=
  let level := indentation.asked writer.options.width
  (0 ≤ level ∧ level ≤ maxLevel ∧ result = .ok (store level) ∧ after = store level ∧
      ∀ error, ¬ indentation.Excluded writer.options.width error) ∨
    ∃ error, indentation.Excluded writer.options.width error ∧ result = .error error ∧
      after = writer

section

variable (writer : Writer) (indentation : Indentation) (store : Rat → Writer)

/-- A level is given by way of the depth of an indentation. -/
def give : Except Error Writer :=
  indentation.depth.map fun depth => store (depth.level writer.options.width)

theorem setLevel_eq_give :
    writer.setLevel indentation = writer.give indentation fun level => { writer with level } := by
  rw [setLevel, give]
  cases indentation.depth <;> rfl

theorem queueLevel_eq_give :
    writer.queueLevel indentation =
      writer.give indentation fun level => { writer with queued := some level } := by
  rw [queueLevel, give]
  cases indentation.depth <;> rfl

variable {writer indentation}

/-- Whitespace that is too wide is stored all the same. -/
theorem give_of_tooWide (tooWide : indentation.TooWide writer.options.width) :
    writer.give indentation store = .ok (store (indentation.asked writer.options.width)) := by
  obtain ⟨whitespace, rfl, spaces, _⟩ := tooWide
  rw [give, Indentation.depth_text spaces]
  rfl

/-- Whatever is stored, only whitespace that is too wide goes beyond the limits. -/
theorem granted_or_refused_give_iff :
    writer.GrantedOrRefused indentation store (writer.give indentation store)
        ((writer.give indentation store).toOption.getD writer) ↔
      ¬ indentation.TooWide writer.options.width := by
  constructor
  · rintro (⟨_, within, _⟩ | ⟨error, _, refused, _⟩) tooWide
    · obtain ⟨_, _, _, above⟩ := tooWide
      exact absurd within (not_le.mpr above)
    · rw [give_of_tooWide store tooWide] at refused
      contradiction
  · intro fits
    rcases indentation.depth_cases writer.options.width with
      ⟨depth, accepted, level, nonneg, ⟨within, allowed⟩ | tooWide⟩ | ⟨error, refused, excluded⟩
    · have given : writer.give indentation store =
          .ok (store (indentation.asked writer.options.width)) := by
        rw [give, accepted, Except.map, level]
      refine .inl ⟨nonneg, within, given, ?_, allowed⟩
      rw [given]
      rfl
    · exact absurd tooWide fits
    · have given : writer.give indentation store = .error error := by
        rw [give, refused, Except.map]
      refine .inr ⟨error, excluded, given, ?_⟩
      rw [given]
      rfl

end

/-- **Limits of levels.** Setting and queueing a level are granted within the limits or refused for
a reason that they give, with nothing changed, exactly if the indentation is not whitespace that is
too wide; such whitespace is granted although it is beyond the limits. A count is refused exactly if
it is above the highest level. -/
theorem granted_or_refused_iff (writer : Writer) (indentation : Indentation) :
    let level := indentation.asked writer.options.width
    (writer.GrantedOrRefused indentation (fun level => { writer with level })
          (writer.setLevel indentation) ((Action.setLevel indentation).run writer) ∧
        writer.GrantedOrRefused indentation (fun level => { writer with queued := some level })
          (writer.queueLevel indentation) ((Action.queueLevel indentation).run writer) ↔
      ¬ indentation.TooWide writer.options.width) ∧
    (indentation.TooWide writer.options.width →
      maxLevel < level ∧ writer.setLevel indentation = .ok { writer with level } ∧
        writer.queueLevel indentation = .ok { writer with queued := some level }) ∧
    ∀ count, indentation = .ofCount count →
      ((∃ error, indentation.Excluded writer.options.width error) ↔ maxLevel < count) := by
  intro level
  refine ⟨?_, ?_, ?_⟩
  · simp only [Action.run, setLevel_eq_give, queueLevel_eq_give, granted_or_refused_give_iff,
      and_self]
  · intro tooWide
    rw [setLevel_eq_give, queueLevel_eq_give, give_of_tooWide _ tooWide, give_of_tooWide _ tooWide]
    obtain ⟨_, _, _, above⟩ := tooWide
    exact ⟨above, rfl, rfl⟩
  · rintro count rfl
    exact Indentation.exists_excluded_ofCount_iff _ count

/-- Whitespace for exactly the highest level is granted in a writer that owes a line break, and one
tab more is granted too. -/
theorem granted_or_refused_at_limit :
    let writer : Writer := { options := { width := 2 }, written := ['}'], owesLine := true }
    let highest : Indentation := .text (' ' :: List.replicate 1023 '\t' ++ [' '])
    let beyond : Indentation := .text (List.replicate 1025 '\t')
    ¬ highest.TooWide 2 ∧
      writer.GrantedOrRefused highest (fun level => { writer with level })
        (writer.setLevel highest) ((Action.setLevel highest).run writer) ∧
      writer.setLevel highest = .ok { writer with level := 1024 } ∧
      beyond.TooWide 2 ∧ writer.queueLevel beyond = .ok { writer with queued := some 1025 } ∧
      ∃ error, (Indentation.ofCount (Nat.pow 2 64 - 1)).Excluded 2 error := by
  intro writer highest beyond
  have atLimit : highest.asked 2 = 1024 := by decide +kernel
  have aboveLimit : beyond.asked 2 = 1025 := by decide +kernel
  have fits : ¬ highest.TooWide 2 := by
    rintro ⟨_, _, _, above⟩
    rw [atLimit] at above
    exact absurd above (by decide +kernel)
  have tooWide : beyond.TooWide 2 := by
    refine ⟨_, rfl, ?_, ?_⟩
    · intro character member
      exact .inr (List.eq_of_mem_replicate member)
    · rw [aboveLimit]
      decide +kernel
  have set := ((writer.granted_or_refused_iff highest).1.mpr fits).1
  have queued := ((writer.granted_or_refused_iff beyond).2.1 tooWide).2.2
  rw [aboveLimit] at queued
  have counted := (writer.granted_or_refused_iff (.ofCount (Nat.pow 2 64 - 1))).2.2 _ rfl
  exact ⟨fits, set, by decide +kernel, tooWide, queued, counted.mpr (by decide)⟩

/-- One tab more than there are levels is accepted. -/
theorem not_forall_granted_or_refused :
    (¬ ∀ writer : Writer, writer.Reachable → ∀ indentation : Indentation,
      writer.GrantedOrRefused indentation (fun level => { writer with level })
        (writer.setLevel indentation) ((Action.setLevel indentation).run writer)) ∧
    let writer : Writer := { options := {} }
    writer.setLevel (.text (List.replicate 1025 '\t')) = .ok { writer with level := 1025 } := by
  have granted : setLevel { options := {} } (.text (List.replicate 1025 '\t')) =
      .ok { options := {}, level := 1025 } := by
    decide +kernel
  refine ⟨?_, granted⟩
  intro always
  have created : Writer.new {} = .ok { options := {} } := rfl
  rcases always _ (.run created .done) (.text (List.replicate 1025 '\t')) with
    ⟨_, within, _⟩ | ⟨error, _, refused, _⟩
  · exact absurd within (by decide +kernel)
  · nomatch granted.symm.trans refused

end Writer

end SourceWriter

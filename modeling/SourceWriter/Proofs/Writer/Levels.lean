import Mathlib.Algebra.Order.Ring.Rat
import Mathlib.Data.Rat.Floor
import Mathlib.Tactic.FieldSimp
import Mathlib.Tactic.Linarith
import SourceWriter.Proofs.Writer.Stroke

/-! # Levels in spaces

A level may be any part of a whole one that spaces make up, and no other part: what is set and
queued is given in whole levels or as indentation text, and what scopes add or take away is whole
(`Writer.Reachable.levelsInSpaces`). How a level is written therefore tells it from the whole levels
in it (`Options.indentation_floor_iff`), except that tabs leave out up to half a level.
-/

namespace SourceWriter

namespace Options

/-- The level is worth a whole number of spaces. -/
def InSpaces (options : Options) (level : Rat) : Prop :=
  ∃ spaces : Nat, level = spaces / options.width

variable {options : Options} {level : Rat}

/-- The width as a divisor. -/
theorem Valid.width_ne_zero (valid : options.Valid) : (options.width : Rat) ≠ 0 :=
  Nat.cast_ne_zero.mpr (Nat.ne_of_gt valid)

/-- Every accepted indentation is a whole number of spaces deep. -/
theorem inSpaces_depth (valid : options.Valid) (depth : Depth) :
    options.InSpaces (depth.level options.width) := by
  cases depth with
  | whole levels =>
      refine ⟨levels * options.width, ?_⟩
      rw [Depth.level, Nat.cast_mul, mul_div_cancel_right₀ _ valid.width_ne_zero]
  | mixed tabs spaces =>
      refine ⟨tabs * options.width + spaces, ?_⟩
      rw [Depth.level, Nat.cast_add, Nat.cast_mul, add_div,
        mul_div_cancel_right₀ _ valid.width_ne_zero]

namespace InSpaces

theorem nonneg (inSpaces : options.InSpaces level) : 0 ≤ level := by
  obtain ⟨spaces, rfl⟩ := inSpaces
  exact div_nonneg (Nat.cast_nonneg spaces) (Nat.cast_nonneg options.width)

/-- One level more is the width more in spaces. -/
theorem add_one (valid : options.Valid) (inSpaces : options.InSpaces level) :
    options.InSpaces (level + 1) := by
  obtain ⟨spaces, rfl⟩ := inSpaces
  refine ⟨spaces + options.width, ?_⟩
  rw [Nat.cast_add, add_div, div_self valid.width_ne_zero]

/-- One level less, but not less than none, is a whole number of spaces again. -/
theorem lowered (valid : options.Valid) (inSpaces : options.InSpaces level) :
    options.InSpaces (if 1 < level then level - 1 else 0) := by
  split
  · rename_i higher
    obtain ⟨spaces, rfl⟩ := inSpaces
    have wider : options.width ≤ spaces := by
      rw [lt_div_iff₀ (Nat.cast_pos.mpr valid), one_mul, Nat.cast_lt] at higher
      exact higher.le
    refine ⟨spaces - options.width, ?_⟩
    rw [Nat.cast_sub wider, sub_div, div_self valid.width_ne_zero]
  · exact ⟨0, by simp⟩

/-- Behind its whole levels, a level has a whole number of spaces. -/
theorem exists_rest (valid : options.Valid) (inSpaces : options.InSpaces level) :
    ∃ rest : Nat, level = level.floor.toNat + rest / options.width := by
  obtain ⟨spaces, rfl⟩ := inSpaces
  have floor : ((spaces : Rat) / options.width).floor.toNat = spaces / options.width := by
    have quotient : ((spaces : Rat) / options.width).floor = (spaces / options.width : Nat) :=
      Rat.floor_natCast_div_natCast spaces options.width
    rw [quotient, Int.toNat_natCast]
  have divided : (spaces : Rat) =
      options.width * (spaces / options.width : Nat) + (spaces % options.width : Nat) := by
    exact_mod_cast (Nat.div_add_mod spaces options.width).symm
  have positive := valid.width_ne_zero
  refine ⟨spaces % options.width, ?_⟩
  rw [floor]
  field_simp
  exact divided

end InSpaces

theorem roundHalfUp_natCast (number : Nat) : roundHalfUp number = number := by
  have floor : ((number : Rat) + 1 / 2).floor = number := by
    apply le_antisymm
    · rw [← Int.lt_add_one_iff, Rat.floor_lt_iff]
      push_cast
      linarith
    · rw [Rat.le_floor_iff]
      push_cast
      linarith
  rw [roundHalfUp, floor, Int.toNat_natCast]

/-- The whitespace of so many whole levels. -/
def units (options : Options) (depth : Nat) : Text :=
  (List.replicate depth options.unit).flatten

/-- The whitespace of more levels goes before that of the others. -/
theorem units_add (options : Options) (first second : Nat) :
    options.units (first + second) = options.units second ++ options.units first := by
  rw [units, Nat.add_comm, List.replicate_add, List.flatten_append]
  rfl

/-- The whitespace of a whole level is so many units. -/
theorem indentation_natCast (options : Options) (depth : Nat) :
    options.indentation depth = options.units depth := by
  have floor : (depth : Rat).floor = depth := by rw [← Int.cast_natCast, Rat.floor_intCast]
  have whole : (depth : Rat) - ((depth : Rat).floor : Rat) = 0 := by
    rw [floor]
    exact sub_self _
  have nothing : roundHalfUp 0 = 0 := roundHalfUp_natCast 0
  rw [indentation, whole, floor, Int.toNat_natCast, mul_zero, nothing, units]
  split <;> simp

theorem not_mem_units (options : Options) (depth : Nat) : '\n' ∉ options.units depth := by
  rw [← indentation_natCast]
  exact options.not_mem_indentation depth

theorem cast_floor_toNat (nonneg : 0 ≤ level) :
    ((level.floor.toNat : Nat) : Rat) = (level.floor : Int) := by
  have floor : 0 ≤ level.floor := Rat.le_floor_iff.mpr (by simpa using nonneg)
  exact_mod_cast Int.toNat_of_nonneg floor

/-- One more level is one more unit. -/
theorem indentation_add_one (options : Options) (nonneg : 0 ≤ level) :
    options.indentation (level + 1) = options.unit ++ options.indentation level := by
  have floor : 0 ≤ level.floor := Rat.le_floor_iff.mpr (by simpa using nonneg)
  have units : (level + 1).floor.toNat = level.floor.toNat + 1 := by
    rw [Rat.floor_add_one, Int.toNat_add floor zero_le_one, Int.toNat_one]
  have fraction : level + 1 - ((level + 1).floor : Rat) = level - (level.floor : Rat) := by
    rw [Rat.floor_add_one, Int.cast_add, Int.cast_one, add_sub_add_right_eq_sub]
  simp only [indentation, units, fraction, List.replicate_succ, List.flatten_cons,
    List.append_assoc]

/-- **Whole levels are told from others.** A level is written as the whole levels in it exactly if
it is whole, or with tabs, if it is at most half a level above a whole one. -/
theorem indentation_floor_iff (valid : options.Valid) (inSpaces : options.InSpaces level) :
    options.indentation level.floor.toNat = options.indentation level ↔
      if options.tabs then level ≤ level.floor.toNat + 1 / 2 else level = level.floor.toNat := by
  obtain ⟨rest, split⟩ := inSpaces.exists_rest valid
  have fraction : level - (level.floor : Rat) = rest / options.width := by
    rw [← cast_floor_toNat inSpaces.nonneg]
    linarith
  cases tabs : options.tabs with
  | true =>
      have written : options.indentation level = options.units level.floor.toNat ++
          if 1 / 2 < (rest : Rat) / options.width then options.unit else [] := by
        simp only [indentation, units, fraction, tabs, ↓reduceIte]
      rw [indentation_natCast, written, List.self_eq_append_right]
      by_cases more : 1 / 2 < (rest : Rat) / options.width
      · simp only [more, ↓reduceIte, valid.unit_ne_nil, false_iff, not_le]
        linarith
      · simp only [more, ↓reduceIte, true_iff]
        linarith
  | false =>
      have written : options.indentation level =
          options.units level.floor.toNat ++ options.unit.take rest := by
        have wide : (options.unit.length : Rat) = options.width := by simp [unit, tabs]
        simp only [indentation, units, fraction, tabs, wide, mul_div_cancel₀ _ valid.width_ne_zero,
          roundHalfUp_natCast, Bool.false_eq_true, ↓reduceIte]
      have nothing : options.unit.take rest = [] ↔ rest = 0 := by
        simp [valid.unit_ne_nil]
      have whole : (rest : Rat) / options.width = 0 ↔ rest = 0 := by
        rw [div_eq_zero_iff, or_iff_left valid.width_ne_zero, Nat.cast_eq_zero]
      rw [indentation_natCast, written, List.self_eq_append_right, nothing, ← whole]
      simp only [Bool.false_eq_true, ↓reduceIte]
      constructor
      · intro nothingLeft
        rwa [nothingLeft, add_zero] at split
      · intro same
        linarith

end Options

/-! ### The levels of writers -/

variable {options : Options} {writer : Writer}

/-- Both levels of a writer with these options are worth whole numbers of spaces. -/
structure Writer.LevelsInSpaces (options : Options) (writer : Writer) : Prop where
  valid : options.Valid
  options_eq : writer.options = options
  level : options.InSpaces writer.level
  queued : ∀ level ∈ writer.queued, options.InSpaces level

/-- Marks at most put the queued level in force. -/
theorem Marks.levelsInSpaces {before after : Writer} (marks : Marks before after)
    (inSpaces : before.LevelsInSpaces options) : after.LevelsInSpaces options := by
  have options_eq := marks.strokes.options_eq.trans inSpaces.options_eq
  rcases marks.levels_cases with ⟨level, queued⟩ | ⟨level, queued⟩
  · exact ⟨inSpaces.valid, options_eq, level ▸ inSpaces.level, queued ▸ inSpaces.queued⟩
  · refine ⟨inSpaces.valid, options_eq, ?_, by simp [queued]⟩
    rw [level]
    cases next : before.queued with
    | none => exact inSpaces.level
    | some forced => exact inSpaces.queued forced next

namespace Scope

/-- Entering a scope keeps the levels whole in spaces. -/
theorem levelsInSpaces_enter (scope : Scope) (inSpaces : writer.LevelsInSpaces options) :
    (scope.enter writer).LevelsInSpaces options := by
  have valid := inSpaces.valid
  rcases scope.enter_cases writer with ⟨started, spelled, entered⟩ | entered | entered
  · have before := spelled.marks.levelsInSpaces inSpaces
    rw [entered]
    exact ⟨valid, before.options_eq, before.level.add_one valid, before.queued⟩
  · rw [entered]
    refine ⟨valid, inSpaces.options_eq, inSpaces.level, ?_⟩
    intro level queued
    obtain rfl : (writer.wholeLevel : Rat) + 1 = level := Option.some.inj queued
    exact (Options.inSpaces_depth valid (.whole writer.wholeLevel)).add_one valid
  · rwa [entered]

/-- Leaving a scope keeps the levels whole in spaces. -/
theorem levelsInSpaces_leave {entry finished : Writer} (scope : Scope)
    (entered : entry.LevelsInSpaces options) (ran : finished.LevelsInSpaces options) :
    (scope.leave entry finished).LevelsInSpaces options := by
  have valid := ran.valid
  have lowered : finished.leaveBlock.LevelsInSpaces options :=
    ⟨valid, ran.options_eq, ran.level.lowered valid, ran.queued⟩
  have closed := finished.marks_closeBrace.levelsInSpaces lowered
  cases scope with
  | block => exact ⟨valid, closed.options_eq, closed.level, closed.queued⟩
  | inlineBlock => exact closed
  | indentBlock =>
      rcases leave_indentBlock_cases entry finished with ⟨left, _⟩ | ⟨left, _⟩
      · rwa [left]
      · rw [left]
        exact ⟨valid, lowered.options_eq, lowered.level, lowered.queued⟩
  | hanging => exact ⟨valid, ran.options_eq, entered.level, entered.queued⟩
  | aside => exact entered

end Scope

/-- Every action keeps the levels whole in spaces. -/
theorem Action.levelsInSpaces_run (action : Action) (inSpaces : writer.LevelsInSpaces options) :
    (action.run writer).LevelsInSpaces options := by
  have valid := inSpaces.valid
  have given (depth : Depth) : options.InSpaces (depth.level writer.options.width) := by
    rw [inSpaces.options_eq]
    exact Options.inSpaces_depth valid depth
  by_cases unset : action.setsLevel = false
  · by_cases noBlock : action = .emptyBlock
    · subst noBlock
      exact Scope.levelsInSpaces_leave .block inSpaces (Scope.levelsInSpaces_enter .block inSpaces)
    · exact (spells_run unset noBlock writer).marks.levelsInSpaces inSpaces
  · cases action with
    | setLevel indentation =>
        simp only [run, Writer.setLevel]
        cases indentation.depth with
        | error _ => exact inSpaces
        | ok depth => exact ⟨valid, inSpaces.options_eq, given depth, inSpaces.queued⟩
    | queueLevel indentation =>
        simp only [run, Writer.queueLevel]
        cases indentation.depth with
        | error _ => exact inSpaces
        | ok depth =>
            refine ⟨valid, inSpaces.options_eq, inSpaces.level, ?_⟩
            intro level queued
            obtain rfl := Option.some.inj queued
            exact given depth
    | _ => exact absurd rfl unset

/-- **Levels are worth whole numbers of spaces.** Programs come by no others. -/
theorem Writer.Reachable.levelsInSpaces (reachable : writer.Reachable) :
    writer.LevelsInSpaces writer.options := by
  obtain @⟨options, _, created, program, history, passed⟩ := reachable
  obtain ⟨valid, rfl⟩ := Writer.new_eq_ok_iff.mp created
  have keeps : Keeps fun _ => LevelsInSpaces options := by
    refine ⟨?_, ?_, ?_⟩
    · intro _ writer action inSpaces
      exact action.levelsInSpaces_run inSpaces
    · intro _ writer scope inSpaces
      exact scope.levelsInSpaces_enter inSpaces
    · intro _ _ entry finished scope entered ran
      exact scope.levelsInSpaces_leave entered ran
  have fresh : LevelsInSpaces options { options } :=
    ⟨valid, rfl, Options.inSpaces_depth valid (.whole 0), nofun⟩
  have reached := keeps.atEnd_of_start fresh passed
  rwa [reached.options_eq]

end SourceWriter

import Mathlib.Tactic.Ring
import SourceWriter.Proofs.Writer.Levels

/-! # Whitespace and levels

Of indentation text a level keeps how many tabs and spaces there are, in whichever order they stand.
Where spaces are written this is enough to write whitespace of the same width again: the units and
the part of a unit behind them are the width of the whole level, rounded once
(`Options.indentation_of_spaces`). Where tabs are written, a rest of more than half a level becomes
one more tab (`Options.indentation_of_tabs`). `Options.indentation_text` puts both together.
-/

namespace SourceWriter

namespace Indentation

/-- Text of nothing but spaces and tabs is accepted for their numbers. -/
theorem depth_text {whitespace : Text}
    (spaces : ∀ character ∈ whitespace, character = ' ' ∨ character = '\t') :
    (Indentation.text whitespace).depth =
      .ok (.mixed (whitespace.count '\t') (whitespace.count ' ')) := by
  have accepted : whitespace.all (fun character => character = ' ' || character = '\t') = true := by
    apply List.all_eq_true.mpr
    intro character member
    simpa using spaces character member
  rw [depth, if_pos accepted]

end Indentation

namespace Options

variable {options : Options} {level number : Rat}

/-! ### Rounding -/

/-- A number is rounded to the one that it is at most half below, and less than half above. -/
theorem roundHalfUp_eq_iff (nonneg : 0 ≤ number) {count : Nat} :
    roundHalfUp number = count ↔ (count : Rat) - 1 / 2 ≤ number ∧ number < count + 1 / 2 := by
  have floor : 0 ≤ (number + 1 / 2).floor := by
    rw [Rat.le_floor_iff, Int.cast_zero]
    linarith
  calc
    roundHalfUp number = count
      ↔ (count : Int) ≤ (number + 1 / 2).floor ∧ (number + 1 / 2).floor < (count + 1 : Int) := by
        rw [roundHalfUp]
        omega
    _ ↔ (count : Rat) ≤ number + 1 / 2 ∧ number + 1 / 2 < count + 1 := by
        rw [Rat.le_floor_iff, Rat.floor_lt_iff]
        push_cast
        rfl
    _ ↔ (count : Rat) - 1 / 2 ≤ number ∧ number < count + 1 / 2 := by
        constructor <;> rintro ⟨lower, upper⟩ <;> constructor <;> linarith

theorem roundHalfUp_mono {other : Rat} (atMost : number ≤ other) :
    roundHalfUp number ≤ roundHalfUp other := by
  apply Int.toNat_le_toNat
  apply Rat.floor_monotone
  linarith

/-- What is whole can be rounded apart from the rest. -/
theorem roundHalfUp_natCast_add (whole : Nat) (nonneg : 0 ≤ number) :
    roundHalfUp (whole + number) = whole + roundHalfUp number := by
  have rounded := (roundHalfUp_eq_iff nonneg).mp rfl
  have total : 0 ≤ (whole : Rat) + number := add_nonneg (Nat.cast_nonneg whole) nonneg
  rw [roundHalfUp_eq_iff total]
  push_cast
  constructor
  · linarith
  · linarith

/-! ### What is written for a level -/

/-- With spaces, as many are written as the whole level is wide, to the nearest space. -/
theorem indentation_of_spaces (spaces : options.tabs = false) (nonneg : 0 ≤ level) :
    options.indentation level = List.replicate (roundHalfUp (options.width * level)) ' ' := by
  have unit : options.unit = List.replicate options.width ' ' := by simp [Options.unit, spaces]
  have fraction_nonneg : 0 ≤ level - level.floor := sub_nonneg.mpr (Rat.floor_le level)
  have fraction_le : level - level.floor ≤ 1 := by
    have next := Rat.lt_floor_add_one level
    push_cast at next
    linarith
  have part_nonneg : 0 ≤ options.width * (level - level.floor) :=
    mul_nonneg (Nat.cast_nonneg options.width) fraction_nonneg
  -- The rest never rounds to more than a unit, so that cutting the unit loses nothing.
  have part_le : roundHalfUp (options.width * (level - level.floor)) ≤ options.width := by
    calc
      roundHalfUp (options.width * (level - level.floor)) ≤ roundHalfUp options.width :=
        roundHalfUp_mono (mul_le_of_le_one_right (Nat.cast_nonneg options.width) fraction_le)
      _ = options.width := roundHalfUp_natCast options.width
  have split : (options.width : Rat) * level =
      (level.floor.toNat * options.width : Nat) + options.width * (level - level.floor) := by
    rw [Nat.cast_mul, cast_floor_toNat nonneg]
    ring
  calc
    options.indentation level
      = List.replicate (level.floor.toNat * options.width) ' ' ++
          List.replicate (roundHalfUp (options.width * (level - level.floor))) ' ' := by
        simp only [indentation, unit, spaces, Bool.false_eq_true, ↓reduceIte,
          List.flatten_replicate_replicate, List.length_replicate, List.take_replicate,
          Nat.min_eq_left part_le]
    _ = List.replicate (roundHalfUp (options.width * level)) ' ' := by
        rw [← List.replicate_add, split, roundHalfUp_natCast_add _ part_nonneg]

/-- With tabs, one is written for each whole level, and one more for more than half a level. -/
theorem indentation_of_tabs (tabs : options.tabs = true) (level : Rat) :
    options.indentation level =
      List.replicate (level.floor.toNat + if 1 / 2 < level - level.floor then 1 else 0) '\t' := by
  have unit : options.unit = List.replicate 1 '\t' := by simp [Options.unit, tabs]
  simp only [indentation, unit, tabs, ↓reduceIte, List.flatten_replicate_replicate, mul_one]
  split
  · rw [← List.replicate_add]
  · rw [List.append_nil, Nat.add_zero]

/-- Behind the whole units there is a part of one unit. -/
theorem exists_prefix_unit (options : Options) (level : Rat) :
    ∃ rest, rest <+: options.unit ∧
      options.indentation level = options.units level.floor.toNat ++ rest := by
  refine ⟨_, ?_, rfl⟩
  split
  · split
    · exact List.prefix_refl _
    · exact List.nil_prefix
  · exact List.take_prefix _ _

/-! ### What is written for text -/

/-- The whole levels of text are its tabs, and as many more as its spaces fill. -/
theorem floor_mixed (width tabs spaces : Nat) :
    ((Depth.mixed tabs spaces).level width).floor = (tabs + spaces / width : Nat) := by
  have filled : ((spaces : Rat) / width).floor = (spaces / width : Nat) :=
    Rat.floor_natCast_div_natCast spaces width
  have whole : ((tabs : Rat) + spaces / width).floor = tabs + ((spaces : Rat) / width).floor :=
    Int.floor_natCast_add tabs ((spaces : Rat) / width)
  rw [Depth.level, whole, filled, Nat.cast_add]

/-- The spaces that fill no level are more than half of one if twice as many are more than one. -/
theorem half_lt_mixed_iff (valid : options.Valid) (tabs spaces : Nat) :
    let level := (Depth.mixed tabs spaces).level options.width
    1 / 2 < level - level.floor ↔ options.width < 2 * (spaces % options.width) := by
  intro level
  have positive : (0 : Rat) < options.width := Nat.cast_pos.mpr valid
  have divided : (spaces : Rat) =
      options.width * (spaces / options.width : Nat) + (spaces % options.width : Nat) := by
    exact_mod_cast (Nat.div_add_mod spaces options.width).symm
  have rest : level - level.floor = (spaces % options.width : Nat) / options.width := by
    have floor : level.floor = (tabs + spaces / options.width : Nat) := floor_mixed _ tabs spaces
    rw [floor, Int.cast_natCast, Nat.cast_add]
    simp only [level, Depth.level]
    field_simp
    linarith
  rw [rest, div_lt_div_iff₀ two_pos positive, one_mul, mul_comm, ← Nat.cast_ofNat, ← Nat.cast_mul,
    Nat.cast_lt]

/-- **Indentation text is written as it was given.** Whatever the order of its tabs and spaces, with
spaces it is written as wide as it is, and with tabs as the levels that it fills, and one more for
more than half a level. A level is written as its whole units and a part of one; with spaces that
is its width to the nearest space, halves rounded up, so that a deeper level is never written with
fewer spaces, and one more level is written with one more unit. -/
theorem indentation_text (valid : options.Valid) :
    (∀ whitespace : Text, (∀ character ∈ whitespace, character = ' ' ∨ character = '\t') →
      let tabs := whitespace.count '\t'
      let spaces := whitespace.count ' '
      ∃ depth, (Indentation.text whitespace).depth = .ok depth ∧
        depth.level options.width = tabs + spaces / options.width ∧
        options.indentation (depth.level options.width) =
          if options.tabs then
            List.replicate (tabs + spaces / options.width +
              if options.width < 2 * (spaces % options.width) then 1 else 0) '\t'
          else List.replicate (tabs * options.width + spaces) ' ') ∧
    ∀ level : Rat, 0 ≤ level →
      (∃ rest, rest <+: options.unit ∧
        options.indentation level = options.units level.floor.toNat ++ rest) ∧
      (options.tabs = false →
        (∃ count : Nat, options.indentation level = List.replicate count ' ' ∧
          (count : Rat) - 1 / 2 ≤ options.width * level ∧
          options.width * level < count + 1 / 2) ∧
        options.indentation (level + 1) =
          List.replicate options.width ' ' ++ options.indentation level ∧
        ∀ deeper : Rat, level ≤ deeper →
          (options.indentation level).length ≤ (options.indentation deeper).length) := by
  refine ⟨?_, ?_⟩
  · intro whitespace onlySpaces tabs spaces
    refine ⟨.mixed tabs spaces, Indentation.depth_text onlySpaces, rfl, ?_⟩
    cases mode : options.tabs with
    | true =>
        simp only [indentation_of_tabs mode, half_lt_mixed_iff valid, ↓reduceIte]
        rw [floor_mixed, Int.toNat_natCast]
    | false =>
        have nonneg := (inSpaces_depth valid (.mixed tabs spaces)).nonneg
        have wide : options.width * (Depth.mixed tabs spaces).level options.width =
            (tabs * options.width + spaces : Nat) := by
          rw [Depth.level, mul_add, mul_div_cancel₀ _ valid.width_ne_zero]
          push_cast
          ring
        simp only [indentation_of_spaces mode nonneg, wide, roundHalfUp_natCast,
          Bool.false_eq_true, ↓reduceIte]
  · intro level nonneg
    refine ⟨options.exists_prefix_unit level, ?_⟩
    intro mode
    have width_nonneg : (0 : Rat) ≤ options.width := Nat.cast_nonneg options.width
    refine ⟨?_, ?_, ?_⟩
    · have rounded := (roundHalfUp_eq_iff (mul_nonneg width_nonneg nonneg)).mp rfl
      exact ⟨_, indentation_of_spaces mode nonneg, rounded⟩
    · have unit : options.unit = List.replicate options.width ' ' := by simp [Options.unit, mode]
      rw [options.indentation_add_one nonneg, unit]
    · intro deeper atMost
      rw [indentation_of_spaces mode nonneg, indentation_of_spaces mode (nonneg.trans atMost),
        List.length_replicate, List.length_replicate]
      exact roundHalfUp_mono (mul_le_mul_of_nonneg_left atMost width_nonneg)

/-- Five spaces around a tab, where three make up a level, and a level of two and a half spaces. -/
theorem indentation_text_in_thirds :
    let spaced : Options := { width := 3 }
    let tabbed : Options := { width := 3, tabs := true }
    let whitespace : Text := "  \t   ".toList
    spaced.Valid ∧ tabbed.Valid ∧
      (∀ character ∈ whitespace, character = ' ' ∨ character = '\t') ∧
      (∃ depth, (Indentation.text whitespace).depth = .ok depth ∧ depth.level 3 = 8 / 3 ∧
        spaced.indentation (depth.level 3) = "        ".toList) ∧
      (∃ depth, (Indentation.text whitespace).depth = .ok depth ∧
        tabbed.indentation (depth.level 3) = "\t\t\t".toList) ∧
      spaced.indentation (5 / 6) = "   ".toList ∧
      spaced.indentation (5 / 6 + 1) = "   ".toList ++ spaced.indentation (5 / 6) := by
  intro spaced tabbed whitespace
  have valid : spaced.Valid := by decide
  have tabbedValid : tabbed.Valid := by decide
  have onlySpaces : ∀ character ∈ whitespace, character = ' ' ∨ character = '\t' := by
    simp [whitespace]
  obtain ⟨depth, accepted, level, written⟩ := (indentation_text valid).1 whitespace onlySpaces
  obtain ⟨tabbedDepth, tabbedAccepted, _, tabbedWritten⟩ :=
    (indentation_text tabbedValid).1 whitespace onlySpaces
  obtain ⟨_, next, _⟩ := ((indentation_text valid).2 (5 / 6) (by decide +kernel)).2 rfl
  have third :
      ((whitespace.count '\t' : Nat) : Rat) + (whitespace.count ' ' : Nat) / 3 = 8 / 3 := by
    decide +kernel
  exact ⟨valid, tabbedValid, onlySpaces,
    ⟨depth, accepted, level.trans third, written.trans (by decide +kernel)⟩,
    ⟨tabbedDepth, tabbedAccepted, tabbedWritten.trans (by decide +kernel)⟩, by decide +kernel, next⟩

end Options

end SourceWriter

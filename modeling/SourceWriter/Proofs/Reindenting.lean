import SourceWriter.Proofs.LineByLine
import SourceWriter.Proofs.Text.Ends
import SourceWriter.Proofs.Writer.Between

/-! # Reindenting twice

A text that is reindented by one number of levels and then by another comes out as if it had been
reindented by their sum (`reindent_reindent`). The second time, the lines are those of the first
output (`lines_intercalate_laidLines`), and the indentation that they have got by then is read with
them; but a line is read from a state at rest, which blanks leave as it is, so that the same lines
start in a string literal as before (`scan_laidLines`).
-/

namespace SourceWriter

/-! ### Reindented lines -/

/-- Reindenting a line leaves its end as it is, even where it is empty. -/
theorem getLast?_reindentedLine (indentation : Text) (before : List Text) (line : Text) :
    (reindentedLine indentation before line).getLast? = line.getLast? := by
  by_cases empty : line = []
  · subst empty
    rfl
  · unfold reindentedLine
    split
    · rfl
    · exact List.getLast?_append_of_ne_nil _ empty

@[simp] theorem length_laidLines (indentation : Text) (lines : List Text) :
    (laidLines indentation lines).length = lines.length :=
  List.length_mapIdx

theorem laidLines_take (indentation : Text) (lines : List Text) (count : Nat) :
    (laidLines indentation lines).take count = laidLines indentation (lines.take count) := by
  apply List.ext_getElem?
  intro index
  by_cases inside : index < count
  · simp [laidLines, List.getElem?_take_of_lt inside, List.take_take, Nat.min_eq_left inside.le]
  · simp [laidLines, inside]

theorem laidLines_dropLast (indentation : Text) (lines : List Text) :
    (laidLines indentation lines).dropLast = laidLines indentation lines.dropLast := by
  rw [List.dropLast_eq_take, List.dropLast_eq_take, laidLines_take, length_laidLines]

/-- From a state at rest, after a blank, a reindented line is read as the line itself. -/
theorem Lexical.State.AtRest.feed_reindentedLine {state : Lexical.State} (rest : state.AtRest)
    {previous other : Text} (blank : (Lexical.LookBehind.ofText previous).Blank)
    (otherBlank : (Lexical.LookBehind.ofText other).Blank) {indentation : Text}
    (blanks : ∀ character ∈ indentation, Lexical.isBlank character = true) (before : List Text)
    (line : Text) :
    state.feed previous (reindentedLine indentation before line) = state.feed other line := by
  unfold reindentedLine
  split
  · exact rest.feedFrom_congr blank otherBlank line
  · exact rest.feed_blanks_append blank otherBlank blanks line

/-- **Indentation does not change what is read.** The lines lead to the same state with and without
it, so that the line after them starts in a string literal with it exactly if it does without. -/
theorem scan_laidLines {indentation : Text}
    (blanks : ∀ character ∈ indentation, Lexical.isBlank character = true) (lines : List Text) :
    Lexical.scan .lf {} [] (laidLines indentation lines) = Lexical.scan .lf {} [] lines := by
  induction lines using List.reverseRecOn with
  | nil => rfl
  | append_singleton lines line ih =>
      rw [laidLines_concat]
      by_cases first : lines = []
      · subst first
        have fresh : ({} : Lexical.State).AtRest := rfl
        have nothing : (Lexical.LookBehind.ofText []).Blank := Lexical.LookBehind.blank_none none
        exact fresh.feed_reindentedLine nothing nothing blanks [] line
      · have rest := (Lexical.scan .lf {} [] lines).atRest_endLine
        rw [Lexical.scan_concat (laidLines_ne_nil first indentation), Lexical.scan_concat first, ih]
        exact rest.feed_reindentedLine (Terminator.lf.blank_append_text _)
          (Terminator.lf.blank_append_text _) blanks lines line

/-- Indenting by something blank does not change which lines start in a string literal. -/
theorem startsInString_laidLines {indentation : Text}
    (blanks : ∀ character ∈ indentation, Lexical.isBlank character = true) (lines : List Text) :
    startsInString (laidLines indentation lines) = startsInString lines := by
  rw [startsInString, scan_laidLines blanks, startsInString]

/-- A line that has been reindented is reindented again where it was the first time. -/
theorem reindentedLine_reindentedLine {first second : Text}
    (blanks : ∀ character ∈ first, Lexical.isBlank character = true) (before : List Text)
    (line : Text) :
    reindentedLine second (laidLines first before) (reindentedLine first before line) =
      reindentedLine (second ++ first) before line := by
  by_cases kept : (line.isEmpty || startsInString before) = true
  · simp only [reindentedLine, startsInString_laidLines blanks, kept, ↓reduceIte]
  · obtain ⟨filled, code⟩ := Bool.or_eq_false_iff.mp (Bool.eq_false_iff.mpr kept)
    have filledStill : (first ++ line).isEmpty = false := by
      simp only [List.isEmpty_eq_false_iff] at filled ⊢
      exact List.append_ne_nil_of_right_ne_nil first filled
    simp only [reindentedLine, startsInString_laidLines blanks, filled, filledStill, code,
      Bool.or_self, Bool.false_eq_true, ↓reduceIte, List.append_assoc]

/-- Indenting twice is indenting once by both. -/
theorem laidLines_laidLines {first : Text}
    (blanks : ∀ character ∈ first, Lexical.isBlank character = true) (second : Text)
    (lines : List Text) :
    laidLines second (laidLines first lines) = laidLines (second ++ first) lines := by
  induction lines using List.reverseRecOn with
  | nil => rfl
  | append_singleton lines line ih =>
      rw [laidLines_concat, laidLines_concat, ih, laidLines_concat,
        reindentedLine_reindentedLine blanks]

/-- **The second time, the lines are those of the first output.** Where a line feed stands between
them, this takes that no line but the last one ends in a carriage return. -/
theorem lines_intercalate_laidLines {terminator : Terminator} {text : Text}
    (unpaired : terminator = .lf → ¬ ['\r', '\r', '\n'] <:+: text) {indentation : Text}
    (noFeed : '\n' ∉ indentation) :
    Text.lines (terminator.text.intercalate (laidLines indentation text.lines)) =
      laidLines indentation text.lines := by
  apply Terminator.lines_intercalate (laidLines_ne_nil (Text.lines_ne_nil text) indentation)
  · intro laid member
    obtain ⟨index, inside, rfl⟩ := List.mem_mapIdx.mp member
    have clean : '\n' ∉ text.lines[index] := Text.not_mem_of_mem_lines (List.getElem_mem inside)
    unfold reindentedLine
    split
    · exact clean
    · simp [noFeed, clean]
  · intro feed laid member
    rw [laidLines_dropLast] at member
    obtain ⟨index, inside, rfl⟩ := List.mem_mapIdx.mp member
    rw [getLast?_reindentedLine]
    exact Terminator.getLast?_ne_of_mem_dropLast (unpaired feed) (List.getElem_mem inside)

/-- What comes out of a text that is not empty is not empty. -/
theorem intercalate_laidLines_ne_nil {terminator : Terminator} {text : Text} (nonempty : text ≠ [])
    (unpaired : terminator = .lf → ¬ ['\r', '\r', '\n'] <:+: text) {indentation : Text}
    (noFeed : '\n' ∉ indentation) :
    terminator.text.intercalate (laidLines indentation text.lines) ≠ [] := by
  intro nothing
  have laid : laidLines indentation text.lines = [[]] := by
    rw [← lines_intercalate_laidLines unpaired noFeed, nothing]
    rfl
  have single : text.lines.length = 1 := by
    rw [← length_laidLines indentation, laid]
    rfl
  obtain ⟨line, only⟩ := List.length_eq_one_iff.mp single
  have unstarted : reindentedLine indentation [] line = [] := by
    simpa [only, laidLines] using laid
  have last := getLast?_reindentedLine indentation [] line
  rw [unstarted] at last
  obtain rfl : line = [] := List.getLast?_eq_none_iff.mp last.symm
  exact nonempty (Text.eq_nil_of_lines only)

/-! ### Reindenting by whole levels -/

section Levels

variable {options : Options} {level : Nat}

theorem isBlank_of_mem_units (options : Options) (level : Nat) :
    ∀ character ∈ options.units level, Lexical.isBlank character = true := by
  intro character member
  rw [← Options.indentation_natCast] at member
  exact Options.isBlank_of_mem_indentation member

/-- Up to the largest level, reindenting by whole levels is putting the text into a new writer. -/
theorem reindent_level (valid : options.Valid) (accepted : level ≤ maxLevel) (text : Text) :
    reindent text options (.level level) =
      .ok (Writer.putText { options, level } text).text := by
  have created : Writer.new options = .ok { options } := Writer.new_eq_ok_iff.mpr ⟨valid, rfl⟩
  have leveled := Writer.setLevel_of_le_maxLevel accepted { options }
  simp only [reindent, created, bind, Except.bind, leveled]
  rfl

/-- A text without line feeds gets the indentation in front, even if it is empty. -/
theorem reindent_of_not_mem (valid : options.Valid) (accepted : level ≤ maxLevel) {text : Text}
    (noFeed : '\n' ∉ text) :
    reindent text options (.level level) = .ok (options.units level ++ text) := by
  have code : Writer.InCode options level { options, level } := ⟨rfl, rfl, rfl⟩
  rw [reindent_level valid accepted, Writer.putText_of_not_mem noFeed, code.text_put rfl]
  rfl

/-- Reindenting a text lays its lines and joins them by the terminator. -/
theorem reindent_eq_laidLines (valid : options.Valid) (accepted : level ≤ maxLevel) {text : Text}
    (nonempty : text ≠ []) :
    reindent text options (.level level) =
      .ok (options.terminator.text.intercalate (laidLines (options.units level) text.lines)) := by
  rw [reindent_level valid accepted, Writer.text_putText options _ nonempty,
    Options.indentation_natCast]

end Levels

/-- A line that is empty or starts in a string literal is kept by whatever indentation. -/
theorem getElem?_laidLines_of_kept {lines : List Text} {index : Nat} {line : Text}
    (found : lines[index]? = some line)
    (kept : line = [] ∨ startsInString (lines.take index) = true) (indentation : Text) :
    (laidLines indentation lines)[index]? = some line := by
  have same : reindentedLine indentation (lines.take index) line = line := by
    rcases kept with rfl | inside
    · rfl
    · simp only [reindentedLine, inside, Bool.or_true, ↓reduceIte]
  rw [laidLines, List.getElem?_mapIdx, found, Option.map_some, same]

/-- **Reindenting adds up.** Whole levels that are accepted together can be added one after the
other. Both times the same lines start in a string literal. These are kept both times, and so are
empty lines, unless there is nothing else in the text. -/
theorem reindent_reindent {options : Options} (valid : options.Valid) {first second : Nat}
    (accepted : first + second ≤ maxLevel) {text : Text}
    (unpaired : options.terminator = .lf → ¬ ['\r', '\r', '\n'] <:+: text) :
    ∃ once twice : Text,
      reindent text options (.level first) = .ok once ∧
      reindent once options (.level second) = .ok twice ∧
      reindent text options (.level (first + second : Nat)) = .ok twice ∧
      once.lines.length = text.lines.length ∧
      ∀ (index : Nat) (line : Text), text.lines[index]? = some line →
        startsInString (once.lines.take index) = startsInString (text.lines.take index) ∧
        ((line = [] ∧ text ≠ []) ∨ startsInString (text.lines.take index) = true →
          once.lines[index]? = some line ∧ twice.lines[index]? = some line) := by
  have firstAccepted : first ≤ maxLevel := by omega
  have secondAccepted : second ≤ maxLevel := by omega
  by_cases empty : text = []
  · subst empty
    have clean : '\n' ∉ options.units first := options.not_mem_units first
    refine ⟨options.units first, options.units (first + second), ?_, ?_, ?_, ?_, ?_⟩
    · rw [reindent_of_not_mem valid firstAccepted List.not_mem_nil, List.append_nil]
    · rw [reindent_of_not_mem valid secondAccepted clean, Options.units_add]
    · rw [reindent_of_not_mem valid accepted List.not_mem_nil, List.append_nil]
    · rw [Text.lines_of_not_mem clean]
      rfl
    · intro index line found
      obtain ⟨rfl, rfl⟩ : index = 0 ∧ line = [] := by
        simpa [Text.lines, List.getElem?_singleton, eq_comm] using found
      exact ⟨rfl, by simp [startsInString, Lexical.scan, Lexical.State.inString]⟩
  · have blanks := isBlank_of_mem_units options first
    have lines (level : Nat) := lines_intercalate_laidLines unpaired (options.not_mem_units level)
    have filled := intercalate_laidLines_ne_nil empty unpaired (options.not_mem_units first)
    refine ⟨_, _, reindent_eq_laidLines valid firstAccepted empty, ?_,
      reindent_eq_laidLines valid accepted empty, ?_, ?_⟩
    · rw [reindent_eq_laidLines valid secondAccepted filled, lines first,
        laidLines_laidLines blanks, Options.units_add]
    · rw [lines first, length_laidLines]
    · intro index line found
      rw [lines first, lines (first + second), laidLines_take, startsInString_laidLines blanks]
      refine ⟨rfl, ?_⟩
      intro kept
      have either := kept.imp_left And.left
      exact ⟨getElem?_laidLines_of_kept found either _, getElem?_laidLines_of_kept found either _⟩

/-- The fourth line and the last one start in a template literal, and the fifth line starts in a
hole of it. The last line ends in a carriage return. -/
theorem reindent_reindent_in_template :
    let options : Options := { width := 2 }
    let text : Text := "a\r\n\n  `b\n $\x7b\nc\x7d\r\n`\r".toList
    let once : Text := "  a\n\n    `b\n $\x7b\n  c\x7d\n`\r".toList
    let twice : Text := "      a\n\n        `b\n $\x7b\n      c\x7d\n`\r".toList
    options.Valid ∧ 1 + 2 ≤ maxLevel ∧ (options.terminator = .lf → ¬ ['\r', '\r', '\n'] <:+: text) ∧
      reindent text options (.level 1) = .ok once ∧
      reindent once options (.level 2) = .ok twice ∧
      reindent text options (.level 3) = .ok twice ∧
      startsInString (text.lines.take 3) = true ∧ startsInString (once.lines.take 3) = true ∧
      startsInString (text.lines.take 4) = false ∧ startsInString (once.lines.take 4) = false := by
  intro options text once twice
  have valid : options.Valid := by decide
  have accepted : 1 + 2 ≤ maxLevel := by decide
  have unpaired : options.terminator = .lf → ¬ ['\r', '\r', '\n'] <:+: text := by decide +kernel
  have cut : text.lines =
      ["a", "", "  `b", " $\x7b", "c\x7d", "`\r"].map String.toList := by decide +kernel
  have inside : startsInString (text.lines.take 3) = true := by decide +kernel
  have outside : startsInString (text.lines.take 4) = false := by decide +kernel
  obtain ⟨first, second, once_eq, twice_eq, sum_eq, _, kept⟩ :=
    reindent_reindent valid accepted unpaired
  have firstOutput : reindent text options (.level 1) = .ok once := by decide +kernel
  have secondOutput : reindent text options (.level 3) = .ok twice := by decide +kernel
  obtain rfl : first = once := Except.ok.inj (once_eq.symm.trans firstOutput)
  obtain rfl : second = twice := Except.ok.inj (sum_eq.symm.trans secondOutput)
  have third := (kept 3 _ (by rw [cut]; rfl)).1
  have fourth := (kept 4 _ (by rw [cut]; rfl)).1
  exact ⟨valid, accepted, unpaired, once_eq, twice_eq, sum_eq, inside, third.trans inside,
    outside, fourth.trans outside⟩

-- The second time, a line feed takes the carriage return before it for its own.
example :
    reindent ['a', '\r', '\r', '\n'] {} (.level 0) = .ok ['a', '\r', '\n'] ∧
      reindent ['a', '\r', '\n'] {} (.level 0) = .ok ['a', '\n'] := by
  decide +kernel

end SourceWriter

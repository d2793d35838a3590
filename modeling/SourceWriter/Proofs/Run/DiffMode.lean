import SourceWriter.Proofs.Diff.Unified
import SourceWriter.Proofs.Run.FailStop

/-! # Diffs instead of files

What a diff shows is what a job that overwrites its sources would do to them: applied to the text of
the source, the diff gives the text that is written (`Job.apply_diff_eq_overwritten`). Nothing is
shown exactly if the text would not change.
-/

namespace SourceWriter.Job

variable {job : Job} {world : World} {source original indented : Text}

/-- A source that can be read, reindented and printed is done. -/
theorem exists_done (job : Job) (room : world.verdict 0 = .taken)
    (read : textFrom source (world.files.find? source) world.input = .ok original)
    (result : reindent original job.options job.indentation = .ok indented) :
    ∃ after, job.outcome [source] world = (.ok (), after) ∧
      job.Progress world [source] after [job.printed source original indented] := by
  have shown : job.outputAfter world [] source = .ok (job.printed source original indented) := by
    rw [outputAfter_nil, read]
    simp only [outputOn, bind, Except.bind, result]
    rfl
  rcases job.runSource_cases source world with
    ⟨error, failed, _⟩ | ⟨output, output_eq, ⟨part, failure, refused, _⟩ |
      ⟨_, after, ran, progress⟩⟩
  · rw [shown] at failed
    cases failed
  · rw [World.verdictOn_nil_of_room room] at refused
    cases refused
  · rw [shown] at output_eq
    obtain rfl := Except.ok.inj output_eq
    refine ⟨after, ?_, progress⟩
    rw [outcome_cons, ran]
    rfl

/-- A file that is written back holds its own text, reindented. -/
theorem Progress.find?_of_overwrites {after : World} {outputs : List Text}
    (progress : job.Progress world [source] after outputs) (back : job.overwrites source = true)
    (found : world.files.find? source = some (.file (.text original)))
    (result : reindent original job.options job.indentation = .ok indented) :
    after.files.find? source = some (.file (.text indented)) := by
  rw [FileTree.find?, progress.sameShape.resolve_eq]
  cases resolved : world.files.resolve source with
  | none => simp [FileTree.find?, resolved] at found
  | some place =>
      rw [FileTree.find?, resolved, Option.bind_some] at found
      rw [Option.bind_some, progress.node_eq, nodeAfter, List.countP_singleton, writes, back,
        resolved, found]
      simp [rewrite, result]

/-- **A diff says what a job that overwrites the source would write.** Nothing is printed exactly if
reindenting leaves the text of the source as it is. Otherwise a patch is printed which, applied to
that text, gives the one that is written back to a file, or printed for the standard input. -/
theorem apply_diff_eq_overwritten {options : Options} (valid : options.Valid)
    {indentation : Indentation} {depth : Depth} (accepted : indentation.depth = .ok depth)
    (quiet both : Bool) (room : world.verdict 0 = .taken)
    (read : textFrom source (world.files.find? source) world.input = .ok original) :
    let differ : Job := { options, indentation, quiet, diff := true, inPlace := both }
    let overwriter : Job := { options, indentation, quiet, inPlace := true }
    ∃ indented patch shown written,
      reindent original options indentation = .ok indented ∧
      differ.outcome [source] world = (.ok (), shown) ∧
      shown.files = world.files ∧ shown.output = world.output ++ patch ∧
      (patch = [] ↔ indented = original) ∧
      (indented ≠ original → Patch.apply patch original = some indented) ∧
      overwriter.outcome [source] world = (.ok (), written) ∧
      (source = standardStream → written.output = world.output ++ indented) ∧
      ∀ content, source ≠ standardStream → world.files.find? source = some (.file content) →
        written.files.find? source = some (.file (.text indented)) := by
  intro differ overwriter
  obtain ⟨indented, result⟩ := (exists_reindent_iff original).mpr ⟨valid, depth, accepted⟩
  obtain ⟨shown, shownRan, shownProgress⟩ := exists_done differ room read result
  obtain ⟨written, writtenRan, writtenProgress⟩ := exists_done overwriter room read result
  refine ⟨indented, differ.printed source original indented, shown, written, result, shownRan,
    ?_, ?_, ?_, ?_, writtenRan, ?_, ?_⟩
  · apply shownProgress.files_eq
    intro _ _
    rfl
  · simpa using shownProgress.output_eq
  · by_cases same : original = indented
    · simp [differ, printed, same]
    · simp [differ, printed, same, Ne.symm same, Diff.unified_ne_nil]
  · intro changed
    have patched : differ.printed source original indented = Diff.unified original indented := by
      simp [differ, printed, Ne.symm changed]
    rw [patched]
    exact Patch.apply_unified original indented
  · rintro rfl
    simpa [overwriter, printed, overwrites] using writtenProgress.output_eq
  · intro content named found
    have back : overwriter.overwrites source = true := by simp [overwriter, overwrites, named]
    have held : content = .text original := by
      rw [found] at read
      cases content <;> simp [textFrom, named, Content.read, Except.mapError] at read
      rw [read]
    subst held
    exact writtenProgress.find?_of_overwrites back found result

/-- A file with a pair, an empty line and a last line that is not ended. -/
theorem apply_diff_eq_overwritten_unended :
    let options : Options := { terminator := .crlf, tabs := true }
    let original : Text := "x\r\n\ny".toList
    let indented : Text := "\tx\r\n\r\n\ty".toList
    let world : World := { files := .ofNodes [(['a'], .file (.text original))] [['w']] }
    let differ : Job := { options, indentation := .level 1, diff := true, inPlace := true }
    let overwriter : Job := { options, indentation := .level 1, inPlace := true }
    let patch := (differ.outcome [['a']] world).2.output
    patch ≠ [] ∧ Patch.apply patch original = some indented ∧
      (overwriter.outcome [['a']] world).2.files.find? ['a'] = some (.file (.text indented)) := by
  intro options original indented world differ overwriter patch
  have valid : options.Valid := by decide
  have accepted : Indentation.depth (.level 1) = .ok (.whole 1) := rfl
  have found : world.files.find? ['a'] = some (.file (.text original)) := by decide +kernel
  have room : world.verdict 0 = .taken := rfl
  have read : textFrom ['a'] (world.files.find? ['a']) world.input = .ok original := by
    decide +kernel
  obtain ⟨result, printed, shown, written, reindented, differs, _, output, silent, applied,
    overwrites, _, file⟩ := apply_diff_eq_overwritten valid accepted false true room read
  have text : reindent original options (.level 1) = .ok indented := by decide +kernel
  obtain rfl : indented = result := Except.ok.inj (text.symm.trans reindented)
  have changed : indented ≠ original := by decide
  obtain rfl : patch = printed := (congrArg (·.2.output) differs).trans output
  refine ⟨mt silent.mp changed, applied changed, ?_⟩
  rw [overwrites]
  exact file _ (by decide) found

end SourceWriter.Job

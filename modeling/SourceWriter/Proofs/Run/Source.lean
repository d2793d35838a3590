import Mathlib.Logic.Function.Iterate
import SourceWriter.Proofs.Run.Overwriting
import SourceWriter.Run.Job
import SourceWriter.Run.World

/-! # Single sources

In a world, what becomes of a source is a matter of what the world is beforehand. Its text is that
of the node that it leads to, or what is left of the standard input (`textFrom`), and from the text
follows what is to be printed for it, or why it fails (`Job.outputOn`). A source that fails
overwrites nothing, and prints nothing but a part of its own text, if that is what is not taken. One
that does not fail has its text overwritten at most, and nothing else (`Job.runSource_cases`).

What a world is after several sources is written down here for any number of them, in terms of the
world before all of them: a file was reindented as many times as a source that leads to it was
overwritten (`Job.nodeAfter`), nothing is left of the standard input if one was read from there
(`World.inputAfter`), and each print has used up a verdict (`World.verdictsAfter`).
-/

namespace SourceWriter

/-- What is done in a world, and can fail. -/
abbrev Attempt (α : Type) : Type :=
  ExceptT Error (StateM World) α

namespace Attempt

variable {α β : Type}

/-- Two steps in turn are the first one, and the second one in the world that it leaves unless it
fails. -/
theorem bind_apply (first : Attempt α) (next : α → Attempt β) (world : World) :
    (first >>= next) world =
      match first world with
      | (.ok value, after) => next value after
      | (.error error, after) => (.error error, after) := by
  change (match first world with | (result, after) => ExceptT.bindCont next result after) = _
  rcases first world with ⟨_ | _, after⟩ <;> rfl

theorem lift_apply (action : StateM World α) (world : World) :
    (liftM action : Attempt α) world = (.ok (action world).1, (action world).2) :=
  rfl

theorem ofExcept_apply (result : Except Error α) (world : World) :
    (liftM result : Attempt α) world = (result, world) := by
  cases result <;> rfl

end Attempt

/-- The text of a source that leads to this node, where that much of the standard input is
left. -/
def textFrom (source : Text) (node : Option Node) (input : Content) : Except Error Text :=
  if source = standardStream then input.read.mapError (.unreadable source)
  else
    match node with
    | none => .error (.missingSource source)
    | some .directory => .error (.unreadable source .isDirectory)
    | some .null => .ok []
    | some .input => input.read.mapError (.unreadable source)
    | some (.file content) => content.read.mapError (.unreadable source)

namespace World

/-- Whether a source is read from the standard input. -/
def drains (world : World) (source : Text) : Bool :=
  source = standardStream || world.files.find? source = some .input

/-- What is left of the standard input after some sources. -/
def inputAfter (world : World) (earlier : List Text) : Content :=
  if earlier.any world.drains then .text [] else world.input

/-- Reading a source gives the text of the node that it leads to, and changes at most what is left
of the standard input. -/
theorem readSource_apply (world : World) (source : Text) :
    (readSource source : Attempt Text) world =
      (textFrom source (world.files.find? source) world.input,
        { world with input := world.inputAfter [source] }) := by
  unfold readSource textFrom
  by_cases stream : source = standardStream
  · have taken : world.inputAfter [source] = .text [] := by simp [inputAfter, drains, stream]
    rw [taken]
    simp only [stream, ↓reduceIte, Attempt.bind_apply, Attempt.lift_apply, Host.readInput,
      readInput]
    cases world.input.read <;> rfl
  · simp only [stream, ↓reduceIte, Attempt.bind_apply, Attempt.lift_apply, Host.readFile, readFile]
    by_cases input : world.files.find? source = some .input
    · have taken : world.inputAfter [source] = .text [] := by simp [inputAfter, drains, input]
      simp only [input, taken, readInput]
      cases world.input.read <;> rfl
    · have kept : world.inputAfter [source] = world.input := by
        simp [inputAfter, drains, stream, input]
      rw [kept]
      cases found : world.files.find? source with
      | none => rfl
      | some node =>
          cases node with
          | input => exact absurd found input
          | file content => cases content <;> rfl
          | directory => rfl
          | null => rfl

/-- How many verdicts are passed while some outputs are printed. There is none on printing
nothing. -/
def verdictCount (outputs : List Text) : Nat :=
  outputs.countP fun output => output ≠ []

theorem verdictCount_append (outputs more : List Text) :
    verdictCount (outputs ++ more) = verdictCount outputs + verdictCount more :=
  List.countP_append

/-- The verdicts that are left after some outputs were printed. -/
def verdictsAfter (world : World) (outputs : List Text) : List Verdict :=
  world.verdicts.drop (verdictCount outputs)

/-- What becomes of a text that is printed after some outputs. -/
def verdictOn (world : World) (outputs : List Text) (text : Text) : Verdict :=
  if text = [] then .taken else world.verdict (verdictCount outputs)

/-- If the next print is taken, then any text is. -/
theorem verdictOn_nil_of_room {world : World} (room : world.verdict 0 = .taken) (text : Text) :
    world.verdictOn [] text = .taken := by
  unfold verdictOn
  split
  · rfl
  · exact room

/-- Whether nothing is written of a text that is not taken. -/
def PrintsWhole (world : World) : Prop :=
  ∀ index part failure, world.verdict index = .refused part failure → part = 0

/-- The later verdicts are those of the world before that are not used up. -/
theorem verdict_eq_of_drop {world after : World} {count : Nat}
    (verdicts : after.verdicts = world.verdicts.drop count)
    (full : after.outputFull = world.outputFull) (index : Nat) :
    after.verdict index = world.verdict (count + index) := by
  rw [verdict, verdict, verdicts, full, List.getElem?_drop]

/-- A text is printed and a verdict used up, or a part of it is printed. -/
theorem printText_apply (world : World) (text : Text) :
    (printText text : Attempt Unit) world =
      match world.verdictOn [] text with
      | .taken =>
        (.ok (), { world with
          output := world.output ++ text, verdicts := world.verdictsAfter [text] })
      | .refused part failure =>
        (.error (.unwritable standardStream failure), { world with
          output := world.output ++ text.take part, verdicts := world.verdictsAfter [text] }) := by
  simp only [printText, Attempt.bind_apply, Attempt.lift_apply, Host.print, print]
  by_cases silent : text = []
  · subst silent
    simp only [verdictOn, verdictsAfter, verdictCount, ↓reduceIte, List.append_nil]
    rfl
  · have single : verdictCount [text] = 1 := by simp [verdictCount, silent]
    have first : verdictCount [] = 0 := rfl
    simp only [verdictOn, silent, first, ↓reduceIte, verdictsAfter, single, List.drop_one]
    cases world.verdict 0 with
    | taken => rfl
    | refused part failure => rfl

end World

namespace Job

variable {job : Job} {world : World} {source : Text}

/-- Whether a job writes a source back. -/
def overwrites (job : Job) (source : Text) : Bool :=
  !job.diff && job.inPlace && source ≠ standardStream

/-- Whether a job writes to a place for a source. -/
def writes (job : Job) (tree : FileTree) (place : Place) (source : Text) : Bool :=
  job.overwrites source && tree.resolve source = some place

/-- A node after its text was reindented. Only files with a text are rewritten. -/
def rewrite (job : Job) : Node → Node
  | .file (.text written) =>
    match reindent written job.options job.indentation with
    | .ok indented => .file (.text indented)
    | .error _ => .file (.text written)
  | node => node

/-- What stands at a place after some sources are done. -/
def nodeAfter (job : Job) (world : World) (earlier : List Text) (place : Place) : Option Node :=
  (world.files.node? place).map job.rewrite^[earlier.countP (job.writes world.files place)]

/-- What is printed for a source with this text. -/
def printed (job : Job) (source text indented : Text) : Text :=
  if job.diff then if text = indented then [] else Diff.unified text indented
  else if job.overwrites source then [] else indented

/-- What is to be printed for a source of which this was read, or why there is nothing to
print. -/
def outputOn (job : Job) (source : Text) (read : Except Error Text) : Except Error Text := do
  let text ← read
  let indented ← reindent text job.options job.indentation
  return job.printed source text indented

/-- What is to be printed for a source after others are done. -/
def outputAfter (job : Job) (world : World) (earlier : List Text) (source : Text) :
    Except Error Text :=
  job.outputOn source
    (textFrom source ((world.files.resolve source).bind (job.nodeAfter world earlier))
      (world.inputAfter earlier))

/-- What a world is after some sources are done, and these texts were printed for them. -/
structure Progress (job : Job) (world : World) (done : List Text) (after : World)
    (outputs : List Text) : Prop where
  sameShape : world.files.SameShape after.files
  node_eq : ∀ place, after.files.node? place = job.nodeAfter world done place
  files_eq : (∀ source ∈ done, job.overwrites source = false) → after.files = world.files
  input_eq : after.input = world.inputAfter done
  output_eq : after.output = world.output ++ outputs.flatten
  verdicts_eq : after.verdicts = world.verdictsAfter outputs
  full_eq : after.outputFull = world.outputFull

/-- A notice changes nothing but the notices. -/
theorem notify_apply (job : Job) (notice : Notice) (world : World) :
    ∃ notices, (job.notify notice : Attempt Unit) world = (.ok (), { world with notices }) := by
  unfold notify
  split
  · exact ⟨world.notices, rfl⟩
  · exact ⟨_, rfl⟩

/-- What stands at a place stays if nothing is written to it. -/
theorem nodeAfter_of_not_writes {earlier : List Text} {place : Place}
    (kept : ∀ source ∈ earlier, job.writes world.files place source = false) :
    job.nodeAfter world earlier place = world.files.node? place := by
  have none : earlier.countP (job.writes world.files place) = 0 := by
    simpa [List.countP_eq_zero] using kept
  rw [nodeAfter, none, Function.iterate_zero, Option.map_id, id_eq]

theorem nodeAfter_nil (job : Job) (world : World) (place : Place) :
    job.nodeAfter world [] place = world.files.node? place :=
  nodeAfter_of_not_writes (by simp)

theorem outputAfter_nil (job : Job) (world : World) (source : Text) :
    job.outputAfter world [] source =
      job.outputOn source (textFrom source (world.files.find? source) world.input) := by
  have nodes : job.nodeAfter world [] = world.files.node? := funext (job.nodeAfter_nil world)
  rw [outputAfter, nodes]
  rfl

/-- A source that can be read can be written, and what it is overwritten with is its own text,
reindented. -/
theorem overwritten_eq_rewrite {node : Node} {input : Content} {text indented : Text}
    (named : source ≠ standardStream) (read : textFrom source (some node) input = .ok text)
    (result : reindent text job.options job.indentation = .ok indented) :
    node ≠ .directory ∧ node.overwritten indented = job.rewrite node := by
  simp only [textFrom, named, ↓reduceIte] at read
  cases node with
  | file content =>
      cases content with
      | text written =>
          obtain rfl : written = text := Except.ok.inj read
          refine ⟨nofun, ?_⟩
          simp only [Node.overwritten, rewrite, result]
      | binary bytes => cases read
  | directory => cases read
  | null => exact ⟨nofun, rfl⟩
  | input => exact ⟨nofun, rfl⟩

/-- Overwriting changes the files and nothing else. -/
theorem overwrite_apply {indented : Text} {files : FileTree} (world : World)
    (written : world.files.writeFile source indented = .ok files) :
    (overwrite source indented : Attempt Unit) world = (.ok (), { world with files }) := by
  simp only [overwrite, Attempt.bind_apply, Attempt.lift_apply, Host.writeFile, World.attempt,
    written]
  rfl

/-- What is done with the indented text of a source. -/
def deliver (job : Job) (source text indented : Text) : Attempt Unit :=
  if job.diff then
    if text = indented then job.notify (.unchanged source)
    else printText (Diff.unified text indented)
  else if job.inPlace ∧ source ≠ standardStream then do
    overwrite source indented
    job.notify (.indented source)
  else printText indented

theorem runSource_eq (job : Job) (source : Text) :
    (job.runSource source : Attempt Unit) = (do
      let text ← readSource source
      let indented ← (reindent text job.options job.indentation : Except Error Text)
      job.deliver source text indented) :=
  rfl

/-- An indented text is written back, or printed, or there is nothing to print. -/
theorem deliver_cases (job : Job) (source text indented : Text) :
    (job.overwrites source = true ∧ job.printed source text indented = [] ∧
      ∃ notice, job.deliver source text indented = (do
        overwrite source indented
        job.notify notice)) ∨
    (job.overwrites source = false ∧
      job.deliver source text indented = printText (job.printed source text indented)) ∨
    (job.overwrites source = false ∧ job.printed source text indented = [] ∧
      ∃ notice, job.deliver source text indented = job.notify notice) := by
  unfold deliver printed overwrites
  by_cases different : job.diff
  · by_cases same : text = indented
    · refine .inr (.inr ⟨?_, ?_, .unchanged source, ?_⟩) <;> simp [different, same]
    · refine .inr (.inl ⟨?_, ?_⟩) <;> simp [different, same]
  · by_cases back : job.inPlace ∧ source ≠ standardStream
    · refine .inl ⟨?_, ?_, .indented source, ?_⟩ <;> simp [different, back]
    · have kept : (job.inPlace && source ≠ standardStream) = false := by simpa using back
      refine .inr (.inl ⟨?_, ?_⟩)
      · simp only [Bool.and_assoc, kept, Bool.and_false]
      · simp [different, back]

/-- A source that is not written back leaves the files as they are. -/
theorem Progress.of_kept (kept : job.overwrites source = false) (world : World) (output : Text)
    (notices : List Notice) :
    job.Progress world [source]
      { world with
        input := world.inputAfter [source]
        output := world.output ++ output
        verdicts := world.verdictsAfter [output]
        notices } [output] where
  sameShape := .refl world.files
  node_eq place := by
    symm
    apply nodeAfter_of_not_writes
    simp [writes, kept]
  files_eq _ := rfl
  input_eq := rfl
  output_eq := by simp
  verdicts_eq := rfl
  full_eq := rfl

/-- A source that can be read can be overwritten, by its own text reindented. -/
theorem exists_progress_of_overwrites {text indented : Text} (back : job.overwrites source = true)
    (read : textFrom source (world.files.find? source) world.input = .ok text)
    (result : reindent text job.options job.indentation = .ok indented) :
    ∃ files, world.files.writeFile source indented = .ok files ∧ ∀ notices,
      job.Progress world [source]
        { world with files, input := world.inputAfter [source], notices } [[]] := by
  have named : source ≠ standardStream := by
    rintro rfl
    simp [overwrites] at back
  cases resolved : world.files.resolve source with
  | none => simp [textFrom, named, FileTree.find?, resolved] at read
  | some place =>
      cases found : world.files.node? place with
      | none => simp [textFrom, named, FileTree.find?, resolved, found] at read
      | some node =>
          have here : world.files.find? source = some node := by
            simp only [FileTree.find?, resolved, Option.bind_some, found]
          rw [here] at read
          obtain ⟨writable, rewritten⟩ := overwritten_eq_rewrite named read result
          obtain ⟨files, written, shape, nodes⟩ :=
            FileTree.exists_writeFile resolved found writable indented
          refine ⟨files, written, fun notices => ⟨shape, ?_, ?_, rfl, by simp, rfl, rfl⟩⟩
          · intro wanted
            rw [nodes, nodeAfter, List.countP_singleton, writes, back, resolved]
            by_cases same : wanted = place
            · subst same
              simp [found, rewritten]
            · simp [same, Ne.symm same]
          · intro none
            simp [back] at none

/-- A source that was read and reindented is delivered: its output is not taken, and only a part of
it is printed; or the source is done. -/
theorem deliver_progress {text indented : Text}
    (read : textFrom source (world.files.find? source) world.input = .ok text)
    (result : reindent text job.options job.indentation = .ok indented) :
    let drained : World := { world with input := world.inputAfter [source] }
    let output := job.printed source text indented
    (∃ part failure, world.verdictOn [] output = .refused part failure ∧
      job.deliver source text indented drained =
        (.error (.unwritable standardStream failure), { drained with
          output := world.output ++ output.take part
          verdicts := world.verdictsAfter [output] })) ∨
    world.verdictOn [] output = .taken ∧
      ∃ after, job.deliver source text indented drained = (.ok (), after) ∧
        job.Progress world [source] after [output] := by
  intro drained output
  rcases job.deliver_cases source text indented with
    ⟨back, silent, notice, delivered⟩ | ⟨kept, delivered⟩ | ⟨kept, silent, notice, delivered⟩
  · obtain ⟨files, written, progress⟩ := exists_progress_of_overwrites back read result
    obtain ⟨notices, notified⟩ := job.notify_apply notice { drained with files }
    have overwritten := overwrite_apply drained written
    have unprinted : output = [] := silent
    rw [unprinted]
    refine .inr ⟨rfl, { drained with files, notices }, ?_, progress notices⟩
    simp only [delivered, Attempt.bind_apply, overwritten, notified]
  · have same : drained.verdictOn [] output = world.verdictOn [] output := rfl
    simp only [delivered, World.printText_apply, output, same]
    cases judged : world.verdictOn [] output with
    | taken => exact .inr ⟨rfl, _, rfl, .of_kept kept world _ _⟩
    | refused part failure => exact .inl ⟨part, failure, rfl, rfl⟩
  · obtain ⟨notices, notified⟩ := job.notify_apply notice drained
    have progress := Progress.of_kept kept world [] notices
    rw [List.append_nil] at progress
    have unprinted : output = [] := silent
    rw [unprinted]
    refine .inr ⟨rfl, { drained with notices }, ?_, progress⟩
    rw [delivered, notified]

/-- A source either fails, and changes nothing but what is left of the standard input; or its text
is not taken, and only a part of it is printed; or it is done. -/
theorem runSource_cases (job : Job) (source : Text) (world : World) :
    (∃ error, job.outputAfter world [] source = .error error ∧
      (job.runSource source : Attempt Unit) world =
        (.error error, { world with input := world.inputAfter [source] })) ∨
    ∃ output, job.outputAfter world [] source = .ok output ∧
      ((∃ part failure, world.verdictOn [] output = .refused part failure ∧
        (job.runSource source : Attempt Unit) world =
          (.error (.unwritable standardStream failure), { world with
            input := world.inputAfter [source]
            output := world.output ++ output.take part
            verdicts := world.verdictsAfter [output] })) ∨
      world.verdictOn [] output = .taken ∧
        ∃ after, (job.runSource source : Attempt Unit) world = (.ok (), after) ∧
          job.Progress world [source] after [output]) := by
  rw [outputAfter_nil, runSource_eq, Attempt.bind_apply, world.readSource_apply]
  cases read : textFrom source (world.files.find? source) world.input with
  | error error => exact .inl ⟨error, rfl, rfl⟩
  | ok text =>
      simp only [Attempt.bind_apply, Attempt.ofExcept_apply]
      cases result : reindent text job.options job.indentation with
      | error error =>
          refine .inl ⟨error, ?_, rfl⟩
          simp only [outputOn, bind, Except.bind, result]
      | ok indented =>
          refine .inr ⟨job.printed source text indented, ?_, deliver_progress read result⟩
          simp only [outputOn, bind, Except.bind, result]
          rfl

end Job

end SourceWriter

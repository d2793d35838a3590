import Mathlib.Control.Monad.Basic
import Mathlib.Data.List.Induction
import SourceWriter.Proofs.Run.Source
import SourceWriter.Proofs.Writer.Part

/-! # Runs that stop

A run does one source after the other and stops at the first one that fails
(`Job.outcome_append`). So there are sources that are done (`Job.Done`), and what the run leaves is
explained by them alone and the world before (`Job.outcome_failStop`): everything that was printed
is printed for them, in order, but for a part of the one output that was not taken, and every file
was reindented as many times as one of them was written back to it. The source that fails
(`Job.Fails`) reads from the standard input at most. It fails for what it is, for the width or the
indentation of the job (`Job.outcome_error_cases`), or since its output is not taken.
-/

namespace SourceWriter

/-- Reindenting fails for options and indentations, and never for a text. -/
theorem exists_reindent_iff {options : Options} {indentation : Indentation} (text : Text) :
    (∃ indented, reindent text options indentation = .ok indented) ↔
      options.Valid ∧ ∃ depth, indentation.depth = .ok depth := by
  constructor
  · rintro ⟨indented, result⟩
    unfold reindent at result
    cases created : Writer.new options with
    | error error => simp [created, bind, Except.bind] at result
    | ok fresh =>
        refine ⟨(Writer.new_eq_ok_iff.mp created).1, ?_⟩
        cases accepted : indentation.depth with
        | error error => simp [created, Writer.setLevel, accepted, bind, Except.bind] at result
        | ok depth => exact ⟨depth, rfl⟩
  · rintro ⟨valid, depth, accepted⟩
    refine ⟨(Writer.write { options, level := depth.level options.width } text).text, ?_⟩
    rw [reindent, Writer.new_eq_ok_iff.mpr ⟨valid, rfl⟩]
    simp only [Writer.setLevel, accepted]
    rfl

/-- Reindenting fails for the width of the options, or as the indentation does. -/
theorem reindent_error_cases {text : Text} {options : Options} {indentation : Indentation}
    {error : Error} (result : reindent text options indentation = .error error) :
    (¬ options.Valid ∧ error = .invalidWidth) ∨ indentation.depth = .error error := by
  by_cases valid : options.Valid
  · refine .inr ?_
    cases accepted : indentation.depth with
    | error refusal =>
        rw [reindent, Writer.new_eq_ok_iff.mpr ⟨valid, rfl⟩] at result
        simp only [Writer.setLevel, accepted] at result
        have same : refusal = error := Except.error.inj result
        rw [same]
    | ok depth =>
        obtain ⟨indented, done⟩ := (exists_reindent_iff text).mpr ⟨valid, depth, accepted⟩
        rw [done] at result
        cases result
  · refine .inl ⟨valid, ?_⟩
    rw [reindent, Writer.new, Options.validate, if_neg valid] at result
    exact (Except.error.inj result).symm

/-- The errors that a source can cause. -/
inductive Error.OfSource : Error → Prop where
  | missing (source : Text) : OfSource (.missingSource source)
  | unreadable (source : Text) (failure : Failure) : OfSource (.unreadable source failure)
  | unwritable (source : Text) (failure : Failure) : OfSource (.unwritable source failure)

/-- A source that cannot be read fails with an error of its own. -/
theorem ofSource_of_textFrom {source : Text} {node : Option Node} {input : Content}
    {error : Error} (failed : textFrom source node input = .error error) : error.OfSource := by
  have ofRead {content : Content}
      (failed : content.read.mapError (.unreadable source) = .error error) : error.OfSource := by
    cases content with
    | text written => cases failed
    | binary bytes =>
        cases failed
        exact .unreadable source _
  unfold textFrom at failed
  split at failed
  · exact ofRead failed
  · split at failed
    · cases failed
      exact .missing source
    · cases failed
      exact .unreadable source _
    · cases failed
    · exact ofRead failed
    · exact ofRead failed

namespace Job

variable {job : Job} {world after : World} {done : List Text} {outputs : List Text}

/-- How a run ends, and the world that it leaves. -/
def outcome (job : Job) (sources : List Text) (world : World) : Except Error Unit × World :=
  (job.run sources : Attempt Unit) world

/-- A run does its first source, and then the others unless that failed. -/
theorem outcome_cons (job : Job) (source : Text) (rest : List Text) (world : World) :
    job.outcome (source :: rest) world =
      match (job.runSource source : Attempt Unit) world with
      | (.ok _, after) => job.outcome rest after
      | (.error error, after) => (.error error, after) := by
  change (job.runSource source >>= fun _ => job.run rest : Attempt Unit) world = _
  rw [Attempt.bind_apply]
  rcases (job.runSource source : Attempt Unit) world with ⟨_ | _, after⟩ <;> rfl

/-- A run of all sources is a run of the first ones, and from the world it leaves, one of the
others, unless it has failed. -/
theorem outcome_append (job : Job) (sources more : List Text) (world : World) :
    job.outcome (sources ++ more) world =
      match job.outcome sources world with
      | (.ok _, after) => job.outcome more after
      | (.error error, after) => (.error error, after) := by
  induction sources generalizing world with
  | nil => rfl
  | cons source rest ih =>
      rw [List.cons_append, outcome_cons, outcome_cons]
      rcases (job.runSource source : Attempt Unit) world with ⟨_ | _, after⟩
      · rfl
      · exact ih after

/-- After a run that did not fail, one source more is done from the world that it left. -/
theorem outcome_concat {sources : List Text} (ran : job.outcome sources world = (.ok (), after))
    (source : Text) :
    job.outcome (sources ++ [source]) world = (job.runSource source : Attempt Unit) after := by
  rw [outcome_append, ran]
  change job.outcome [source] after = _
  rw [outcome_cons]
  rcases (job.runSource source : Attempt Unit) after with ⟨_ | _, last⟩ <;> rfl

theorem rewrite_eq_input_iff (job : Job) (node : Node) :
    job.rewrite node = .input ↔ node = .input := by
  cases node with
  | file content =>
      cases content with
      | text written =>
          cases result : reindent written job.options job.indentation <;> simp [rewrite, result]
      | binary bytes => exact .rfl
  | _ => exact .rfl

theorem iterate_rewrite_eq_input_iff (job : Job) (times : Nat) (node : Node) :
    job.rewrite^[times] node = .input ↔ node = .input := by
  induction times with
  | zero => exact .rfl
  | succ times ih => rw [Function.iterate_succ_apply', rewrite_eq_input_iff, ih]

/-- What stands at a place is rewritten for the earlier sources first, and then for the later
ones. -/
theorem nodeAfter_append (job : Job) (world : World) (earlier later : List Text) (place : Place) :
    job.nodeAfter world (earlier ++ later) place =
      (job.nodeAfter world earlier place).map
        job.rewrite^[later.countP (job.writes world.files place)] := by
  rw [nodeAfter, nodeAfter, List.countP_append, Nat.add_comm, Function.iterate_add,
    Option.map_map]

namespace Progress

theorem nil (job : Job) (world : World) : job.Progress world [] world [] where
  sameShape := .refl world.files
  node_eq place := (job.nodeAfter_nil world place).symm
  files_eq _ := rfl
  input_eq := rfl
  output_eq := (List.append_nil _).symm
  verdicts_eq := rfl
  full_eq := rfl

/-- Overwriting does not change which place a source is written to. -/
theorem writes_eq (progress : job.Progress world done after outputs) (place : Place) :
    job.writes after.files place = job.writes world.files place := by
  funext source
  simp only [writes, progress.sameShape.resolve_eq]

/-- Overwriting does not change which sources are read from the standard input. -/
theorem drains_eq (progress : job.Progress world done after outputs) :
    after.drains = world.drains := by
  funext source
  have input : after.files.find? source = some .input ↔ world.files.find? source = some .input := by
    rw [FileTree.find?, FileTree.find?, progress.sameShape.resolve_eq]
    cases world.files.resolve source with
    | none => exact .rfl
    | some place =>
        simp only [Option.bind_some, progress.node_eq, nodeAfter]
        cases world.files.node? place with
        | none => exact .rfl
        | some node => simpa using job.iterate_rewrite_eq_input_iff _ node
  simp only [World.drains, input]

/-- What stands at a place after more sources is the same from the world after the first ones. -/
theorem nodeAfter_eq (progress : job.Progress world done after outputs) (later : List Text)
    (place : Place) :
    job.nodeAfter after later place = job.nodeAfter world (done ++ later) place := by
  rw [nodeAfter_append, nodeAfter, progress.node_eq, progress.writes_eq]

/-- What is left of the standard input after more sources is the same from the world after the first
ones. -/
theorem inputAfter_eq (progress : job.Progress world done after outputs) (later : List Text) :
    after.inputAfter later = world.inputAfter (done ++ later) := by
  simp only [World.inputAfter, progress.drains_eq, progress.input_eq, List.any_append]
  cases later.any world.drains <;> simp

/-- What is to be printed for a source after some others and then more is the same from the world
after the first ones. -/
theorem outputAfter_eq (progress : job.Progress world done after outputs) (later : List Text)
    (source : Text) :
    job.outputAfter after later source = job.outputAfter world (done ++ later) source := by
  have nodes : job.nodeAfter after later = job.nodeAfter world (done ++ later) :=
    funext (progress.nodeAfter_eq later)
  rw [outputAfter, outputAfter, progress.sameShape.resolve_eq, nodes, progress.inputAfter_eq]

/-- A print after some outputs and then more gets the same verdict from the world after the first
ones. -/
theorem verdictOn_eq (progress : job.Progress world done after outputs) (later : List Text)
    (text : Text) : after.verdictOn later text = world.verdictOn (outputs ++ later) text := by
  rw [World.verdictOn, World.verdictOn, World.verdictCount_append,
    World.verdict_eq_of_drop progress.verdicts_eq progress.full_eq]

/-- Some sources are done, and then some more: then all of them are done, with all outputs in
order. -/
theorem trans {last : World} {further more : List Text}
    (first : job.Progress world done after outputs)
    (second : job.Progress after further last more) :
    job.Progress world (done ++ further) last (outputs ++ more) where
  sameShape := first.sameShape.trans second.sameShape
  node_eq place := (second.node_eq place).trans (first.nodeAfter_eq further place)
  files_eq kept := by
    rw [second.files_eq fun source member => kept source (List.mem_append_right _ member)]
    exact first.files_eq fun source member => kept source (List.mem_append_left _ member)
  input_eq := second.input_eq.trans (first.inputAfter_eq further)
  output_eq := by
    rw [second.output_eq, first.output_eq, List.flatten_append, List.append_assoc]
  verdicts_eq := by
    rw [second.verdicts_eq, World.verdictsAfter, first.verdicts_eq, World.verdictsAfter,
      List.drop_drop, World.verdictsAfter, World.verdictCount_append]
  full_eq := second.full_eq.trans first.full_eq

end Progress

/-- Where there is something to print for a source, its text was reindented. -/
theorem exists_reindent_of_outputOn {source : Text} {read : Except Error Text} {output : Text}
    (reported : job.outputOn source read = .ok output) :
    ∃ text indented, reindent text job.options job.indentation = .ok indented := by
  cases read with
  | error error => simp [outputOn, bind, Except.bind] at reported
  | ok text =>
      cases result : reindent text job.options job.indentation with
      | error error => simp [outputOn, bind, Except.bind, result] at reported
      | ok indented => exact ⟨text, indented, result⟩

/-- A source fails after others that these outputs were printed for: with this error, and with this
part of its own output printed. -/
inductive Fails (job : Job) (world : World) (done outputs : List Text) (source : Text) :
    Error → Text → Prop where
  /-- There is nothing to print, as it cannot be read or reindented. -/
  | unfit {error : Error} (refused : job.outputAfter world done source = .error error) :
      Fails job world done outputs source error []
  /-- There is something to print that is not taken. -/
  | untaken {output : Text} {part : Nat} {failure : Failure}
      (output_eq : job.outputAfter world done source = .ok output)
      (judged : world.verdictOn outputs output = .refused part failure) :
      Fails job world done outputs source (.unwritable standardStream failure) (output.take part)

/-- Sources are done one after the other, with these outputs: each can be read and reindented after
those before it, and what is to be printed for it is taken. -/
inductive Done (job : Job) (world : World) : List Text → List Text → Prop where
  | nothing : Done job world [] []
  | another {done outputs : List Text} {source output : Text}
      (earlier : Done job world done outputs)
      (output_eq : job.outputAfter world done source = .ok output)
      (judged : world.verdictOn outputs output = .taken) :
      Done job world (done ++ [source]) (outputs ++ [output])

/-- If a source is done at all, then options and indentation are accepted. -/
theorem Done.eq_nil_or_accepted (all : job.Done world done outputs) :
    (done = [] ∧ outputs = []) ∨
      job.options.Valid ∧ ∃ depth, job.indentation.depth = .ok depth := by
  cases all with
  | nothing => exact .inl ⟨rfl, rfl⟩
  | another _ output_eq _ =>
      obtain ⟨text, accepted⟩ := exists_reindent_of_outputOn output_eq
      exact .inr ((exists_reindent_iff text).mp accepted)

/-- Nothing is printed for a source that fails, unless options and indentation are accepted and the
standard output takes a part of a text. -/
theorem Fails.part_eq_nil {source part : Text} {error : Error}
    (fails : job.Fails world done outputs source error part)
    (whole : world.PrintsWhole ∨
      ¬ (job.options.Valid ∧ ∃ depth, job.indentation.depth = .ok depth)) : part = [] := by
  cases fails with
  | unfit => rfl
  | @untaken output part failure output_eq judged =>
      rcases whole with whole | invalid
      · unfold World.verdictOn at judged
        split at judged
        · cases judged
        · rw [whole _ part failure judged, List.take_zero]
      · obtain ⟨text, accepted⟩ := exists_reindent_of_outputOn output_eq
        exact absurd ((exists_reindent_iff text).mp accepted) invalid

/-- Some sources are done, and the next one, if there is one, fails. -/
theorem exists_progress (job : Job) (sources : List Text) (world : World) :
    ∃ done left outputs stopped, sources = done ++ left ∧
      job.Progress world done stopped outputs ∧ job.Done world done outputs ∧
      ((left = [] ∧ job.outcome sources world = (.ok (), stopped)) ∨
      ∃ source rest error part verdicts, left = source :: rest ∧
        job.Fails world done outputs source error part ∧
        job.outcome sources world =
          (.error error, { stopped with
            input := world.inputAfter (done ++ [source])
            output := stopped.output ++ part
            verdicts })) := by
  -- From the end, so that what comes after the sources that are done is one source.
  induction sources using List.reverseRecOn with
  | nil => exact ⟨[], [], [], world, rfl, .nil job world, .nothing, .inl ⟨rfl, rfl⟩⟩
  | append_singleton sources source ih =>
      obtain ⟨done, left, outputs, stopped, rfl, progress, all,
        ⟨rfl, final⟩ | ⟨failing, rest, error, part, verdicts, rfl, fails, final⟩⟩ := ih
      · rw [List.append_nil] at final ⊢
        rw [outcome_concat final]
        have output_eq := progress.outputAfter_eq [] source
        have judged := progress.verdictOn_eq []
        simp only [List.append_nil] at output_eq judged
        rcases job.runSource_cases source stopped with
          ⟨error, refused, ran⟩ | ⟨output, shown, ⟨part, failure, verdict, ran⟩ |
            ⟨verdict, next, ran, step⟩⟩
        · refine ⟨done, [source], outputs, stopped, rfl, progress, all, .inr ⟨source, [], error, [],
            stopped.verdicts, rfl, .unfit (output_eq.symm.trans refused), ?_⟩⟩
          rw [ran, progress.inputAfter_eq, List.append_nil]
        · refine ⟨done, [source], outputs, stopped, rfl, progress, all, .inr ⟨source, [],
            .unwritable standardStream failure, output.take part, stopped.verdictsAfter [output],
            rfl, .untaken (output_eq.symm.trans shown) ((judged output).symm.trans verdict), ?_⟩⟩
          rw [ran, progress.inputAfter_eq]
        · exact ⟨done ++ [source], [], outputs ++ [output], next, by simp, progress.trans step,
            all.another (output_eq.symm.trans shown) ((judged output).symm.trans verdict),
            .inl ⟨rfl, ran⟩⟩
      · refine ⟨done, failing :: (rest ++ [source]), outputs, stopped, by simp, progress, all,
          .inr ⟨failing, _, error, part, verdicts, rfl, fails, ?_⟩⟩
        rw [outcome_append, final]

/-- There is nothing to print for what could not be read, for the width of the options, or as the
indentation is refused. -/
theorem outputOn_error_cases {source : Text} {read : Except Error Text} {error : Error}
    (failed : job.outputOn source read = .error error)
    (unread : read = .error error → error.OfSource) :
    error.OfSource ∨ (¬ job.options.Valid ∧ error = .invalidWidth) ∨
      job.indentation.depth = .error error := by
  cases read with
  | error cause =>
      have same : cause = error := Except.error.inj failed
      exact .inl (unread (by rw [same]))
  | ok text =>
      cases result : reindent text job.options job.indentation with
      | error cause =>
          simp only [outputOn, bind, Except.bind, result] at failed
          obtain rfl := Except.error.inj failed
          exact .inr (reindent_error_cases result)
      | ok indented =>
          simp only [outputOn, bind, Except.bind, result] at failed
          cases failed

/-- A run fails for a source, for the width of the options, or as the indentation does. -/
theorem outcome_error_cases {sources : List Text} {error : Error}
    (failed : (job.outcome sources world).1 = .error error) :
    error.OfSource ∨ (¬ job.options.Valid ∧ error = .invalidWidth) ∨
      job.indentation.depth = .error error := by
  obtain ⟨done, left, outputs, stopped, -, -, -, ended⟩ := job.exists_progress sources world
  rcases ended with ⟨-, final⟩ | ⟨source, rest, cause, part, verdicts, -, fails, final⟩
  · rw [final] at failed
    cases failed
  · rw [final] at failed
    obtain rfl := Except.error.inj failed
    cases fails with
    | unfit refused => exact outputOn_error_cases refused ofSource_of_textFrom
    | untaken => exact .inl (.unwritable standardStream _)

/-- **A run stops at the first source that fails.** It is a run of its first sources and then of the
others, from the world that the first ones left. Some sources are done. They are all of them, or the
next one fails, after these and for a reason of its own, of the job, or of the standard output. What
was printed is the outputs of those that are done, in order, and behind them at most a part of the
one that is not taken: nothing where texts are taken whole or not at all. Every place that one of
them leads to was rewritten for each that was written back, and every other place stays as it was.
Nothing is done if the options or the indentation are invalid, and no file changes where none is to
be overwritten. -/
theorem outcome_failStop (job : Job) (world : World) (sources : List Text) :
    let result := (job.outcome sources world).1
    let after := (job.outcome sources world).2
    (∀ more, job.outcome (sources ++ more) world =
      match job.outcome sources world with
      | (.ok _, after) => job.outcome more after
      | (.error error, after) => (.error error, after)) ∧
    (∃ (done left outputs : List Text) (part : Text), sources = done ++ left ∧
      job.Done world done outputs ∧
      ((left = [] ∧ result = .ok () ∧ part = []) ∨
        ∃ source rest error, left = source :: rest ∧
          job.Fails world done outputs source error part ∧ result = .error error) ∧
      after.output = world.output ++ outputs.flatten ++ part ∧
      (world.PrintsWhole → after.output = world.output ++ outputs.flatten) ∧
      after.input = world.inputAfter (done ++ left.take 1) ∧
      (∀ place, after.files.node? place = job.nodeAfter world done place) ∧
      (∀ place, (∀ source ∈ done, world.files.resolve source ≠ some place) →
        after.files.node? place = world.files.node? place) ∧
      (done = [] ∨ ∀ text, ∃ indented, reindent text job.options job.indentation = .ok indented)) ∧
    (¬ (job.options.Valid ∧ ∃ depth, job.indentation.depth = .ok depth) →
      after.files = world.files ∧ after.output = world.output) ∧
    (job.diff ∨ ¬ job.inPlace → after.files = world.files) := by
  intro result after
  obtain ⟨done, left, outputs, stopped, split, progress, all, ended⟩ :=
    job.exists_progress sources world
  obtain ⟨part, stops, filesLeft, outputLeft, inputLeft⟩ : ∃ part,
      ((left = [] ∧ result = .ok () ∧ part = []) ∨
        ∃ source rest error, left = source :: rest ∧
          job.Fails world done outputs source error part ∧ result = .error error) ∧
      after.files = stopped.files ∧ after.output = world.output ++ outputs.flatten ++ part ∧
      after.input = world.inputAfter (done ++ left.take 1) := by
    rcases ended with ⟨rfl, final⟩ | ⟨source, rest, error, part, verdicts, rfl, fails, final⟩
    · refine ⟨[], .inl ⟨rfl, ?_, rfl⟩, ?_, ?_, ?_⟩ <;>
        simp [result, after, final, progress.output_eq, progress.input_eq]
    · refine ⟨part, .inr ⟨source, rest, error, rfl, fails, ?_⟩, ?_, ?_, ?_⟩ <;>
        simp [result, after, final, progress.output_eq]
  have whole (apart : world.PrintsWhole ∨
      ¬ (job.options.Valid ∧ ∃ depth, job.indentation.depth = .ok depth)) : part = [] := by
    rcases stops with ⟨-, -, none⟩ | ⟨source, rest, error, -, fails, -⟩
    · exact none
    · exact fails.part_eq_nil apart
  refine ⟨fun more => job.outcome_append sources more world, ?_, ?_, ?_⟩
  · refine ⟨done, left, outputs, part, split, all, stops, outputLeft, ?_, inputLeft, ?_, ?_, ?_⟩
    · intro apart
      rw [outputLeft, whole (.inl apart), List.append_nil]
    · intro place
      rw [filesLeft, progress.node_eq]
    · intro place unnamed
      rw [filesLeft, progress.node_eq]
      apply nodeAfter_of_not_writes
      intro source member
      simp [writes, unnamed source member]
    · exact all.eq_nil_or_accepted.imp And.left fun accepted text =>
        (exists_reindent_iff text).mpr accepted
  · intro invalid
    obtain ⟨rfl, rfl⟩ := all.eq_nil_or_accepted.resolve_right invalid
    refine ⟨filesLeft.trans (progress.files_eq (by simp)), ?_⟩
    rw [outputLeft, whole (.inr invalid)]
    simp
  · intro kept
    rw [filesLeft]
    apply progress.files_eq
    intro source _
    rcases kept with diff | written <;> simp [overwrites, *]

/-- A file that is named twice, the standard input, and then a directory. Where the same files are
printed and only the first print is taken, the run stops at the second one. -/
theorem outcome_failStop_at_directory :
    let files : FileTree := .ofNodes [(['a'], .file (.text ['x'])), (['d'], .directory)] [['w']]
    let world : World := { files, input := .text ['y'] }
    let job : Job := { options := { tabs := true }, indentation := .level 1, inPlace := true }
    let first : List Text := [['a'], standardStream, ['.', '/', 'a']]
    let rest : List Text := [['d'], ['a']]
    let invalid : Job := { job with options := { width := 0 } }
    let after := (job.outcome (first ++ rest) world).2
    let printer : Job := { job with inPlace := false }
    let clogged (part : Nat) : World :=
      { world with verdicts := [.taken, .refused part (.system 32)] }
    (job.outcome (first ++ rest) world).1 = .error (.unreadable ['d'] .isDirectory) ∧
      after.files.find? ['a'] = some (.file (.text ['\t', '\t', 'x'])) ∧
      after.output = ['\t', 'y'] ∧
      job.outcome (first ++ rest) world = job.outcome rest (job.outcome first world).2 ∧
      (invalid.outcome first world).2.files = files ∧ (invalid.outcome first world).2.output = [] ∧
      ({ job with diff := true }.outcome first world).2.files = files ∧
      (printer.outcome first (clogged 0)).1 = .error (.unwritable standardStream (.system 32)) ∧
      (∃ done outputs, printer.Done (clogged 0) done outputs ∧ outputs.flatten = ['\t', 'x'] ∧
        (printer.outcome first (clogged 0)).2.output = outputs.flatten) ∧
      (printer.outcome first (clogged 0)).2.files = files ∧
      (printer.outcome first (clogged 1)).2.output = ['\t', 'x', '\t'] := by
  intro files world job first rest invalid after printer clogged
  have done : (job.outcome first world).1 = .ok () := by decide +kernel
  obtain ⟨continued, -, -, -⟩ := job.outcome_failStop world first
  have followed :
      job.outcome (first ++ rest) world = job.outcome rest (job.outcome first world).2 := by
    rw [continued]
    rcases ran : job.outcome first world with ⟨_ | _, _⟩
    · rw [ran] at done
      cases done
    · rfl
  have refused : ¬ (invalid.options.Valid ∧ ∃ depth, invalid.indentation.depth = .ok depth) := by
    rintro ⟨valid, _⟩
    exact absurd valid (by decide)
  obtain ⟨filesKept, silent⟩ := (invalid.outcome_failStop world first).2.2.1 refused
  have shown := ({ job with diff := true }.outcome_failStop world first).2.2.2 (.inl rfl)
  have whole : (clogged 0).PrintsWhole := by
    rintro (_ | _ | index) part failure judged <;> cases judged
    rfl
  obtain ⟨-, ⟨made, _, outputs, _, _, all, _, _, output, _⟩, -, untouched⟩ :=
    printer.outcome_failStop (clogged 0) first
  have taken : (printer.outcome first (clogged 0)).2.output = ['\t', 'x'] := by decide +kernel
  exact ⟨by decide +kernel, by decide +kernel, by decide +kernel, followed, filesKept, silent,
    shown, by decide +kernel, ⟨made, outputs, all, (output whole).symm.trans taken, output whole⟩,
    untouched (.inr nofun), by decide +kernel⟩

end Job

end SourceWriter

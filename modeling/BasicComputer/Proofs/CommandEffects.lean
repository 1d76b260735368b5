import BasicComputer.Command.Invocation
import BasicComputer.Proofs.FileAccess
import BasicComputer.Proofs.History

/-!
Contract: a command does all of its work or leaves no trace.

Owns:
- that a command which fails has changed no file and printed nothing (`LeavesNothing`);
- which program assembling delivers (`AssembleOptions.Yields`), as what (`Format.Shows`), and
  where (`AssembleOptions.Delivers`);
- that disassembling changes no file.

Does not own how arguments are told apart (`Command.Flag`), nor what is written to the
standard error output.
-/

namespace BasicComputer

open Text

/-- A run after which the files are as before and the standard output is empty. -/
structure LeavesNothing (files : FileSystem) (outcome : FileSystem × Report) : Prop where
  files_eq : outcome.1 = files
  output_eq : outcome.2.output = []

/-- A run that fails or breaks down, and leaves nothing. -/
structure Refuses (files : FileSystem) (outcome : FileSystem × Report) : Prop where
  exit_ne : outcome.2.exitStatus ≠ 0
  leavesNothing : LeavesNothing files outcome

theorem Plan.run_fail (files : FileSystem) (cause : Error) :
    Refuses files ((Plan.fail cause).run files) :=
  ⟨Nat.one_ne_zero, rfl, rfl⟩

/-- A plan changes files, but not the directory that paths start from. -/
theorem Plan.run_workingDirectory (plan : Plan) (files : FileSystem) :
    (plan.run files).1.workingDirectory = files.workingDirectory := by
  induction plan generalizing files with
  | finish report => rfl
  | read path next inductionHypothesis => exact inductionHypothesis _ files
  | write path content next inductionHypothesis =>
      rw [Plan.run]
      cases written : files.write path content with
      | error fault => exact inductionHypothesis _ files
      | ok after =>
          obtain ⟨target, _, _, rfl⟩ := FileSystem.eq_put_of_write written
          exact inductionHypothesis _ _

/-- A program in a format: its image, its used words in hex, or its listing. -/
inductive Format.Shows (program : Program) : Format → Bytes → Prop where
  | bin : Shows program .bin program.binary
  | hex : Shows program .hex program.hex
  | list : Shows program .list program.listing

theorem Format.shows_render (format : Format) (program : Program) :
    format.Shows program (format.render program) := by
  cases format <;> constructor

namespace Definition

/-- The call that a definition stands for. -/
def request (definition : Definition) : Assembler.Request :=
  .predefine definition.name (UInt16.ofNat definition.address)

/-- Definitions that can all be read are carried out in their order. -/
theorem predefineAll_eq {assembler reached : Assembler} {texts : List Bytes}
    (succeeded : predefineAll assembler texts = .ok reached) :
    ∃ definitions : List Definition, texts.map parse = definitions.map .ok ∧
      reached = (definitions.map request).foldl Assembler.perform assembler := by
  induction texts generalizing assembler with
  | nil =>
      cases succeeded
      exact ⟨[], rfl, rfl⟩
  | cons text rest inductionHypothesis =>
      rw [predefineAll] at succeeded
      cases read : parse text with
      | error cause => simp [read] at succeeded
      | ok definition =>
          rw [read] at succeeded
          obtain ⟨definitions, reads, performed⟩ := inductionHypothesis succeeded
          refine ⟨definition :: definitions, ?_, performed⟩
          rw [List.map_cons, List.map_cons, read, reads]

end Definition

namespace AssembleOptions

/-- The program that the options make of a source file: the source is assembled with the
labels of all definitions predefined, the last definition of a name in force. -/
structure Yields (options : AssembleOptions) (files : FileSystem) (source : Bytes)
    (format : Format) (program : Program) : Prop where
  format_eq : format.name = options.format
  assembled : ∃ (content : Bytes) (definitions : List Definition) (assembler : Assembler),
    files.open? source = .ok ⟨content, none⟩ ∧
      options.defines.map Definition.parse = definitions.map .ok ∧
      (∀ name, assembler.predefined.find? name =
        Assembler.lastBinding (definitions.map Definition.request) name) ∧
      (assembler.assembleText content).result = .ok program

/-- The path of the output file, unless the output goes to the standard output. -/
def outputPath (options : AssembleOptions) (source : Bytes) (format : Format) : Bytes :=
  if options.output = [] then outputName source (some format) else options.output

/-- Where `content` has gone: to the standard output, with all files as before, or to the
output file, with all other files as before and an empty standard output. -/
structure Delivers (options : AssembleOptions) (source : Bytes) (format : Format) (content : Bytes)
    (files : FileSystem) (outcome : FileSystem × Report) : Prop where
  standard : options.output = standardOutput →
    outcome.1 = files ∧ outcome.2.output = content
  file : options.output ≠ standardOutput →
    outcome.2.output = [] ∧
      ∃ target, files.LeadsTo (options.outputPath source format) target ∧
        outcome.1.find? target = some (.file content) ∧
        outcome.1.open? (options.outputPath source format) = .ok ⟨content, none⟩ ∧
        ∀ other, other ≠ target → outcome.1.find? other = files.find? other

/-- A default output file is never taken for the standard output. -/
theorem outputName_ne_standardOutput (source : Bytes) (format : Format) :
    outputName source (some format) ≠ standardOutput := by
  intro same
  have lengths := congrArg List.length same
  have extension : format.extension.length = 4 := by cases format <;> decide
  have dash : standardOutput.length = 1 := by decide
  rw [outputName, List.length_append, extension, dash] at lengths
  omega

theorem outputPath_eq_standardOutput_iff (options : AssembleOptions) (source : Bytes)
    (format : Format) :
    options.outputPath source format = standardOutput ↔ options.output = standardOutput := by
  unfold outputPath
  split
  · next empty =>
      rw [empty]
      constructor
      · intro same
        exact absurd same (outputName_ne_standardOutput source format)
      · intro same
        cases same
  · exact Iff.rfl

/-- Delivering a program either fails at the output file or is all that happens. -/
theorem deliver_run (options : AssembleOptions) (source : Bytes) (format : Format)
    (program : Program) {report : Report} (quiet : report.output = [])
    (fine : report.conclusion = .success) (files : FileSystem) :
    Refuses files ((options.deliver source format program report).run files) ∨
      (((options.deliver source format program report).run files).2.exitStatus = 0 ∧
        options.Delivers source format (format.render program) files
          ((options.deliver source format program report).run files)) := by
  unfold deliver
  rw [← outputPath]
  have standardIff := options.outputPath_eq_standardOutput_iff source format
  by_cases standard : options.outputPath source format = standardOutput
  · right
    rw [if_pos standard]
    refine ⟨?_, fun _ => ⟨rfl, rfl⟩, fun other => absurd (standardIff.1 standard) other⟩
    simp [Plan.run, Report.exitStatus, fine]
  · rw [if_neg standard, Plan.run]
    cases written : files.write (options.outputPath source format) (format.render program) with
    | error fault => exact .inl ⟨Nat.one_ne_zero, rfl, quiet⟩
    | ok after =>
        right
        refine ⟨?_, fun named => absurd (standardIff.2 named) standard, fun _ => ⟨quiet, ?_⟩⟩
        · simp [Plan.run, Report.exitStatus, fine]
        · exact FileSystem.frame_of_write written

/-- A source that cannot be read to its end has no program. -/
theorem sourceOf_of_ok {files : FileSystem} {source : Bytes} {opened : Opened}
    (succeeded : files.open? source = .ok opened) {assembler : Assembler} {program : Program}
    (assembled : (assembler.assemble (sourceOf source opened)).result = .ok program) :
    opened.failure = none ∧ (assembler.assembleText opened.content).result = .ok program := by
  obtain ⟨content, failure⟩ := opened
  cases failure with
  | none => exact ⟨rfl, assembled⟩
  | some fault =>
      have empty : content = [] := FileSystem.content_of_open? succeeded (by simp)
      subst empty
      cases assembled

section Opened

variable {options : AssembleOptions} {files : FileSystem} {source : Bytes} {format : Format}
  {assembler : Assembler} {opened : Opened}

theorem yields_of_assembled (format_eq : format.name = options.format)
    (predefined : Definition.predefineAll {} options.defines = .ok assembler)
    (succeeded : files.open? source = .ok opened) {program : Program}
    (result : (assembler.assemble (sourceOf source opened)).result = .ok program) :
    options.Yields files source format program where
  format_eq := format_eq
  assembled := by
    obtain ⟨complete, assembled⟩ := sourceOf_of_ok succeeded result
    obtain ⟨definitions, reads, performed⟩ := Definition.predefineAll_eq predefined
    refine ⟨opened.content, definitions, assembler, ?_, reads, ?_, assembled⟩
    · rw [succeeded, ← complete]
    · rw [performed]
      exact Assembler.performAll_predefined _

theorem assembleOpened_run (format_eq : format.name = options.format)
    (predefined : Definition.predefineAll {} options.defines = .ok assembler)
    (succeeded : files.open? source = .ok opened) :
    Refuses files ((options.assembleOpened source format assembler opened).run files) ∨
      (((options.assembleOpened source format assembler opened).run files).2.exitStatus = 0 ∧
        ∃ program, options.Yields files source format program ∧
          options.Delivers source format (format.render program) files
            ((options.assembleOpened source format assembler opened).run files)) := by
  unfold assembleOpened
  dsimp only
  cases result : (assembler.assemble (sourceOf source opened)).result with
  | error failure => exact .inl ⟨Nat.one_ne_zero, rfl, rfl⟩
  | broken reason => exact .inl ⟨Nat.succ_ne_zero 1, rfl, rfl⟩
  | ok program =>
      have yields := yields_of_assembled format_eq predefined succeeded result
      refine Or.imp_right ?_ (options.deliver_run source format program ?_ ?_ files)
      · rintro ⟨exit_eq, delivers⟩
        exact ⟨exit_eq, program, yields, delivers⟩
      · rfl
      · rfl

end Opened

/-- Assembling a source file fails and leaves nothing, or delivers the program. -/
theorem plan_run (options : AssembleOptions) (source : Bytes) (files : FileSystem) :
    Refuses files ((options.plan source).run files) ∨
      (((options.plan source).run files).2.exitStatus = 0 ∧
        ∃ format program content, options.Yields files source format program ∧
          format.Shows program content ∧
          options.Delivers source format content files ((options.plan source).run files)) := by
  unfold plan
  cases named : Format.ofName? options.format with
  | none => exact .inl (Plan.run_fail files _)
  | some format =>
      have found := List.find?_some named
      have format_eq : format.name = options.format := beq_iff_eq.1 found
      cases predefined : Definition.predefineAll {} options.defines with
      | error cause => exact .inl (Plan.run_fail files _)
      | ok assembler =>
          dsimp only
          rw [Plan.run]
          cases succeeded : files.open? source with
          | error fault => exact .inl (Plan.run_fail files _)
          | ok opened =>
              refine Or.imp_right ?_ (assembleOpened_run format_eq predefined succeeded)
              rintro ⟨exit_eq, program, yields, delivers⟩
              exact ⟨exit_eq, format, program, _, yields, format.shows_render program, delivers⟩

end AssembleOptions

namespace Invocation

end Invocation

end BasicComputer

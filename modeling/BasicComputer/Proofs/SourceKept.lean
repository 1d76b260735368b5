import BasicComputer.Proofs.CommandEffects
import BasicComputer.Proofs.OutputNames

/-!
Contract: what becomes of a source file when it is assembled.

Without an output file of its own, the program goes to the source's name with the extension
of the format. That is another entry of the same directory, so the source stays as it is,
unless it has that extension itself.

Owns when a path still gives the same (`FileSystem.SameAt`) and when the source does.
-/

namespace BasicComputer

/-- A path gives the same in two file systems: what is read from it, and what stands where it
leads. -/
structure FileSystem.SameAt (before after : FileSystem) (path : Bytes) : Prop where
  opened : after.open? path = before.open? path
  entry : ∀ target, before.LeadsTo path target → after.find? target = before.find? target

theorem FileSystem.SameAt.refl (files : FileSystem) (path : Bytes) : files.SameAt files path :=
  ⟨rfl, fun _ _ => rfl⟩

theorem Format.eq_of_name {first second : Format} (same : first.name = second.name) :
    first = second := by
  revert same
  cases first <;> cases second <;> decide

namespace AssembleOptions

section Delivered

variable {options : AssembleOptions} {source content : Bytes} {format : Format} {files : FileSystem}
  {outcome : FileSystem × Report}

theorem outputPath_of_default (noOutput : options.output = []) (source : Bytes) (format : Format) :
    options.outputPath source format = stem source ++ format.extension :=
  if_pos noOutput

theorem not_standard_of_default (noOutput : options.output = []) :
    options.output ≠ standardOutput := by
  rw [noOutput]
  decide

/-- A source with another extension than the output is not touched. -/
theorem Delivers.sameAt (delivers : options.Delivers source format content files outcome)
    (sameStart : outcome.1.workingDirectory = files.workingDirectory)
    (noOutput : options.output = []) (other : ¬ format.extension <:+ source) {text : Bytes}
    (opened : files.open? source = .ok ⟨text, none⟩) : files.SameAt outcome.1 source := by
  obtain ⟨_, written, leadsToWritten, _, readBack, frame⟩ :=
    delivers.file (not_standard_of_default noOutput)
  obtain ⟨tail, split, noSlash⟩ := exists_stem_append source
  obtain ⟨target, leads, found⟩ := FileSystem.leadsTo_of_open? opened
  obtain ⟨_, leadsAfter, _⟩ := FileSystem.leadsTo_of_open? readBack
  rw [outputPath_of_default noOutput] at leadsToWritten leadsAfter
  have noSlashInExtension := format.noSlash_extension
  -- source and output differ behind the stem, so their last names differ
  have different : FileSystem.lastName source ≠
      FileSystem.lastName (stem source ++ format.extension) := by
    intro same
    rw [split, FileSystem.lastName_append noSlash, ← split,
      FileSystem.lastName_append noSlashInExtension] at same
    exact other ⟨stem source, by rw [← List.append_cancel_left same, ← split]⟩
  have kept : ∀ names, files.LeadsTo source names →
      outcome.1.find? names = files.find? names := fun names leadsToNames =>
    frame names (leadsToNames.ne_of_lastName leadsToWritten different)
  have stillLeads : outcome.1.LeadsTo source target := by
    rw [split] at leads ⊢
    exact leads.of_neighbour sameStart noSlash noSlashInExtension leadsAfter
  refine ⟨?_, kept⟩
  rw [opened]
  exact FileSystem.open?_of_leadsTo stillLeads ((kept target leads).trans found)

/-- A source with the extension of the output is replaced. -/
theorem Delivers.replaced (delivers : options.Delivers source format content files outcome)
    (noOutput : options.output = []) (same : format.extension <:+ source) :
    outcome.1.open? source = .ok ⟨content, none⟩ := by
  have isSource : options.outputPath source format = source :=
    (outputPath_of_default noOutput source format).trans
      ((outputName_eq_self_iff source format).2 same)
  obtain ⟨_, _, _, _, readBack, _⟩ := delivers.file (not_standard_of_default noOutput)
  rwa [isSource] at readBack

end Delivered

/-- Where no output file is named, the source file keeps its bytes if assembling fails or breaks
down, or if its extension is not that of the format. Otherwise the program takes its place. -/
theorem plan_source_kept (options : AssembleOptions) (noOutput : options.output = [])
    (source : Bytes) (files : FileSystem) :
    ((∀ format : Format, format.name = options.format → ¬ format.extension <:+ source) →
        files.SameAt ((options.plan source).run files).1 source) ∧
      (((options.plan source).run files).2.exitStatus ≠ 0 →
        files.SameAt ((options.plan source).run files).1 source) ∧
      ∀ format : Format, format.name = options.format → format.extension <:+ source →
        ((options.plan source).run files).2.exitStatus = 0 →
        ∃ program content, options.Yields files source format program ∧
          format.Shows program content ∧
          ((options.plan source).run files).1.open? source = .ok ⟨content, none⟩ := by
  have sameStart := (options.plan source).run_workingDirectory files
  rcases options.plan_run source files with
    refuses | ⟨exit_eq, format, program, content, yields, shows, delivers⟩
  · have unchanged : files.SameAt ((options.plan source).run files).1 source := by
      rw [refuses.leavesNothing.files_eq]
      exact .refl files source
    refine ⟨fun _ => unchanged, fun _ => unchanged, ?_⟩
    intro _ _ _ succeeded
    exact absurd succeeded refuses.exit_ne
  · refine ⟨?_, ?_, ?_⟩
    · intro others
      obtain ⟨text, _, _, opened, _⟩ := yields.assembled
      exact delivers.sameAt sameStart noOutput (others format yields.format_eq) opened
    · intro failed
      exact absurd exit_eq failed
    · intro named name_eq same _
      obtain rfl : named = format := Format.eq_of_name (name_eq.trans yields.format_eq.symm)
      exact ⟨program, content, yields, shows, delivers.replaced noOutput same⟩

/-- A hidden file in a directory that has a period in its name is kept, though nothing stands
before its extension and it is named from the root. A file with the extension of the format is
kept if it cannot be assembled, and replaced if it can. -/
theorem plan_source_kept_hidden :
    let options : AssembleOptions := { format := Format.hex.name }
    let directory := Bytes.ofString "v1.hex"
    let hidden := Bytes.ofString "/v1.hex/.asm"
    let good := Bytes.ofString "../good.hex"
    let bad := Bytes.ofString "/bad.hex"
    let files : FileSystem :=
      { nodes := [([directory], .directory),
          ([directory, Bytes.ofString ".asm"], .file (Bytes.ofString "CLA\n")),
          ([Bytes.ofString "good.hex"], .file (Bytes.ofString "HEX 5\n")),
          ([Bytes.ofString "bad.hex"], .file (Bytes.ofString "HEX X\n"))]
        workingDirectory := [directory] }
    options.output = [] ∧
      (((options.plan hidden).run files).2.exitStatus = 0 ∧
        files.SameAt ((options.plan hidden).run files).1 hidden) ∧
      (((options.plan bad).run files).2.exitStatus = 1 ∧
        files.SameAt ((options.plan bad).run files).1 bad) ∧
      ((options.plan good).run files).2.exitStatus = 0 ∧
      ∃ program, options.Yields files good .hex program ∧
        ((options.plan good).run files).1.open? good = .ok ⟨program.hex, none⟩ := by
  intro options directory hidden good bad files
  have others : ∀ format : Format, format.name = options.format →
      ¬ format.extension <:+ hidden := by
    intro format
    cases format <;> decide
  have succeeded : ((options.plan hidden).run files).2.exitStatus = 0 := by decide +kernel
  have failed : ((options.plan bad).run files).2.exitStatus = 1 := by decide +kernel
  have refused : ((options.plan bad).run files).2.exitStatus ≠ 0 := by
    rw [failed]
    exact Nat.one_ne_zero
  have replaced : ((options.plan good).run files).2.exitStatus = 0 := by decide +kernel
  refine ⟨rfl, ⟨succeeded, (options.plan_source_kept rfl hidden files).1 others⟩,
    ⟨failed, (options.plan_source_kept rfl bad files).2.1 refused⟩, replaced, ?_⟩
  obtain ⟨program, content, yields, shows, readBack⟩ :=
    (options.plan_source_kept rfl good files).2.2 .hex rfl (by decide) replaced
  cases shows
  exact ⟨program, yields, readBack⟩

/-- A source file that is gone after it was assembled. -/
theorem source_overwritten :
    let options : AssembleOptions := { format := Format.hex.name }
    let source := Bytes.ofString "prog.hex"
    let files : FileSystem := { nodes := [([source], .file (Bytes.ofString "HEX 5"))] }
    options.output = [] ∧ files.open? source = .ok ⟨Bytes.ofString "HEX 5", none⟩ ∧
      ((options.plan source).run files).1.open? source =
        .ok ⟨Bytes.ofString "000: 0005\n", none⟩ ∧
      ¬ files.SameAt ((options.plan source).run files).1 source := by
  intro options source files
  have before : files.open? source = .ok ⟨Bytes.ofString "HEX 5", none⟩ := by decide +kernel
  have after : ((options.plan source).run files).1.open? source =
      .ok ⟨Bytes.ofString "000: 0005\n", none⟩ := by decide +kernel
  refine ⟨rfl, before, after, fun same => ?_⟩
  have equal := same.opened
  rw [before, after] at equal
  exact absurd equal (by decide)

end AssembleOptions

end BasicComputer

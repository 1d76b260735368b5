import BasicComputer.Command.Format
import BasicComputer.Proofs.FileAccess

/-!
Contract: default names of output files.

A path is its stem and what stands behind it. What is behind the stem is a period and what
follows it in the last name, or nothing if the last name has no period.

Owns these laws of `stem`, what a name is without its extension (`HasStem`), when the default
name of the output is the name of the source, and what of the source it keeps.
-/

namespace BasicComputer

open FileSystem (directoryPart lastName)

/-! ### Stems -/

/-- Read from its end, a path reaches the period of its extension before any separator. -/
theorem stemOfReverse?_append {extension : Bytes} (noPeriod : 0x2E ∉ extension)
    (noSlash : 0x2F ∉ extension) (rest : Bytes) :
    stemOfReverse? (extension ++ 0x2E :: rest) = some rest := by
  induction extension with
  | nil => rfl
  | cons byte more inductionHypothesis =>
      obtain ⟨notPeriod, noMorePeriod⟩ := List.ne_and_not_mem_of_not_mem_cons noPeriod
      obtain ⟨notSlash, noMoreSlash⟩ := List.ne_and_not_mem_of_not_mem_cons noSlash
      rw [List.cons_append, stemOfReverse?, if_neg (Ne.symm notSlash), if_neg (Ne.symm notPeriod)]
      exact inductionHypothesis noMorePeriod noMoreSlash

theorem eq_append_of_stemOfReverse? {path rest : Bytes} (found : stemOfReverse? path = some rest) :
    ∃ extension, path = extension ++ 0x2E :: rest ∧ 0x2E ∉ extension ∧ 0x2F ∉ extension := by
  induction path with
  | nil => cases found
  | cons byte more inductionHypothesis =>
      rw [stemOfReverse?] at found
      split at found
      · cases found
      · next notSlash =>
          split at found
          · next isPeriod =>
              cases found
              exact ⟨[], by rw [isPeriod]; rfl, List.not_mem_nil, List.not_mem_nil⟩
          · next notPeriod =>
              obtain ⟨extension, split, noPeriod, noSlash⟩ := inductionHypothesis found
              refine ⟨byte :: extension, by rw [split]; rfl, ?_, ?_⟩
              · exact List.not_mem_cons_of_ne_of_not_mem (Ne.symm notPeriod) noPeriod
              · exact List.not_mem_cons_of_ne_of_not_mem (Ne.symm notSlash) noSlash

/-- Where no stem is found, no period was passed before the first separator. -/
theorem noPeriod_of_stemOfReverse? {name rest : Bytes} (noSlash : 0x2F ∉ name)
    (missing : stemOfReverse? (name ++ rest) = none) : 0x2E ∉ name := by
  induction name with
  | nil => exact List.not_mem_nil
  | cons byte more inductionHypothesis =>
      obtain ⟨notSlash, noMoreSlash⟩ := List.ne_and_not_mem_of_not_mem_cons noSlash
      rw [List.cons_append, stemOfReverse?, if_neg (Ne.symm notSlash)] at missing
      split at missing
      · cases missing
      · next notPeriod =>
          exact List.not_mem_cons_of_ne_of_not_mem (Ne.symm notPeriod)
            (inductionHypothesis noMoreSlash missing)

/-- An extension is taken off. -/
theorem stem_append {extension : Bytes} (noPeriod : 0x2E ∉ extension) (noSlash : 0x2F ∉ extension)
    (name : Bytes) : stem (name ++ 0x2E :: extension) = name := by
  have reversed : (name ++ 0x2E :: extension).reverse =
      extension.reverse ++ 0x2E :: name.reverse := by simp
  have found : stemOfReverse? (name ++ 0x2E :: extension).reverse = some name.reverse := by
    rw [reversed]
    exact stemOfReverse?_append (by simpa using noPeriod) (by simpa using noSlash) _
  rw [stem, found]
  exact List.reverse_reverse name

/-- A path is its own stem if its last name has no period. Otherwise its stem is what stands
before the last period of that name. -/
theorem stem_cases (path : Bytes) :
    (stem path = path ∧ 0x2E ∉ lastName path) ∨
      ∃ extension, path = stem path ++ 0x2E :: extension ∧ 0x2E ∉ extension ∧
        0x2F ∉ extension := by
  cases found : stemOfReverse? path.reverse with
  | none =>
      left
      have reversed : path.reverse = (lastName path).reverse ++ (directoryPart path).reverse := by
        rw [← List.reverse_append, FileSystem.directoryPart_append_lastName]
      have noSlash : 0x2F ∉ (lastName path).reverse := by
        simpa using FileSystem.noSlash_lastName path
      refine ⟨by rw [stem, found], ?_⟩
      rw [reversed] at found
      simpa using noPeriod_of_stemOfReverse? noSlash found
  | some rest =>
      right
      obtain ⟨extension, split, noPeriod, noSlash⟩ := eq_append_of_stemOfReverse? found
      have forward := congrArg List.reverse split
      rw [List.reverse_reverse] at forward
      refine ⟨extension.reverse, ?_, by simpa using noPeriod, by simpa using noSlash⟩
      rw [stem, found, forward]
      simp

/-- What is taken off stands behind the last separator. -/
theorem exists_stem_append (path : Bytes) : ∃ tail, path = stem path ++ tail ∧ 0x2F ∉ tail := by
  rcases stem_cases path with ⟨whole, _⟩ | ⟨extension, split, _, noSlash⟩
  · exact ⟨[], by rw [whole, List.append_nil], List.not_mem_nil⟩
  · exact ⟨0x2E :: extension, split, List.not_mem_cons_of_ne_of_not_mem (by decide) noSlash⟩

theorem directoryPart_stem (path : Bytes) : directoryPart (stem path) = directoryPart path := by
  obtain ⟨tail, split, noSlash⟩ := exists_stem_append path
  conv_rhs => rw [split, FileSystem.directoryPart_append noSlash]

/-- A name and what is left of it without its extension: all of it if it has no period, and
what stands before its last period otherwise. -/
inductive HasStem : Bytes → Bytes → Prop
  | whole {name : Bytes} (noPeriod : 0x2E ∉ name) : HasStem name name
  | cut {name extension : Bytes} (noPeriod : 0x2E ∉ extension) :
      HasStem (name ++ 0x2E :: extension) name

/-- Only the last name of a path loses its extension. -/
theorem hasStem_lastName (path : Bytes) : HasStem (lastName path) (lastName (stem path)) := by
  rcases stem_cases path with ⟨whole, noPeriod⟩ | ⟨extension, split, noPeriod, noSlash⟩
  · rw [whole]
    exact .whole noPeriod
  · have noSlashBehind : 0x2F ∉ 0x2E :: extension :=
      List.not_mem_cons_of_ne_of_not_mem (by decide) noSlash
    have cut : lastName path = lastName (stem path) ++ 0x2E :: extension := by
      conv_lhs => rw [split, FileSystem.lastName_append noSlashBehind]
    rw [cut]
    exact .cut noPeriod

/-! ### Output names -/

/-- The extension of a format is a period with neither a period nor a separator behind it. -/
theorem Format.extension_eq (format : Format) :
    ∃ letters, format.extension = 0x2E :: letters ∧ 0x2E ∉ letters ∧ 0x2F ∉ letters := by
  cases format with
  | bin => exact ⟨Bytes.ofString "bin", by decide, by decide, by decide⟩
  | hex => exact ⟨Bytes.ofString "hex", by decide, by decide, by decide⟩
  | list => exact ⟨Bytes.ofString "lst", by decide, by decide, by decide⟩

theorem Format.noSlash_extension (format : Format) : 0x2F ∉ format.extension := by
  obtain ⟨letters, extension, _, noSlash⟩ := format.extension_eq
  rw [extension]
  exact List.not_mem_cons_of_ne_of_not_mem (by decide) noSlash

/-- The extension of a format is taken off whatever it was added to. -/
theorem Format.stem_append_extension (format : Format) (name : Bytes) :
    stem (name ++ format.extension) = name := by
  obtain ⟨letters, extension, noPeriod, noSlash⟩ := format.extension_eq
  rw [extension, stem_append noPeriod noSlash]

/-- The output is named like the source if and only if the source has the extension of the
format. -/
theorem outputName_eq_self_iff (source : Bytes) (format : Format) :
    outputName source (some format) = source ↔ format.extension <:+ source := by
  constructor
  · intro same
    exact ⟨stem source, same⟩
  · rintro ⟨name, rfl⟩
    rw [outputName, format.stem_append_extension]

/-- The output stays in the directory of the source, its last name is that of the source with
the extension of the format in place of its own, and the output of an output is named as
that of the source. -/
theorem outputName_swaps_extension (source : Bytes) (format other : Format) :
    directoryPart (outputName source (some format)) = directoryPart source ∧
      (∃ kept, HasStem (lastName source) kept ∧
        lastName (outputName source (some format)) = kept ++ format.extension) ∧
      outputName (outputName source (some format)) (some other) =
        outputName source (some other) := by
  have noSlash := format.noSlash_extension
  refine ⟨?_, ⟨lastName (stem source), hasStem_lastName source, ?_⟩, ?_⟩
  · rw [outputName, FileSystem.directoryPart_append noSlash, directoryPart_stem]
  · rw [outputName, FileSystem.lastName_append noSlash]
  · rw [outputName, outputName, outputName, format.stem_append_extension]

/-- A period before the last separator starts no extension, and neither a name nor letters need
stand around one. -/
example :
    (["", "dir/", "v1.2/prog", "v1.2/.asm", "a.b.", ".."].map fun source =>
        outputName (Bytes.ofString source) (some .hex)) =
      [".hex", "dir/.hex", "v1.2/prog.hex", "v1.2/.hex", "a.b.hex", "..hex"].map
        Bytes.ofString := by
  decide

end BasicComputer

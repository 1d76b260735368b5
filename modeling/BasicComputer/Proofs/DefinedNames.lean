import BasicComputer.Proofs.Classification
import BasicComputer.Proofs.CommandEffects
import BasicComputer.Proofs.OnePass

/-!
Contract: names that are defined on the command line, as labels of lines.

A definition refuses names with a space, a tab or a comma. A line refuses labels with any white
space, and no label reaches into a comment. So a name can be defined that no line can bind.

Owns:
- which names lines can bind (`Line.IsLabel`), and which of the defined names are such;
- that a line which binds a defined name is refused as a second definition.
-/

namespace BasicComputer

open Text

/-! ### Labels of lines -/

namespace Line

/-- A name that can stand as a label before the comma of a line. -/
structure IsLabel (name : Bytes) : Prop where
  nonempty : name ≠ []
  noBlank : NoBlank name
  noComma : 0x2C ∉ name
  noComment : ¬ HasComment name

theorem IsLabel.fields {name : Bytes} (isLabel : IsLabel name) : fields name = [name] :=
  isLabel.noBlank.fields isLabel.nonempty

/-- The label of a line that is accepted is such a name. -/
theorem isLabel_of_parse {text : Bytes} {parts : LineParts} {directive : Directive}
    (parsed : parse text = .ok ⟨parts, directive⟩) (labelled : parts.label ≠ []) :
    IsLabel parts.label := by
  have single := fields_label parsed labelled
  obtain ⟨rfl, _⟩ := parse_eq_ok_iff.1 parsed
  obtain ⟨_, noComment, noComma, _⟩ := split_label text
  refine ⟨labelled, fun glyph member => ?_, noComma, noComment⟩
  -- a single word is ink throughout
  have ink := (word_of_mem_fields (single ▸ List.mem_singleton_self _)).2.1
  rw [ink] at member
  obtain ⟨byte, _, rfl⟩ := List.mem_map.1 member
  rfl

/-- Such a name before a body binds the word of the body. -/
theorem IsLabel.parse {name body first : Bytes} {arguments : List Bytes} (isLabel : IsLabel name)
    (noComment : ¬ HasComment body) (words : Text.fields body = first :: arguments)
    (notOrigin : first ≠ originWord) (notEnd : first ≠ endWord) :
    Line.parse (name ++ 0x2C :: body) = .ok ⟨⟨name, trim body⟩, .instruction⟩ := by
  have shape : Shape name body name .instruction :=
    .instruction (.word isLabel.fields) words notOrigin notEnd
  have parts := split_of_label isLabel.noComment isLabel.noComma noComment
  refine parse_eq_ok_iff.2 ⟨?_, ?_⟩
  · rw [parts, shape.labelIs.trim_eq]
  · rw [parts]
    exact directiveOf_of_shape shape

end Line

/-! ### Defined names -/

namespace Definition

theorem isName_iff {name : Bytes} :
    isName name = true ↔ name ≠ [] ∧ 0x20 ∉ name ∧ 0x09 ∉ name ∧ 0x2C ∉ name := by
  simp only [isName, Bool.and_eq_true, Bool.not_eq_true', List.isEmpty_eq_false_iff,
    List.any_eq_false, Bool.or_eq_true, beq_iff_eq, not_or]
  grind

theorem parse_eq_ok_iff {text : Bytes} {definition : Definition} :
    parse text = .ok definition ↔ read text = (definition, none) := by
  unfold parse
  rcases read text with ⟨found, _ | cause⟩ <;> simp

/-- What is defined is a name that passes, and an address. -/
theorem isName_of_parse {text : Bytes} {definition : Definition}
    (parsed : parse text = .ok definition) :
    isName definition.name = true ∧ definition.address < memorySize := by
  rw [parse_eq_ok_iff, read] at parsed
  rcases cut : Bytes.cutByte? 0x3D text with _ | ⟨name, address⟩
  · rw [cut] at parsed
    cases parsed
  by_cases passes : isName (trim name) = true
  · simp only [cut, passes, Bool.not_true, Bool.false_eq_true, ↓reduceIte] at parsed
    split at parsed
    · split at parsed
      · next inside =>
          cases parsed
          exact ⟨passes, inside⟩
      · cases parsed
    · cases parsed
  · simp [cut, refused, passes] at parsed

/-- A defined name can be a label unless it holds white space or a comment mark. -/
theorem isLabel_iff {text : Bytes} {definition : Definition} (read : parse text = .ok definition) :
    Line.IsLabel definition.name ↔
      NoBlank definition.name ∧ ¬ Line.HasComment definition.name := by
  obtain ⟨nonempty, _, _, noComma⟩ := isName_iff.1 (isName_of_parse read).1
  constructor
  · intro isLabel
    exact ⟨isLabel.noBlank, isLabel.noComment⟩
  · rintro ⟨noBlank, noComment⟩
    exact ⟨nonempty, noBlank, noComma, noComment⟩

/-- After definitions that could all be read, each of their names is bound. -/
theorem bound_of_predefineAll {texts : List Bytes} {text : Bytes} {definition : Definition}
    {assembler : Assembler} (predefined : predefineAll {} texts = .ok assembler)
    (member : text ∈ texts) (read : parse text = .ok definition) :
    ∃ address, assembler.predefined.find? definition.name = some address := by
  obtain ⟨definitions, reads, performed⟩ := predefineAll_eq predefined
  have among : definition ∈ definitions := by
    have listed : (.ok definition : Except Error Definition) ∈ texts.map parse :=
      List.mem_map.2 ⟨text, member, read⟩
    rw [reads] at listed
    obtain ⟨other, found, same⟩ := List.mem_map.1 listed
    cases same
    exact found
  have call : UInt16.ofNat definition.address ∈ (definitions.map request).filterMap
      (Assembler.Request.binding? definition.name) := by
    refine List.mem_filterMap.2 ⟨definition.request, List.mem_map_of_mem among, ?_⟩
    exact if_pos rfl
  have last : (Assembler.lastBinding (definitions.map request) definition.name).isSome := by
    rw [Assembler.lastBinding, List.getLast?_isSome]
    exact List.ne_nil_of_mem call
  obtain ⟨address, isLast⟩ := Option.isSome_iff_exists.1 last
  refine ⟨address, ?_⟩
  rw [performed, Assembler.foldl_perform_predefined, isLast, Option.some_or]

end Definition

/-! ### Second definitions -/

/-- A line that binds a predefined name is refused where reading comes to it. -/
theorem Assembler.ComesTo.result_of_predefined {assembler : Assembler} {text line : Bytes}
    {count : Nat} (comesTo : assembler.ComesTo text count line) {parts : LineParts}
    (parsed : Line.parse line = .ok ⟨parts, .instruction⟩) (labelled : parts.label ≠ [])
    {address : Word} (bound : assembler.predefined.find? parts.label = some address) :
    (assembler.assembleText text).result =
      .error ⟨count + 1, line, .plain .labelDuplicate⟩ := by
  let state := (assembler.runTo text count).1
  have still : state.assembler.labels.find? parts.label = some address :=
    (Progress.over_extends assembler.begin _).labels _ _ bound
  have refused : ¬ state.assembler.labels.Accepts parts.label := by
    intro accepts
    rw [accepts labelled] at still
    contradiction
  have duplicate : Move state.assembler (state.number + 1) line state.assembler
      (.failed (.plain .labelDuplicate)) := .duplicate parsed refused
  exact comesTo.result_of_failed ((state.next_move line).unique duplicate).2

namespace AssembleOptions

/-- Assembling a source file comes to a line: the format and all definitions are accepted, the
source can be read, and so can its lines before this one. -/
structure ComesTo (options : AssembleOptions) (files : FileSystem) (source : Bytes) (count : Nat)
    (line : Bytes) : Prop where
  named : ∃ format, Format.ofName? options.format = some format
  reads : ∃ assembler content, Definition.predefineAll {} options.defines = .ok assembler ∧
    files.open? source = .ok ⟨content, none⟩ ∧ assembler.ComesTo content count line

/-- A failure of the source is that of the command, which has changed no file. -/
theorem plan_run_of_failure {options : AssembleOptions} {files : FileSystem}
    {source content : Bytes} {format : Format} {assembler : Assembler} {failure : Failure}
    (named : Format.ofName? options.format = some format)
    (predefined : Definition.predefineAll {} options.defines = .ok assembler)
    (opened : files.open? source = .ok ⟨content, none⟩)
    (failed : (assembler.assembleText content).result = .error failure) :
    ((options.plan source).run files).1 = files ∧
      ((options.plan source).run files).2.error = some (.inFile source failure.error) := by
  have result : (assembler.assemble (sourceOf source ⟨content, none⟩)).result = .error failure :=
    failed
  simp only [plan, named, predefined, Plan.run, opened, assembleOpened, result, Report.error,
    and_self]

end AssembleOptions

/-- A definition has an address in memory. Its name is read as the label of a line if and only if it
holds no white space and no comment mark, and otherwise no line has it as its label. A line that
binds the name after the definition is refused as a second one. -/
theorem defined_name_iff (text : Bytes) (definition : Definition)
    (read : Definition.parse text = .ok definition) :
    definition.address < memorySize ∧
      (Line.parse (definition.name ++ Bytes.ofString ", CLA") =
          .ok ⟨⟨definition.name, Bytes.ofString "CLA"⟩, .instruction⟩ ↔
        NoBlank definition.name ∧ ¬ Line.HasComment definition.name) ∧
      (∀ line body directive, Line.parse line = .ok ⟨⟨definition.name, body⟩, directive⟩ →
        NoBlank definition.name ∧ ¬ Line.HasComment definition.name) ∧
      ∀ (options : AssembleOptions) files source count line body, text ∈ options.defines →
        options.ComesTo files source count line →
        Line.parse line = .ok ⟨⟨definition.name, body⟩, .instruction⟩ →
        ((options.plan source).run files).1 = files ∧
          ((options.plan source).run files).2.error =
            some (.inFile source (Failure.error ⟨count + 1, line, .plain .labelDuplicate⟩)) := by
  obtain ⟨passes, inside⟩ := Definition.isName_of_parse read
  have nonempty := (Definition.isName_iff.1 passes).1
  have onlyLabels : ∀ line body directive,
      Line.parse line = .ok ⟨⟨definition.name, body⟩, directive⟩ →
        NoBlank definition.name ∧ ¬ Line.HasComment definition.name :=
    fun _ _ _ parsed => (Definition.isLabel_iff read).1 (Line.isLabel_of_parse parsed nonempty)
  refine ⟨inside, ⟨onlyLabels _ _ _, ?_⟩, onlyLabels, ?_⟩
  · intro accepted
    have words : fields (Bytes.ofString " CLA") = [Bytes.ofString "CLA"] := by decide
    exact ((Definition.isLabel_iff read).2 accepted).parse (by decide) words (by decide) (by decide)
  · intro options files source count line body member comesTo parsed
    obtain ⟨format, named⟩ := comesTo.named
    obtain ⟨assembler, content, predefined, opened, reaches⟩ := comesTo.reads
    obtain ⟨address, bound⟩ := Definition.bound_of_predefineAll predefined member read
    exact AssembleOptions.plan_run_of_failure named predefined opened
      (reaches.result_of_predefined parsed nonempty bound)

/-- The second line of a source binds a name that was defined before. -/
theorem defined_name_iff_buffer :
    let text := Bytes.ofString " IOBUF\t=200"
    let name := Bytes.ofString "IOBUF"
    let source := Bytes.ofString "p.asm"
    let line := Bytes.ofString "IOBUF, HEX 0"
    let files : FileSystem :=
      { nodes := [([source], .file (Bytes.ofString "LDA IOBUF\nIOBUF, HEX 0\n"))] }
    let options : AssembleOptions := { defines := [text] }
    Definition.parse text = .ok ⟨name, 0x200⟩ ∧
      Line.parse (name ++ Bytes.ofString ", CLA") =
        .ok ⟨⟨name, Bytes.ofString "CLA"⟩, .instruction⟩ ∧
      options.ComesTo files source 1 line ∧
      ((options.plan source).run files).2.error =
        some (.inFile source (.atLine 2 line (.plain .labelDuplicate))) := by
  intro text name source line files options
  have read : Definition.parse text = .ok ⟨name, 0x200⟩ := by decide +kernel
  obtain ⟨_, readsBack, _, refused⟩ := defined_name_iff text ⟨name, 0x200⟩ read
  let content := Bytes.ofString "LDA IOBUF\nIOBUF, HEX 0\n"
  let assembler := ({} : Assembler).predefine name 0x200
  have reaches : assembler.ComesTo content 1 line :=
    Assembler.comesTo_of_through (by decide +kernel) (by decide +kernel)
  have comesTo : options.ComesTo files source 1 line :=
    ⟨⟨.bin, by decide⟩, assembler, content, rfl, by decide +kernel, reaches⟩
  have labelled : Line.parse line = .ok ⟨⟨name, Bytes.ofString "HEX 0"⟩, .instruction⟩ := by
    decide +kernel
  refine ⟨read, readsBack.2 (by decide), comesTo, ?_⟩
  exact (refused options files source 1 line _ (by decide) comesTo labelled).2

/-- Names that are defined, and that a line takes for two words or for a comment. -/
theorem defined_name_no_label :
    let broken : Bytes := [0x41, 0x0B, 0x42]
    let commented := Bytes.ofString "A//B"
    Definition.parse (broken ++ Bytes.ofString "=10") = .ok ⟨broken, 0x10⟩ ∧
      Line.parse (broken ++ Bytes.ofString ", CLA") = .error (.plain .labelInvalid) ∧
      Definition.parse (commented ++ Bytes.ofString "=10") = .ok ⟨commented, 0x10⟩ ∧
      Line.parse (commented ++ Bytes.ofString ", CLA") =
        .ok ⟨⟨[], Bytes.ofString "A"⟩, .instruction⟩ := by
  decide +kernel

end BasicComputer

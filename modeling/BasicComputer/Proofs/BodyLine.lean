import BasicComputer.Proofs.Operands
import BasicComputer.Proofs.Run

/-!
Contract: bodies as lines of a source.

Owns that a body without a comment mark which has a word can be written as a line
(`assembleText_body`). The first comma of a line ends its label, so a body with a comma
needs one in front of it, behind an empty label.
-/

namespace BasicComputer

open Text

theorem Source.fields_dropReturn (line : Bytes) : fields (dropReturn line) = fields line := by
  unfold dropReturn
  split
  · next last =>
      obtain ⟨front, rfl⟩ := List.getLast?_eq_some_iff.1 last
      have isBlank : isBlankByte 0x0D := by decide
      rw [List.dropLast_concat, fields_append_blank isBlank]
      exact (List.append_nil _).symm
  · rfl

namespace Assembler

/-- A source of one line that is a body without a label stores the word of the body at
address zero. -/
theorem assembleText_line (assembler : Assembler) {text body : Bytes} {word : Word}
    (noFeed : 0x0A ∉ text) (nonempty : text ≠ []) (short : text.length < Source.lineLimit)
    (parts : Line.split (Source.dropReturn text) = ⟨[], trim body⟩)
    (encoded : Body.encode assembler.predefined body = .ok word) :
    ∃ program, (assembler.assembleText text).result = .ok program ∧ program.memory[0] = word := by
  have lines : Source.rawLines text = [text] := Source.rawLines_of_noFeed noFeed nonempty
  have shortLines : ∀ line ∈ Source.rawLines text, line.length < Source.lineLimit := by
    rw [lines]
    simpa using short
  have encodedTrimmed : Body.encode assembler.begin.assembler.labels (trim body) = .ok word := by
    rw [Body.encode_trim]
    exact encoded
  obtain ⟨on, stored⟩ := assembler.begin.next_of_instruction
    (Body.parse_of_encode encoded parts) encodedTrimmed (show 0 < memorySize by decide)
  have fine : (assembler.begin.over [Source.dropReturn text]).2.isFine = true := by
    rw [Progress.over_cons_of_goesOn on]
    rfl
  rw [assembleText_of_short assembler shortLines, Source.linesOf, lines, List.map_singleton,
    Progress.settle_of_fine fine, Progress.over_cons_of_goesOn on]
  refine ⟨_, rfl, ?_⟩
  change (assembler.begin.next (Source.dropReturn text)).1.assembler.memory[0] = word
  rw [stored]
  exact Vector.getElem_set_self _

/-- A body without a comment mark that has a word under the predefined labels is
assembled to that word when it is the whole source, provided that it has no comma, and
behind a comma in any case. -/
theorem assembleText_body (assembler : Assembler) (body : Bytes) (word : Word)
    (noFeed : 0x0A ∉ body) (encoded : Body.encode assembler.predefined body = .ok word)
    (noComment : ¬ Line.HasComment body) :
    (body.length < Source.lineLimit → 0x2C ∉ body →
        ∃ program, (assembler.assembleText body).result = .ok program ∧
          program.memory[0] = word) ∧
      (body.length + 1 < Source.lineLimit →
        ∃ program, (assembler.assembleText (0x2C :: body)).result = .ok program ∧
          program.memory[0] = word) := by
  have part : Source.dropReturn body <:+: body := (Source.dropReturn_isPrefix body).isInfix
  have encodedPart : Body.encode assembler.predefined (Source.dropReturn body) = .ok word := by
    rw [Body.encode, Source.fields_dropReturn]
    exact encoded
  have noCommentPart : ¬ Line.HasComment (Source.dropReturn body) :=
    fun comment => noComment (comment.of_infix part)
  constructor
  · intro short noComma
    have nonempty : body ≠ [] := by
      rintro rfl
      cases encoded
    have noCommaPart : 0x2C ∉ Source.dropReturn body := fun comma => noComma (part.subset comma)
    exact assembler.assembleText_line noFeed nonempty short
      (Line.split_of_noLabel noCommentPart noCommaPart) encodedPart
  · intro short
    have parts : Line.split (Source.dropReturn (0x2C :: body)) =
        ⟨[], trim (Source.dropReturn body)⟩ := by
      rw [Source.dropReturn_cons (by decide)]
      exact Line.split_of_emptyLabel noCommentPart
    have noFeedBefore : 0x0A ∉ (0x2C :: body : Bytes) := by
      simpa using noFeed
    exact assembler.assembleText_line noFeedBefore (List.cons_ne_nil _ _) short parts encodedPart

/-- A body that ends in a carriage return, and one with a comma in the name of a label. -/
theorem assembleText_body_plain_and_comma :
    let assembler := ({} : Assembler).predefine (Bytes.ofString "P,Q") 5
    let plain := Bytes.ofString "HEX $(0x10*2+1)\r"
    let comma := Bytes.ofString "LDA P,Q I"
    (Body.encode assembler.predefined plain = .ok 0x21 ∧
        ∃ program, (assembler.assembleText plain).result = .ok program ∧
          program.memory[0] = 0x21) ∧
      (Body.encode assembler.predefined comma = .ok 0xA005 ∧
        ∃ program, (assembler.assembleText (0x2C :: comma)).result = .ok program ∧
          program.memory[0] = 0xA005) := by
  intro assembler plain comma
  have plainEncoded : Body.encode assembler.predefined plain = .ok 0x21 := by decide +kernel
  have commaEncoded : Body.encode assembler.predefined comma = .ok 0xA005 := by decide +kernel
  refine ⟨⟨plainEncoded, ?_⟩, commaEncoded, ?_⟩
  · exact (assembleText_body assembler plain 0x21 (by decide) plainEncoded (by decide)).1
      (by decide) (by decide)
  · exact (assembleText_body assembler comma 0xA005 (by decide) commaEncoded (by decide)).2
      (by decide)

/-- Not every body with a word is a line that is assembled to it: a comma in it ends a
label. -/
theorem exists_body_not_line :
    ¬ ∀ (assembler : Assembler) (body : Bytes) (word : Word), 0x0A ∉ body →
      body.length < Source.lineLimit → Body.encode assembler.predefined body = .ok word →
      ∃ program, (assembler.assembleText body).result = .ok program ∧ program.memory[0] = word := by
  intro every
  obtain ⟨program, succeeded, _⟩ := every (({} : Assembler).predefine (Bytes.ofString "P,Q") 5)
    (Bytes.ofString "LDA P,Q") 0x2005 (by decide) (by decide) (by decide +kernel)
  cases succeeded

end Assembler

end BasicComputer

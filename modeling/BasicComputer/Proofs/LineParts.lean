import BasicComputer.Proofs.LineGrammar

/-!
Contract: the parts of a line are found again.

Owns which parts a line can have (`LineParts.Settled`), that such parts written as a line are
split into themselves, and that a comment behind a line does not touch them.
-/

namespace BasicComputer

open Text

namespace LineParts

/-- Parts that a line can have: both are trimmed and hold no comment, and the label has no
comma. -/
structure Settled (parts : LineParts) : Prop where
  label_trimmed : trim parts.label = parts.label
  body_trimmed : trim parts.body = parts.body
  label_noComment : ¬ Line.HasComment parts.label
  body_noComment : ¬ Line.HasComment parts.body
  label_noComma : 0x2C ∉ parts.label

/-- Parts as a line. Without a label the line starts with the comma. -/
def rejoin (parts : LineParts) : Bytes :=
  parts.label ++ 0x2C :: parts.body

end LineParts

namespace Line

theorem split_body_trimmed (text : Bytes) : trim (split text).body = (split text).body := by
  obtain ⟨statement, statementOf⟩ := exists_statementOf text
  obtain ⟨front, rest, divides⟩ := exists_divides statement
  rw [split_of_divides statementOf divides, trim_trim]

/-- Splitting settles the parts. -/
theorem settled_split (text : Bytes) : (split text).Settled := by
  obtain ⟨_, label_noComment, label_noComma, label_trimmed⟩ := split_label text
  exact ⟨label_trimmed, split_body_trimmed text, label_noComment, (split_body text).2,
    label_noComma⟩

/-- Settled parts are found again in the line that is made of them. -/
theorem split_rejoin {parts : LineParts} (settled : parts.Settled) :
    split parts.rejoin = parts := by
  have found := split_of_label settled.label_noComment settled.label_noComma
    settled.body_noComment
  rwa [settled.label_trimmed, settled.body_trimmed] at found

theorem split_rejoin_iff {parts : LineParts} : split parts.rejoin = parts ↔ parts.Settled := by
  constructor
  · intro found
    rw [← found]
    exact settled_split parts.rejoin
  · exact split_rejoin

/-! ### Comments behind a line -/

/-- What a line says does not change when a comment is added, unless the line ends in the first
half of a comment mark. -/
theorem StatementOf.append_comment {text statement : Bytes}
    (statementOf : StatementOf text statement) (noSlash : text.getLast? ≠ some 0x2F)
    (comment : Bytes) : StatementOf (text ++ 0x2F :: 0x2F :: comment) statement := by
  cases statementOf with
  | whole noComment =>
      refine .before rfl fun mark => ?_
      -- a mark that the added slash completes needs a slash before it
      rcases List.infix_concat_iff.1 mark with ends | inside
      · obtain ⟨front, split⟩ := ends
        have split : (front ++ [0x2F]) ++ [0x2F] = text ++ [0x2F] := by
          rw [List.append_assoc]
          exact split
        rw [← List.append_cancel_right split, List.getLast?_concat] at noSlash
        exact noSlash rfl
      · exact noComment inside
  | @before _ earlier split first =>
      have longer : text ++ 0x2F :: 0x2F :: comment =
          statement ++ 0x2F :: 0x2F :: (earlier ++ 0x2F :: 0x2F :: comment) := by
        rw [split]
        simp
      exact .before longer first

/-- A comment behind a line leaves its parts. -/
theorem split_append_comment {text : Bytes} (noSlash : text.getLast? ≠ some 0x2F)
    (comment : Bytes) : split (text ++ 0x2F :: 0x2F :: comment) = split text := by
  obtain ⟨statement, statementOf⟩ := exists_statementOf text
  obtain ⟨front, rest, divides⟩ := exists_divides statement
  rw [split_of_divides statementOf divides,
    split_of_divides (statementOf.append_comment noSlash comment) divides]

/-- The parts of a line hold no comment, and its label no comma. Written as a line again they are
found unchanged, and exactly the settled parts are; and they stay when a comment is added to a
line that does not end in a slash. -/
theorem split_stable (text : Bytes) :
    (¬ HasComment (split text).label ∧ ¬ HasComment (split text).body ∧
        0x2C ∉ (split text).label) ∧
      split ((split text).label ++ 0x2C :: (split text).body) = split text ∧
      (∀ parts : LineParts, split parts.rejoin = parts ↔ parts.Settled) ∧
      (text.getLast? ≠ some 0x2F →
        ∀ comment, split (text ++ 0x2F :: 0x2F :: comment) = split text) := by
  have settled := settled_split text
  exact ⟨⟨settled.label_noComment, settled.body_noComment, settled.label_noComma⟩,
    split_rejoin settled, fun _ => split_rejoin_iff, split_append_comment⟩

/-- A line with single slashes, a second comma and halves of white space characters at the ends of
its parts. -/
theorem split_stable_halves :
    let label : Bytes := [0x85, 0x58, 0x2F]
    let body : Bytes := Bytes.ofString "LDA P,Q / I" ++ [0xC2]
    let text := [0xC2, 0xA0] ++ label ++ [0x20, 0x2C, 0x09] ++ body ++ [0xE2, 0x80, 0x89]
    text.getLast? ≠ some 0x2F ∧ split text = ⟨label, body⟩ ∧
      split (label ++ 0x2C :: body) = ⟨label, body⟩ ∧
      split (text ++ 0x2F :: 0x2F :: Bytes.ofString "/, ORG") = ⟨label, body⟩ := by
  intro label body text
  have noSlash : text.getLast? ≠ some 0x2F := by decide
  have parts : split text = ⟨label, body⟩ := by decide
  obtain ⟨_, again, _, commented⟩ := split_stable text
  rw [parts] at again commented
  exact ⟨noSlash, parts, again, commented noSlash _⟩

end Line

end BasicComputer

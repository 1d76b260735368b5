import BasicComputer.Assembly.Assembler
import BasicComputer.Proofs.Labels

/-!
Contract: everything that the assembler can do with one line.

`Move` lists the outcomes of a line with their conditions, `step_move` says that
`Assembler.step` does nothing else, and `Move.step_eq` that each of them is the step.
What holds of whole runs is derived from these outcomes; no other module opens `step`
or `emit`.
-/

namespace BasicComputer

namespace Labels

/-- The table after a line at an address, which binds its label if it has one. -/
def withLabel (labels : Labels) (label : Bytes) (address : Nat) : Labels :=
  if label = [] then labels else labels.insert label (UInt16.ofNat address)

/-- Whether a line with a label is no second definition of it. -/
def Accepts (labels : Labels) (label : Bytes) : Prop :=
  label ≠ [] → labels.find? label = none

theorem find?_withLabel (labels : Labels) (label other : Bytes) (address : Nat) :
    (labels.withLabel label address).find? other =
      if label ≠ [] ∧ other = label then some (UInt16.ofNat address) else labels.find? other := by
  unfold withLabel
  by_cases empty : label = []
  · simp [empty]
  · rw [if_neg empty, find?_insert]
    simp [empty]

/-- A line that is accepted changes no binding that there was. -/
theorem Accepts.find?_withLabel {labels : Labels} {label other : Bytes} {found : Word}
    (accepts : labels.Accepts label) (address : Nat) (bound : labels.find? other = some found) :
    (labels.withLabel label address).find? other = some found := by
  rw [Labels.find?_withLabel, if_neg, bound]
  rintro ⟨nonempty, rfl⟩
  rw [accepts nonempty] at bound
  contradiction

end Labels

namespace Assembler

open Text

/-- The outcomes of a line: the next state and what has become of the line. -/
inductive Move (assembler : Assembler) (number : Nat) (text : Bytes) :
    Assembler → Verdict → Prop where
  | unreadable {cause : Error} (parsed : Line.parse text = .error cause) :
      Move assembler number text assembler (.failed cause)
  | nothing {parts : LineParts} (parsed : Line.parse text = .ok ⟨parts, .nothing⟩) :
      Move assembler number text assembler .proceed
  | origin {parts : LineParts} {address : Nat}
      (parsed : Line.parse text = .ok ⟨parts, .origin address⟩) :
      Move assembler number text { assembler with cursor := address } .proceed
  | finish {parts : LineParts} (parsed : Line.parse text = .ok ⟨parts, .finish⟩) :
      Move assembler number text assembler .finished
  | duplicate {parts : LineParts} (parsed : Line.parse text = .ok ⟨parts, .instruction⟩)
      (refused : ¬ assembler.labels.Accepts parts.label) :
      Move assembler number text assembler (.failed (.plain .labelDuplicate))
  | full {parts : LineParts} (parsed : Line.parse text = .ok ⟨parts, .instruction⟩)
      (accepts : assembler.labels.Accepts parts.label) (above : memorySize ≤ assembler.cursor) :
      Move assembler number text
        { assembler with labels := assembler.labels.withLabel parts.label assembler.cursor }
        (.failed (.plain .programTooLarge))
  | unencodable {parts : LineParts} {cause : Error}
      (parsed : Line.parse text = .ok ⟨parts, .instruction⟩)
      (accepts : assembler.labels.Accepts parts.label) (fits : assembler.cursor < memorySize)
      (refused : Body.encode (assembler.labels.withLabel parts.label assembler.cursor)
        parts.body = .error cause) :
      Move assembler number text
        { assembler with labels := assembler.labels.withLabel parts.label assembler.cursor }
        (.failed cause)
  | broken {parts : LineParts} {reason : Bytes}
      (parsed : Line.parse text = .ok ⟨parts, .instruction⟩)
      (accepts : assembler.labels.Accepts parts.label) (fits : assembler.cursor < memorySize)
      (breaks : Body.encode (assembler.labels.withLabel parts.label assembler.cursor)
        parts.body = .broken reason) :
      Move assembler number text
        { assembler with labels := assembler.labels.withLabel parts.label assembler.cursor }
        (.broken reason)
  | emitted {parts : LineParts} {word : Word}
      (parsed : Line.parse text = .ok ⟨parts, .instruction⟩)
      (accepts : assembler.labels.Accepts parts.label) (fits : assembler.cursor < memorySize)
      (encoded : Body.encode (assembler.labels.withLabel parts.label assembler.cursor)
        parts.body = .ok word) :
      Move assembler number text
        { assembler with
          labels := assembler.labels.withLabel parts.label assembler.cursor
          entries := assembler.entries.push
            ⟨number, UInt16.ofNat assembler.cursor, fields parts.body, word⟩
          cursor := assembler.cursor + 1
          memory := assembler.memory.set assembler.cursor word fits }
        (.emitted ⟨number, UInt16.ofNat assembler.cursor, fields parts.body, word⟩)

theorem bindLabel_cases (assembler : Assembler) (label : Bytes) :
    (assembler.labels.Accepts label ∧
        assembler.bindLabel label =
          .ok { assembler with labels := assembler.labels.withLabel label assembler.cursor }) ∨
      (¬ assembler.labels.Accepts label ∧
        assembler.bindLabel label = .error (.plain .labelDuplicate)) := by
  unfold bindLabel Labels.Accepts Labels.withLabel Labels.define
  by_cases empty : label = []
  · simp [empty]
  · cases found : assembler.labels.find? label <;> simp [empty]

private theorem emit_move (assembler : Assembler) (number : Nat) {text : Bytes}
    {parts : LineParts} (parsed : Line.parse text = .ok ⟨parts, .instruction⟩) :
    Move assembler number text (assembler.emit number parts).1
      (assembler.emit number parts).2 := by
  unfold emit
  rcases bindLabel_cases assembler parts.label with ⟨accepts, bound⟩ | ⟨refused, bound⟩
  · rw [bound]
    by_cases fits : assembler.cursor < memorySize
    · cases outcome : Body.encode (assembler.labels.withLabel parts.label assembler.cursor)
          parts.body with
      | ok word =>
          simp only [fits, outcome, ↓reduceDIte]
          exact .emitted parsed accepts fits outcome
      | error cause =>
          simp only [fits, outcome, ↓reduceDIte]
          exact .unencodable parsed accepts fits outcome
      | broken reason =>
          simp only [fits, outcome, ↓reduceDIte]
          exact .broken parsed accepts fits outcome
    · simp only [fits, ↓reduceDIte]
      exact .full parsed accepts (Nat.le_of_not_lt fits)
  · rw [bound]
    exact .duplicate parsed refused

/-- A step is one of the moves. -/
theorem step_move (assembler : Assembler) (number : Nat) (text : Bytes) :
    Move assembler number text (assembler.step number text).1
      (assembler.step number text).2 := by
  unfold step
  cases parsed : Line.parse text with
  | error cause => exact .unreadable parsed
  | ok line =>
      obtain ⟨parts, directive⟩ := line
      cases directive with
      | nothing => exact .nothing parsed
      | origin address => exact .origin parsed
      | finish => exact .finish parsed
      | instruction => exact emit_move assembler number parsed

/-- Every move that is possible is the step. -/
theorem Move.step_eq {assembler reached : Assembler} {number : Nat} {text : Bytes}
    {verdict : Verdict} (move : Move assembler number text reached verdict) :
    assembler.step number text = (reached, verdict) := by
  unfold step
  cases move with
  | unreadable parsed => simp only [parsed]
  | nothing parsed => simp only [parsed]
  | origin parsed => simp only [parsed]
  | finish parsed => simp only [parsed]
  | @duplicate parts parsed refused =>
      rcases bindLabel_cases assembler parts.label with ⟨accepts, _⟩ | ⟨_, bound⟩
      · exact absurd accepts refused
      · simp only [parsed, emit, bound]
  | @full parts parsed accepts above =>
      rcases bindLabel_cases assembler parts.label with ⟨_, bound⟩ | ⟨refused, _⟩
      · simp only [parsed, emit, bound, Nat.not_lt.2 above, ↓reduceDIte]
      · exact absurd accepts refused
  | @unencodable parts cause parsed accepts fits refused =>
      rcases bindLabel_cases assembler parts.label with ⟨_, bound⟩ | ⟨notAccepts, _⟩
      · simp only [parsed, emit, bound, fits, ↓reduceDIte, refused]
      · exact absurd accepts notAccepts
  | @broken parts reason parsed accepts fits breaks =>
      rcases bindLabel_cases assembler parts.label with ⟨_, bound⟩ | ⟨notAccepts, _⟩
      · simp only [parsed, emit, bound, fits, ↓reduceDIte, breaks]
      · exact absurd accepts notAccepts
  | @emitted parts word parsed accepts fits encoded =>
      rcases bindLabel_cases assembler parts.label with ⟨_, bound⟩ | ⟨notAccepts, _⟩
      · simp only [parsed, emit, bound, fits, ↓reduceDIte, encoded]
        rfl
      · exact absurd accepts notAccepts

/-- A line has one outcome. -/
theorem Move.unique {assembler reached other : Assembler} {number : Nat} {text : Bytes}
    {verdict another : Verdict} (move : Move assembler number text reached verdict)
    (alternative : Move assembler number text other another) :
    reached = other ∧ verdict = another :=
  Prod.mk.inj (move.step_eq.symm.trans alternative.step_eq)

end Assembler

end BasicComputer

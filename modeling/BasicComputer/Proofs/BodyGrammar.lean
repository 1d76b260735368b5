import BasicComputer.Proofs.Decoding
import BasicComputer.Proofs.LineGrammar

/-!
Contract: the encoder accepts exactly the grammar of bodies, and the decoder understands
what it gives.

The words of a body are a mnemonic and its arguments. Arguments denote an instruction or a
literal value (`Denotes`), or something is wrong with them (`Fault`), and the word of a body
holds what the body denotes (`HeldBy`). What an operand resolves to is taken from
`Body.operandValue`; where that breaks down, so does the body (`WordsBreak`).
-/

namespace BasicComputer

open Text

theorem Word.toNat_ofInt (value : Int) : ((ofInt value).toNat : Int) = value % 65536 := by
  have small : (value % 65536).toNat < 65536 := by omega
  rw [ofInt, UInt16.toNat_ofNat_of_lt' small]
  omega

namespace Body

/-! ### The grammar -/

/-- What a body stands for. -/
inductive Content where
  | operation (instruction : Instruction)
  | literal (value : Int)

/-- A word holds an instruction if it decodes to it, and a literal in two's complement. -/
def Content.HeldBy : Content → Word → Prop
  | .operation instruction, word => Instruction.decode word = .ok instruction
  | .literal value, word => (word.toNat : Int) = value % 65536

/-- Whether a mnemonic takes a value for its operand. -/
def Fits (mnemonic : Mnemonic) (value : Int) : Prop :=
  (mnemonic.operationClass = .memory ∧ 0 ≤ value ∧ value ≤ 0xFFF) ∨
    mnemonic.operationClass = .data ∧ -0x8000 ≤ value ∧ value ≤ 0xFFFF

/-- The arguments that are accepted behind a mnemonic, with what they denote. -/
inductive Denotes (labels : Labels) (mnemonic : Mnemonic) : List Bytes → Content → Prop
  | fixed (fixed : mnemonic.operationClass = .register ∨ mnemonic.operationClass = .io) :
      Denotes labels mnemonic [] (.operation { mnemonic := mnemonic })
  | memory {operand : Bytes} {address : Word} (memory : mnemonic.operationClass = .memory)
      (resolves : operandValue labels mnemonic.base operand = .ok address.toNat)
      (fits : Fits mnemonic address.toNat) (indirect : Bool) :
      Denotes labels mnemonic (operand :: if indirect then [indirectMarker] else [])
        (.operation ⟨mnemonic, address, indirect⟩)
  | literal {operand : Bytes} {value : Int} (data : mnemonic.operationClass = .data)
      (resolves : operandValue labels mnemonic.base operand = .ok value)
      (fits : Fits mnemonic value) : Denotes labels mnemonic [operand] (.literal value)

/-- What can be wrong with an operand. -/
inductive OperandFault (labels : Labels) (mnemonic : Mnemonic) (operand : Bytes) : Error → Prop
  | unresolved {cause : Error}
      (refused : operandValue labels mnemonic.base operand = .error cause) :
      OperandFault labels mnemonic operand cause
  | outside {value : Int} (resolves : operandValue labels mnemonic.base operand = .ok value)
      (outside : ¬ Fits mnemonic value) :
      OperandFault labels mnemonic operand (.plain .invalidOperand)

/-- All that can be wrong with arguments, ranked by what is reported first. -/
inductive Fault (labels : Labels) (mnemonic : Mnemonic) : List Bytes → Nat → Error → Prop
  | fixedTokens {first : Bytes} {more : List Bytes}
      (fixed : mnemonic.operationClass = .register ∨ mnemonic.operationClass = .io) :
      Fault labels mnemonic (first :: more) 1 (.plain .extraTokens)
  | missingOperand (takes : mnemonic.operationClass = .memory ∨ mnemonic.operationClass = .data) :
      Fault labels mnemonic [] 2 (.plain .missingOperand)
  | dataTokens {operand second : Bytes} {more : List Bytes}
      (data : mnemonic.operationClass = .data) :
      Fault labels mnemonic (operand :: second :: more) 3 (.plain .extraTokens)
  | operand {operand : Bytes} {more : List Bytes} {cause : Error}
      (takes : mnemonic.operationClass = .memory ∨ mnemonic.operationClass = .data)
      (fault : OperandFault labels mnemonic operand cause) :
      Fault labels mnemonic (operand :: more) 4 cause
  | invalidIndirectFlag {operand marker : Bytes} {more : List Bytes}
      (memory : mnemonic.operationClass = .memory) (other : marker ≠ indirectMarker) :
      Fault labels mnemonic (operand :: marker :: more) 5 (.plain .invalidIndirectFlag)
  | memoryTokens {operand marker second : Bytes} {more : List Bytes}
      (memory : mnemonic.operationClass = .memory) :
      Fault labels mnemonic (operand :: marker :: second :: more) 6 (.plain .extraTokens)

/-- The bodies that are accepted, by their words. -/
def WordsDenote (labels : Labels) (words : List Bytes) (content : Content) : Prop :=
  ∃ (mnemonic : Mnemonic) (arguments : List Bytes), words = mnemonic.text :: arguments ∧
    Denotes labels mnemonic arguments content

/-- All that can be wrong with a body. -/
inductive WordsFault (labels : Labels) (words : List Bytes) : Nat → Error → Prop
  | unknownMnemonic (nameless : ∀ mnemonic : Mnemonic, words.head? ≠ some mnemonic.text) :
      WordsFault labels words 0 (.plain .unknownMnemonic)
  | arguments {mnemonic : Mnemonic} {arguments : List Bytes} {rank : Nat} {cause : Error}
      (named : words = mnemonic.text :: arguments)
      (fault : Fault labels mnemonic arguments rank cause) : WordsFault labels words rank cause

/-- A body is judged by its operand: that of a reference, or the only argument of a literal. -/
def JudgedBy (words : List Bytes) (mnemonic : Mnemonic) (operand : Bytes) : Prop :=
  ∃ more, words = mnemonic.text :: operand :: more ∧
    (mnemonic.operationClass = .memory ∨ mnemonic.operationClass = .data ∧ more = [])

/-- The bodies that break down, with the reason why the operand does. -/
def WordsBreak (labels : Labels) (words : List Bytes) (reason : Bytes) : Prop :=
  ∃ (mnemonic : Mnemonic) (operand : Bytes), JudgedBy words mnemonic operand ∧
    operandValue labels mnemonic.base operand = .broken reason

/-! ### Operands -/

section Arguments

variable {labels : Labels} {mnemonic : Mnemonic} {operand : Bytes}

theorem within_of_outside {least greatest value : Int}
    (outside : ¬ (least ≤ value ∧ value ≤ greatest)) :
    within least greatest value = .error (.plain .invalidOperand) :=
  if_neg outside

theorem fits_memory_iff (memory : mnemonic.operationClass = .memory) {value : Int} :
    Fits mnemonic value ↔ 0 ≤ value ∧ value ≤ addressMask := by
  simp [Fits, memory, addressMask]

theorem fits_data_iff (data : mnemonic.operationClass = .data) {value : Int} :
    Fits mnemonic value ↔ -0x8000 ≤ value ∧ value ≤ 0xFFFF := by
  simp [Fits, data]

theorem OperandFault.unique {first second : Error}
    (isFirst : OperandFault labels mnemonic operand first)
    (isSecond : OperandFault labels mnemonic operand second) : first = second := by
  cases isFirst <;> cases isSecond <;> simp_all

theorem OperandFault.not_fits {cause : Error} (fault : OperandFault labels mnemonic operand cause)
    {value : Int} (resolves : operandValue labels mnemonic.base operand = .ok value) :
    ¬ Fits mnemonic value := by
  cases fault <;> simp_all

theorem operand_judged (labels : Labels) (mnemonic : Mnemonic) (operand : Bytes) :
    (∃ value, operandValue labels mnemonic.base operand = .ok value ∧ Fits mnemonic value) ∨
      (∃ cause, OperandFault labels mnemonic operand cause) ∨
      ∃ reason, operandValue labels mnemonic.base operand = .broken reason := by
  cases resolved : operandValue labels mnemonic.base operand with
  | error cause => exact .inr (.inl ⟨cause, .unresolved resolved⟩)
  | broken reason => exact .inr (.inr ⟨reason, rfl⟩)
  | ok value =>
      by_cases fits : Fits mnemonic value
      · exact .inl ⟨value, rfl, fits⟩
      · exact .inr (.inl ⟨_, .outside resolved fits⟩)

/-! ### Memory references and literals -/

theorem memoryWord_of_value (memory : mnemonic.operationClass = .memory) {value : Int}
    (resolves : operandValue labels mnemonic.base operand = .ok value) (fits : Fits mnemonic value)
    (more : List Bytes) :
    memoryWord labels mnemonic (operand :: more) =
      addressingMode more >>= fun indirect => .ok (mnemonic.memoryWord value.toNat indirect) := by
  obtain ⟨least, greatest⟩ := (fits_memory_iff memory).1 fits
  have bounded := within_of_bounds least greatest
  simp only [memoryWord, resolves, bounded, Attempt.ok_bind, Attempt.pure_eq]

theorem memoryWord_of_fault (memory : mnemonic.operationClass = .memory) {cause : Error}
    (fault : OperandFault labels mnemonic operand cause) (more : List Bytes) :
    memoryWord labels mnemonic (operand :: more) = .error cause := by
  cases fault with
  | unresolved refused => simp only [memoryWord, refused, Attempt.error_bind]
  | outside resolves outside =>
      rw [fits_memory_iff memory] at outside
      simp only [memoryWord, resolves, within_of_outside outside, Attempt.ok_bind,
        Attempt.error_bind]

theorem dataWord_of_value (data : mnemonic.operationClass = .data) {value : Int}
    (resolves : operandValue labels mnemonic.base operand = .ok value)
    (fits : Fits mnemonic value) : dataWord labels mnemonic [operand] = .ok (Word.ofInt value) := by
  obtain ⟨least, greatest⟩ := (fits_data_iff data).1 fits
  have bounded := within_of_bounds least greatest
  simp only [dataWord, resolves, bounded, Attempt.ok_bind, Attempt.pure_eq]

theorem dataWord_of_fault (data : mnemonic.operationClass = .data) {cause : Error}
    (fault : OperandFault labels mnemonic operand cause) :
    dataWord labels mnemonic [operand] = .error cause := by
  cases fault with
  | unresolved refused => simp only [dataWord, refused, Attempt.error_bind]
  | outside resolves outside =>
      rw [fits_data_iff data] at outside
      simp only [dataWord, resolves, within_of_outside outside, Attempt.ok_bind,
        Attempt.error_bind]

/-! ### Arguments -/

/-- A fault of the operand is reported unless a literal has further words. -/
theorem encodeWith_of_operandFault {more : List Bytes}
    (takes : mnemonic.operationClass = .memory ∨ mnemonic.operationClass = .data ∧ more = [])
    {cause : Error} (fault : OperandFault labels mnemonic operand cause) :
    encodeWith labels mnemonic (operand :: more) = .error cause := by
  rcases takes with memory | ⟨data, rfl⟩
  · simp only [encodeWith, memory]
    exact memoryWord_of_fault memory fault more
  · simp only [encodeWith, data]
    exact dataWord_of_fault data fault

theorem encodeWith_of_broken {more : List Bytes}
    (takes : mnemonic.operationClass = .memory ∨ mnemonic.operationClass = .data ∧ more = [])
    {reason : Bytes} (breaks : operandValue labels mnemonic.base operand = .broken reason) :
    encodeWith labels mnemonic (operand :: more) = .broken reason := by
  rcases takes with memory | ⟨data, rfl⟩
  · simp only [encodeWith, memory, memoryWord, breaks, Attempt.broken_bind]
  · simp only [encodeWith, data, dataWord, breaks, Attempt.broken_bind]

theorem Fault.single {arguments : List Bytes} (rank : Nat) (first second : Error)
    (isFirst : Fault labels mnemonic arguments rank first)
    (isSecond : Fault labels mnemonic arguments rank second) : first = second := by
  cases isFirst with
  | operand takes fault =>
      cases isSecond with
      | operand _ other => exact fault.unique other
  | _ =>
      cases isSecond
      rfl

theorem Fault.rank_pos {arguments : List Bytes} {rank : Nat} {cause : Error}
    (fault : Fault labels mnemonic arguments rank cause) : 0 < rank := by
  cases fault <;> decide

/-- The word of a body holds what the body denotes. -/
theorem encodeWith_of_denotes {arguments : List Bytes} {content : Content}
    (denotes : Denotes labels mnemonic arguments content) :
    ∃ word, encodeWith labels mnemonic arguments = .ok word ∧ content.HeldBy word := by
  cases denotes with
  | fixed fixed =>
      refine ⟨mnemonic.fixedWord, ?_, Instruction.decode_fixedWord fixed⟩
      rcases fixed with isRegister | isIo
      · simp [encodeWith, isRegister]
      · simp [encodeWith, isIo]
  | @memory operand address memory resolves fits indirect =>
      have inside := ((fits_memory_iff memory).1 fits).2
      refine ⟨mnemonic.memoryWord address.toNat indirect, ?_,
        Instruction.decode_memoryWord memory (by omega) indirect⟩
      simp only [encodeWith, memory]
      rw [memoryWord_of_value memory resolves fits, addressingMode_marker]
      rfl
  | @literal operand value data resolves fits =>
      refine ⟨Word.ofInt value, ?_, Word.toNat_ofInt value⟩
      simp only [encodeWith, data]
      exact dataWord_of_value data resolves fits

theorem Denotes.sound {arguments : List Bytes} {content : Content}
    (denotes : Denotes labels mnemonic arguments content) (rank : Nat) (cause : Error) :
    ¬ Fault labels mnemonic arguments rank cause := by
  intro fault
  cases denotes with
  | fixed fixed =>
      cases fault with
      | missingOperand takes => grind
  | memory memory resolves fits indirect =>
      cases indirect with
      | false =>
          simp only [Bool.false_eq_true, ↓reduceIte] at fault
          cases fault with
          | fixedTokens fixed => simp_all
          | operand takes fault => exact fault.not_fits resolves fits
      | true =>
          simp only [↓reduceIte] at fault
          cases fault with
          | fixedTokens fixed => simp_all
          | dataTokens data => simp_all
          | operand takes fault => exact fault.not_fits resolves fits
          | invalidIndirectFlag memory other => exact other rfl
  | literal data resolves fits =>
      cases fault with
      | fixedTokens fixed => simp_all
      | operand takes fault => exact fault.not_fits resolves fits

theorem denotes_of_value (memory : mnemonic.operationClass = .memory) {value : Int}
    (resolves : operandValue labels mnemonic.base operand = .ok value) (fits : Fits mnemonic value)
    (indirect : Bool) :
    Denotes labels mnemonic (operand :: if indirect then [indirectMarker] else [])
      (.operation ⟨mnemonic, UInt16.ofNat value.toNat, indirect⟩) := by
  obtain ⟨least, greatest⟩ := (fits_memory_iff memory).1 fits
  have kept : ((UInt16.ofNat value.toNat).toNat : Int) = value := by
    unfold addressMask at greatest
    rw [UInt16.toNat_ofNat_of_lt' (by simp only [UInt16.size]; omega)]
    omega
  exact .memory memory (by rw [kept]; exact resolves) (by rw [kept]; exact fits) indirect

theorem Fault.rank_of_memory (memory : mnemonic.operationClass = .memory) {more : List Bytes}
    {rank : Nat} {cause : Error} (fault : Fault labels mnemonic (operand :: more) rank cause) :
    4 ≤ rank := by
  cases fault with
  | fixedTokens fixed => simp [memory] at fixed
  | dataTokens data => simp [memory] at data
  | operand => decide
  | invalidIndirectFlag => decide
  | memoryTokens => decide

theorem Fault.rank_of_value (memory : mnemonic.operationClass = .memory) {value : Int}
    (resolves : operandValue labels mnemonic.base operand = .ok value) (fits : Fits mnemonic value)
    {more : List Bytes} {rank : Nat} {cause : Error}
    (fault : Fault labels mnemonic (operand :: more) rank cause) : 5 ≤ rank := by
  have above := fault.rank_of_memory memory
  cases fault with
  | operand _ fault => exact absurd fits (fault.not_fits resolves)
  | _ => omega

/-- Arguments denote something, are refused with the first fault, or break down. -/
def Judged (labels : Labels) (mnemonic : Mnemonic) (arguments : List Bytes) : Prop :=
  (∃ content, Denotes labels mnemonic arguments content) ∨
    (∃ cause, encodeWith labels mnemonic arguments = .error cause ∧
      FirstOf (Fault labels mnemonic arguments) cause) ∨
    ∃ reason, WordsBreak labels (mnemonic.text :: arguments) reason

theorem judged_of_memory (memory : mnemonic.operationClass = .memory) (arguments : List Bytes) :
    Judged labels mnemonic arguments := by
  unfold Judged
  cases arguments with
  | nil =>
      refine .inr (.inl ⟨_, by simp only [encodeWith, memory]; rfl, 2,
        .missingOperand (.inl memory), ?_⟩)
      intro other another fault
      cases fault
      decide
  | cons operand more =>
      rcases operand_judged labels mnemonic operand with
        ⟨value, resolves, fits⟩ | ⟨cause, fault⟩ | ⟨reason, breaks⟩
      · have word := memoryWord_of_value memory resolves fits more
        have encoded : encodeWith labels mnemonic (operand :: more) =
            memoryWord labels mnemonic (operand :: more) := by simp only [encodeWith, memory]
        rw [word] at encoded
        have denotes := denotes_of_value memory resolves fits
        rcases more with _ | ⟨marker, more⟩
        · exact .inl ⟨_, denotes false⟩
        · by_cases isMarker : marker = indirectMarker
          · subst isMarker
            cases more with
            | nil => exact .inl ⟨_, denotes true⟩
            | cons second more =>
                refine .inr (.inl ⟨_, by rw [encoded]; rfl, 6, .memoryTokens memory, ?_⟩)
                intro other another fault
                -- a marker that is right leaves nothing below the extra words
                have above := fault.rank_of_value memory resolves fits
                cases fault with
                | invalidIndirectFlag _ differs => exact absurd rfl differs
                | _ => omega
          · refine .inr (.inl ⟨_, ?_, 5, .invalidIndirectFlag memory isMarker, ?_⟩)
            · rw [encoded, addressingMode, if_pos isMarker]
              rfl
            · exact fun _ _ fault => fault.rank_of_value memory resolves fits
      · have refused : encodeWith labels mnemonic (operand :: more) = .error cause :=
          encodeWith_of_operandFault (.inl memory) fault
        refine .inr (.inl ⟨cause, refused, 4, .operand (.inl memory) fault, ?_⟩)
        exact fun _ _ fault => fault.rank_of_memory memory
      · exact .inr (.inr ⟨reason, mnemonic, operand, ⟨more, rfl, .inl memory⟩, breaks⟩)

theorem judged_of_data (data : mnemonic.operationClass = .data) (arguments : List Bytes) :
    Judged labels mnemonic arguments := by
  unfold Judged
  rcases arguments with _ | ⟨operand, _ | ⟨second, more⟩⟩
  · refine .inr (.inl ⟨_, by simp only [encodeWith, data]; rfl, 2,
      .missingOperand (.inr data), ?_⟩)
    intro other another fault
    cases fault
    decide
  · rcases operand_judged labels mnemonic operand with
      ⟨value, resolves, fits⟩ | ⟨cause, fault⟩ | ⟨reason, breaks⟩
    · exact .inl ⟨_, .literal data resolves fits⟩
    · refine .inr (.inl ⟨cause, encodeWith_of_operandFault (.inr ⟨data, rfl⟩) fault, 4,
        .operand (.inr data) fault, ?_⟩)
      intro other another fault
      cases fault with
      | fixedTokens fixed => simp [data] at fixed
      | operand => decide
    · exact .inr (.inr ⟨reason, mnemonic, operand, ⟨[], rfl, .inr ⟨data, rfl⟩⟩, breaks⟩)
  · -- extra words come before the operand here, and behind it for memory references
    refine .inr (.inl ⟨_, by simp only [encodeWith, data]; rfl, 3, .dataTokens data, ?_⟩)
    intro other another fault
    cases fault with
    | fixedTokens fixed => simp [data] at fixed
    | _ => decide

theorem judged_of_fixed
    (fixed : mnemonic.operationClass = .register ∨ mnemonic.operationClass = .io)
    (arguments : List Bytes) : Judged labels mnemonic arguments := by
  cases arguments with
  | nil => exact .inl ⟨_, .fixed fixed⟩
  | cons first more =>
      refine .inr (.inl ⟨.plain .extraTokens, ?_, 1, .fixedTokens fixed,
        fun _ _ fault => fault.rank_pos⟩)
      rcases fixed with isRegister | isIo
      · simp [encodeWith, isRegister]
      · simp [encodeWith, isIo]

theorem judged (labels : Labels) (mnemonic : Mnemonic) (arguments : List Bytes) :
    Judged labels mnemonic arguments := by
  cases operationClass : mnemonic.operationClass with
  | memory => exact judged_of_memory operationClass arguments
  | register => exact judged_of_fixed (.inl operationClass) arguments
  | io => exact judged_of_fixed (.inr operationClass) arguments
  | data => exact judged_of_data operationClass arguments

end Arguments

/-! ### Bodies -/

section Words

variable {labels : Labels} {mnemonic : Mnemonic} {arguments : List Bytes}

/-- Behind a mnemonic, only its arguments can be wrong. -/
theorem wordsFault_text (labels : Labels) (mnemonic : Mnemonic) (arguments : List Bytes) :
    WordsFault labels (mnemonic.text :: arguments) = Fault labels mnemonic arguments := by
  funext rank cause
  apply propext
  constructor
  · intro fault
    cases fault with
    | unknownMnemonic nameless => exact absurd rfl (nameless mnemonic)
    | arguments named fault =>
        obtain ⟨sameText, rfl⟩ := List.cons.inj named
        obtain rfl := Mnemonic.text_injective sameText
        exact fault
  · exact .arguments rfl

theorem encodeWords_of_wordsDenote {words : List Bytes} {content : Content}
    (denotes : WordsDenote labels words content) :
    ∃ word, encodeWords labels words = .ok word ∧ content.HeldBy word := by
  obtain ⟨mnemonic, arguments, rfl, denotes⟩ := denotes
  rw [encodeWords_text]
  exact encodeWith_of_denotes denotes

theorem encodeWords_of_wordsBreak {words : List Bytes} {reason : Bytes}
    (breaks : WordsBreak labels words reason) : encodeWords labels words = .broken reason := by
  obtain ⟨mnemonic, operand, ⟨more, rfl, takes⟩, breaks⟩ := breaks
  rw [encodeWords_text]
  exact encodeWith_of_broken takes breaks

/-- A body denotes something, is refused with the first fault, or breaks down. -/
theorem words_judged (labels : Labels) (words : List Bytes) :
    (∃ content, WordsDenote labels words content) ∨
      (∃ cause, encodeWords labels words = .error cause ∧
        FirstOf (WordsFault labels words) cause) ∨
      ∃ reason, WordsBreak labels words reason := by
  rcases words_cases words with ⟨mnemonic, arguments, rfl⟩ | nameless
  · rw [encodeWords_text, wordsFault_text]
    refine (judged labels mnemonic arguments).imp_left ?_
    rintro ⟨content, denotes⟩
    exact ⟨content, mnemonic, arguments, rfl, denotes⟩
  · exact .inr (.inl ⟨_, encodeWords_of_nameless nameless, 0, .unknownMnemonic nameless,
      fun other _ _ => Nat.zero_le other⟩)

theorem WordsFault.single {words : List Bytes} (rank : Nat) (first second : Error)
    (isFirst : WordsFault labels words rank first)
    (isSecond : WordsFault labels words rank second) : first = second := by
  rcases words_cases words with ⟨mnemonic, arguments, rfl⟩ | nameless
  · rw [wordsFault_text] at isFirst isSecond
    exact isFirst.single rank first second isSecond
  · have only {cause : Error} (fault : WordsFault labels words rank cause) :
        cause = .plain .unknownMnemonic := by
      cases fault with
      | unknownMnemonic _ => rfl
      | @arguments mnemonic _ _ _ named _ =>
          rw [named] at nameless
          exact absurd rfl (nameless mnemonic)
    rw [only isFirst, only isSecond]

theorem WordsDenote.sound {words : List Bytes} {content : Content}
    (denotes : WordsDenote labels words content) (rank : Nat) (cause : Error) :
    ¬ WordsFault labels words rank cause := by
  obtain ⟨mnemonic, arguments, rfl, denotes⟩ := denotes
  rw [wordsFault_text]
  exact denotes.sound rank cause

theorem encodeWords_eq_ok_iff {words : List Bytes} :
    (∃ word, encodeWords labels words = .ok word) ↔
      ∃ content, WordsDenote labels words content := by
  constructor
  · rintro ⟨word, encoded⟩
    rcases words_judged labels words with denotes | ⟨cause, refused, _⟩ | ⟨reason, breaks⟩
    · exact denotes
    · rw [refused] at encoded
      contradiction
    · rw [encodeWords_of_wordsBreak breaks] at encoded
      contradiction
  · rintro ⟨content, denotes⟩
    obtain ⟨word, encoded, _⟩ := encodeWords_of_wordsDenote denotes
    exact ⟨word, encoded⟩

theorem encodeWords_eq_broken_iff {words : List Bytes} (reason : Bytes) :
    encodeWords labels words = .broken reason ↔ WordsBreak labels words reason := by
  refine ⟨fun broken => ?_, encodeWords_of_wordsBreak⟩
  rcases words_judged labels words with ⟨content, denotes⟩ | ⟨cause, refused, _⟩ | ⟨other, breaks⟩
  · obtain ⟨word, encoded, _⟩ := encodeWords_of_wordsDenote denotes
    rw [encoded] at broken
    contradiction
  · rw [refused] at broken
    contradiction
  · rw [encodeWords_of_wordsBreak breaks] at broken
    cases broken
    exact breaks

theorem encodeWords_eq_error_iff {words : List Bytes} (cause : Error) :
    encodeWords labels words = .error cause ↔
      FirstOf (WordsFault labels words) cause ∧ ∀ reason, ¬ WordsBreak labels words reason := by
  rcases words_judged labels words with
    ⟨content, denotes⟩ | ⟨reported, refused, first⟩ | ⟨reason, breaks⟩
  · obtain ⟨word, encoded, _⟩ := encodeWords_of_wordsDenote denotes
    rw [encoded]
    constructor
    · intro failed
      cases failed
    · rintro ⟨⟨rank, fault, _⟩, _⟩
      exact absurd fault (denotes.sound rank cause)
  · rw [refused, Attempt.error.injEq]
    constructor
    · rintro rfl
      refine ⟨first, fun reason breaks => ?_⟩
      rw [encodeWords_of_wordsBreak breaks] at refused
      contradiction
    · rintro ⟨other, _⟩
      exact first.unique WordsFault.single other
  · rw [encodeWords_of_wordsBreak breaks]
    constructor
    · intro failed
      cases failed
    · rintro ⟨_, sound⟩
      exact absurd breaks (sound reason)

end Words

/-- A body is accepted exactly if its words denote something, its word then holds what they
denote, and a body that is refused gets the first fault of its words. It breaks down exactly if
the operand does that it is judged by. -/
theorem encode_follows_grammar (labels : Labels) (body : Bytes) :
    ((∃ word, encode labels body = .ok word) ↔
        ∃ content, WordsDenote labels (fields body) content) ∧
      (∀ word content, encode labels body = .ok word →
        WordsDenote labels (fields body) content → content.HeldBy word) ∧
      (∀ cause, encode labels body = .error cause ↔
        FirstOf (WordsFault labels (fields body)) cause ∧
          ∀ reason, ¬ WordsBreak labels (fields body) reason) ∧
      ∀ reason, encode labels body = .broken reason ↔
        WordsBreak labels (fields body) reason := by
  refine ⟨encodeWords_eq_ok_iff, ?_, encodeWords_eq_error_iff, encodeWords_eq_broken_iff⟩
  intro word content encoded denotes
  obtain ⟨other, otherEncoded, held⟩ := encodeWords_of_wordsDenote denotes
  rw [encode, otherEncoded] at encoded
  cases encoded
  exact held

/-- An indirect reference to a label, and a body with three faults of which the missing label
comes first. -/
theorem encode_follows_grammar_reference :
    let labels := Labels.ofList [(Bytes.ofString "P", 0x123)]
    let reference : Content := .operation ⟨.isz, 0x123, true⟩
    (WordsDenote labels (fields (Bytes.ofString " ISZ  P\tI")) reference ∧
        ∃ word, encode labels (Bytes.ofString " ISZ  P\tI") = .ok word ∧ reference.HeldBy word) ∧
      encode labels (Bytes.ofString "ISZ Q J K") = .error (.labelMissing (Bytes.ofString "Q")) ∧
        FirstOf (WordsFault labels (fields (Bytes.ofString "ISZ Q J K")))
          (.labelMissing (Bytes.ofString "Q")) := by
  intro labels reference
  have denotes : WordsDenote labels (fields (Bytes.ofString " ISZ  P\tI")) reference :=
    ⟨.isz, [Bytes.ofString "P", indirectMarker], by decide, .memory rfl (by decide +kernel)
      (.inl (by decide)) true⟩
  have refused : encode labels (Bytes.ofString "ISZ Q J K") =
      .error (.labelMissing (Bytes.ofString "Q")) := by decide +kernel
  obtain ⟨accepted, held, rejected⟩ := encode_follows_grammar labels (Bytes.ofString " ISZ  P\tI")
  obtain ⟨word, encoded⟩ := accepted.2 ⟨reference, denotes⟩
  refine ⟨⟨denotes, word, encoded, held word reference encoded denotes⟩, refused, ?_⟩
  exact (((encode_follows_grammar labels _).2.2.1 _).1 refused).1

end Body

end BasicComputer

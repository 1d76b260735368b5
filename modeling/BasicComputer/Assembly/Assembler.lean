import BasicComputer.Assembly.Body
import BasicComputer.Assembly.Line
import BasicComputer.Assembly.Program
import BasicComputer.Assembly.Source

/-!
Contract: the single-pass assembler.

Labels are bound in source order, so an operand can refer only to labels of
earlier lines, of its own line, and to predefined ones. `step` processes one
line and `assemble` a source. What happened is also told as `Event`s, which
nothing else depends on.
-/

namespace BasicComputer

open Text

/-- The state of an assembler. The predefined labels last; the rest belongs to
one source. -/
structure Assembler where
  predefined : Labels := .empty
  labels : Labels := .empty
  /-- The emitted words in source order. -/
  entries : Array Entry := #[]
  /-- The address of the next word. -/
  cursor : Nat := 0
  memory : Memory := .zero

/-- What an assembler tells about its work. -/
inductive Event where
  | line (number : Nat) (text : Bytes)
  | word (address : Nat) (content : Word) (body : Bytes)
deriving DecidableEq, Repr

/-- The most bytes that a record of a log takes without its line end. The log library writes
a record into a buffer of 15000 bytes and cuts what does not fit. -/
def recordLimit : Nat := 15000 - 1

/-- The bytes of the place in the program that logs an event, which the log library shows as a
file, a colon and a line number: the name of the file has twelve bytes, and lines are logged on
a line of two digits, words on one of three. -/
def Event.placeSize : Event → Nat
  | .line _ _ => 12 + 1 + 2
  | .word _ _ _ => 12 + 1 + 3

/-- The bytes that the stamp before the text of an event takes: five for severity and date,
fifteen for the time, seven for the thread and those of the place, with a blank behind each of
the first three and `] ` at the end. -/
def Event.stampSize (event : Event) : Nat :=
  5 + 1 + 15 + 1 + 7 + 1 + event.placeSize + 2

def Event.fullText : Event → Bytes
  | .line number text => decimal number ++ Bytes.ofString ": " ++ text
  | .word address content body => Memory.hexRow address content ++ 0x20 :: body

/-- An event as a line of a log: what fits a record behind its stamp. -/
def Event.text (event : Event) : Bytes :=
  event.fullText.take (recordLimit - event.stampSize)

/-- A failure at a source line; the line is number 0 and empty if there was
none. -/
structure Failure where
  number : Nat
  line : Bytes
  cause : Error
deriving DecidableEq, Repr

def Failure.error (failure : Failure) : Error :=
  .atLine failure.number failure.line failure.cause

/-- What has become of a line. -/
inductive Verdict where
  /-- Nothing was emitted. -/
  | proceed
  | emitted (entry : Entry)
  /-- The source ends here. -/
  | finished
  | failed (cause : Error)
  /-- The line broke down: there is nothing to report. -/
  | broken (reason : Bytes)
deriving DecidableEq, Repr

namespace Assembler

/-- Binds a label before the first line of every source. -/
def predefine (assembler : Assembler) (name : Bytes) (address : Word) : Assembler :=
  { assembler with predefined := assembler.predefined.insert name address }

def reset (assembler : Assembler) : Assembler :=
  { predefined := assembler.predefined, labels := assembler.predefined }

/-- Binds the label of a line, if it has one, to the cursor. -/
def bindLabel (assembler : Assembler) (label : Bytes) : Except Error Assembler :=
  if label = [] then .ok assembler
  else
    match assembler.labels.define label (UInt16.ofNat assembler.cursor) with
    | .ok labels => .ok { assembler with labels := labels }
    | .error cause => .error cause

/-- Stores the word of an entry at the cursor, which must be an address. -/
def store (entry : Entry) : (assembler : Assembler) → assembler.cursor < memorySize → Assembler
  | ⟨predefined, labels, entries, cursor, memory⟩, fits =>
      ⟨predefined, labels, entries.push entry, cursor + 1, memory.set cursor entry.word fits⟩

/-- Processes an instruction line: binds its label, encodes its body and stores
the word. -/
def emit (assembler : Assembler) (number : Nat) (parts : LineParts) :
    Assembler × Verdict :=
  match assembler.bindLabel parts.label with
  | .error cause => (assembler, .failed cause)
  | .ok bound =>
      -- from here on the label stays bound, whatever else fails
      if fits : bound.cursor < memorySize then
        match Body.encode bound.labels parts.body with
        | .ok word =>
            let entry : Entry := ⟨number, UInt16.ofNat bound.cursor, fields parts.body, word⟩
            (store entry bound fits, .emitted entry)
        | .error cause => (bound, .failed cause)
        | .broken reason => (bound, .broken reason)
      else (bound, .failed (.plain .programTooLarge))

def step (assembler : Assembler) (number : Nat) (text : Bytes) : Assembler × Verdict :=
  match Line.parse text with
  | .error cause => (assembler, .failed cause)
  | .ok line =>
      match line.directive with
      | .nothing => (assembler, .proceed)
      | .origin address => ({ assembler with cursor := address }, .proceed)
      | .finish => (assembler, .finished)
      | .instruction => assembler.emit number line.parts

/-- What is told about a line: the line, and the word if the line emitted one. -/
def eventsOf (number : Nat) (text : Bytes) : Verdict → List Event
  | .emitted entry =>
      [.line number text, .word entry.address.toNat entry.word (Line.split text).body]
  | _ => [.line number text]

/-- How far a source has been read. -/
structure Progress where
  assembler : Assembler
  /-- The number of lines read. -/
  number : Nat := 0
  line : Bytes := []
  /-- What happened, last event first. -/
  events : List Event := []

def Progress.next : Progress → Bytes → Progress × Verdict
  | ⟨assembler, number, _, events⟩, text =>
      let (assembler, verdict) := assembler.step (number + 1) text
      (⟨assembler, number + 1, text, (eventsOf (number + 1) text verdict).reverse ++ events⟩,
        verdict)

/-- Reads lines until one of them ends the reading. -/
def Progress.over (progress : Progress) : List Bytes → Progress × Verdict
  | [] => (progress, .proceed)
  | text :: rest =>
      match progress.next text with
      | (progress, .proceed) => progress.over rest
      | (progress, .emitted _) => progress.over rest
      | stopped => stopped

/-- The failure of a source after its last line. -/
def endingCause? : Ending → Option Error
  | .complete => none
  | .tooLong => some (.plain .lineTooLong)
  | .broken text => some (.external text)

/-- What has become of a source. -/
structure Run where
  assembler : Assembler
  result : Attempt Failure Program
  events : List Event

def program (assembler : Assembler) : Program :=
  ⟨assembler.memory, assembler.labels, assembler.entries⟩

def Progress.succeed (progress : Progress) : Run :=
  ⟨progress.assembler, .ok progress.assembler.program, progress.events.reverse⟩

/-- A run that ends in a failure at the last line read. -/
def Progress.fail (progress : Progress) (cause : Error) : Run :=
  ⟨progress.assembler, .error ⟨progress.number, progress.line, cause⟩, progress.events.reverse⟩

def Progress.breakDown (progress : Progress) (reason : Bytes) : Run :=
  ⟨progress.assembler, .broken reason, progress.events.reverse⟩

def Progress.conclude (progress : Progress) (ending : Ending) : Run :=
  match endingCause? ending with
  | some cause => progress.fail cause
  | none => progress.succeed

def assemble (assembler : Assembler) (source : Source) : Run :=
  let start : Progress := { assembler := assembler.reset }
  match start.over source.lines with
  | (progress, .failed cause) => progress.fail cause
  | (progress, .broken reason) => progress.breakDown reason
  -- an end directive on a complete line hides how the source ends
  | (progress, .finished) => progress.succeed
  | (progress, _) =>
      match source.tail with
      | none => progress.conclude source.ending
      | some text =>
          -- the input has ended before an unfinished line is known, so nothing on it hides how
          match progress.next text with
          | (progress, .failed cause) => progress.fail cause
          | (progress, .broken reason) => progress.breakDown reason
          | (progress, _) => progress.conclude source.ending

/-- Assembles a text that is completely at hand. -/
def assembleText (assembler : Assembler) (text : Bytes) : Run :=
  assembler.assemble (Source.read text none)

end Assembler

end BasicComputer

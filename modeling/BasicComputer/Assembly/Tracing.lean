import BasicComputer.Assembly.Assembler

/-!
Contract: an assembler that is watched.

A verbose assembler logs every event as it happens. A hook is told a failure
before the failure is returned, and nothing of a breakdown, which returns nothing; it
keeps a state of its own and has no access to the assembler.
-/

namespace BasicComputer

open Assembler (Progress Run)

/-- How an assembler is watched. `State` is what the hook keeps. -/
structure Tracing (State : Type) where
  verbose : Bool := false
  report : Option (Failure → State → State) := none

/-- What watching leaves behind. -/
structure Trail (State : Type) where
  log : Array Bytes := #[]
  kept : State

namespace Tracing

variable {State : Type}

def note (tracing : Tracing State) (event : Event) (trail : Trail State) : Trail State :=
  if tracing.verbose then { trail with log := trail.log.push event.text } else trail

def tell (tracing : Tracing State) (failure : Failure) (trail : Trail State) : Trail State :=
  match tracing.report with
  | some hook => { trail with kept := hook failure trail.kept }
  | none => trail

/-- Reads the next line. It is logged before it is processed, its word after. -/
def next (tracing : Tracing State) (trail : Trail State) (progress : Progress) (text : Bytes) :
    Trail State × Progress × Verdict :=
  let trail := tracing.note (.line (progress.number + 1) text) trail
  match progress.next text with
  | (progress, .emitted entry) =>
      let word : Event := .word entry.address.toNat entry.word (Line.split text).body
      (tracing.note word trail, progress, .emitted entry)
  | (progress, verdict) => (trail, progress, verdict)

def overLines (tracing : Tracing State) (trail : Trail State) (progress : Progress) :
    List Bytes → Trail State × Progress × Verdict
  | [] => (trail, progress, .proceed)
  | text :: rest =>
      match tracing.next trail progress text with
      | (trail, progress, .proceed) => tracing.overLines trail progress rest
      | (trail, progress, .emitted _) => tracing.overLines trail progress rest
      | stopped => stopped

def conclude (tracing : Tracing State) (trail : Trail State) (run : Run) : Trail State × Run :=
  match run.result with
  | .error failure => (tracing.tell failure trail, run)
  | .ok _ => (trail, run)
  -- a breakdown passes the hook by
  | .broken _ => (trail, run)

def assemble (tracing : Tracing State) (trail : Trail State) (assembler : Assembler)
    (source : Source) : Trail State × Run :=
  let start : Progress := { assembler := assembler.reset }
  match tracing.overLines trail start source.lines with
  | (trail, progress, .failed cause) => tracing.conclude trail (progress.fail cause)
  | (trail, progress, .broken reason) => tracing.conclude trail (progress.breakDown reason)
  | (trail, progress, .finished) => tracing.conclude trail progress.succeed
  | (trail, progress, _) =>
      match source.tail with
      | none => tracing.conclude trail (progress.conclude source.ending)
      | some text =>
          match tracing.next trail progress text with
          | (trail, progress, .failed cause) => tracing.conclude trail (progress.fail cause)
          | (trail, progress, .broken reason) => tracing.conclude trail (progress.breakDown reason)
          | (trail, progress, _) => tracing.conclude trail (progress.conclude source.ending)

end Tracing

end BasicComputer

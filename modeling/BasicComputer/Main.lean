import BasicComputer.Command.Invocation

/-!
Contract: the program. It carries out the plan of its command line on the files
of the system.
-/

namespace BasicComputer

/-- The text of a byte string, with marks for what is not UTF-8. -/
def nativeText (bytes : Bytes) : String :=
  String.ofList ((Text.codePoints bytes).map Char.ofNat)

/-- The fault that an error of the system is. -/
def faultOf : IO.Error → PathFault
  | .noFileOrDirectory _ _ _ => .missing
  | .noSuchThing _ _ _ => .missing
  | .inappropriateType _ _ details => .other (Bytes.ofString details.decapitalize)
  | .permissionDenied _ _ details => .other (Bytes.ofString details.decapitalize)
  | other => .other (Bytes.ofString other.toString)

def readHandle (handle : IO.FS.Handle) : IO Opened := do
  try
    let content ← handle.readBinToEnd
    return ⟨content.toList, none⟩
  catch cause => return ⟨[], some (faultOf cause)⟩

def openFile (path : Bytes) : IO (Except PathFault Opened) := do
  try
    let handle ← IO.FS.Handle.mk (nativeText path) .read
    return .ok (← readHandle handle)
  catch cause => return .error (faultOf cause)

def writeFile (path content : Bytes) : IO (Option PathFault) := do
  try
    IO.FS.writeBinFile (nativeText path) ⟨content.toArray⟩
    return none
  catch cause => return some (faultOf cause)

/-- Carries out a plan on the files of the system. -/
def Plan.perform : Plan → IO Report
  | .finish report => pure report
  | .read path next => do (next (← openFile path)).perform
  | .write path content next => do (next (← writeFile path content)).perform

end BasicComputer

open BasicComputer

def main (arguments : List String) : IO UInt32 := do
  let report ← (Invocation.plan (arguments.map Bytes.ofString)).perform
  let output ← IO.getStdout
  let errors ← IO.getStderr
  for line in report.log do
    errors.write ⟨(line ++ [0x0A]).toArray⟩
  output.write ⟨report.output.toArray⟩
  output.flush
  errors.write ⟨report.errorOutput.toArray⟩
  errors.flush
  return UInt32.ofNat report.exitStatus

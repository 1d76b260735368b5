import BasicComputer.Assembly.Program
import BasicComputer.Command.Plan

/-!
Contract: the command that disassembles an image file.
-/

namespace BasicComputer

def disassembleOpened (image : Bytes) (opened : Opened) : Plan :=
  match Memory.read opened.content (opened.failure.map (PathFault.reading image)) with
  | .error cause => .fail (.inFile image cause)
  | .ok memory => .finish { output := Program.rows memory.disassembly }

def disassemblePlan (image : Bytes) : Plan :=
  .read image fun opened =>
    match opened with
    | .error fault => .fail (fault.opening image)
    | .ok opened => disassembleOpened image opened

end BasicComputer

import BasicComputer.Assembly.Dump
import BasicComputer.Assembly.Printout
import BasicComputer.Command.Definition
import BasicComputer.Command.Format
import BasicComputer.Command.Plan

/-!
Contract: the command that assembles a source file.
-/

namespace BasicComputer

structure AssembleOptions where
  /-- The output file; `-` is the standard output, and an empty name stands for
  the default one. -/
  output : Bytes := []
  format : Bytes := Format.bin.name
  defines : List Bytes := []
  verbose : Bool := false
  dump : Bool := false
deriving DecidableEq, Repr

namespace AssembleOptions

def standardOutput : Bytes := Bytes.ofString "-"

def sourceOf (path : Bytes) (opened : Opened) : Source :=
  Source.read opened.content (opened.failure.map (PathFault.reading path))

def deliver (options : AssembleOptions) (source : Bytes) (format : Format) (program : Program)
    (report : Report) : Plan :=
  let output := if options.output = [] then outputName source (some format) else options.output
  let content := format.render program
  if output = standardOutput then .finish { report with output := content }
  else
    .write output content fun fault =>
      match fault with
      | none => .finish report
      | some fault => .finish { report with conclusion := .failure (fault.opening output) }

def assembleOpened (options : AssembleOptions) (source : Bytes) (format : Format)
    (assembler : Assembler) (opened : Opened) : Plan :=
  let input := sourceOf source opened
  let run := assembler.assemble input
  let printout := assembler.printout input
  let log := if options.verbose then run.events.map Event.text else []
  match run.result with
  | .error failure =>
      .finish
        { remarks := printout, log := log, conclusion := .failure (.inFile source failure.error) }
  | .broken reason =>
      .finish { remarks := printout, log := log, conclusion := .breakdown reason }
  | .ok program =>
      let dump := if options.dump then Dump.program program else []
      options.deliver source format program { remarks := printout ++ dump, log := log }

/-- Assembles a source file. The format is checked first, then the labels, then
the source. -/
def plan (options : AssembleOptions) (source : Bytes) : Plan :=
  match Format.ofName? options.format with
  | none => .fail (.plain .format)
  | some format =>
      match Definition.predefineAll {} options.defines with
      | .error cause => .fail cause
      | .ok assembler =>
          .read source fun opened =>
            match opened with
            | .error fault => .fail (fault.opening source)
            | .ok opened => options.assembleOpened source format assembler opened

end AssembleOptions

end BasicComputer

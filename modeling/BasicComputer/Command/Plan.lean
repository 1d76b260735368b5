import BasicComputer.Storage.FileSystem

/-!
Contract: what a command asks of its surroundings.

A command is a plan: it asks for files to be opened and written, and ends with a
report. `Plan.run` carries it out on a `FileSystem`.
-/

namespace BasicComputer

inductive Conclusion where
  | success
  | failure (cause : Error)
  /-- The program itself breaks down. -/
  | breakdown (reason : Bytes)
deriving DecidableEq, Repr

/-- What a command leaves on its output channels, and how it ends. -/
structure Report where
  output : Bytes := []
  /-- What stands on the standard error output before an error. -/
  remarks : Bytes := []
  log : List Bytes := []
  conclusion : Conclusion := .success

namespace Report

def failure (cause : Error) : Report :=
  { conclusion := .failure cause }

def error (report : Report) : Option Error :=
  match report.conclusion with
  | .failure cause => some cause
  | _ => none

def exitStatus (report : Report) : Nat :=
  match report.conclusion with
  | .success => 0
  | .failure _ => 1
  | .breakdown _ => 2

end Report

/-- The name of the program, which stands before its errors. -/
def programName : Bytes := Bytes.ofString "mano"

/-- The standard error output, without log lines and without the trace that follows the reason
of a breakdown. -/
def Report.errorOutput (report : Report) : Bytes :=
  report.remarks ++
    match report.conclusion with
    | .success => []
    | .failure cause => programName ++ Bytes.ofString ": " ++ cause.message ++ [0x0A]
    | .breakdown reason => Bytes.ofString "panic: " ++ reason ++ [0x0A]

/-- A command as a sequence of requests. -/
inductive Plan where
  | finish (report : Report)
  | read (path : Bytes) (next : Except PathFault Opened → Plan)
  | write (path content : Bytes) (next : Option PathFault → Plan)

def Plan.fail (cause : Error) : Plan :=
  .finish (.failure cause)

/-- Carries out a plan on a file system. -/
def Plan.run (files : FileSystem) : Plan → FileSystem × Report
  | .finish report => (files, report)
  | .read path next => (next (files.open? path)).run files
  | .write path content next =>
      match files.write path content with
      | .ok files => (next none).run files
      | .error fault => (next (some fault)).run files

end BasicComputer

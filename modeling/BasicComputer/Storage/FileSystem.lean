import BasicComputer.Error

/-!
Contract: files and directories.

A path is a text with `/` between names. It is followed from the root if it starts
with `/`, and from the working directory otherwise: `.` and an empty name stay, `..`
goes up, which at the root leads to the root, and every name before the last one
must be a directory.
-/

namespace BasicComputer

/-- Why a path could not be opened or a file not be read. -/
inductive PathFault where
  | missing
  | notDirectory
  | isDirectory
  | nameTooLong
  | invalid
  | other (text : Bytes)
deriving DecidableEq, Repr

def PathFault.text : PathFault → Bytes
  | .missing => Bytes.ofString "no such file or directory"
  | .notDirectory => Bytes.ofString "not a directory"
  | .isDirectory => Bytes.ofString "is a directory"
  | .nameTooLong => Bytes.ofString "file name too long"
  | .invalid => Bytes.ofString "invalid argument"
  | .other text => text

/-- A fault as the error of opening a path. -/
def PathFault.opening (path : Bytes) (fault : PathFault) : Error :=
  .external (Bytes.ofString "open " ++ path ++ Bytes.ofString ": " ++ fault.text)

/-- A fault as the message of reading from a path. -/
def PathFault.reading (path : Bytes) (fault : PathFault) : Bytes :=
  Bytes.ofString "read " ++ path ++ Bytes.ofString ": " ++ fault.text

inductive Node where
  | directory
  | file (content : Bytes)
deriving DecidableEq, Repr

/-- What has been opened for reading: the bytes up to the end or to the failure
that ends them. -/
structure Opened where
  content : Bytes
  failure : Option PathFault := none
deriving DecidableEq, Repr

/-- Files and directories, by their names from the root. -/
structure FileSystem where
  nodes : List (List Bytes × Node) := []
  /-- The names of the directory that other paths than those from the root start from. -/
  workingDirectory : List Bytes := []

namespace FileSystem

/-- Whether a name stays at a place. -/
def isStay (name : Bytes) : Bool :=
  name == [] || name == [0x2E]

/-- Whether a name goes up. -/
def isUp (name : Bytes) : Bool :=
  name == [0x2E, 0x2E]

/-- What is found at names from the root. -/
def find? (files : FileSystem) (names : List Bytes) : Option Node :=
  if names = [] then some .directory else files.nodes.lookup names

def put (files : FileSystem) (names : List Bytes) (node : Node) : FileSystem :=
  { files with nodes := (names, node) :: files.nodes.filter fun entry => entry.1 ≠ names }

/-- The names of a path, after the ones in `done` and the bytes of the current
one, both in reverse. -/
def namesFrom (done : List Bytes) (current : Bytes) : Bytes → List Bytes
  | [] => (current.reverse :: done).reverse
  | byte :: rest =>
      if byte = 0x2F then namesFrom (current.reverse :: done) [] rest
      else namesFrom done (byte :: current) rest

/-- The names of a path; an empty one for every separator without a name before
it, and at the end. -/
def namesOf (path : Bytes) : List Bytes :=
  namesFrom [] [] path

def makeDirectories (files : FileSystem) (above : List Bytes) : List Bytes → FileSystem
  | [] => files
  | name :: rest =>
      let here := above ++ [name]
      let files := if (files.find? here).isSome then files else files.put here .directory
      makeDirectories files here rest

/-- Adds a node in the working directory, with the directories that lead to it. -/
def add (files : FileSystem) (path : Bytes) (node : Node) : FileSystem :=
  let names := files.workingDirectory ++
    (namesOf path).filter fun name => name ≠ [] ∧ name ≠ [0x2E]
  (files.makeDirectories [] names.dropLast).put names node

/-- The greatest length of a name. -/
def nameLimit : Nat := 255

/-- The length that a path must stay below. -/
def pathLimit : Nat := 4096

/-- What a name stands for in a directory. -/
def child (files : FileSystem) (directory : List Bytes) (name : Bytes) : Except PathFault Node :=
  if nameLimit < name.length then .error .nameTooLong
  else
    match files.find? (directory ++ [name]) with
    | some node => .ok node
    | none => .error .missing

def enter (files : FileSystem) (directory : List Bytes) (name : Bytes) :
    Except PathFault (List Bytes) :=
  if isStay name then .ok directory
  -- above the root there is the root again
  else if isUp name then .ok directory.dropLast
  else
    match files.child directory name with
    | .error fault => .error fault
    | .ok (.file _) => .error .notDirectory
    | .ok .directory => .ok (directory ++ [name])

/-- The directory that names lead to. -/
def walk (files : FileSystem) (directory : List Bytes) :
    List Bytes → Except PathFault (List Bytes)
  | [] => .ok directory
  | name :: rest =>
      match files.enter directory name with
      | .ok directory => walk files directory rest
      | .error fault => .error fault

def start (files : FileSystem) (path : Bytes) : List Bytes :=
  if path.head? = some 0x2F then [] else files.workingDirectory

/-- Refuses paths that cannot be followed at all. -/
def checkPath (path : Bytes) : Except PathFault Unit :=
  if path.contains 0 then .error .invalid
  else if path = [] then .error .missing
  else if pathLimit ≤ path.length then .error .nameTooLong
  else .ok ()

/-- Opens a path for reading. A directory can be opened, but reading from it
fails. -/
def open? (files : FileSystem) (path : Bytes) : Except PathFault Opened := do
  checkPath path
  let names := namesOf path
  let directory ← files.walk (files.start path) names.dropLast
  let last := names.getLastD []
  if isStay last || isUp last then return ⟨[], some .isDirectory⟩
  else
    match ← files.child directory last with
    | .directory => return ⟨[], some .isDirectory⟩
    | .file content => return ⟨content, none⟩

/-- The names of a path without the empty ones at its end, and whether there
were any. -/
def withoutTrailing (names : List Bytes) : List Bytes × Bool :=
  let kept := (names.reverse.dropWhile (· == [])).reverse
  (kept, kept.length < names.length)

def write (files : FileSystem) (path content : Bytes) : Except PathFault FileSystem := do
  checkPath path
  let (names, trailing) := withoutTrailing (namesOf path)
  let directory ← files.walk (files.start path) names.dropLast
  let last := names.getLastD []
  if trailing || isStay last || isUp last then throw .isDirectory
  else
    match files.child directory last with
    | .ok .directory => throw .isDirectory
    | .error .nameTooLong => throw .nameTooLong
    -- the file may be missing; its directory is there, or the walk would have failed
    | _ => return files.put (directory ++ [last]) (.file content)

def pathOf (names : List Bytes) : Bytes :=
  Bytes.join [0x2F] names

/-- The path of names from a directory, if they lead to something in it. -/
def pathFrom? (directory names : List Bytes) : Option Bytes :=
  if directory.isPrefixOf names then some (pathOf (names.drop directory.length)) else none

/-- The files in the working directory that are not the same in an earlier file
system, by path. -/
def changedSince (before after : FileSystem) : List (Bytes × Bytes) :=
  (after.nodes.filterMap fun entry =>
    match entry.2 with
    | .directory => none
    | .file content =>
        if before.find? entry.1 = some (.file content) then none
        else (pathFrom? after.workingDirectory entry.1).map fun path => (path, content)).mergeSort
    fun left right => !decide (right.1 < left.1)

end FileSystem

end BasicComputer

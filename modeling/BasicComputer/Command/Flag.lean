import BasicComputer.Error
import BasicComputer.Text.Quoted

/-!
Contract: flags and positional arguments.

A flag is written `--name value`, `--name=value`, `-n value`, `-nvalue` or
`-n=value`, and a switch also without a value. Flags and positional arguments may
be mixed, `--` ends the flags, and a lone `-` is positional.
-/

namespace BasicComputer

open Text

structure Flag where
  name : Bytes
  letter : Option UInt8 := none
  /-- Whether the flag is on or off and needs no value. -/
  isSwitch : Bool := false
  /-- Why a value is refused, if it is. -/
  refusal? : Bytes → Option Bytes := fun _ => none

/-- A flag with its letter, as it is named in errors. -/
def Flag.shownName (flag : Flag) : Bytes :=
  match flag.letter with
  | some letter => 0x2D :: letter :: Bytes.ofString ", --" ++ flag.name
  | none => Bytes.ofString "--" ++ flag.name

/-- Arguments that have been told apart. -/
structure ParsedArguments where
  /-- The names of the flags with their values, in order. -/
  flags : List (Bytes × Bytes) := []
  positional : List Bytes := []
deriving DecidableEq, Repr

inductive FlagFault where
  | badForm (argument : Bytes)
  | unknownName (name : Bytes)
  | unknownLetter (letter : UInt8) (cluster : Bytes)
  | nameWithoutValue (name : Bytes)
  | letterWithoutValue (letter : UInt8) (cluster : Bytes)
  /-- `shown` is the flag as it is named in errors. -/
  | badValue (shown value reason : Bytes)
  | help
deriving DecidableEq, Repr

namespace FlagFault

def quotedLetter (letter : UInt8) : Bytes :=
  let character := encodePoint letter.toNat
  let shown :=
    if letter = 0x27 then [0x5C, 0x27]
    else if letter = 0x22 then character
    else (quotePieces character).flatMap QuotedPiece.bytes
  0x27 :: shown ++ [0x27]

def text : FlagFault → Bytes
  | .badForm argument => Bytes.ofString "bad flag syntax: " ++ argument
  | .unknownName name => Bytes.ofString "unknown flag: --" ++ name
  | .unknownLetter letter cluster =>
      Bytes.ofString "unknown shorthand flag: " ++ quotedLetter letter ++
        Bytes.ofString " in -" ++ cluster
  | .nameWithoutValue name => Bytes.ofString "flag needs an argument: --" ++ name
  | .letterWithoutValue letter cluster =>
      Bytes.ofString "flag needs an argument: " ++ quotedLetter letter ++
        Bytes.ofString " in -" ++ cluster
  | .badValue shown value reason =>
      Bytes.ofString "invalid argument " ++ quoted value ++ Bytes.ofString " for " ++
        quoted shown ++ Bytes.ofString " flag: " ++ reason
  | .help => []

end FlagFault

def onWords : List Bytes :=
  ["1", "t", "T", "TRUE", "true", "True"].map Bytes.ofString

def offWords : List Bytes :=
  ["0", "f", "F", "FALSE", "false", "False"].map Bytes.ofString

def isSwitchWord (value : Bytes) : Bool :=
  onWords.contains value || offWords.contains value

namespace ParsedArguments

/-- The value of a flag: the last one given. -/
def last? (parsed : ParsedArguments) (name : Bytes) : Option Bytes :=
  (parsed.flags.reverse.find? fun entry => entry.1 == name).map Prod.snd

def all (parsed : ParsedArguments) (name : Bytes) : List Bytes :=
  (parsed.flags.filter fun entry => entry.1 == name).map Prod.snd

def isOn (parsed : ParsedArguments) (name : Bytes) : Bool :=
  match parsed.last? name with
  | some value => onWords.contains value
  | none => false

def addPositional (parsed : ParsedArguments) (argument : Bytes) : ParsedArguments :=
  { parsed with positional := parsed.positional ++ [argument] }

def set (parsed : ParsedArguments) (flag : Flag) (value : Bytes) :
    Except FlagFault ParsedArguments :=
  match flag.refusal? value with
  | some reason => .error (.badValue flag.shownName value reason)
  | none => .ok { parsed with flags := parsed.flags ++ [(flag.name, value)] }

end ParsedArguments

/-- What is still to be done for a flag. -/
inductive FlagStep where
  | done (parsed : ParsedArguments)
  /-- The next argument is the value. -/
  | needsValue (flag : Flag) (fault : FlagFault)

def onWord : Bytes := Bytes.ofString "true"

def helpName : Bytes := Bytes.ofString "help"

def helpLetter : UInt8 := 0x68

/-- Processes an argument that starts with `--`; `name` is what follows. -/
def stepName (flags : List Flag) (parsed : ParsedArguments) (name : Bytes) :
    Except FlagFault FlagStep :=
  if name.head? = some 0x2D ∨ name.head? = some 0x3D then
    .error (.badForm (Bytes.ofString "--" ++ name))
  else
    let (word, value) :=
      match Bytes.cutByte? 0x3D name with
      | some (word, value) => (word, some value)
      | none => (name, none)
    match flags.find? fun flag => flag.name == word with
    -- help is asked for by a name that no flag has taken
    | none => if word = helpName then .error .help else .error (.unknownName word)
    | some flag =>
        match value with
        | some value => (parsed.set flag value).map .done
        | none =>
            if flag.isSwitch then (parsed.set flag onWord).map .done
            else .ok (.needsValue flag (.nameWithoutValue word))

/-- What the letters of an argument start with that is meant for test runs. -/
def testMark : Bytes := Bytes.ofString "test."

/-- Processes the letters after a single `-`. What is meant for test runs is passed
over. -/
def stepLetters (flags : List Flag) (parsed : ParsedArguments) :
    Bytes → Except FlagFault FlagStep
  | [] => .ok (.done parsed)
  | letter :: rest =>
      if testMark.isPrefixOf (letter :: rest) then .ok (.done parsed)
      else
        match flags.find? fun flag => flag.letter == some letter with
        | none =>
            if letter = helpLetter then .error .help
            else .error (.unknownLetter letter (letter :: rest))
        | some flag =>
            match rest with
            -- an equals sign without a value behind it is not one
            | 0x3D :: first :: value => (parsed.set flag (first :: value)).map .done
            | rest =>
                if flag.isSwitch then
                  match parsed.set flag onWord with
                  | .ok parsed => stepLetters flags parsed rest
                  | .error fault => .error fault
                else
                  match rest with
                  | [] => .ok (.needsValue flag (.letterWithoutValue letter [letter]))
                  | value => (parsed.set flag value).map .done

def stepArgument (flags : List Flag) (parsed : ParsedArguments) (argument : Bytes) :
    Except FlagFault FlagStep :=
  match argument with
  | 0x2D :: 0x2D :: name => stepName flags parsed name
  | 0x2D :: letter :: rest => stepLetters flags parsed (letter :: rest)
  | _ => .ok (.done (parsed.addPositional argument))

/-- Tells arguments apart, after the ones in `parsed`. -/
def parseArgumentsFrom (flags : List Flag) (parsed : ParsedArguments) :
    List Bytes → Except FlagFault ParsedArguments
  | [] => .ok parsed
  -- all that follows two dashes is positional
  | [0x2D, 0x2D] :: rest => .ok { parsed with positional := parsed.positional ++ rest }
  | [argument] =>
      match stepArgument flags parsed argument with
      | .error fault => .error fault
      | .ok (.done parsed) => .ok parsed
      | .ok (.needsValue _ fault) => .error fault
  | argument :: next :: rest =>
      match stepArgument flags parsed argument with
      | .error fault => .error fault
      | .ok (.done parsed) => parseArgumentsFrom flags parsed (next :: rest)
      | .ok (.needsValue flag _) =>
          match parsed.set flag next with
          | .ok parsed => parseArgumentsFrom flags parsed rest
          | .error fault => .error fault

def parseArguments (flags : List Flag) (arguments : List Bytes) :
    Except FlagFault ParsedArguments :=
  parseArgumentsFrom flags {} arguments

/-- Whether an argument looks like a flag whose value is the next argument, for
one who knows only some flags. -/
def looksValued (flags : List Flag) : Bytes → Bool
  | 0x2D :: 0x2D :: name =>
      !name.contains 0x3D &&
        !flags.any fun flag => flag.isSwitch && flag.name == name
  | [0x2D, letter] =>
      letter != 0x3D && !flags.any fun flag => flag.isSwitch && flag.letter == some letter
  | _ => false

/-- The first argument that is neither a flag nor the value of one, with the
arguments around it; `before` holds those already passed, last one first. -/
def firstWordFrom (flags : List Flag) (before : List Bytes) :
    List Bytes → Option (Bytes × List Bytes)
  | [] => none
  | [0x2D, 0x2D] :: _ => none
  | argument :: rest =>
      if looksValued flags argument then
        match rest with
        | [] => none
        | value :: rest => firstWordFrom flags (value :: argument :: before) rest
      else if argument.head? = some 0x2D ∨ argument = [] then
        firstWordFrom flags (argument :: before) rest
      else some (argument, before.reverse ++ rest)

/-- The first argument that is neither a flag nor the value of one, and all
others. -/
def firstWord? (flags : List Flag) (arguments : List Bytes) : Option (Bytes × List Bytes) :=
  firstWordFrom flags [] arguments

end BasicComputer

import BasicComputer.Command.Assemble
import BasicComputer.Command.Disassemble
import BasicComputer.Command.LogFlag
import BasicComputer.Message.Language

/-!
Contract: the command line.

The command is `asm` or `dis`. Its name is looked for first, then its flags are
read, then its arguments counted, then the language checked; the rest is the
command's own work.
-/

namespace BasicComputer

open Text

namespace Invocation

/-- The flag of the language, which every command has. -/
def languageFlag : Flag := { name := Bytes.ofString "lang" }

def outputFlag : Flag := { name := Bytes.ofString "output", letter := some 0x6F }

def formatFlag : Flag := { name := Bytes.ofString "format", letter := some 0x66 }

def defineFlag : Flag := { name := Bytes.ofString "define", letter := some 0x44 }

def switch (name : String) : Flag where
  name := Bytes.ofString name
  isSwitch := true
  refusal? value :=
    if isSwitchWord value then none
    else
      some (Bytes.ofString "strconv.ParseBool: parsing " ++ quoted value ++
        Bytes.ofString ": invalid syntax")

def verboseFlag : Flag := switch "verbose"

def dumpFlag : Flag := switch "dump"

def commonFlags : List Flag := languageFlag :: LogFlag.all

def assembleFlags : List Flag :=
  [outputFlag, formatFlag, defineFlag, verboseFlag, dumpFlag] ++ commonFlags

def assembleOptions (parsed : ParsedArguments) : AssembleOptions where
  output := (parsed.last? outputFlag.name).getD []
  format := (parsed.last? formatFlag.name).getD Format.bin.name
  defines := parsed.all defineFlag.name
  verbose := parsed.isOn verboseFlag.name
  dump := parsed.isOn dumpFlag.name

/-- Checks the language, if one is named. -/
def checkLanguage (parsed : ParsedArguments) : Except Error Unit :=
  match parsed.last? languageFlag.name with
  | some tag => if tag = [] then .ok () else Language.check [tag]
  | none => .ok ()

def failWith (text : Bytes) : Plan :=
  .fail (.external text)

/-- Runs a command that has one argument. -/
def runCommand (flags : List Flag) (work : ParsedArguments → Bytes → Plan)
    (arguments : List Bytes) : Plan :=
  match parseArguments flags arguments with
  | .error .help => .finish {}
  | .error fault => failWith fault.text
  | .ok parsed =>
      match parsed.positional with
      | [argument] =>
          match checkLanguage parsed with
          | .error cause => .fail cause
          | .ok _ => work parsed argument
      | positional =>
          failWith (Bytes.ofString "accepts 1 arg(s), received " ++ decimal positional.length)

/-- The command line without a command. -/
def runNothing (arguments : List Bytes) : Plan :=
  match parseArguments commonFlags arguments with
  | .error .help => .finish {}
  | .error fault => failWith fault.text
  | .ok _ => .finish {}

def assembleName : Bytes := Bytes.ofString "asm"

def disassembleName : Bytes := Bytes.ofString "dis"

/-- What a command line asks for. -/
def plan (arguments : List Bytes) : Plan :=
  -- the flags that only one command has are not known while its name is looked for
  match firstWord? commonFlags arguments with
  | none => runNothing arguments
  | some (word, others) =>
      if word = assembleName then
        runCommand assembleFlags (fun parsed source => (assembleOptions parsed).plan source) others
      else if word = disassembleName then
        runCommand commonFlags (fun _ image => disassemblePlan image) others
      else
        failWith (Bytes.ofString "unknown command " ++ quoted word ++ Bytes.ofString " for " ++
          quoted programName)

end Invocation

end BasicComputer

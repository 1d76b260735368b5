import BasicComputer.Text.Bytes

/-!
Contract: reading the subtags of a language tag in place.

A tag lies in a memory, and the current subtag is a window of that memory. Tags
are put in order while they are read: a subtag can be dropped, a stretch can be
cut out, and a stretch can be written anew. Then the bytes behind it move, but the
window stays where it is, so the current subtag may show other bytes than those
that were read.

A reading is `none` if a subtag is malformed: one that is empty, longer than eight
bytes, or has other bytes than ASCII letters and digits.
-/

namespace BasicComputer

inductive TagFault where
  | malformed
  /-- A subtag is not registered. -/
  | unknown (subtag : Bytes)
  /-- A key of the extension `u` has two values. -/
  | twoValues
deriving DecidableEq, Repr

def isTagLetter (byte : UInt8) : Bool :=
  (0x41 ≤ byte && byte ≤ 0x5A) || (0x61 ≤ byte && byte ≤ 0x7A)

def isTagDigit (byte : UInt8) : Bool :=
  0x30 ≤ byte && byte ≤ 0x39

/-- Whether a subtag has an admissible length and alphabet. -/
def isSubtag (subtag : Bytes) : Bool :=
  1 ≤ subtag.length && subtag.length ≤ 8 &&
    subtag.all fun byte => isTagLetter byte || isTagDigit byte

def subtagSeparator : UInt8 := 0x2D

/-- A tag that is being read. -/
structure TagReader where
  memory : Array UInt8
  /-- The length of the tag, which may be less than that of the memory. -/
  size : Nat
  /-- Where the current subtag starts, as far as the tag goes. -/
  start : Nat := 0
  /-- Where the last subtag that was read ends. -/
  stop : Nat := 0
  /-- Where the next subtag starts. -/
  next : Nat := 0
  /-- Where the window of the current subtag starts. -/
  windowStart : Nat := 0
  /-- The length of the current subtag, or 0 after the last one. -/
  length : Nat := 0
  /-- The first fault that does not end the reading. -/
  fault : Option TagFault := none

namespace TagReader

def ofBytes (tag : Bytes) : TagReader :=
  { memory := tag.toArray, size := tag.length }

def between (reader : TagReader) (low high : Nat) : Bytes :=
  (reader.memory.extract low high).toList

def rest (reader : TagReader) (position : Nat) : Bytes :=
  reader.between position reader.size

/-- What the window of the current subtag shows. -/
def subtag (reader : TagReader) : Bytes :=
  reader.between reader.windowStart (reader.windowStart + reader.length)

/-- Records a fault unless there is one already. -/
def withFault (fault : TagFault) (reader : TagReader) : TagReader :=
  { reader with fault := reader.fault.or (some fault) }

def scan (reader : TagReader) : Option TagReader :=
  if reader.next < reader.size then
    let subtag := (reader.rest reader.next).takeWhile (· != subtagSeparator)
    let stop := reader.next + subtag.length
    if isSubtag subtag then
      some
        { reader with
          start := reader.next
          stop := stop
          next := min (stop + 1) reader.size
          windowStart := reader.next
          length := subtag.length }
    else none
  -- a separator at the end promises one more subtag
  else if 0 < reader.size && reader.memory[reader.size - 1]? == some subtagSeparator then none
  else some { reader with start := reader.next, length := 0 }

/-- Reads on to the first subtag that is shorter than `least`; also gives where the
one before it ends, which is `stop` if that is the current one. `fuel` bounds the
number of subtags. -/
def passFrom (least : Nat) : Nat → TagReader → Nat → Option (TagReader × Nat)
  | 0, _, _ => none
  | fuel + 1, reader, stop =>
      match reader.scan with
      | none => none
      | some reader =>
          if least ≤ reader.length then passFrom least fuel reader reader.stop
          else some (reader, stop)

def fuel (reader : TagReader) : Nat :=
  reader.size + 2

/-- Reads on from the current subtag to the first one that is shorter than `least`;
also gives where the one before it ends. -/
def pass (least : Nat) (reader : TagReader) : Option (TagReader × Nat) :=
  passFrom least reader.fuel reader reader.stop

/-- A memory with bytes written from a position on. It grows if they pass its
end. -/
def written (memory : Array UInt8) (position : Nat) : Bytes → Array UInt8
  | [] => memory
  | byte :: rest =>
      if position < memory.size then
        written (memory.setIfInBounds position byte) (position + 1) rest
      else written (memory.push byte) (position + 1) rest

/-- Drops the current subtag and the separator before it. -/
def dropSubtag (reader : TagReader) : TagReader :=
  let behind := reader.rest reader.stop
  { reader with
    memory := written reader.memory (reader.start - 1) behind
    size := reader.start - 1 + behind.length
    stop := reader.start - 1
    next := reader.start }

/-- Cuts out the bytes between two positions before the current subtag. -/
def cut (low high : Nat) (reader : TagReader) : TagReader :=
  let behind := reader.rest high
  let missing := high - low
  { reader with
    memory := written reader.memory low behind
    size := low + behind.length
    start := reader.start - missing
    stop := reader.stop - missing
    next := reader.next - missing }

/-- Writes bytes over those from a position on. -/
def overwrite (position : Nat) (bytes : Bytes) (reader : TagReader) : TagReader :=
  { reader with memory := written reader.memory position bytes }

/-- Puts bytes in place of those between two positions. The reading goes on from
there with the next subtag, unless the length stays the same. -/
def substitute (low high : Nat) (bytes : Bytes) (reader : TagReader) : TagReader :=
  let reader := { reader with start := low }
  let stop := low + bytes.length
  if stop = high then reader.overwrite low bytes
  else
    let behind := reader.rest high
    { reader with
      memory := written (written reader.memory stop behind) low bytes
      size := stop + behind.length
      stop := stop
      next := stop + (reader.next - reader.stop) }

end TagReader

end BasicComputer

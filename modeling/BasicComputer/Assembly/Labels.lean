import BasicComputer.Error

/-!
Contract: label tables.

A table binds names to addresses. It is kept in the order of the names, so two
tables with the same bindings are equal. `names` lists the names in the order in
which they are shown: by address, then by name.
-/

namespace BasicComputer

structure Labels where
  /-- The bindings, in byte order of the names. -/
  entries : List (Bytes × Word)
  /-- No name is bound twice, and the names ascend. -/
  ascending : entries.Pairwise fun left right => left.1 < right.1
deriving DecidableEq

namespace Labels

def empty : Labels :=
  ⟨[], .nil⟩

def find? (labels : Labels) (name : Bytes) : Option Word :=
  labels.entries.lookup name

def lookup (labels : Labels) (name : Bytes) : Except Error Word :=
  match labels.find? name with
  | some address => .ok address
  | none => .error (.labelMissing name)

/-- Puts a binding in its place among ascending ones, instead of one of the same
name. -/
def insertEntry (name : Bytes) (address : Word) :
    List (Bytes × Word) → List (Bytes × Word)
  | [] => [(name, address)]
  | entry :: rest =>
      if name < entry.1 then (name, address) :: entry :: rest
      else if name = entry.1 then (name, address) :: rest
      else entry :: insertEntry name address rest

theorem mem_insertEntry {name : Bytes} {address : Word} {entry : Bytes × Word}
    {entries : List (Bytes × Word)} (member : entry ∈ insertEntry name address entries) :
    entry = (name, address) ∨ entry ∈ entries := by
  induction entries with
  | nil => simpa [insertEntry] using member
  | cons head tail inductionHypothesis =>
      unfold insertEntry at member
      split at member
      · simpa using member
      · split at member
        · rcases List.mem_cons.1 member with equal | inTail
          · exact .inl equal
          · exact .inr (List.mem_cons_of_mem _ inTail)
        · rcases List.mem_cons.1 member with equal | inTail
          · exact .inr (equal ▸ List.mem_cons_self)
          · rcases inductionHypothesis inTail with equal | inTail
            · exact .inl equal
            · exact .inr (List.mem_cons_of_mem _ inTail)

theorem insertEntry_ascending (name : Bytes) (address : Word)
    {entries : List (Bytes × Word)}
    (ascending : entries.Pairwise fun left right => left.1 < right.1) :
    (insertEntry name address entries).Pairwise fun left right => left.1 < right.1 := by
  induction entries with
  | nil => simp [insertEntry]
  | cons head tail inductionHypothesis =>
      have ⟨headFirst, tailAscending⟩ := List.pairwise_cons.1 ascending
      unfold insertEntry
      split
      · next nameFirst =>
          refine List.pairwise_cons.2 ⟨fun entry member => ?_, ascending⟩
          rcases List.mem_cons.1 member with equal | inTail
          · exact equal ▸ nameFirst
          · exact List.lt_trans nameFirst (headFirst entry inTail)
      · next notFirst =>
          split
          · next same =>
              exact List.pairwise_cons.2
                ⟨fun entry member => same ▸ headFirst entry member, tailAscending⟩
          · next different =>
              refine List.pairwise_cons.2
                ⟨fun entry member => ?_, inductionHypothesis tailAscending⟩
              rcases mem_insertEntry member with equal | inTail
              · subst equal
                rcases List.le_iff_lt_or_eq.1 (List.not_lt.1 notFirst) with less | equal
                · exact less
                · exact absurd equal.symm different
              · exact headFirst entry inTail

/-- Binds a name, whether or not it is bound. -/
def insert (labels : Labels) (name : Bytes) (address : Word) : Labels :=
  ⟨insertEntry name address labels.entries, insertEntry_ascending name address labels.ascending⟩

/-- Binds a name that must not be bound. -/
def define (labels : Labels) (name : Bytes) (address : Word) : Except Error Labels :=
  match labels.find? name with
  | some _ => .error (.plain .labelDuplicate)
  | none => .ok (labels.insert name address)

/-- The table of bindings in any order, the last one of a name in force. -/
def ofList (bindings : List (Bytes × Word)) : Labels :=
  bindings.foldl (fun labels binding => labels.insert binding.1 binding.2) empty

/-- Whether a binding is shown before or with another: by address, then by
name. -/
def shownBefore (left right : Bytes × Word) : Bool :=
  if left.2 = right.2 then !decide (right.1 < left.1) else decide (left.2 < right.2)

/-- The bindings in the order in which they are shown. -/
def shown (labels : Labels) : List (Bytes × Word) :=
  labels.entries.mergeSort shownBefore

def names (labels : Labels) : List Bytes :=
  labels.shown.map Prod.fst

def isEmpty (labels : Labels) : Bool :=
  labels.entries.isEmpty

end Labels

/-- A place for a label table that may hold none. Reading an absent table is
reading the empty one, but nothing can be bound there. -/
abbrev LabelSlot := Option Labels

namespace LabelSlot

def table (slot : LabelSlot) : Labels :=
  slot.getD .empty

def define (slot : LabelSlot) (name : Bytes) (address : Word) : Attempt Error LabelSlot :=
  match slot with
  | none => .broken (Bytes.ofString "assignment to entry in nil map")
  | some labels =>
      match labels.define name address with
      | .ok labels => .ok (some labels)
      | .error cause => .error cause

end LabelSlot

end BasicComputer

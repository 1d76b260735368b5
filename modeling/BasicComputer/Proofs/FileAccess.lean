import BasicComputer.Storage.FileSystem
import Mathlib.Data.List.DropRight

/-!
Contract: what writing a file changes.

Owns where a path leads (`LeadsTo`), that a file which was written is found there and
nowhere else, and that it can be read back under the same path; how a path is cut before its
last name (`directoryPart`), and how paths behave that differ in their last name only. Does
not own which files are written.
-/

namespace BasicComputer.FileSystem

/-- The last name of a path. -/
def lastName (path : Bytes) : Bytes :=
  (namesOf path).getLastD []

/-- A path up to its last separator, with that separator. -/
def directoryPart (path : Bytes) : Bytes :=
  path.rdropWhile (· ≠ 0x2F)

/-- A path leads to names from the root: its directories can be followed, and its last name is
that of an entry. -/
structure LeadsTo (files : FileSystem) (path : Bytes) (target : List Bytes) : Prop where
  valid : checkPath path = .ok ()
  walked : ∃ directory, files.walk (files.start path) (namesOf path).dropLast = .ok directory ∧
    target = directory ++ [lastName path]
  notStay : isStay (lastName path) = false
  notUp : isUp (lastName path) = false
  short : (lastName path).length ≤ nameLimit

theorem LeadsTo.ne_root {files : FileSystem} {path : Bytes} {target : List Bytes}
    (leads : files.LeadsTo path target) : target ≠ [] := by
  obtain ⟨directory, _, rfl⟩ := leads.walked
  exact List.append_ne_nil_of_right_ne_nil directory (List.cons_ne_nil _ _)

/-! ### Entries -/

private theorem lookup_filter_ne {target other : List Bytes} (different : other ≠ target)
    (nodes : List (List Bytes × Node)) :
    (nodes.filter fun entry => entry.1 ≠ target).lookup other = nodes.lookup other := by
  induction nodes with
  | nil => rfl
  | cons entry rest inductionHypothesis =>
      by_cases kept : entry.1 ≠ target
      · rw [List.filter_cons_of_pos (by simpa using kept), List.lookup_cons, List.lookup_cons,
          inductionHypothesis]
      · have same : (other == entry.1) = false := by
          rw [beq_eq_false_iff_ne, Decidable.not_not.1 kept]
          exact different
        rw [List.filter_cons_of_neg (by simpa using kept), List.lookup_cons, same,
          inductionHypothesis]

/-- A node is found at the names where it was put, and nothing else has changed. -/
theorem find?_put {target : List Bytes} (notRoot : target ≠ []) (files : FileSystem)
    (node : Node) (other : List Bytes) :
    (files.put target node).find? other =
      if other = target then some node else files.find? other := by
  unfold find? put
  by_cases same : other = target
  · subst same
    simp [notRoot]
  · rw [if_neg same, List.lookup_cons, beq_eq_false_iff_ne.2 same, lookup_filter_ne same]

theorem child_eq_ok_iff {files : FileSystem} {directory : List Bytes} {name : Bytes}
    {node : Node} :
    files.child directory name = .ok node ↔
      name.length ≤ nameLimit ∧ files.find? (directory ++ [name]) = some node := by
  rw [← Nat.not_lt]
  unfold child
  by_cases long : nameLimit < name.length
  · simp [long]
  · simp only [long, ↓reduceIte]
    cases files.find? (directory ++ [name]) <;> simp

theorem child_eq_tooLong_iff {files : FileSystem} {directory : List Bytes} {name : Bytes} :
    files.child directory name = .error .nameTooLong ↔ nameLimit < name.length := by
  unfold child
  by_cases long : nameLimit < name.length
  · simp [long]
  · simp only [long, ↓reduceIte]
    cases files.find? (directory ++ [name]) <;> simp

/-! ### Paths -/

section Put

variable {files : FileSystem} {target : List Bytes}

/-- Where a directory could be entered before a file was put, it still can be. -/
theorem enter_put (notRoot : target ≠ [])
    (noDirectory : files.find? target ≠ some .directory) (content : Bytes)
    {directory reached : List Bytes} {name : Bytes}
    (entered : files.enter directory name = .ok reached) :
    (files.put target (.file content)).enter directory name = .ok reached := by
  have kept : files.child directory name = .ok .directory →
      (files.put target (.file content)).child directory name = .ok .directory := by
    rw [child_eq_ok_iff, child_eq_ok_iff]
    rintro ⟨short, found⟩
    refine ⟨short, ?_⟩
    rw [find?_put notRoot, if_neg, found]
    intro same
    rw [same] at found
    exact noDirectory found
  unfold enter at entered ⊢
  by_cases stays : isStay name
  · simpa only [stays, ↓reduceIte] using entered
  · by_cases up : isUp name
    · simpa only [stays, up, ↓reduceIte] using entered
    · rw [if_neg stays, if_neg up] at entered ⊢
      split at entered
      · contradiction
      · contradiction
      · next found =>
          rw [kept found]
          exact entered

theorem walk_put (notRoot : target ≠ [])
    (noDirectory : files.find? target ≠ some .directory) (content : Bytes)
    {directory reached names : List Bytes} (walked : files.walk directory names = .ok reached) :
    (files.put target (.file content)).walk directory names = .ok reached := by
  induction names generalizing directory with
  | nil => exact walked
  | cons name rest inductionHypothesis =>
      rw [walk] at walked ⊢
      cases entered : files.enter directory name with
      | error fault => simp [entered] at walked
      | ok next =>
          rw [entered] at walked
          rw [enter_put notRoot noDirectory content entered]
          exact inductionHypothesis walked

/-- A file that is put changes no path to a file. -/
theorem LeadsTo.put (notRoot : target ≠ [])
    (noDirectory : files.find? target ≠ some .directory) (content : Bytes) {path : Bytes}
    {names : List Bytes} (leads : files.LeadsTo path names) :
    (files.put target (.file content)).LeadsTo path names where
  valid := leads.valid
  walked := by
    obtain ⟨directory, walked, split⟩ := leads.walked
    exact ⟨directory, walk_put notRoot noDirectory content walked, split⟩
  notStay := leads.notStay
  notUp := leads.notUp
  short := leads.short

end Put

/-! ### Directory and last name -/

private theorem namesFrom_of_noSlash {tail : Bytes} (noSlash : 0x2F ∉ tail) (done : List Bytes)
    (current : Bytes) :
    namesFrom done current tail = done.reverse ++ [current.reverse ++ tail] := by
  induction tail generalizing current with
  | nil => simp [namesFrom]
  | cons byte rest inductionHypothesis =>
      obtain ⟨differs, restNoSlash⟩ := List.ne_and_not_mem_of_not_mem_cons noSlash
      rw [namesFrom, if_neg (Ne.symm differs), inductionHypothesis restNoSlash]
      simp

private theorem namesFrom_append {tail : Bytes} (noSlash : 0x2F ∉ tail) (done : List Bytes)
    (current path : Bytes) :
    namesFrom done current (path ++ tail) =
      (namesFrom done current path).dropLast ++
        [(namesFrom done current path).getLastD [] ++ tail] := by
  induction path generalizing done current with
  | nil =>
      rw [List.nil_append, namesFrom_of_noSlash noSlash]
      simp [namesFrom]
  | cons byte rest inductionHypothesis =>
      rw [List.cons_append, namesFrom, namesFrom]
      split
      · exact inductionHypothesis _ _
      · exact inductionHypothesis _ _

/-- What is added to a path without a separator is added to its last name. -/
theorem namesOf_append {tail : Bytes} (noSlash : 0x2F ∉ tail) (path : Bytes) :
    namesOf (path ++ tail) = (namesOf path).dropLast ++ [lastName path ++ tail] :=
  namesFrom_append noSlash [] [] path

theorem lastName_append {tail : Bytes} (noSlash : 0x2F ∉ tail) (path : Bytes) :
    lastName (path ++ tail) = lastName path ++ tail := by
  unfold lastName
  rw [namesOf_append noSlash]
  simp [lastName]

theorem dropLast_namesOf_append {tail : Bytes} (noSlash : 0x2F ∉ tail) (path : Bytes) :
    (namesOf (path ++ tail)).dropLast = (namesOf path).dropLast := by
  rw [namesOf_append noSlash, List.dropLast_concat]

theorem start_append {tail : Bytes} (noSlash : 0x2F ∉ tail) (files : FileSystem)
    (path : Bytes) : files.start (path ++ tail) = files.start path := by
  cases path with
  | nil =>
      cases tail with
      | nil => rfl
      | cons byte rest =>
          have differs := (List.ne_and_not_mem_of_not_mem_cons noSlash).1
          simp [start, Ne.symm differs]
  | cons byte rest => rfl

private theorem namesFrom_append_slash (done : List Bytes) (current path : Bytes) :
    namesFrom done current (path ++ [0x2F]) = namesFrom done current path ++ [[]] := by
  induction path generalizing done current with
  | nil => simp [namesFrom]
  | cons byte rest inductionHypothesis =>
      rw [List.cons_append, namesFrom, namesFrom]
      split
      · exact inductionHypothesis _ _
      · exact inductionHypothesis _ _

/-- Behind a separator at its end, a path has an empty name. -/
theorem lastName_append_slash (path : Bytes) : lastName (path ++ [0x2F]) = [] := by
  rw [lastName, namesOf, namesFrom_append_slash, List.getLastD_concat]

theorem lastName_directoryPart (path : Bytes) : lastName (directoryPart path) = [] := by
  -- the cut stops at a separator, unless it comes to the beginning of the path
  by_cases empty : directoryPart path = []
  · rw [empty]
    rfl
  · have stopped : ¬ decide ((directoryPart path).getLast empty ≠ 0x2F) = true :=
      List.rdropWhile_last_not _ path empty
    have endsInSlash : (directoryPart path).getLast empty = 0x2F := by simpa using stopped
    rw [← List.dropLast_append_getLast empty, endsInSlash, lastName_append_slash]

theorem directoryPart_append {tail : Bytes} (noSlash : 0x2F ∉ tail) (path : Bytes) :
    directoryPart (path ++ tail) = directoryPart path := by
  have passed : ∀ byte ∈ tail.reverse, decide (byte ≠ 0x2F) = true := by
    intro byte member
    rw [List.mem_reverse] at member
    exact decide_eq_true (ne_of_mem_of_not_mem member noSlash)
  rw [directoryPart, List.rdropWhile, List.reverse_append, List.dropWhile_append_of_pos passed]
  rfl

private theorem noSlash_rtakeWhile (path : Bytes) : 0x2F ∉ path.rtakeWhile (· ≠ 0x2F) := by
  intro member
  exact absurd (List.mem_rtakeWhile_imp member) (by decide)

/-- The last name of a path is what stands behind its last separator. -/
theorem lastName_eq_rtakeWhile (path : Bytes) : lastName path = path.rtakeWhile (· ≠ 0x2F) := by
  have cut : directoryPart path ++ path.rtakeWhile (· ≠ 0x2F) = path :=
    List.rdropWhile_append_rtakeWhile
  calc lastName path
      = lastName (directoryPart path ++ path.rtakeWhile (· ≠ 0x2F)) := by rw [cut]
    _ = lastName (directoryPart path) ++ path.rtakeWhile (· ≠ 0x2F) :=
        lastName_append (noSlash_rtakeWhile path) _
    _ = path.rtakeWhile (· ≠ 0x2F) := by rw [lastName_directoryPart, List.nil_append]

theorem noSlash_lastName (path : Bytes) : 0x2F ∉ lastName path := by
  rw [lastName_eq_rtakeWhile]
  exact noSlash_rtakeWhile path

theorem directoryPart_append_lastName (path : Bytes) :
    directoryPart path ++ lastName path = path := by
  rw [lastName_eq_rtakeWhile]
  exact List.rdropWhile_append_rtakeWhile

/-! ### Neighbours -/

/-- Where a name leads does not depend on the files, as long as it can be entered. -/
theorem enter_unique {files others : FileSystem} {directory reached other : List Bytes}
    {name : Bytes} (entered : files.enter directory name = .ok reached)
    (enteredToo : others.enter directory name = .ok other) : reached = other := by
  unfold enter at entered enteredToo
  by_cases stays : isStay name
  · rw [if_pos stays] at entered enteredToo
    exact Except.ok.inj (entered.symm.trans enteredToo)
  · rw [if_neg stays] at entered enteredToo
    by_cases up : isUp name
    · rw [if_pos up] at entered enteredToo
      exact Except.ok.inj (entered.symm.trans enteredToo)
    · -- the directory that is entered adds its name to the one it is in
      rw [if_neg up] at entered enteredToo
      grind

theorem walk_unique {files others : FileSystem} {directory reached other names : List Bytes}
    (walked : files.walk directory names = .ok reached)
    (walkedToo : others.walk directory names = .ok other) : reached = other := by
  induction names generalizing directory with
  | nil =>
      rw [walk] at walked walkedToo
      exact Except.ok.inj (walked.symm.trans walkedToo)
  | cons name rest inductionHypothesis =>
      rw [walk] at walked walkedToo
      cases entered : files.enter directory name with
      | error fault => simp [entered] at walked
      | ok next =>
          cases enteredToo : others.enter directory name with
          | error fault => simp [enteredToo] at walkedToo
          | ok nextToo =>
              obtain rfl := enter_unique entered enteredToo
              rw [entered] at walked
              rw [enteredToo] at walkedToo
              exact inductionHypothesis walked walkedToo

/-- Paths with different last names lead to different entries. -/
theorem LeadsTo.ne_of_lastName {files : FileSystem} {path other : Bytes}
    {target otherTarget : List Bytes} (leads : files.LeadsTo path target)
    (leadsToo : files.LeadsTo other otherTarget) (different : lastName path ≠ lastName other) :
    target ≠ otherTarget := by
  obtain ⟨directory, _, rfl⟩ := leads.walked
  obtain ⟨otherDirectory, _, rfl⟩ := leadsToo.walked
  intro same
  have names := (List.append_inj' same rfl).2
  exact different (List.singleton_inj.1 names)

/-- If a neighbour of a path can be followed, so can the path. -/
theorem LeadsTo.of_neighbour {files after : FileSystem} {path tail other : Bytes}
    {target otherTarget : List Bytes}
    (sameStart : after.workingDirectory = files.workingDirectory)
    (noSlash : 0x2F ∉ tail) (otherNoSlash : 0x2F ∉ other)
    (leads : files.LeadsTo (path ++ tail) target)
    (leadsAfter : after.LeadsTo (path ++ other) otherTarget) :
    after.LeadsTo (path ++ tail) target where
  valid := leads.valid
  walked := by
    obtain ⟨directory, walked, split⟩ := leads.walked
    obtain ⟨otherDirectory, walkedAfter, _⟩ := leadsAfter.walked
    have start : after.start path = files.start path := by rw [FileSystem.start, sameStart]; rfl
    rw [start_append otherNoSlash, dropLast_namesOf_append otherNoSlash, start] at walkedAfter
    rw [start_append noSlash, dropLast_namesOf_append noSlash] at walked ⊢
    rw [start]
    cases walk_unique walked walkedAfter
    exact ⟨directory, walkedAfter, split⟩
  notStay := leads.notStay
  notUp := leads.notUp
  short := leads.short

/-! ### Reading and writing -/

private theorem bind_ok {Found Result : Type} {outcome : Except PathFault Found}
    {next : Found → Except PathFault Result} {result : Result}
    (succeeded : (outcome >>= next) = .ok result) :
    ∃ found, outcome = .ok found ∧ next found = .ok result := by
  cases outcome with
  | error fault => cases succeeded
  | ok found => exact ⟨found, rfl, succeeded⟩

/-- A file is read under every path that leads to it. -/
theorem open?_of_leadsTo {files : FileSystem} {path content : Bytes} {target : List Bytes}
    (leads : files.LeadsTo path target) (found : files.find? target = some (.file content)) :
    files.open? path = .ok ⟨content, none⟩ := by
  obtain ⟨directory, walked, rfl⟩ := leads.walked
  have entry : files.child directory (lastName path) = .ok (.file content) :=
    child_eq_ok_iff.2 ⟨leads.short, found⟩
  have proper : (isStay (lastName path) || isUp (lastName path)) = false := by
    rw [leads.notStay, leads.notUp, Bool.or_self]
  unfold lastName at entry proper
  unfold open?
  simp only [bind, Except.bind, pure, Except.pure, leads.valid, walked, proper, entry,
    Bool.false_eq_true, ↓reduceIte]

/-- What cannot be read to its end is a directory, from which nothing is read. -/
theorem content_of_open? {files : FileSystem} {path : Bytes} {opened : Opened}
    (succeeded : files.open? path = .ok opened) (broken : opened.failure ≠ none) :
    opened.content = [] := by
  unfold open? at succeeded
  obtain ⟨_, _, checked⟩ := bind_ok succeeded
  obtain ⟨directory, _, walked⟩ := bind_ok checked
  dsimp only at walked
  split at walked
  · cases walked
    rfl
  · obtain ⟨node, _, found⟩ := bind_ok walked
    cases node with
    | directory =>
        cases found
        rfl
    | file content =>
        cases found
        exact absurd rfl broken

/-- What can be read to its end is a file. -/
theorem leadsTo_of_open? {files : FileSystem} {path content : Bytes}
    (succeeded : files.open? path = .ok ⟨content, none⟩) :
    ∃ target, files.LeadsTo path target ∧ files.find? target = some (.file content) := by
  unfold open? at succeeded
  obtain ⟨_, valid, checked⟩ := bind_ok succeeded
  obtain ⟨directory, walked, entered⟩ := bind_ok checked
  dsimp only at entered
  split at entered
  · cases entered
  · next proper =>
      rw [Bool.not_eq_true, Bool.or_eq_false_iff] at proper
      obtain ⟨node, isChild, found⟩ := bind_ok entered
      cases node with
      | directory => cases found
      | file bytes =>
          cases found
          obtain ⟨short, entry⟩ := child_eq_ok_iff.1 isChild
          exact ⟨_, ⟨valid, ⟨directory, walked, rfl⟩, proper.1, proper.2, short⟩, entry⟩

private theorem eq_of_withoutTrailing {names : List Bytes}
    (whole : (withoutTrailing names).2 = false) : (withoutTrailing names).1 = names := by
  have shorter : ¬ (withoutTrailing names).1.length < names.length := of_decide_eq_false whole
  have suffix : (withoutTrailing names).1.reverse <:+ names.reverse := by
    unfold withoutTrailing
    rw [List.reverse_reverse]
    exact List.dropWhile_suffix _
  have bound := suffix.length_le
  rw [List.length_reverse, List.length_reverse] at bound
  apply List.reverse_inj.1
  apply suffix.eq_of_length
  rw [List.length_reverse, List.length_reverse]
  omega

/-- A file that was written has been put where its path leads, and no directory was there. -/
theorem eq_put_of_write {files after : FileSystem} {path content : Bytes}
    (written : files.write path content = .ok after) :
    ∃ target, files.LeadsTo path target ∧ files.find? target ≠ some .directory ∧
      after = files.put target (.file content) := by
  unfold write at written
  have noTrailingKeeps := @eq_of_withoutTrailing (namesOf path)
  generalize withoutTrailing (namesOf path) = kept at written noTrailingKeeps
  obtain ⟨names, trailing⟩ := kept
  obtain ⟨_, valid, checked⟩ := bind_ok written
  obtain ⟨directory, walked, entered⟩ := bind_ok checked
  dsimp only at entered noTrailingKeeps
  split at entered
  · cases entered
  · next proper =>
      rw [Bool.not_eq_true, Bool.or_eq_false_iff, Bool.or_eq_false_iff] at proper
      obtain ⟨⟨noTrailing, notStay⟩, notUp⟩ := proper
      obtain rfl := noTrailingKeeps noTrailing
      split at entered
      · cases entered
      · cases entered
      · next notDirectory notTooLong =>
          cases entered
          have short : (lastName path).length ≤ nameLimit :=
            Nat.le_of_not_lt (mt child_eq_tooLong_iff.2 notTooLong)
          refine ⟨_, ⟨valid, ⟨directory, walked, rfl⟩, notStay, notUp, short⟩, ?_, rfl⟩
          intro found
          exact notDirectory (child_eq_ok_iff.2 ⟨short, found⟩)

/-- After a file was written it is read under its path, and no other entry has changed. -/
theorem frame_of_write {files after : FileSystem} {path content : Bytes}
    (written : files.write path content = .ok after) :
    ∃ target, files.LeadsTo path target ∧ after.find? target = some (.file content) ∧
      after.open? path = .ok ⟨content, none⟩ ∧
      ∀ other, other ≠ target → after.find? other = files.find? other := by
  obtain ⟨target, leads, noDirectory, rfl⟩ := eq_put_of_write written
  have found : (files.put target (.file content)).find? target = some (.file content) := by
    rw [find?_put leads.ne_root, if_pos rfl]
  refine ⟨target, leads, found, ?_, ?_⟩
  · exact open?_of_leadsTo (leads.put leads.ne_root noDirectory content) found
  · intro other different
    rw [find?_put leads.ne_root, if_neg different]

end BasicComputer.FileSystem

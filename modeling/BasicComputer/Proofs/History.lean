import BasicComputer.Proofs.Consistency
import BasicComputer.Proofs.LabelOrder
import Mathlib.Data.List.Nodup

/-!
Contract: what a session has done before does not show in a run.

Owns:
- what calls predefine (`lastBinding`), and that nothing else is left of a session
  when the next source is read;
- that runs depend on the predefined labels as a finite map only, so neither the order
  of the calls nor the order in which a table is gone through can be seen.
-/

namespace BasicComputer.Assembler

namespace Request

/-- Whether a call predefines a label. -/
def isPredefine : Request → Bool
  | .predefine _ _ => true
  | .assemble _ => false

/-- The name that a call predefines. -/
def name? : Request → Option Bytes
  | .predefine name _ => some name
  | .assemble _ => none

/-- The address that a call predefines a name as. -/
def binding? (name : Bytes) : Request → Option Word
  | .predefine other address => if other = name then some address else none
  | .assemble _ => none

end Request

/-- The address of the last call that predefines a name. -/
def lastBinding (requests : List Request) (name : Bytes) : Option Word :=
  (requests.filterMap (Request.binding? name)).getLast?

/-! ### Predefined labels -/

theorem Move.predefined {assembler reached : Assembler} {number : Nat} {text : Bytes}
    {verdict : Verdict} (move : Move assembler number text reached verdict) :
    reached.predefined = assembler.predefined := by
  cases move <;> rfl

theorem Progress.over_predefined (progress : Progress) (lines : List Bytes) :
    (progress.over lines).1.assembler.predefined = progress.assembler.predefined :=
  Progress.over_induction
    (motive := fun reached => reached.assembler.predefined = progress.assembler.predefined)
    (fun reached text kept => (reached.next_move text).predefined.trans kept) rfl lines

/-- No source changes the predefined labels, whether or not it can be assembled. -/
theorem assemble_predefined (assembler : Assembler) (source : Source) :
    (assembler.assemble source).assembler.predefined = assembler.predefined := by
  rw [assemble_assembler, Progress.over_predefined]
  rfl

theorem perform_predefined (assembler : Assembler) (request : Request) (name : Bytes) :
    (assembler.perform request).predefined.find? name =
      (request.binding? name).or (assembler.predefined.find? name) := by
  cases request with
  | predefine other address =>
      change (assembler.predefined.insert other address).find? name = _
      rw [Labels.find?_insert, Request.binding?]
      by_cases same : name = other
      · simp [same]
      · simp [same, Ne.symm same]
  | assemble source =>
      change (assembler.assemble source).assembler.predefined.find? name = _
      rw [assemble_predefined]
      rfl

theorem foldl_perform_predefined (requests : List Request) (assembler : Assembler)
    (name : Bytes) :
    (requests.foldl perform assembler).predefined.find? name =
      (lastBinding requests name).or (assembler.predefined.find? name) := by
  induction requests generalizing assembler with
  | nil => rfl
  | cons request rest inductionHypothesis =>
      rw [List.foldl_cons, inductionHypothesis, perform_predefined]
      unfold lastBinding
      rw [List.filterMap_cons]
      cases request.binding? name with
      | none => rfl
      | some address =>
          -- a later call for the name hides this one
          cases rest.filterMap (Request.binding? name) <;> simp [List.getLast?_cons]

/-- After any calls a name is predefined as the last call for it says. -/
theorem performAll_predefined (requests : List Request) (name : Bytes) :
    (performAll requests).predefined.find? name = lastBinding requests name := by
  rw [performAll, foldl_perform_predefined]
  change (lastBinding requests name).or none = _
  rw [Option.or_none]

theorem performAll_predefined_congr {requests others : List Request}
    (same : ∀ name, lastBinding others name = lastBinding requests name) :
    (performAll others).predefined = (performAll requests).predefined := by
  apply Labels.ext_find?
  intro name
  rw [performAll_predefined, performAll_predefined, same]

theorem lastBinding_filter (requests : List Request) (name : Bytes) :
    lastBinding (requests.filter Request.isPredefine) name = lastBinding requests name := by
  unfold lastBinding
  rw [List.filterMap_filter]
  congr 2
  funext request
  cases request <;> rfl

theorem length_filterMap_binding (requests : List Request) (name : Bytes) :
    (requests.filterMap (Request.binding? name)).length =
      (requests.filterMap Request.name?).count name := by
  induction requests with
  | nil => rfl
  | cons request rest inductionHypothesis =>
      cases request with
      | predefine other address =>
          by_cases same : other = name <;>
            simp [Request.binding?, Request.name?, same, inductionHypothesis]
      | assemble source => exact inductionHypothesis

/-- Calls that predefine different names may come in any order. -/
theorem lastBinding_perm {requests others : List Request} (permutation : others.Perm requests)
    (distinct : (requests.filterMap Request.name?).Nodup) (name : Bytes) :
    lastBinding others name = lastBinding requests name := by
  have calls := permutation.filterMap (Request.binding? name)
  have atMostOne : (requests.filterMap (Request.binding? name)).length ≤ 1 := by
    rw [length_filterMap_binding]
    exact List.nodup_iff_count_le_one.1 distinct name
  unfold lastBinding
  rcases found : requests.filterMap (Request.binding? name) with _ | ⟨address, _ | ⟨second, more⟩⟩
  · rw [found] at calls
    rw [List.perm_nil.1 calls]
  · rw [found] at calls
    rw [List.perm_singleton.1 calls]
  · rw [found] at atMostOne
    simp at atMostOne

/-! ### Runs -/

/-- Nothing but the predefined labels of an assembler enters a run. -/
theorem assemble_congr {first second : Assembler} (same : first.predefined = second.predefined)
    (source : Source) : first.assemble source = second.assemble source := by
  have reset : first.reset = second.reset := by
    unfold Assembler.reset
    rw [same]
  unfold assemble
  rw [reset]

/-- Everything that can be seen of two runs is the same. -/
structure Run.Alike (first second : Run) : Prop where
  result : first.result = second.result
  cursor : first.assembler.cursor = second.assembler.cursor
  entries : first.assembler.entries = second.assembler.entries
  labels : first.assembler.labels = second.assembler.labels
  events : first.events = second.events
  /-- However one table is gone through, it is shown as the other one. -/
  shown : ∀ bindings : List (Bytes × Word), bindings.Perm first.assembler.labels.entries →
    bindings.mergeSort Labels.shownBefore = second.assembler.labels.shown
  texts : ∀ program other, first.result = .ok program → second.result = .ok other →
    program.labels.names = other.labels.names ∧ program.binary = other.binary ∧
      program.hex = other.hex ∧ program.listing = other.listing

theorem Run.Alike.of_eq {first second : Run} (same : first = second) : first.Alike second := by
  subst same
  refine ⟨rfl, rfl, rfl, rfl, rfl, fun _ => Labels.mergeSort_of_perm, ?_⟩
  intro program other succeeded succeededToo
  rw [succeeded] at succeededToo
  cases succeededToo
  exact ⟨rfl, rfl, rfl, rfl⟩

theorem alike_of_lastBinding {requests others : List Request}
    (same : ∀ name, lastBinding others name = lastBinding requests name) (source : Source) :
    ((performAll others).assemble source).Alike ((performAll requests).assemble source) :=
  .of_eq (assemble_congr (performAll_predefined_congr same) source)

/-- A session leaves nothing for its next source but the last binding of each predefined
name: the run is like that of a new assembler with the same calls to predefine, in any
order that keeps the last one for each name. -/
theorem assemble_after_session (requests others : List Request) (source : Source) :
    Run.Alike ((performAll requests).assemble source)
        ((performAll (requests.filter Request.isPredefine)).assemble source) ∧
      (∀ name, (performAll requests).predefined.find? name = lastBinding requests name) ∧
      ((performAll requests).assemble source).assembler.predefined =
        (performAll requests).predefined ∧
      ((∀ name, lastBinding others name = lastBinding requests name) →
        Run.Alike ((performAll others).assemble source)
          ((performAll requests).assemble source)) ∧
      (others.Perm requests → (requests.filterMap Request.name?).Nodup →
        Run.Alike ((performAll others).assemble source)
          ((performAll requests).assemble source)) := by
  refine ⟨?_, performAll_predefined requests, assemble_predefined _ source, ?_, ?_⟩
  · exact alike_of_lastBinding (fun name => (lastBinding_filter requests name).symm) source
  · exact fun same => alike_of_lastBinding same source
  · exact fun permutation distinct =>
      alike_of_lastBinding (lastBinding_perm permutation distinct) source

/-- Neither a failed source nor the order of two predefinitions shows in the next run,
and of two predefinitions of one name only the last one does. -/
theorem assemble_after_session_reordered :
    let first : Request := .predefine (Bytes.ofString "P") 5
    let second : Request := .predefine (Bytes.ofString "Q") 6
    let failing : Request := .assemble (Source.read (Bytes.ofString "R, CLA\nLDA S\n") none)
    let source := Source.read (Bytes.ofString "LDA P\nR, BUN Q I\n") none
    let hidden : Request := .predefine (Bytes.ofString "P") 9
    ([second, first, failing].Perm [first, failing, second] ∧
        ([first, failing, second].filterMap Request.name?).Nodup) ∧
      (∀ name, lastBinding [hidden, first, second] name =
        lastBinding [first, failing, second] name) ∧
      ∃ program, ((performAll [first, failing, second]).assemble source).result = .ok program ∧
        ((performAll [second, first, failing]).assemble source).result = .ok program ∧
        ((performAll [hidden, first, second]).assemble source).result = .ok program := by
  intro first second failing source hidden
  have permutation : [second, first, failing].Perm [first, failing, second] :=
    @List.perm_append_comm _ [second] [first, failing]
  have distinct : ([first, failing, second].filterMap Request.name?).Nodup := by decide
  have same : ∀ name, lastBinding [hidden, first, second] name =
      lastBinding [first, failing, second] name := by
    intro name
    simp only [lastBinding, List.filterMap_cons, Request.binding?, hidden, first, second, failing]
    by_cases named : Bytes.ofString "P" = name <;> simp [named]
  refine ⟨⟨permutation, distinct⟩, same, _, rfl, ?_, ?_⟩
  · exact ((assemble_after_session _ _ source).2.2.2.2 permutation distinct).result
  · exact ((assemble_after_session _ _ source).2.2.2.1 same).result

end BasicComputer.Assembler

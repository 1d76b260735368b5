import BasicComputer.Assembly.Program
import BasicComputer.Proofs.LabelOrder

/-!
Contract: the names of a label table have one order.

Owns:
- what a sequence of definitions binds (`defineAll`): of several for one name, the first;
- the order of bound names, by address and then by name (`Precedes`), and that the names
  of a table are listed in it, each of them once, in the only way there is;
- that the list of labels in a listing depends on the bindings alone.
-/

namespace BasicComputer.Labels

/-! ### Definitions -/

/-- The table after definitions that are made one after the other. A definition of a name
that is bound fails and changes nothing. -/
def defineAll (labels : Labels) : List (Bytes × Word) → Labels
  | [] => labels
  | (name, address) :: rest =>
      match labels.define name address with
      | .ok bound => bound.defineAll rest
      | .error _ => labels.defineAll rest

theorem define_cases (labels : Labels) (name : Bytes) (address : Word) :
    (labels.find? name = none ∧ labels.define name address = .ok (labels.insert name address)) ∨
      ((labels.find? name).isSome ∧
        labels.define name address = .error (.plain .labelDuplicate)) := by
  unfold define
  cases labels.find? name with
  | none => exact .inl ⟨rfl, rfl⟩
  | some bound => exact .inr ⟨rfl, rfl⟩

/-- A name stays what it was bound to; a free one is bound by its first definition. -/
theorem find?_defineAll (labels : Labels) (definitions : List (Bytes × Word)) (name : Bytes) :
    (labels.defineAll definitions).find? name =
      (labels.find? name).or (definitions.lookup name) := by
  induction definitions generalizing labels with
  | nil => simp [defineAll]
  | cons definition rest inductionHypothesis =>
      obtain ⟨other, address⟩ := definition
      rw [defineAll, List.lookup_cons]
      rcases labels.define_cases other address with ⟨free, defined⟩ | ⟨bound, refused⟩
      · rw [defined]
        dsimp only
        rw [inductionHypothesis, find?_insert]
        by_cases same : name = other
        · simp [same, free]
        · simp [same, beq_eq_false_iff_ne.2 same]
      · rw [refused]
        dsimp only
        rw [inductionHypothesis]
        by_cases same : name = other
        · obtain ⟨kept, found⟩ := Option.isSome_iff_exists.1 bound
          simp [same, found]
        · simp [beq_eq_false_iff_ne.2 same]

/-! ### The order of names -/

/-- A bound name comes before another: it has the lower address, or the same one and stands
before it in byte order. -/
def Precedes (labels : Labels) (first second : Bytes) : Prop :=
  ∃ low high, labels.find? first = some low ∧ labels.find? second = some high ∧
    (low < high ∨ (low = high ∧ first < second))

section Order

variable {labels : Labels}

/-- No two names precede each other, so none precedes itself. -/
theorem Precedes.asymm {first second : Bytes} (forth : labels.Precedes first second) :
    ¬ labels.Precedes second first := by
  rintro ⟨high, low, foundHigh, foundLow, back⟩
  obtain ⟨low', high', foundLow', foundHigh', forth⟩ := forth
  rw [foundLow] at foundLow'
  rw [foundHigh] at foundHigh'
  cases foundLow'
  cases foundHigh'
  rcases forth with less | ⟨rfl, before⟩
  · rcases back with greater | ⟨rfl, _⟩
    · exact UInt16.lt_asymm less greater
    · exact UInt16.lt_irrefl _ less
  · rcases back with greater | ⟨_, behind⟩
    · exact UInt16.lt_irrefl _ greater
    · exact List.lt_asymm before behind

theorem mem_names_iff {name : Bytes} :
    name ∈ labels.names ↔ ∃ address, labels.find? name = some address := by
  unfold names
  rw [List.mem_map]
  constructor
  · rintro ⟨⟨_, address⟩, listed, rfl⟩
    exact ⟨address, (mem_shown_iff labels _ address).1 listed⟩
  · rintro ⟨address, found⟩
    exact ⟨(name, address), (mem_shown_iff labels name address).2 found, rfl⟩

theorem nodup_shown (labels : Labels) : labels.shown.Nodup :=
  (List.mergeSort_perm _ _).nodup_iff.2 labels.nodup_entries

theorem precedes_of_shownBefore {first second : Bytes × Word} (listed : first ∈ labels.shown)
    (listedToo : second ∈ labels.shown) (before : shownBefore first second = true)
    (different : first ≠ second) : labels.Precedes first.1 second.1 := by
  refine ⟨first.2, second.2, (mem_shown_iff labels _ _).1 listed,
    (mem_shown_iff labels _ _).1 listedToo, ?_⟩
  rcases (shownBefore_iff first second).1 before with less | ⟨same, le⟩
  · exact .inl less
  · refine .inr ⟨same, ?_⟩
    rcases List.le_iff_lt_or_eq.1 le with less | equal
    · exact less
    · exact absurd (Prod.ext equal same) different

/-- The names are listed in their order. -/
theorem names_pairwise (labels : Labels) : labels.names.Pairwise labels.Precedes := by
  have sorted : labels.shown.Pairwise fun first second => shownBefore first second = true :=
    List.pairwise_mergeSort shownBefore_trans shownBefore_total labels.entries
  -- the order of the sorting is not strict, but no binding is shown twice
  have strict := List.Pairwise.and_mem.1 (sorted.and labels.nodup_shown)
  unfold names
  rw [List.pairwise_map]
  refine strict.imp ?_
  rintro first second ⟨listed, listedToo, before, different⟩
  exact precedes_of_shownBefore listed listedToo before different

theorem nodup_of_pairwise {listed : List Bytes} (ordered : listed.Pairwise labels.Precedes) :
    listed.Nodup := by
  refine ordered.imp fun {first second} precedes same => ?_
  subst same
  exact precedes.asymm precedes

/-- The bound names can be put in order in one way only. -/
theorem eq_names {listed : List Bytes} (ordered : listed.Pairwise labels.Precedes)
    (complete : ∀ name, name ∈ listed ↔ ∃ address, labels.find? name = some address) :
    listed = labels.names := by
  have members : ∀ name, name ∈ listed ↔ name ∈ labels.names := fun name =>
    (complete name).trans mem_names_iff.symm
  have permutation : listed.Perm labels.names :=
    (List.perm_ext_iff_of_nodup (nodup_of_pairwise ordered)
      (nodup_of_pairwise labels.names_pairwise)).2 members
  exact permutation.eq_of_pairwise (fun _ _ _ _ forth back => absurd back forth.asymm)
    ordered labels.names_pairwise

theorem count_names (labels : Labels) (name : Bytes) :
    labels.names.count name = if (labels.find? name).isSome then 1 else 0 := by
  rw [(nodup_of_pairwise labels.names_pairwise).count]
  cases found : labels.find? name with
  | none => exact if_neg (by simp [mem_names_iff, found])
  | some address => exact if_pos (mem_names_iff.2 ⟨address, found⟩)

end Order

/-! ### The list of labels -/

/-- The row of a bound name in the list of labels. -/
def rowOf (labels : Labels) (name : Bytes) : Bytes :=
  Program.labelRow (name, (labels.find? name).getD 0)

theorem names_eq_nil_iff (labels : Labels) :
    labels.names = [] ↔ ∀ name, labels.find? name = none := by
  rw [List.eq_nil_iff_forall_not_mem]
  simp only [mem_names_iff, not_exists, Option.eq_none_iff_forall_ne_some]

/-- The list of labels has a row for each name in turn, and is left out if there is none. -/
theorem labelRows_eq (labels : Labels) :
    Program.labelRows labels =
      if labels.names = [] then []
      else [] :: Program.labelsTitle :: labels.names.map labels.rowOf := by
  unfold Program.labelRows
  by_cases none : labels.names = []
  · rw [if_pos none, if_pos]
    exact labels.isEmpty_iff_find?.2 (labels.names_eq_nil_iff.1 none)
  · rw [if_neg none, if_neg, shown_eq_map_names, List.map_map]
    · rfl
    · intro empty
      exact none (labels.names_eq_nil_iff.2 (labels.isEmpty_iff_find?.1 empty))

/-- However a table was made, its names are the bound ones, each once, in the order of address and
name, and no other list is. They, and the rows of a listing that show labels, are the same for
every table with the same bindings, and in whatever order a table is gone through. -/
theorem names_canonical (start : Labels) (definitions : List (Bytes × Word)) :
    let labels := start.defineAll definitions
    (∀ name, labels.find? name = (start.find? name).or (definitions.lookup name)) ∧
      (∀ name, labels.names.count name = if (labels.find? name).isSome then 1 else 0) ∧
      labels.names.Pairwise labels.Precedes ∧
      (∀ listed : List Bytes, listed.Pairwise labels.Precedes →
        (∀ name, name ∈ listed ↔ ∃ address, labels.find? name = some address) →
        listed = labels.names) ∧
      (∀ bindings : List (Bytes × Word), bindings.Perm labels.entries →
        (bindings.mergeSort shownBefore).map Prod.fst = labels.names) ∧
      ∀ program : Program, (∀ name, program.labels.find? name = labels.find? name) →
        program.labels.names = labels.names ∧
          program.listingRows = Program.listingTitle ::
            program.entries.toList.map Program.entryRow ++
              if labels.names = [] then []
              else [] :: Program.labelsTitle :: labels.names.map labels.rowOf := by
  intro labels
  refine ⟨find?_defineAll start definitions, labels.count_names, labels.names_pairwise,
    fun listed => eq_names, ?_, ?_⟩
  · intro bindings permutation
    rw [mergeSort_of_perm permutation]
    rfl
  · intro program same
    have equal : program.labels = labels := ext_find? same
    refine ⟨congrArg names equal, ?_⟩
    rw [Program.listingRows, equal, labelRows_eq]

/-- Labels that are defined in two orders, once with a second definition that is refused, are
listed in a third order. -/
theorem names_canonical_shuffled :
    let a := Bytes.ofString "A"
    let b := Bytes.ofString "B"
    let loop := Bytes.ofString "LOOP"
    let first := empty.defineAll [(b, 5), (a, 5), (loop, 2), (a, 1)]
    let second := empty.defineAll [(loop, 2), (a, 5), (b, 5)]
    first.names = [loop, a, b] ∧ second.names = [loop, a, b] := by
  intro a b loop first second
  have entries : first.entries = [(a, 5), (b, 5), (loop, 2)] := by decide
  have same : ∀ name, second.find? name = first.find? name := by
    intro name
    have equal : second.entries = first.entries := by decide
    exact congrArg (List.lookup name) equal
  have listed : first.names = [loop, a, b] := by
    have atLoop : first.find? loop = some 2 := by decide
    have atA : first.find? a = some 5 := by decide
    have atB : first.find? b = some 5 := by decide
    have ordered : [loop, a, b].Pairwise first.Precedes := by
      refine .cons ?_ (.cons ?_ (.cons (by simp) .nil))
      · intro other member
        rcases List.mem_cons.1 member with rfl | last
        · exact ⟨2, 5, atLoop, atA, .inl (by decide)⟩
        · rw [List.mem_singleton.1 last]
          exact ⟨2, 5, atLoop, atB, .inl (by decide)⟩
      · intro other member
        rw [List.mem_singleton.1 member]
        exact ⟨5, 5, atA, atB, .inr ⟨rfl, by decide⟩⟩
    have complete : ∀ name, name ∈ [loop, a, b] ↔ ∃ address, first.find? name = some address := by
      intro name
      simp only [find?_eq_some_iff, entries, List.mem_cons, Prod.mk.injEq, List.not_mem_nil]
      grind
    exact ((names_canonical empty _).2.2.2.1 [loop, a, b] ordered complete).symm
  have renamed := (names_canonical empty [(b, 5), (a, 5), (loop, 2), (a, 1)]).2.2.2.2.2
    ⟨.zero, second, #[]⟩ same
  exact ⟨listed, renamed.1.trans listed⟩

end BasicComputer.Labels

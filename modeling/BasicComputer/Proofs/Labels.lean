import BasicComputer.Assembly.Labels

/-!
Contract: label tables as finite maps.

Owns how an insertion changes what a name is bound to, what is bound in a table made of
bindings, and that a table is determined by its bindings (`ext_find?`). Does not own the
order in which labels are shown (`Proofs.LabelOrder`).
-/

namespace BasicComputer.Labels

private theorem lookup_cons_eq_ite (other : Bytes) (entry : Bytes × Word)
    (entries : List (Bytes × Word)) :
    (entry :: entries).lookup other =
      if other = entry.1 then some entry.2 else entries.lookup other := by
  by_cases same : other = entry.1
  · have test : (other == entry.1) = true := beq_iff_eq.mpr same
    rw [if_pos same, List.lookup_cons, test]
  · have test : (other == entry.1) = false := beq_eq_false_iff_ne.mpr same
    rw [if_neg same, List.lookup_cons, test]

private theorem lookup_insertEntry (name other : Bytes) (address : Word)
    (entries : List (Bytes × Word)) :
    (insertEntry name address entries).lookup other =
      if other = name then some address else entries.lookup other := by
  induction entries with
  | nil => rw [insertEntry, lookup_cons_eq_ite]
  | cons head tail inductionHypothesis =>
      unfold insertEntry
      split
      · rw [lookup_cons_eq_ite]
      · split
        · next equal =>
            -- the new binding takes the place of the head, which has the same name
            rw [lookup_cons_eq_ite, lookup_cons_eq_ite other head, ← equal]
            by_cases same : other = name <;> simp only [same, ↓reduceIte]
        · next different =>
            rw [lookup_cons_eq_ite, lookup_cons_eq_ite other head, inductionHypothesis]
            by_cases same : other = name
            · subst same
              simp only [different, ↓reduceIte]
            · simp only [same, ↓reduceIte]

/-- An inserted binding is found under its name and hides nothing else. -/
theorem find?_insert (labels : Labels) (name other : Bytes) (address : Word) :
    (labels.insert name address).find? other =
      if other = name then some address else labels.find? other :=
  lookup_insertEntry name other address labels.entries

theorem nodup_entries (labels : Labels) : labels.entries.Nodup := by
  refine labels.ascending.imp fun {left right} less same => ?_
  rw [same] at less
  exact List.lt_irrefl right.1 less

theorem find?_eq_some_iff (labels : Labels) (name : Bytes) (address : Word) :
    labels.find? name = some address ↔ (name, address) ∈ labels.entries := by
  unfold find?
  rw [List.lookup_eq_some_iff]
  constructor
  · rintro ⟨before, after, split, _⟩
    rw [split]
    simp
  · intro member
    obtain ⟨before, after, split⟩ := List.append_of_mem member
    refine ⟨before, after, split, fun entry earlier => ?_⟩
    -- the names ascend, so no earlier entry has this name
    have ascending := labels.ascending
    rw [split] at ascending
    have less : entry.1 < name :=
      (List.pairwise_append.1 ascending).2.2 entry earlier (name, address) List.mem_cons_self
    rw [bne_iff_ne]
    rintro rfl
    exact List.lt_irrefl entry.1 less

theorem isEmpty_iff_find? (labels : Labels) :
    labels.isEmpty = true ↔ ∀ name, labels.find? name = none := by
  rw [isEmpty, List.isEmpty_iff, List.eq_nil_iff_forall_not_mem]
  constructor
  · intro none name
    cases found : labels.find? name with
    | none => rfl
    | some address => exact absurd ((labels.find?_eq_some_iff name address).1 found) (none _)
  · rintro none ⟨name, address⟩ member
    rw [← labels.find?_eq_some_iff, none name] at member
    cases member

/-- Tables with the same bindings are equal. -/
theorem ext_find? {first second : Labels}
    (same : ∀ name, first.find? name = second.find? name) : first = second := by
  have members : ∀ entry, entry ∈ first.entries ↔ entry ∈ second.entries := by
    rintro ⟨name, address⟩
    rw [← find?_eq_some_iff, ← find?_eq_some_iff, same]
  have permutation : first.entries.Perm second.entries :=
    (List.perm_ext_iff_of_nodup first.nodup_entries second.nodup_entries).2 members
  have equal : first.entries = second.entries :=
    permutation.eq_of_pairwise (fun _ _ _ _ less greater => absurd less (List.lt_asymm greater))
      first.ascending second.ascending
  obtain ⟨entries, ascending⟩ := first
  subst equal
  rfl

private theorem find?_foldl_insert {bindings : List (Bytes × Word)}
    (distinct : bindings.Pairwise fun left right => left.1 ≠ right.1) (labels : Labels)
    (fresh : ∀ binding ∈ bindings, labels.find? binding.1 = none) (name : Bytes)
    (address : Word) :
    (bindings.foldl (fun labels binding => labels.insert binding.1 binding.2) labels).find?
        name = some address ↔
      (name, address) ∈ bindings ∨ labels.find? name = some address := by
  induction bindings generalizing labels with
  | nil => simp
  | cons binding rest inductionHypothesis =>
      obtain ⟨differs, restDistinct⟩ := List.pairwise_cons.1 distinct
      have freshLater : ∀ other ∈ rest,
          (labels.insert binding.1 binding.2).find? other.1 = none := by
        intro other member
        rw [find?_insert, if_neg (Ne.symm (differs other member))]
        exact fresh other (List.mem_cons_of_mem binding member)
      rw [List.foldl_cons, inductionHypothesis restDistinct _ freshLater, find?_insert,
        List.mem_cons]
      by_cases own : name = binding.1
      · have unbound := fresh binding List.mem_cons_self
        subst own
        rw [if_pos rfl, unbound]
        constructor
        · rintro (later | same)
          · exact .inl (.inr later)
          · exact .inl (.inl (by rw [← Option.some.inj same]))
        · rintro ((same | later) | bound)
          · exact .inr (by rw [← same])
          · exact .inl later
          · cases bound
      · have other : (name, address) ≠ binding := fun same => own (congrArg Prod.fst same)
        rw [if_neg own]
        simp [other]

/-- Bindings of distinct names are all in force. -/
theorem find?_ofList {bindings : List (Bytes × Word)}
    (distinct : bindings.Pairwise fun left right => left.1 ≠ right.1) (name : Bytes)
    (address : Word) :
    (ofList bindings).find? name = some address ↔ (name, address) ∈ bindings := by
  have fresh : ∀ binding ∈ bindings, empty.find? binding.1 = none := fun _ _ => rfl
  rw [ofList, find?_foldl_insert distinct empty fresh]
  simp [empty, find?]

end BasicComputer.Labels

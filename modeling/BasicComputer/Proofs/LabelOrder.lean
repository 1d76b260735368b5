import BasicComputer.Proofs.Labels

/-!
Contract: the order in which labels are shown.

Bindings are shown by address, then by name. This is a linear order on bindings, so
however a table is gone through, sorting gives the same list (`mergeSort_of_perm`). The
list has every name with its address.
-/

namespace BasicComputer.Labels

theorem shownBefore_iff (left right : Bytes × Word) :
    shownBefore left right = true ↔
      left.2 < right.2 ∨ (left.2 = right.2 ∧ left.1 ≤ right.1) := by
  unfold shownBefore
  by_cases same : left.2 = right.2
  · simp [same, List.not_lt]
  · simp [same]

theorem shownBefore_trans (first second third : Bytes × Word)
    (left : shownBefore first second = true) (right : shownBefore second third = true) :
    shownBefore first third = true := by
  rw [shownBefore_iff] at left right ⊢
  rcases left with left | ⟨leftSame, leftLe⟩
  · rcases right with right | ⟨rightSame, _⟩
    · exact .inl (UInt16.lt_trans left right)
    · exact .inl (rightSame ▸ left)
  · rcases right with right | ⟨rightSame, rightLe⟩
    · exact .inl (leftSame ▸ right)
    · exact .inr ⟨leftSame.trans rightSame, List.le_trans leftLe rightLe⟩

theorem shownBefore_total (left right : Bytes × Word) :
    (shownBefore left right || shownBefore right left) = true := by
  rw [Bool.or_eq_true, shownBefore_iff, shownBefore_iff]
  by_cases same : left.2 = right.2
  · rcases List.le_total left.1 right.1 with le | ge
    · exact .inl (.inr ⟨same, le⟩)
    · exact .inr (.inr ⟨same.symm, ge⟩)
  · rcases UInt16.lt_or_lt_of_ne same with less | greater
    · exact .inl (.inl less)
    · exact .inr (.inl greater)

theorem shownBefore_antisymm {left right : Bytes × Word}
    (forth : shownBefore left right = true) (back : shownBefore right left = true) :
    left = right := by
  rw [shownBefore_iff] at forth back
  rcases forth with less | ⟨same, le⟩
  · rcases back with greater | ⟨same, _⟩
    · exact absurd greater (UInt16.lt_asymm less)
    · rw [same] at less
      exact absurd less (UInt16.lt_irrefl left.2)
  · rcases back with greater | ⟨_, ge⟩
    · rw [same] at greater
      exact absurd greater (UInt16.lt_irrefl right.2)
    · exact Prod.ext (List.le_antisymm le ge) same

/-- The order in which a table is gone through does not show. -/
theorem mergeSort_of_perm {labels : Labels} {bindings : List (Bytes × Word)}
    (permutation : bindings.Perm labels.entries) :
    bindings.mergeSort shownBefore = labels.shown := by
  have sorted := List.pairwise_mergeSort shownBefore_trans shownBefore_total
  have rearranged : (bindings.mergeSort shownBefore).Perm labels.shown :=
    (List.mergeSort_perm _ _).trans (permutation.trans (List.mergeSort_perm _ _).symm)
  exact rearranged.eq_of_pairwise (fun _ _ _ _ => shownBefore_antisymm)
    (sorted bindings) (sorted labels.entries)

theorem mem_shown_iff (labels : Labels) (name : Bytes) (address : Word) :
    (name, address) ∈ labels.shown ↔ labels.find? name = some address := by
  rw [shown, List.mem_mergeSort, find?_eq_some_iff]

/-- The labels are shown as their names, each with its address. -/
theorem shown_eq_map_names (labels : Labels) :
    labels.shown = labels.names.map fun name => (name, (labels.find? name).getD 0) := by
  have same : ∀ binding ∈ labels.shown,
      (binding.1, (labels.find? binding.1).getD 0) = id binding := by
    rintro ⟨name, address⟩ listed
    rw [(mem_shown_iff labels name address).1 listed]
    rfl
  rw [names, List.map_map]
  exact ((List.map_congr_left same).trans (List.map_id _)).symm

end BasicComputer.Labels

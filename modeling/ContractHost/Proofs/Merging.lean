/-
  ContractHost.Proofs.Merging — records of an account put one over the other.

  A merge treats the parts of a record in four ways: balance changes add up, of two writes of
  one key the later stands, new code brings its own metadata or none, and call data gives way
  to call data only. Each of them may be done in either grouping, the first as long as no sum
  leaves the range of a change (`OutputAccount.merge_assoc`). A record that changes nothing
  when it is put over another is one that is empty, and metadata without code do not count
  (`OutputAccount.isEmpty_iff_merge_eq`).
-/

import ContractHost.Proofs.Frame

namespace ContractHost

theorem AccountStorage.union_assoc (first second third : AccountStorage) :
    first ∪ second ∪ third = first ∪ (second ∪ third) := by
  ext1 key
  simp only [Std.ExtTreeMap.getElem?_union, Option.or_assoc]

theorem AccountStorage.empty_union (updates : AccountStorage) : (∅ : AccountStorage) ∪ updates = updates := by
  ext1 key
  simp [Std.ExtTreeMap.getElem?_union]

namespace OutputAccount

variable {a b c : OutputAccount}

theorem merge_assoc (hdelta : a.delta + b.delta + c.delta = a.delta + (b.delta + c.delta)) :
    (a.merge b).merge c = a.merge (b.merge c) := by
  have hupdates := AccountStorage.union_assoc a.updates b.updates c.updates
  unfold merge
  dsimp only
  rw [hdelta, hupdates]
  congr 1
  · cases c.code <;> rfl
  · cases c.code <;> rfl
  · cases c.callData <;> rfl

-- Past the range of a change the grouping shows.
example :
    let a : OutputAccount := { empty (.named "bob") with delta := .credit Capped.greatest }
    let b : OutputAccount := { empty (.named "bob") with delta := .credit 1 }
    let c : OutputAccount := { empty (.named "bob") with delta := .debit 1 }
    ((a.merge b).merge c).delta ≠ (a.merge (b.merge c)).delta := by decide +kernel

/-- Put over the empty record, a record leaves all its parts but metadata without code. -/
theorem isEmpty_of_merge_eq (h : (empty b.address).merge b = empty b.address) : b.isEmpty = true := by
  unfold merge empty at h
  simp only [mk.injEq, true_and] at h
  obtain ⟨hdelta, hupdates, hcode, -, hcallData⟩ := h
  rw [Delta.add_comm, Delta.add_zero] at hdelta
  rw [AccountStorage.empty_union] at hupdates
  refine isEmpty_iff.2 ⟨hdelta, hupdates, ?_, ?_⟩
  · cases hb : b.code with
    | none => rfl
    | some code => simp [hb] at hcode
  · cases hb : b.callData with
    | nil => rfl
    | cons byte bytes => simp [hb] at hcallData

theorem isEmpty_iff_merge_eq : b.isEmpty = true ↔ ∀ o : OutputAccount, o.merge b = o :=
  ⟨merge_eq_of_isEmpty, fun h => isEmpty_of_merge_eq (h (empty b.address))⟩

/-- Merges may be grouped either way where no sum of the balance changes leaves the range of a change, and to put a
    record over others changes none of them exactly if it is empty. -/
theorem merge_acts (a b c : OutputAccount) :
    (Delta.InRange (a.delta.toInt + b.delta.toInt) → Delta.InRange (b.delta.toInt + c.delta.toInt) →
      Delta.InRange (a.delta.toInt + b.delta.toInt + c.delta.toInt) → (a.merge b).merge c = a.merge (b.merge c)) ∧
    (b.isEmpty = true ↔ ∀ o : OutputAccount, o.merge b = o) :=
  ⟨fun hab hbc habc => merge_assoc (Delta.add_assoc_of_mem hab hbc habc), isEmpty_iff_merge_eq⟩

/-- Changes of the greatest magnitude on both sides, code over code, and metadata of no code. -/
theorem merge_acts_bare :
    let bare : OutputAccount := { empty (.named "bob") with metadata := some ⟨true, true, true⟩ }
    let a : OutputAccount := { bare with delta := .credit Capped.greatest, code := some [1], callData := [9] }
    let b : OutputAccount :=
      { bare with delta := .debit Capped.greatest, updates := (∅ : AccountStorage).insert [1] ⟨[1], [2]⟩, callData := [8] }
    let c : OutputAccount :=
      { a with delta := .credit 5, updates := (∅ : AccountStorage).insert [1] ⟨[1], []⟩, metadata := none, callData := [] }
    (a.merge b).merge c = a.merge (b.merge c) ∧ (∀ o : OutputAccount, o.merge bare = o) ∧
      ¬ ∀ o : OutputAccount, o.merge { bare with code := some [] } = o := by
  intro bare a b c
  have hassoc := (merge_acts a b c).1 ⟨by decide +kernel, by decide +kernel⟩ ⟨by decide +kernel, by decide +kernel⟩
    ⟨by decide +kernel, by decide +kernel⟩
  have hbare : bare.isEmpty = true := by decide +kernel
  have hcode : ({ bare with code := some [] } : OutputAccount).isEmpty = false := by decide +kernel
  refine ⟨hassoc, (merge_acts a bare c).2.1 hbare, fun h => ?_⟩
  exact absurd ((merge_acts a { bare with code := some [] } c).2.2 h) (by rw [hcode]; decide)

end OutputAccount

end ContractHost

/-
  ContractHost.Proofs.Frame — output frames account by account.

  A frame is known by the accounts it has a record of, what the records say, and its two
  lists (`OutputFrame.ext_account`). Putting a frame over another puts each record over the
  other (`account_merge`), so a change of a record that a merge carries through is carried
  through by frames (`merge_update`).
-/

import ContractHost.Accumulator
import ContractHost.Proofs.Delta

namespace ContractHost

theorem AccountStorage.union_empty (updates : AccountStorage) : updates ∪ (∅ : AccountStorage) = updates := by
  ext1 key
  simp [Std.ExtTreeMap.getElem?_union]

namespace OutputAccount

variable {b : OutputAccount}

theorem isEmpty_iff :
    b.isEmpty = true ↔ b.delta = .zero ∧ b.updates = ∅ ∧ b.code = none ∧ b.callData = [] := by
  have hdelta : b.delta.isZero = true ↔ b.delta = .zero := by
    rw [Delta.isZero_iff, ← Delta.toInt_zero]
    exact ⟨Delta.toInt_injective, congrArg Delta.toInt⟩
  unfold isEmpty
  rw [Bool.and_eq_true, Bool.and_eq_true, Bool.and_eq_true, hdelta, Std.ExtTreeMap.isEmpty_iff, Option.isNone_iff_eq_none,
    List.isEmpty_iff, and_assoc, and_assoc]

theorem merge_eq_of_isEmpty (h : b.isEmpty = true) (a : OutputAccount) : a.merge b = a := by
  obtain ⟨hdelta, hupdates, hcode, hcallData⟩ := isEmpty_iff.1 h
  unfold merge
  rw [hdelta, hupdates, hcode, hcallData, Delta.add_zero, AccountStorage.union_empty]
  rfl

theorem merge_empty (o : OutputAccount) (a : Address) : o.merge (.empty a) = o :=
  merge_eq_of_isEmpty (isEmpty_iff.2 ⟨rfl, rfl, rfl, rfl⟩) o

end OutputAccount

namespace OutputFrame

@[ext] theorem ext_account {f g : OutputFrame} (hmem : ∀ a, a ∈ f.accounts ↔ a ∈ g.accounts)
    (haccount : ∀ a, f.account a = g.account a) (hfinish : f.finishData = g.finishData) (hlogs : f.logs = g.logs) :
    f = g := by
  have haccounts : f.accounts = g.accounts := by
    ext1 a
    have hm := hmem a
    have ha := haccount a
    rw [Std.ExtTreeMap.mem_iff_isSome_getElem?, Std.ExtTreeMap.mem_iff_isSome_getElem?] at hm
    unfold account at ha
    rw [Std.ExtTreeMap.getD_eq_getD_getElem?, Std.ExtTreeMap.getD_eq_getD_getElem?] at ha
    cases hf : f.accounts[a]? <;> cases hg : g.accounts[a]? <;> simp_all
  cases f
  cases g
  simp_all

@[simp] theorem account_empty (a : Address) : empty.account a = .empty a := by
  simp [account, empty]

theorem account_update (f : OutputFrame) (a b : Address) (change : OutputAccount → OutputAccount) :
    (f.update a change).account b = if a = b then change (f.account b) else f.account b := by
  unfold update account
  simp only [Std.ExtTreeMap.getD_insert, Std.LawfulEqCmp.compare_eq_iff_eq]
  split
  · subst_vars; rfl
  · rfl

theorem mem_update (f : OutputFrame) (a b : Address) (change : OutputAccount → OutputAccount) :
    b ∈ (f.update a change).accounts ↔ a = b ∨ b ∈ f.accounts := by
  unfold update
  rw [Std.ExtTreeMap.mem_insert, Std.LawfulEqCmp.compare_eq_iff_eq]

theorem mem_merge (earlier later : OutputFrame) (a : Address) :
    a ∈ (earlier.merge later).accounts ↔ a ∈ earlier.accounts ∨ a ∈ later.accounts := by
  unfold merge
  rw [Std.ExtTreeMap.mem_union_iff, Std.ExtTreeMap.mem_map]

theorem account_merge (earlier later : OutputFrame) (a : Address) :
    (earlier.merge later).account a = (earlier.account a).merge (later.account a) := by
  have hget : (earlier.merge later).accounts[a]? =
      ((later.accounts[a]?).map (earlier.account a).merge).or earlier.accounts[a]? := by
    unfold merge
    rw [Std.ExtTreeMap.getElem?_union, Std.ExtTreeMap.getElem?_map]
  unfold account at hget ⊢
  rw [Std.ExtTreeMap.getD_eq_getD_getElem?, hget, Std.ExtTreeMap.getD_eq_getD_getElem? (t := later.accounts)]
  cases later.accounts[a]? with
  | none => rw [Option.getD_none, OutputAccount.merge_empty, Std.ExtTreeMap.getD_eq_getD_getElem?]; rfl
  | some o => rfl

theorem merge_empty (f : OutputFrame) : f.merge .empty = f := by
  refine ext_account (fun a => ?_) (fun a => ?_) (List.append_nil _) (List.append_nil _)
  · rw [mem_merge]
    simp [empty]
  · rw [account_merge, account_empty, OutputAccount.merge_empty]

/-- A change that passes through the merge of an account's records passes through that of the frames. -/
theorem merge_update {earlier later : OutputFrame} {a : Address} {change : OutputAccount → OutputAccount}
    (h : (earlier.account a).merge (change (later.account a)) = change ((earlier.account a).merge (later.account a))) :
    earlier.merge (later.update a change) = (earlier.merge later).update a change := by
  refine ext_account (fun b => ?_) (fun b => ?_) rfl rfl
  · rw [mem_merge, mem_update, mem_update, mem_merge]
    exact or_left_comm
  · rw [account_merge, account_update, account_update, account_merge]
    split
    · subst_vars; exact h
    · rfl

/-! ## Changes of balances -/

theorem deltaOf_update (f : OutputFrame) (a b : Address) (change : OutputAccount → OutputAccount) :
    (f.update a change).deltaOf b = if a = b then (change (f.account b)).delta else f.deltaOf b := by
  unfold deltaOf
  rw [account_update]
  split <;> rfl

theorem deltaOf_merge (earlier later : OutputFrame) (a : Address) :
    (earlier.merge later).deltaOf a = earlier.deltaOf a + later.deltaOf a := by
  unfold deltaOf
  rw [account_merge]
  rfl

@[simp] theorem deltaOf_empty (a : Address) : empty.deltaOf a = .zero := by
  rw [deltaOf, account_empty]
  rfl

end OutputFrame

end ContractHost

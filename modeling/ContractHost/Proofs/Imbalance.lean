/-
  ContractHost.Proofs.Imbalance — which imbalances the audit sees.

  The audit adds the changes of an output up in the order of the addresses, and after every
  one its sum stops at the limit of a change (`Audit.conserved_iff_stoppedSum`). Where no
  partial sum passes the limit (`Unstopped`) the rule is exact: it is broken where value
  came from nowhere or went nowhere, and no other order that stays within the limit tells
  otherwise (`Audit.conserved_iff_of_unstopped`). Credits that together fit a balance, and
  debits that do, stay within it in every order (`unstopped_of_parts`).

  Past the limit a sum that stopped may hide an imbalance, and may show one that is not
  there (`Audit.conserved_of_stopped`).
-/

import ContractHost.Audit
import ContractHost.Proofs.Supply

namespace ContractHost

/-! ## Sums that stop -/

namespace Delta

/-- A sum that is brought back to the range of a change after every summand. -/
def stoppedSum (ns : List Int) : Int := ns.foldl (fun sum n => max (-limit) (min limit (sum + n))) 0

/-- Added up in this order, the integers never leave the range of a change. -/
def Unstopped (ns : List Int) : Prop := ∀ part, part <+: ns → InRange part.sum

theorem Unstopped.initial {ns ms : List Int} (h : Unstopped ns) (hms : ms <+: ns) : Unstopped ms :=
  fun part hpart => h part (hpart.trans hms)

theorem stoppedSum_concat (ns : List Int) (n : Int) :
    stoppedSum (ns ++ [n]) = max (-limit) (min limit (stoppedSum ns + n)) := by
  unfold stoppedSum
  rw [List.foldl_append]
  rfl

/-- A sum that stays in the range is not stopped. -/
theorem stoppedSum_eq_sum {ns : List Int} (h : Unstopped ns) : stoppedSum ns = ns.sum := by
  -- From the end of the list, so that the sum before the last summand is one that stays in the range too.
  induction ns using List.reverseRecOn with
  | nil => rfl
  | append_singleton ns n ih =>
    obtain ⟨hlow, hhigh⟩ := h _ (List.prefix_refl _)
    rw [stoppedSum_concat, ih (h.initial (List.prefix_append ns [n]))]
    rw [List.sum_append, List.sum_singleton] at hlow hhigh ⊢
    omega

/-- Credits that together are within the limit, and debits that are, stay in the range in every order. -/
theorem unstopped_of_parts {ns : List Int} (hcredits : (ns.map fun n => max n 0).sum ≤ limit)
    (hdebits : (ns.map fun n => max (-n) 0).sum ≤ limit) {ms : List Int} (hperm : ms.Perm ns) : Unstopped ms := by
  intro part hpart
  have hpieces : ∀ l : List Int, l.sum = (l.map fun n => max n 0).sum - (l.map fun n => max (-n) 0).sum := by
    intro l
    induction l with
    | nil => rfl
    | cons n l ih =>
      simp only [List.map_cons, List.sum_cons, ih]
      omega
  have hpiece : ∀ f : Int → Int, (∀ n, 0 ≤ f n) → 0 ≤ (part.map f).sum ∧ (part.map f).sum ≤ (ns.map f).sum := by
    intro f hf
    refine ⟨List.sum_nonneg (by simpa using fun n _ => hf n), ?_⟩
    rw [← (hperm.map f).sum_eq]
    exact (hpart.sublist.map f).sum_le_sum (by simpa using fun n _ => hf n)
  obtain ⟨hcredit, hcredit'⟩ := hpiece (fun n => max n 0) fun n => by omega
  obtain ⟨hdebit, hdebit'⟩ := hpiece (fun n => max (-n) 0) fun n => by omega
  rw [InRange, hpieces part]
  omega

end Delta

/-! ## The rule of the audit -/

/-- The balance changes of an output as integers, in the order of the addresses. -/
def TransactionOutput.changes (o : TransactionOutput) : List Int := o.accounts.toList.map fun e => e.2.delta.toInt

namespace Audit

open Delta

variable {o : TransactionOutput}

theorem toInt_netChange (o : TransactionOutput) : (netChange o).toInt = stoppedSum o.changes := by
  have hfold : ∀ (l : List (Address × OutputAccount)) (start : Delta),
      (l.foldl (fun sum e => sum + e.2.delta) start).toInt =
        (l.map fun e => e.2.delta.toInt).foldl (fun sum n => max (-limit) (min limit (sum + n))) start.toInt := by
    intro l
    induction l with
    | nil => exact fun start => rfl
    | cons e l ih =>
      intro start
      rw [List.foldl_cons, ih, toInt_add, List.map_cons, List.foldl_cons]
  rw [netChange, Std.ExtTreeMap.foldl_eq_foldl_toList, hfold, toInt_zero]
  rfl

theorem conserved_iff_stoppedSum : conserved o = true ↔ stoppedSum o.changes = 0 := by
  rw [conserved, isZero_iff, toInt_netChange]

/-- A rule that holds adds no violation, and each rule its own. -/
theorem balanceNotConserved_mem_violations (c : HostConfig) (tx : Transaction) :
    .balanceNotConserved ∈ violations c tx o ↔ conserved o = false := by
  simp only [violations, List.mem_append, List.mem_ite_nil_left, List.mem_singleton, reduceCtorEq, and_false, false_or,
    or_false, and_true, Bool.not_eq_true]

/-- Where no partial sum of the changes passes the limit, an output is conserved exactly if its changes come to
    nothing, the violation is reported exactly if they do not, and another order that stays within the limit has the
    same sum. -/
theorem conserved_iff_of_unstopped (c : HostConfig) (tx : Transaction) (h : Unstopped o.changes) :
    (conserved o = true ↔ o.changes.sum = 0) ∧
      (.balanceNotConserved ∈ violations c tx o ↔ o.changes.sum ≠ 0) ∧
      ∀ changes, changes.Perm o.changes → Unstopped changes → stoppedSum changes = o.changes.sum := by
  have hiff : conserved o = true ↔ o.changes.sum = 0 := by rw [conserved_iff_stoppedSum, stoppedSum_eq_sum h]
  refine ⟨hiff, ?_, fun changes hperm hchanges => ?_⟩
  · rw [balanceNotConserved_mem_violations, ← Bool.not_eq_true, hiff]
  · rw [stoppedSum_eq_sum hchanges, hperm.sum_eq]

/-- An output that changes the balances of accounts with these names. -/
def outputOf (changes : List (String × Delta)) : TransactionOutput :=
  { TransactionOutput.empty with
    accounts := changes.foldl (fun accounts (name, delta) =>
      accounts.insert (Address.named name) { OutputAccount.empty (.named name) with delta }) ∅ }

theorem conserved_iff_of_unstopped_passing :
    let o := outputOf [("a", .credit Capped.greatest), ("b", .debit Capped.greatest), ("c", .credit 0)]
    let created := outputOf [("a", .credit Capped.greatest), ("b", .debit 5)]
    conserved o = true ∧ .balanceNotConserved ∈ violations .standard (.transfer .zero .zero 0) created := by
  intro o created
  have ho : Unstopped o.changes := unstopped_of_parts (by decide +kernel) (by decide +kernel) (.refl _)
  have hcreated : Unstopped created.changes := unstopped_of_parts (by decide +kernel) (by decide +kernel) (.refl _)
  have hsum : o.changes.sum = 0 := by decide +kernel
  have hsum' : created.changes.sum ≠ 0 := by decide +kernel
  exact ⟨(conserved_iff_of_unstopped .standard (.transfer .zero .zero 0) ho).1.2 hsum,
    (conserved_iff_of_unstopped .standard (.transfer .zero .zero 0) hcreated).2.1.2 hsum'⟩

/-- Past the limit one unit from nowhere is not seen, and changes that come to nothing are reported. -/
theorem conserved_of_stopped :
    let created := outputOf [("a", .credit Capped.greatest), ("b", .credit 1), ("c", .debit Capped.greatest)]
    let moved := outputOf [("a", .credit Capped.greatest), ("b", .credit 1), ("c", .debit 1),
      ("d", .debit Capped.greatest)]
    conserved created = true ∧ created.changes.sum = 1 ∧ conserved moved = false ∧ moved.changes.sum = 0 := by
  decide +kernel

end Audit

end ContractHost

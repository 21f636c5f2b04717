/-
  ContractHost.Proofs.Delta — balance changes as integers.

  A sum of two changes stands for the sum of their integers, brought back to the range
  that a change can stand for (`toInt_add`); within that range it is exact
  (`toInt_add_of_mem`). So sums commute, and they associate as long as no partial sum
  leaves the range (`add_assoc_of_mem`).
-/

import ContractHost.Delta

namespace ContractHost.Delta

/-- The greatest magnitude of a change. -/
def limit : Int := 0xffffffffffffffffffffffffffffffffffffffffffffffffffffffffffffffff

/-- The integers that a change can stand for. -/
def InRange (n : Int) : Prop := -limit ≤ n ∧ n ≤ limit

theorem magnitude_le (d : Delta) : (d.magnitude.val : Int) ≤ limit := by
  have := d.magnitude.val_le
  unfold limit
  omega

theorem toInt_inRange (d : Delta) : InRange d.toInt := by
  have := d.magnitude_le
  unfold InRange toInt
  split <;> omega

theorem val_add_magnitude (a b : U256) : ((a + b).val : Int) = min ((a.val : Int) + b.val) limit := by
  rw [Capped.val_add]
  unfold limit
  omega

@[simp] theorem toInt_credit (m : U256) : (credit m).toInt = m.val := by simp [credit, toInt_ofSide]

@[simp] theorem toInt_debit (m : U256) : (debit m).toInt = -(m.val : Int) := by simp [debit, toInt_ofSide]

@[simp] theorem toInt_zero : Delta.zero.toInt = 0 := by
  rw [zero, toInt_credit, Capped.eq_zero_iff.1 rfl]
  rfl

/-- A change asked for by an integer stands for it, stopped at the limit on either side. -/
theorem toInt_ofInt (n : Int) : (ofInt n).toInt = max (-limit) (min limit n) := by
  have hmagnitude : ((Capped.clamp n.natAbs : U256).val : Int) = min (n.natAbs : Int) limit := by
    rw [Capped.val_clamp]
    unfold limit
    omega
  rw [ofInt, toInt_ofSide, hmagnitude]
  unfold limit
  split <;> rename_i hside <;> rw [decide_eq_true_eq] at hside <;> omega

theorem isZero_iff (d : Delta) : d.isZero = true ↔ d.toInt = 0 := by
  unfold isZero toInt
  rw [decide_eq_true_eq, Capped.eq_zero_iff]
  split <;> omega

/-! ## Sums -/

/-- A sum is the integer sum, stopped at the limit on either side. -/
theorem toInt_add (a b : Delta) : (a + b).toInt = max (-limit) (min limit (a.toInt + b.toInt)) := by
  have ha := a.magnitude_le
  have hb := b.magnitude_le
  have hsum := val_add_magnitude a.magnitude b.magnitude
  show (add a b).toInt = _
  unfold add
  split
  · rename_i hside
    rw [toInt_ofSide]
    unfold toInt
    rw [← hside]
    cases a.negative <;> simp only [Bool.false_eq_true, if_false, if_true] <;> omega
  · rename_i hside
    split
    · rename_i hle
      rw [Capped.le_iff] at hle
      rw [toInt_ofSide, Capped.val_sub]
      unfold toInt
      cases hn : a.negative <;> cases hm : b.negative <;> simp only [hn, hm, not_true_eq_false] at hside <;>
        simp only [Bool.false_eq_true, if_false, if_true] <;> omega
    · rename_i hlt
      rw [Capped.le_iff] at hlt
      rw [toInt_ofSide, Capped.val_sub]
      unfold toInt
      cases hn : a.negative <;> cases hm : b.negative <;> simp only [hn, hm, not_true_eq_false] at hside <;>
        simp only [Bool.false_eq_true, if_false, if_true] <;> omega

theorem toInt_add_of_mem {a b : Delta} (h : InRange (a.toInt + b.toInt)) : (a + b).toInt = a.toInt + b.toInt := by
  obtain ⟨hlow, hhigh⟩ := h
  rw [toInt_add]
  omega

theorem add_comm (a b : Delta) : a + b = b + a := by
  apply toInt_injective
  rw [toInt_add, toInt_add, Int.add_comm]

theorem add_zero (a : Delta) : a + .zero = a := by
  apply toInt_injective
  rw [toInt_add_of_mem] <;> rw [toInt_zero, Int.add_zero]
  exact a.toInt_inRange

theorem add_assoc_of_mem {a b c : Delta} (hab : InRange (a.toInt + b.toInt)) (hbc : InRange (b.toInt + c.toInt))
    (habc : InRange (a.toInt + b.toInt + c.toInt)) : a + b + c = a + (b + c) := by
  have hl : (a + b).toInt = a.toInt + b.toInt := toInt_add_of_mem hab
  have hr : (b + c).toInt = b.toInt + c.toInt := toInt_add_of_mem hbc
  apply toInt_injective
  calc (a + b + c).toInt = a.toInt + b.toInt + c.toInt := by rw [toInt_add_of_mem, hl]; rwa [hl]
    _ = a.toInt + (b.toInt + c.toInt) := Int.add_assoc ..
    _ = (a + (b + c)).toInt := by rw [toInt_add_of_mem, hr]; rwa [hr, ← Int.add_assoc]

/-- What is added on the credit side never lowers a sum, stopped or not. -/
theorem le_toInt_add {a b : Delta} (h : 0 ≤ b.toInt) : a.toInt ≤ (a + b).toInt := by
  obtain ⟨hlow, hhigh⟩ := a.toInt_inRange
  rw [toInt_add]
  omega

/-- What is added on the debit side lowers a sum by no more than itself. -/
theorem sub_le_toInt_add_debit (a : Delta) (m : U256) : a.toInt - m.val ≤ (a + debit m).toInt := by
  obtain ⟨hlow, hhigh⟩ := a.toInt_inRange
  rw [toInt_add, toInt_debit]
  omega

/-! ## A balance after a change -/

/-- A change applies exactly when it leaves the balance at zero or more, and then stops at the cap. -/
theorem applyTo_eq_some_iff {d : Delta} {balance after : U256} :
    d.applyTo balance = some after ↔ (after.val : Int) = min ((balance.val : Int) + d.toInt) limit := by
  have hb : (balance.val : Int) ≤ limit := by have := balance.val_le; unfold limit; omega
  have hd := d.magnitude_le
  have hsum := val_add_magnitude balance d.magnitude
  unfold applyTo toInt
  split
  · rw [Capped.checkedSub_eq_some_iff]
    omega
  · rw [Option.some.injEq, Capped.ext_iff]
    omega

theorem applyTo_eq (d : Delta) (balance : U256) :
    d.applyTo balance = if (balance.val : Int) + d.toInt < 0 then none
      else some (Capped.clamp ((balance.val : Int) + d.toInt).toNat) := by
  split
  · rw [Option.eq_none_iff_forall_ne_some]
    intro after hafter
    rw [applyTo_eq_some_iff] at hafter
    omega
  · rw [applyTo_eq_some_iff, Capped.val_clamp]
    unfold limit
    omega

end ContractHost.Delta

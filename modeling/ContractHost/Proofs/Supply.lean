/-
  ContractHost.Proofs.Supply — how much value there is, and what moving it about may do.

  The supply of a ledger is the sum of its committed balances. `Ledger.Covers` says of
  balance changes that they only move value: none takes an account below zero, and all
  together come to nothing. Then no account holds more than the supply
  (`Covers.committed_add_le`), and with a supply that fits a balance the changes of any
  accounts together are in the range of a change (`Covers.sum_inRange`). A flow of value
  that its sender can pay keeps changes covered (`Covers.flow`).
-/

import ContractHost.Ledger
import ContractHost.Proofs.Delta
import Mathlib.Algebra.BigOperators.Group.Finset.Piecewise
import Mathlib.Algebra.BigOperators.Ring.Finset
import Mathlib.Algebra.Order.BigOperators.Group.Finset
import Mathlib.Data.Fintype.Vector

namespace ContractHost

/-- The bytes of an address as a vector over a finite type. -/
def Address.digits (a : Address) : List.Vector (Fin 256) 32 :=
  ⟨a.bytes.map UInt8.toFin, by rw [List.length_map, a.length_eq]⟩

theorem Address.digits_injective : Function.Injective Address.digits := fun _ _ h =>
  Address.ext (List.map_injective_iff.2 (fun _ _ hxy => UInt8.toFin_inj.1 hxy) (congrArg Subtype.val h))

instance : Finite Address := Finite.of_injective Address.digits Address.digits_injective

noncomputable instance : Fintype Address := .ofFinite _

/-- A sum over some entries of a table is a sum over their addresses. -/
theorem AddressMap.sum_sublist {β M : Type} [AddCommMonoid M] {m : AddressMap β} {entries : List (Address × β)}
    (h : entries.Sublist m.toList) (f : β → M) :
    (entries.map fun e => f e.2).sum = ∑ a ∈ (entries.map Prod.fst).toFinset, (m[a]?.map f).getD 0 := by
  have hentry : ∀ e ∈ entries, f e.2 = (m[e.1]?.map f).getD 0 := by
    intro e he
    rw [Std.ExtTreeMap.mem_toList_iff_getElem?_eq_some.1 (h.subset he)]
    rfl
  have hnodup : (entries.map Prod.fst).Nodup := by
    have hkeys : (entries.map Prod.fst).Sublist m.keys := Std.ExtTreeMap.map_fst_toList_eq_keys (t := m) ▸ h.map Prod.fst
    exact hkeys.nodup m.nodup_keys
  calc (entries.map fun e => f e.2).sum
      = ((entries.map Prod.fst).map fun a => (m[a]?.map f).getD 0).sum := by
        rw [List.map_map]
        exact congrArg List.sum (List.map_congr_left hentry)
    _ = ∑ a ∈ (entries.map Prod.fst).toFinset, (m[a]?.map f).getD 0 := (List.sum_toFinset _ hnodup).symm

/-- A sum over all entries of a table is a sum over all addresses, with nothing where there is no entry. -/
theorem AddressMap.sum_toList {β M : Type} [AddCommMonoid M] (m : AddressMap β) (f : β → M) :
    (m.toList.map fun e => f e.2).sum = ∑ a : Address, (m[a]?.map f).getD 0 := by
  rw [sum_sublist (List.Sublist.refl _)]
  refine Finset.sum_subset (Finset.subset_univ _) fun a _ ha => ?_
  rw [List.mem_toFinset, Std.ExtTreeMap.map_fst_toList_eq_keys, Std.ExtTreeMap.mem_keys] at ha
  rw [Std.ExtTreeMap.getElem?_eq_none ha]
  rfl

/-! ## The supply -/

namespace Ledger

variable (L : Ledger)

/-- The committed balance of an account, nothing where there is no answer. -/
def committed (a : Address) : Nat :=
  match L.balance a with
  | .ok balance => balance.val
  | .error _ => 0

noncomputable def supply : Nat := ∑ a, L.committed a

/-- The supply fits a balance. -/
def Bounded : Prop := L.supply ≤ 2 ^ 256 - 1

/-- Balance changes that only move value. -/
structure Covers (change : Address → Int) : Prop where
  solvent : ∀ a, 0 ≤ L.committed a + change a
  balanced : ∑ a, change a = 0

/-- A change that leaves an account with a balance. -/
def Holds (a : Address) (n : Int) : Prop := 0 ≤ L.committed a + n ∧ L.committed a + n ≤ Delta.limit

variable {L}

theorem committed_of_balance {a : Address} {b : U256} (h : L.balance a = .ok b) : L.committed a = b.val := by
  rw [committed, h]

theorem Holds.sub_inRange {a : Address} {m n : Int} (hm : L.Holds a m) (hn : L.Holds a n) : Delta.InRange (m - n) := by
  obtain ⟨hm1, hm2⟩ := hm
  obtain ⟨hn1, hn2⟩ := hn
  unfold Delta.InRange
  omega

theorem covers_zero : L.Covers fun _ => 0 := ⟨fun a => by omega, Finset.sum_const_zero⟩

theorem Covers.sum_committed_add {change : Address → Int} (h : L.Covers change) :
    ∑ a, (L.committed a + change a) = L.supply := by
  rw [Finset.sum_add_distrib, h.balanced, Int.add_zero, supply, Nat.cast_sum]

/-- No account holds more than all of them together. -/
theorem Covers.committed_add_le {change : Address → Int} (h : L.Covers change) (a : Address) :
    L.committed a + change a ≤ L.supply := by
  rw [← h.sum_committed_add]
  exact Finset.single_le_sum (f := fun a => (L.committed a : Int) + change a) (fun a _ => h.solvent a) (Finset.mem_univ a)

theorem Covers.holds {change : Address → Int} (h : L.Covers change) (hL : L.Bounded) (a : Address) :
    L.Holds a (change a) := by
  have hle := h.committed_add_le a
  unfold Bounded at hL
  refine ⟨h.solvent a, ?_⟩
  unfold Delta.limit
  omega

theorem holds_zero (hL : L.Bounded) (a : Address) : L.Holds a 0 := covers_zero.holds hL a

/-- The changes of any accounts, together. -/
theorem Covers.sum_inRange {change : Address → Int} (h : L.Covers change) (hL : L.Bounded) (A : Finset Address) :
    Delta.InRange (∑ a ∈ A, change a) := by
  have hpart : ∀ n : Address → Int, (∀ a, 0 ≤ n a) → 0 ≤ ∑ a ∈ A, n a ∧ ∑ a ∈ A, n a ≤ ∑ a, n a := fun n hn =>
    ⟨Finset.sum_nonneg fun a _ => hn a,
      Finset.sum_le_sum_of_subset_of_nonneg (Finset.subset_univ A) fun a _ _ => hn a⟩
  have hafter := hpart (fun a => L.committed a + change a) h.solvent
  have hbefore := hpart (fun a => (L.committed a : Int)) fun a => by omega
  rw [h.sum_committed_add, Finset.sum_add_distrib] at hafter
  rw [← Nat.cast_sum, ← Nat.cast_sum, show ∑ a, L.committed a = L.supply from rfl] at hbefore
  rw [← Nat.cast_sum] at hafter
  unfold Bounded at hL
  unfold Delta.InRange Delta.limit
  omega

end Ledger

/-! ## Worlds -/

theorem World.committed_ledger {w : World} (h : w.available = true) (a : Address) :
    w.ledger.committed a = ((w.accounts[a]?).map (·.balance.val)).getD 0 := by
  unfold Ledger.committed Ledger.balance Ledger.account
  simp only [ledger, answer, h, if_true, Except.map]
  cases w.accounts[a]? <;> rfl

theorem World.supply_ledger {w : World} (h : w.available = true) :
    w.ledger.supply = (w.accounts.toList.map fun e => e.2.balance.val).sum := by
  rw [AddressMap.sum_toList w.accounts fun account => account.balance.val, Ledger.supply]
  exact Finset.sum_congr rfl fun a _ => committed_ledger h a

theorem World.bounded_ledger {w : World} (h : w.available = true)
    (hsum : (w.accounts.toList.map fun e => e.2.balance.val).sum ≤ 2 ^ 256 - 1) : w.ledger.Bounded := by
  rwa [Ledger.Bounded, supply_ledger h]

/-! ## Flows of value -/

structure Flow where
  sender : Address
  receiver : Address
  value : U256
  deriving DecidableEq, Repr

namespace Flow

/-- What a flow does to the balance of an account; a flow to oneself does nothing. -/
def on (f : Flow) (a : Address) : Int :=
  (if f.receiver = a then (f.value.val : Int) else 0) - (if f.sender = a then (f.value.val : Int) else 0)

/-- What flows do to the balance of an account, all together. -/
def net (fs : List Flow) (a : Address) : Int := (fs.map (·.on a)).sum

@[simp] theorem net_nil (a : Address) : net [] a = 0 := rfl

@[simp] theorem net_cons (f : Flow) (fs : List Flow) (a : Address) : net (f :: fs) a = f.on a + net fs a := rfl

theorem net_append (fs gs : List Flow) (a : Address) : net (fs ++ gs) a = net fs a + net gs a := by
  unfold net
  rw [List.map_append, List.sum_append]

theorem sum_on (f : Flow) : ∑ a, f.on a = 0 := by
  unfold on
  rw [Finset.sum_sub_distrib, Finset.sum_ite_eq, Finset.sum_ite_eq]
  simp

end Flow

theorem Ledger.Covers.flow {L : Ledger} {change : Address → Int} (h : L.Covers change) (f : Flow)
    (hpays : (f.value.val : Int) ≤ L.committed f.sender + change f.sender) : L.Covers fun a => change a + f.on a := by
  constructor
  · intro a
    have ha := h.solvent a
    unfold Flow.on
    by_cases hs : f.sender = a
    · subst hs
      split <;> simp only [if_true] <;> omega
    · rw [if_neg hs]
      split <;> omega
  · rw [Finset.sum_add_distrib, h.balanced, f.sum_on]
    rfl

end ContractHost

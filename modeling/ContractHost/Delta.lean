/-
  ContractHost.Delta — signed balance changes.

  A change is a side and a magnitude of at most 2^256 - 1, and zero stands on the credit
  side. Changes on one side add up and stop at the cap; of two sides the larger magnitude
  wins and keeps its side.
  - `toInt`: the integer that a change stands for; `toInt_injective`: no two stand for one.
  - `toInt_ofSide`: a change built from a side and a magnitude stands for the signed magnitude.
-/

import ContractHost.Capped

namespace ContractHost

structure Delta where
  negative : Bool
  magnitude : U256
  zero_side : magnitude = 0 → negative = false
  deriving DecidableEq, Repr

namespace Delta

@[ext] theorem ext {a b : Delta} (hn : a.negative = b.negative) (hm : a.magnitude = b.magnitude) : a = b := by
  cases a; cases b; cases hn; cases hm; rfl

/-- A change on the given side; zero falls on the credit side. -/
def ofSide (negative : Bool) (magnitude : U256) : Delta :=
  ⟨negative && decide (magnitude ≠ 0), magnitude, fun h => by simp [h]⟩

def credit (amount : U256) : Delta := ofSide false amount

def debit (amount : U256) : Delta := ofSide true amount

def zero : Delta := credit 0

instance : Inhabited Delta := ⟨zero⟩

/-- The change that an integer asks for, its magnitude at most the cap. -/
def ofInt (n : Int) : Delta := ofSide (decide (n < 0)) (Capped.clamp n.natAbs)

def toInt (d : Delta) : Int := if d.negative then -d.magnitude.val else d.magnitude.val

def isZero (d : Delta) : Bool := d.magnitude = 0

def add (a b : Delta) : Delta :=
  if a.negative = b.negative then ofSide a.negative (a.magnitude + b.magnitude)
  else if b.magnitude ≤ a.magnitude then ofSide a.negative (a.magnitude - b.magnitude)
  else ofSide b.negative (b.magnitude - a.magnitude)

instance : Add Delta := ⟨add⟩

/-- The balance after the change; none where it would be below zero. -/
def applyTo (d : Delta) (balance : U256) : Option U256 :=
  if d.negative then balance.checkedSub d.magnitude else some (balance + d.magnitude)

def text (d : Delta) : String := if d.negative then "-" ++ d.magnitude.decimal else d.magnitude.decimal

theorem toInt_ofSide (negative : Bool) (m : U256) :
    (ofSide negative m).toInt = if negative then -(m.val : Int) else m.val := by
  by_cases h : m = 0
  · have hz : m.val = 0 := Capped.eq_zero_iff.1 h
    cases negative <;> simp [ofSide, toInt, hz]
  · cases negative <;> simp [ofSide, toInt, h]

theorem toInt_injective {a b : Delta} (h : a.toInt = b.toInt) : a = b := by
  have key : ∀ d : Delta, d.negative = true → 0 < d.magnitude.val := by
    intro d hd
    rcases Nat.eq_zero_or_pos d.magnitude.val with hz | hp
    · rw [d.zero_side (Capped.eq_zero_iff.2 hz)] at hd
      cases hd
    · exact hp
  unfold toInt at h
  refine ext ?_ (Capped.ext ?_)
  · cases ha : a.negative <;> cases hb : b.negative <;> simp only [ha, hb, if_true, if_false, Bool.false_eq_true] at h ⊢
    · have := key b hb; omega
    · have := key a ha; omega
  · split at h <;> split at h <;> omega

end Delta

end ContractHost

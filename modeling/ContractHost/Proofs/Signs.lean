/-
  ContractHost.Proofs.Signs — zero has one side.

  As plain pairs of a side and a magnitude, changes could have zero on either side (`Signed`).
  The operations put it on the credit side one by one, each where it may come to zero and
  nowhere else: a debit, what is read from a record, a sum on one side, a difference of which
  the second part is no larger. Every pair that they can give in any number of steps has no
  negative zero (`Signed.Obtained.normal`), and these are exactly the pairs that changes are
  (`Signed.obtained_iff`). So a change is known by the integer that it stands for, and to
  calculate with changes is to calculate with integers that stop at the limit on either side
  (`Delta.obtained_arithmetic`).
-/

import ContractHost.Proofs.Delta
import ContractHost.Record.Output

namespace ContractHost

/-! ## Sides and magnitudes -/

/-- A side and a magnitude as they stand. -/
structure Signed where
  negative : Bool
  magnitude : U256
  deriving DecidableEq, Repr

namespace Signed

/-- Zero is not negative. -/
def Normal (p : Signed) : Prop := ¬ (p.negative = true ∧ p.magnitude = 0)

def normalize (p : Signed) : Signed := ⟨p.negative && decide (p.magnitude ≠ 0), p.magnitude⟩

def zero : Signed := ⟨false, 0⟩

def credit (amount : U256) : Signed := ⟨false, amount⟩

def debit (amount : U256) : Signed := ⟨decide (amount ≠ 0), amount⟩

def ofInt64 (n : Int64) : Signed :=
  let magnitude := Capped.clamp n.toInt.natAbs
  if n < 0 then debit magnitude else credit magnitude

/-- The two fields of a record, whatever they are. -/
def ofJson? (j : Json) : Option Signed := do
  match ← j.fields? ["negative", "magnitude"] with
  | [negative, magnitude] => return ⟨← negative.bool?, ← U256.ofJson? magnitude⟩
  | _ => none

/-- In the last case the difference is not zero, and its side is taken as it is. -/
def add (p q : Signed) : Signed :=
  if p.negative = q.negative then normalize ⟨p.negative, p.magnitude + q.magnitude⟩
  else if q.magnitude ≤ p.magnitude then normalize ⟨p.negative, p.magnitude - q.magnitude⟩
  else ⟨q.negative, q.magnitude - p.magnitude⟩

/-- The pairs that the operations give. -/
inductive Obtained : Signed → Prop
  | zero : Obtained zero
  | credit (amount : U256) : Obtained (credit amount)
  | debit (amount : U256) : Obtained (debit amount)
  | ofInt64 (n : Int64) : Obtained (ofInt64 n)
  | read {j : Json} {p : Signed} (hread : ofJson? j = some p) : Obtained p.normalize
  | add {p q : Signed} (hp : Obtained p) (hq : Obtained q) : Obtained (p.add q)

variable {p q : Signed}

theorem add_of_side (hside : p.negative = q.negative) :
    p.add q = normalize ⟨p.negative, p.magnitude + q.magnitude⟩ := if_pos hside

theorem add_of_le (hside : ¬ p.negative = q.negative) (hle : q.magnitude ≤ p.magnitude) :
    p.add q = normalize ⟨p.negative, p.magnitude - q.magnitude⟩ := (if_neg hside).trans (if_pos hle)

theorem add_of_not_le (hside : ¬ p.negative = q.negative) (hle : ¬ q.magnitude ≤ p.magnitude) :
    p.add q = ⟨q.negative, q.magnitude - p.magnitude⟩ := (if_neg hside).trans (if_neg hle)

theorem sub_ne_zero {a b : U256} (h : ¬ b ≤ a) : b - a ≠ 0 := by
  rw [Capped.le_iff] at h
  rw [Ne, Capped.eq_zero_iff, Capped.val_sub]
  omega

/-! ### Without a negative zero -/

theorem normal_normalize (p : Signed) : p.normalize.Normal := by
  rintro ⟨hside, hzero⟩
  simp only [normalize, Bool.and_eq_true, decide_eq_true_eq] at hside hzero
  exact hside.2 hzero

theorem normalize_of_ne_zero (h : p.magnitude ≠ 0) : p.normalize = p := by
  rw [normalize, decide_eq_true h, Bool.and_true]

theorem normal_credit (amount : U256) : (credit amount).Normal := fun h => Bool.false_ne_true h.1

theorem normal_debit (amount : U256) : (debit amount).Normal := fun h => of_decide_eq_true h.1 h.2

theorem normal_add (p q : Signed) : (p.add q).Normal := by
  by_cases hside : p.negative = q.negative
  · rw [add_of_side hside]
    exact normal_normalize _
  by_cases hle : q.magnitude ≤ p.magnitude
  · rw [add_of_le hside hle]
    exact normal_normalize _
  · rw [add_of_not_le hside hle]
    exact fun h => sub_ne_zero hle h.2

theorem Obtained.normal (h : p.Obtained) : p.Normal := by
  cases h with
  | zero => exact normal_credit 0
  | credit amount => exact normal_credit amount
  | debit amount => exact normal_debit amount
  | ofInt64 n =>
    unfold Signed.ofInt64
    dsimp only
    split
    · exact normal_debit _
    · exact normal_credit _
  | read hread => exact normal_normalize _
  | add hp hq => exact normal_add _ _

end Signed

/-! ## Changes by their parts -/

namespace Delta

def signed (d : Delta) : Signed := ⟨d.negative, d.magnitude⟩

theorem signed_ofSide (negative : Bool) (m : U256) : (ofSide negative m).signed = Signed.normalize ⟨negative, m⟩ := rfl

theorem signed_credit (m : U256) : (credit m).signed = .credit m := by
  rw [credit, signed_ofSide]
  rfl

theorem signed_debit (m : U256) : (debit m).signed = .debit m := by
  rw [debit, signed_ofSide, Signed.normalize, Bool.true_and]
  rfl

theorem signed_ofInt (n : Int64) : (ofInt n.toInt).signed = .ofInt64 n := by
  unfold ofInt Signed.ofInt64
  dsimp only
  split <;> rename_i hside <;> rw [Int64.lt_iff_toInt_lt, Int64.toInt_zero] at hside
  · rw [decide_eq_true hside]
    exact signed_debit _
  · rw [decide_eq_false hside]
    exact signed_credit _

theorem signed_add (a b : Delta) : (a + b).signed = a.signed.add b.signed := by
  show (add a b).signed = _
  unfold add
  split
  · rename_i hside
    exact (Signed.add_of_side (p := a.signed) (q := b.signed) hside).symm
  rename_i hside
  split
  · rename_i hle
    exact (Signed.add_of_le (p := a.signed) (q := b.signed) hside hle).symm
  · rename_i hle
    rw [signed_ofSide, Signed.normalize_of_ne_zero (Signed.sub_ne_zero hle)]
    exact (Signed.add_of_not_le (p := a.signed) (q := b.signed) hside hle).symm

theorem signed_ofJson? (j : Json) : (ofJson? j).map signed = (Signed.ofJson? j).map Signed.normalize := by
  unfold ofJson? Signed.ofJson?
  rcases j.fields? ["negative", "magnitude"] with _ | fields
  · rfl
  match fields with
  | [negative, magnitude] =>
    simp only [Option.bind_eq_bind, Option.bind_some]
    cases negative.bool? <;> cases U256.ofJson? magnitude <;> rfl
  | [] | [_] | _ :: _ :: _ :: _ => rfl

/-- The parts of a change come out of every operation as they do for pairs. -/
structure ByParts : Prop where
  zero : Delta.zero.signed = .zero
  credit : ∀ m, (credit m).signed = .credit m
  debit : ∀ m, (debit m).signed = .debit m
  ofInt64 : ∀ n : Int64, (ofInt n.toInt).signed = .ofInt64 n
  read : ∀ j, (ofJson? j).map signed = (Signed.ofJson? j).map Signed.normalize
  add : ∀ a b : Delta, (a + b).signed = a.signed.add b.signed

theorem byParts : ByParts := ⟨signed_credit 0, signed_credit, signed_debit, signed_ofInt, signed_ofJson?, signed_add⟩

end Delta

/-- The pairs that can be obtained are the changes. -/
theorem Signed.obtained_iff {p : Signed} : p.Obtained ↔ ∃ d : Delta, d.signed = p := by
  constructor
  · intro h
    exact ⟨⟨p.negative, p.magnitude, fun hzero => Bool.eq_false_iff.2 fun hside => h.normal ⟨hside, hzero⟩⟩, rfl⟩
  · rintro ⟨⟨negative, magnitude, hzero⟩, rfl⟩
    cases negative with
    | false => exact .credit magnitude
    | true =>
      have hne : magnitude ≠ 0 := fun h => Bool.noConfusion (hzero h)
      have hdebit : debit magnitude = ⟨true, magnitude⟩ := by rw [debit, decide_eq_true hne]
      show Obtained ⟨true, magnitude⟩
      rw [← hdebit]
      exact .debit magnitude

namespace Delta

/-- Whatever the operations give has no negative zero and is a change, and changes are integers that stop at the limit:
    they are the same where they stand for one integer, add up as integers, and a balance takes one where it stays at
    zero or more. -/
theorem obtained_arithmetic :
    ByParts ∧ (∀ p : Signed, p.Obtained → p.Normal) ∧ (∀ p : Signed, p.Obtained ↔ ∃ d : Delta, d.signed = p) ∧
    (∀ n : Int64, (ofInt n.toInt).toInt = n.toInt) ∧
    (∀ a b : Delta, (a = b ↔ a.toInt = b.toInt) ∧ (a + b).toInt = max (-limit) (min limit (a.toInt + b.toInt)) ∧
      a + b = b + a ∧ a + .zero = a) ∧
    ∀ (d : Delta) (balance : U256), d.applyTo balance =
      if (balance.val : Int) + d.toInt < 0 then none else some (Capped.clamp ((balance.val : Int) + d.toInt).toNat) := by
  refine ⟨byParts, fun p => Signed.Obtained.normal, fun p => Signed.obtained_iff, fun n => ?_, fun a b => ?_, applyTo_eq⟩
  · have hlow := n.le_toInt
    have hhigh := n.toInt_lt
    rw [toInt_ofInt]
    unfold limit
    omega
  · exact ⟨⟨congrArg toInt, toInt_injective⟩, toInt_add a b, add_comm a b, add_zero a⟩

end Delta

end ContractHost

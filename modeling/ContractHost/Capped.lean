/-
  ContractHost.Capped — natural numbers that stop at a greatest value.

  Gas, nonces and counts stop at 2^64 - 1 (`U64`), balances at 2^256 - 1 (`U256`). A sum
  or product that would pass the cap is the cap itself, a difference stops at zero.
  - `val_add`, `val_mul`, `val_sub`: what each operation is on the values.
  - `val_ofNat`: a numeral is its number, or the cap where that is smaller.
  - `checkedSub_eq_some_iff`: the difference that refuses to stop at zero.
-/

namespace ContractHost

@[ext] structure Capped (top : Nat) where
  val : Nat
  val_le : val ≤ top
  deriving DecidableEq, Repr

abbrev U64 := Capped 0xffffffffffffffff

abbrev U256 := Capped 0xffffffffffffffffffffffffffffffffffffffffffffffffffffffffffffffff

namespace Capped

variable {top : Nat}

/-- The capped number nearest to `n`. -/
def clamp (n : Nat) : Capped top := ⟨min n top, Nat.min_le_right n top⟩

/-- `n` itself, where the cap allows it. -/
def ofNat? (n : Nat) : Option (Capped top) := if h : n ≤ top then some ⟨n, h⟩ else none

def greatest : Capped top := ⟨top, Nat.le_refl top⟩

instance (n : Nat) : OfNat (Capped top) n := ⟨clamp n⟩

instance : Inhabited (Capped top) := ⟨0⟩

instance : Add (Capped top) := ⟨fun a b => clamp (a.val + b.val)⟩

instance : Mul (Capped top) := ⟨fun a b => clamp (a.val * b.val)⟩

instance : Sub (Capped top) := ⟨fun a b => ⟨a.val - b.val, Nat.le_trans (Nat.sub_le a.val b.val) a.val_le⟩⟩

instance : LE (Capped top) := ⟨fun a b => a.val ≤ b.val⟩

instance : LT (Capped top) := ⟨fun a b => a.val < b.val⟩

instance (a b : Capped top) : Decidable (a ≤ b) := inferInstanceAs (Decidable (a.val ≤ b.val))

instance (a b : Capped top) : Decidable (a < b) := inferInstanceAs (Decidable (a.val < b.val))

instance : Min (Capped top) := ⟨fun a b => if a ≤ b then a else b⟩

instance : Max (Capped top) := ⟨fun a b => if a ≤ b then b else a⟩

/-- The difference, unless it would be below zero. -/
def checkedSub (a b : Capped top) : Option (Capped top) := if b ≤ a then some (a - b) else none

/-- The number in decimal digits. -/
def decimal (a : Capped top) : String := a.val.repr

@[simp] theorem val_clamp (n : Nat) : (clamp n : Capped top).val = min n top := rfl

@[simp] theorem val_ofNat (n : Nat) : (OfNat.ofNat n : Capped top).val = min n top := rfl

@[simp] theorem val_greatest : (greatest : Capped top).val = top := rfl

@[simp] theorem val_add (a b : Capped top) : (a + b).val = min (a.val + b.val) top := rfl

@[simp] theorem val_mul (a b : Capped top) : (a * b).val = min (a.val * b.val) top := rfl

@[simp] theorem val_sub (a b : Capped top) : (a - b).val = a.val - b.val := rfl

theorem le_iff {a b : Capped top} : a ≤ b ↔ a.val ≤ b.val := Iff.rfl

theorem lt_iff {a b : Capped top} : a < b ↔ a.val < b.val := Iff.rfl

theorem val_min (a b : Capped top) : (min a b).val = min a.val b.val := by
  show (if a ≤ b then a else b).val = _
  split <;> rename_i h <;> rw [le_iff] at h <;> omega

theorem val_max (a b : Capped top) : (max a b).val = max a.val b.val := by
  show (if a ≤ b then b else a).val = _
  split <;> rename_i h <;> rw [le_iff] at h <;> omega

/-- A product with a clamped number stops at the cap as the one with the number itself would. -/
theorem val_mul_clamp (a : Capped top) (n : Nat) : (a * clamp n).val = min (a.val * n) top := by
  rw [val_mul, val_clamp]
  rcases Nat.eq_zero_or_pos a.val with ha | ha
  · rw [ha, Nat.zero_mul, Nat.zero_mul]
  · have htop : top ≤ a.val * top := Nat.le_mul_of_pos_left top ha
    have hn : n ≤ a.val * n := Nat.le_mul_of_pos_left n ha
    rcases Nat.le_total n top with hle | hle
    · rw [Nat.min_eq_left hle]
    · rw [Nat.min_eq_right hle]
      omega

theorem le_add_right (a b : Capped top) : a ≤ a + b :=
  le_iff.2 (Nat.le_min_of_le_of_le (Nat.le_add_right _ _) a.val_le)

theorem eq_greatest_iff {a : Capped top} : a = greatest ↔ top ≤ a.val := by
  rw [Capped.ext_iff, val_greatest]
  have hle := a.val_le
  omega

theorem eq_zero_iff {a : Capped top} : a = 0 ↔ a.val = 0 := by
  rw [Capped.ext_iff, val_ofNat, Nat.zero_min]

theorem clamp_val (a : Capped top) : clamp a.val = a := Capped.ext (Nat.min_eq_left a.val_le)

theorem ofNat?_eq_some_iff {n : Nat} {a : Capped top} : ofNat? n = some a ↔ n = a.val := by
  unfold ofNat?
  split
  · simp [Capped.ext_iff]
  · rename_i h
    simp only [reduceCtorEq, false_iff]
    rintro rfl
    exact h a.val_le

theorem ofNat?_val (a : Capped top) : ofNat? a.val = some a := ofNat?_eq_some_iff.2 rfl

theorem checkedSub_eq_some_iff {a b c : Capped top} : a.checkedSub b = some c ↔ b.val + c.val = a.val := by
  unfold checkedSub
  split <;> rename_i h <;> rw [le_iff] at h <;> simp only [Option.some.injEq, reduceCtorEq, false_iff, Capped.ext_iff,
    val_sub] <;> omega

end Capped

end ContractHost

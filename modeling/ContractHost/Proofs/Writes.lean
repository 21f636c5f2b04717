/-
  ContractHost.Proofs.Writes — all that a storage write does.

  The rules of a write are looked at in order: the reserved keys, the protected ones in a
  guarded call, the read-only call, the gas. Each of them ends the write with the staging
  and the meter as they were, and a write that passes them all is one value put and paid
  (`Staging.write_outcomes`). What reads show after it is that value in its place and
  everything else as before, and to write it again is to do nothing (`Staging.Accepted`).
-/

import ContractHost.Proofs.Prices

namespace ContractHost

namespace Meter

theorem free_zero (m : Meter) : m.free 0 = m := by
  obtain ⟨⟨provided, used, freed⟩, parked⟩ := m
  have hfreed : freed + 0 = freed := by
    ext
    rw [Capped.val_add, Capped.val_ofNat, Nat.zero_min, Nat.add_zero, Nat.min_eq_left freed.val_le]
  unfold free
  rw [hfreed]

end Meter

namespace Staging

variable {c : HostConfig} {L : Ledger} {s : Staging} {m : Meter} {key value : Bytes}

/-! ## The value put -/

theorem get_put (key value : Bytes) : (s.put key value).get L key = value :=
  (valueOf_put key value _ key).trans (if_pos rfl)

theorem getFrom_put {a : Address} {k : Bytes} (hother : (a, k) ≠ (s.frame.address, key)) :
    (s.put key value).getFrom L a k = s.getFrom L a k := by
  have hvalue : (s.put key value).valueOf L a k = s.valueOf L a k := (valueOf_put key value a k).trans (if_neg hother)
  have haddress : (s.put key value).frame.address = s.frame.address := rfl
  unfold getFrom get
  rw [haddress]
  split
  · rename_i ha
    rw [← ha, hvalue]
  · rw [hvalue]

/-- Of two values put under a key the later one is all that is left. -/
theorem put_put (key earlier later : Bytes) : (s.put key earlier).put key later = s.put key later := by
  have hupdates : ((s.put key earlier).updates s.frame.address).insert key ⟨key, later⟩ =
      (s.updates s.frame.address).insert key ⟨key, later⟩ := by
    ext1 k
    rw [updates_put, if_pos rfl, Std.ExtTreeMap.getElem?_insert, Std.ExtTreeMap.getElem?_insert,
      Std.ExtTreeMap.getElem?_insert]
    split <;> rfl
  have haccounts : ∀ first second : AccountStorage,
      (s.accounts.insert s.frame.address first).insert s.frame.address second =
        s.accounts.insert s.frame.address second := by
    intro first second
    ext1 a
    rw [Std.ExtTreeMap.getElem?_insert, Std.ExtTreeMap.getElem?_insert, Std.ExtTreeMap.getElem?_insert]
    split <;> rfl
  unfold put at hupdates ⊢
  dsimp only at hupdates ⊢
  rw [hupdates, haccounts]

/-! ## The rules -/

/-- A guarded call and a protected key. -/
def Protects (c : HostConfig) (s : Staging) (key : Bytes) : Prop := s.frame.guarded = true ∧ c.protectedKeys <+: key

/-- Nothing but the gas is in the way of a write. -/
structure Admits (c : HostConfig) (s : Staging) (key : Bytes) : Prop where
  unreserved : ¬ c.reservedKeys <+: key
  unprotected : ¬ s.Protects c key
  writable : s.frame.readOnly = false

theorem writeCost_eq : s.writeCost c L key value =
    c.schedule.write (s.get L key).length value.length (decide (s.get L key ≠ value)) := by
  have hchanged : (StorageStatus.classify (s.get L key) value != .unchanged) = decide (s.get L key ≠ value) := by
    rw [Bool.eq_iff_iff, bne_iff_ne, decide_eq_true_iff, Ne, StorageStatus.classify_eq_unchanged]
  rw [writeCost, hchanged]

/-- The rules in their order, and the write that each of them makes. -/
theorem write_outcomes (c : HostConfig) (L : Ledger) (s : Staging) (m : Meter) (key value : Bytes) :
    (c.reservedKeys <+: key ∧ s.write c L m key value = ⟨.error .reservedKey, s, m⟩) ∨
    ((¬ c.reservedKeys <+: key ∧ s.Protects c key) ∧ s.write c L m key value = ⟨.error .protectedKey, s, m⟩) ∨
    ((¬ c.reservedKeys <+: key ∧ ¬ s.Protects c key ∧ s.frame.readOnly = true) ∧
      s.write c L m key value = ⟨.ok .unchanged, s, m⟩) ∨
    ((s.Admits c key ∧ m.left < (s.writeCost c L key value).charge) ∧
      s.write c L m key value = ⟨.error .outOfGas, s, m⟩) ∨
    (s.Admits c key ∧ (s.writeCost c L key value).charge ≤ m.left) ∧
      s.write c L m key value = ⟨.ok (.classify (s.get L key) value), s.put key value,
        (m.spend (s.writeCost c L key value).charge).free (s.writeCost c L key value).release⟩ := by
  have hreserved : c.isReserved key = true ↔ c.reservedKeys <+: key := List.isPrefixOf_iff_prefix
  have hprotected : (s.frame.guarded = true ∧ c.isProtected key = true) ↔ s.Protects c key :=
    and_congr_right fun _ => List.isPrefixOf_iff_prefix
  have hrules := s.write_rules c L m key value
  simp only [← Bool.not_eq_true (c.isReserved key), hreserved, hprotected] at hrules
  rcases hrules with ⟨hkey, hw⟩ | ⟨hkey, hguard, hw⟩ | ⟨hkey, hguard, hro, hw⟩ | ⟨hkey, hguard, hrw, hm, hw⟩ |
    ⟨meter, hkey, hguard, hrw, hm, hw⟩
  · exact .inl ⟨hkey, hw⟩
  · exact .inr (.inl ⟨⟨hkey, hguard⟩, hw⟩)
  · exact .inr (.inr (.inl ⟨⟨hkey, hguard, hro⟩, hw⟩))
  · exact .inr (.inr (.inr (.inl ⟨⟨⟨hkey, hguard, hrw⟩, Meter.use?_eq_none_iff.1 hm⟩, hw⟩)))
  · obtain ⟨hle, rfl⟩ := Meter.use?_eq_some_iff.1 hm
    exact .inr (.inr (.inr (.inr ⟨⟨⟨hkey, hguard, hrw⟩, hle⟩, hw⟩)))

/-- A write that only the gas is in the way of. -/
theorem write_admitted (hadmits : s.Admits c key) (value : Bytes) :
    s.write c L m key value = match m.use? (s.writeCost c L key value).charge with
      | some meter => ⟨.ok (.classify (s.get L key) value), s.put key value,
          meter.free (s.writeCost c L key value).release⟩
      | none => ⟨.error .outOfGas, s, m⟩ := by
  rcases s.write_outcomes c L m key value with
    ⟨hkey, -⟩ | ⟨⟨-, hguard⟩, -⟩ | ⟨⟨-, -, hro⟩, -⟩ | ⟨⟨-, hlt⟩, hw⟩ | ⟨⟨-, hle⟩, hw⟩
  · exact absurd hkey hadmits.unreserved
  · exact absurd hguard hadmits.unprotected
  · exact absurd (hro.symm.trans hadmits.writable) (by decide)
  · rw [hw, Meter.use?_eq_none_iff.2 hlt]
  · rw [hw, Meter.use?_spend hle]

/-- What a write has done that nothing was in the way of and that was paid. -/
structure Accepted (c : HostConfig) (L : Ledger) (s : Staging) (m : Meter) (key value : Bytes) (cost : WriteCost)
    (w : Written) : Prop where
  result : w.result = .ok (.classify (s.get L key) value)
  used : w.meter.frame.used.val = m.frame.used.val + cost.charge.val
  freed : w.meter.frame.freed = m.frame.freed + cost.release
  provided : w.meter.frame.provided = m.frame.provided
  parked : w.meter.parked = m.parked
  frame : w.staging.frame = s.frame
  saved : w.staging.saved = s.saved
  get : w.staging.get L key = value
  valueOf : ∀ a k, (a, k) ≠ (s.frame.address, key) → w.staging.valueOf L a k = s.valueOf L a k
  getFrom : ∀ a k, (a, k) ≠ (s.frame.address, key) → w.staging.getFrom L a k = s.getFrom L a k
  repeated : w.staging.write c L w.meter key value = ⟨.ok .unchanged, w.staging, w.meter⟩

/-- A write of what is staged already costs nothing and changes nothing. -/
theorem write_again (hadmits : s.Admits c key) (hvalue : s.get L key = value) (hput : s.put key value = s) :
    s.write c L m key value = ⟨.ok .unchanged, s, m⟩ := by
  have hcost : s.writeCost c L key value = ⟨0, 0⟩ := by
    rw [writeCost_eq, hvalue, decide_eq_false (not_not.2 rfl)]
    rfl
  have hstatus : StorageStatus.classify (s.get L key) value = .unchanged := StorageStatus.classify_eq_unchanged.2 hvalue
  rw [write_admitted hadmits, hcost, hstatus, hput, Meter.use?_zero]
  dsimp only
  rw [Meter.free_zero]

theorem accepted_put (hadmits : s.Admits c key) (hpaid : (s.writeCost c L key value).charge ≤ m.left) :
    s.Accepted c L m key value (s.writeCost c L key value)
      ⟨.ok (.classify (s.get L key) value), s.put key value,
        (m.spend (s.writeCost c L key value).charge).free (s.writeCost c L key value).release⟩ where
  result := rfl
  used := Meter.val_used_spend hpaid
  freed := rfl
  provided := rfl
  parked := rfl
  frame := rfl
  saved := rfl
  get := get_put key value
  valueOf a k hother := (valueOf_put key value a k).trans (if_neg hother)
  getFrom _ _ hother := getFrom_put hother
  repeated := write_again ⟨hadmits.unreserved, hadmits.unprotected, hadmits.writable⟩ (get_put key value)
    (put_put key value value)

/-- A write is refused for the class of its key, or skipped, or cannot be paid, and then nothing has changed, or it has
    put its value for what the value in its place and the new one make it cost. -/
theorem write_contract (c : HostConfig) (L : Ledger) (s : Staging) (m : Meter) (key value : Bytes) :
    let w := s.write c L m key value
    let old := s.get L key
    let cost := c.schedule.write old.length value.length (decide (old ≠ value))
    (w.result = .error .reservedKey ↔ c.reservedKeys <+: key) ∧
    (w.result = .error .protectedKey ↔ ¬ c.reservedKeys <+: key ∧ s.Protects c key) ∧
    (¬ c.reservedKeys <+: key → ¬ s.Protects c key → s.frame.readOnly = true → w.result = .ok .unchanged) ∧
    (w.result = .error .outOfGas ↔ s.Admits c key ∧ m.left < cost.charge) ∧
    (¬ (s.Admits c key ∧ cost.charge ≤ m.left) → w.staging = s ∧ w.meter = m) ∧
    (s.Admits c key → cost.charge ≤ m.left → s.Accepted c L m key value cost w) := by
  intro w old cost
  have hcost : cost = s.writeCost c L key value := writeCost_eq.symm
  rcases s.write_outcomes c L m key value with
    ⟨hkey, hw⟩ | ⟨⟨hkey, hguard⟩, hw⟩ | ⟨⟨hkey, hguard, hro⟩, hw⟩ | ⟨⟨hadmits, hlt⟩, hw⟩ | ⟨⟨hadmits, hle⟩, hw⟩
  · have hadmits : ¬ s.Admits c key := fun h => h.unreserved hkey
    simp [w, hw, hkey, hadmits]
  · have hadmits : ¬ s.Admits c key := fun h => h.unprotected hguard
    simp [w, hw, hkey, hguard, hadmits]
  · have hadmits : ¬ s.Admits c key := fun h => absurd (hro.symm.trans h.writable) (by decide)
    simp [w, hw, hkey, hguard, hadmits]
  · rw [← hcost] at hlt
    have hunpaid : ¬ cost.charge ≤ m.left := Nat.not_le.2 hlt
    simp [w, hw, hadmits, hadmits.unreserved, hadmits.unprotected, hadmits.writable, hlt, hunpaid]
  · have haccepted := accepted_put hadmits hle
    rw [← hcost] at hle haccepted
    have hlt : ¬ m.left < cost.charge := Nat.not_lt.2 hle
    simpa [w, hw, hadmits, hadmits.unreserved, hadmits.unprotected, hadmits.writable, hlt, hle, ← hcost] using haccepted

/-- Prefixes of which one begins the other: a key under both is reserved, one under the shorter is protected. -/
theorem write_contract_overlapping :
    let c := { HostConfig.standard with reservedKeys := [1, 2], protectedKeys := [1] }
    let L := World.empty.ledger
    (empty.write c L (.ofGas 100) [1, 2, 3] [9]).result = .error .reservedKey ∧
      (empty.write c L (.ofGas 100) [1, 3] [9]).result = .error .protectedKey ∧
      (empty.write c L (.ofGas 99) [3] [9, 9]).result = .error .outOfGas ∧
      empty.Accepted c L (.ofGas 100) [3] [9, 9] ⟨100, 0⟩ (empty.write c L (.ofGas 100) [3] [9, 9]) := by
  intro c L
  have hadmits : empty.Admits c [3] := ⟨by decide, fun h => absurd h.2 (by decide), rfl⟩
  refine ⟨?_, ?_, ?_, ?_⟩
  · exact (write_contract c L empty (.ofGas 100) [1, 2, 3] [9]).1.2 (by decide)
  · exact (write_contract c L empty (.ofGas 100) [1, 3] [9]).2.1.2 ⟨by decide, rfl, by decide⟩
  · exact (write_contract c L empty (.ofGas 99) [3] [9, 9]).2.2.2.1.2 ⟨hadmits, by decide +kernel⟩
  · exact (write_contract c L empty (.ofGas 100) [3] [9, 9]).2.2.2.2.2 hadmits (by decide +kernel)

end Staging

end ContractHost

/-
  ContractHost.Proofs.KeyClasses — why neither prefix may begin the other.

  Two prefixes begin one key only if one of them begins the other. A configuration is
  therefore valid exactly if its prefixes are there, calls may nest, and no key at all is both
  reserved and protected (`HostConfig.validate_eq_ok_iff`). Then no protected key is reserved,
  and nothing but the gas is in the way of the host that writes one with the guard lifted. An
  upgrade is such a write: where it is allowed at all, it is paid twice, for the code and for
  the metadata, and fails only where there is too little gas for the two (`Host.upgrade_outcomes`,
  `HostConfig.valid_separates`).
-/

import ContractHost.Proofs.Writes

namespace ContractHost

/-! ## Prefixes -/

namespace HostConfig

variable {c : HostConfig}

/-- No key begins with both prefixes. -/
def Separate (c : HostConfig) : Prop := ∀ key : Bytes, ¬ (c.reservedKeys <+: key ∧ c.protectedKeys <+: key)

theorem separate_iff :
    c.Separate ↔ ¬ (c.protectedKeys <+: c.reservedKeys ∨ c.reservedKeys <+: c.protectedKeys) := by
  constructor
  · rintro h (hbegins | hbegins)
    · exact h c.reservedKeys ⟨List.prefix_refl _, hbegins⟩
    · exact h c.protectedKeys ⟨hbegins, List.prefix_refl _⟩
  · rintro h key ⟨hreserved, hprotected⟩
    exact h (List.prefix_or_prefix_of_prefix hprotected hreserved)

theorem validate_eq_ok_iff :
    c.validate = .ok () ↔ 0 < c.maxCallDepth ∧ c.reservedKeys ≠ [] ∧ c.protectedKeys ≠ [] ∧ c.Separate := by
  have hdepth : 0 < c.maxCallDepth ↔ ¬ c.maxCallDepth = 0 := by
    rw [Capped.lt_iff, Capped.eq_zero_iff, Capped.eq_zero_iff.1 rfl, Nat.pos_iff_ne_zero]
  rw [separate_iff, hdepth]
  unfold validate
  simp only [List.isEmpty_iff, List.isPrefixOf_iff_prefix]
  split
  · rename_i hreserved
    simp [hreserved]
  split
  · rename_i hprotected
    simp [hprotected]
  split
  · rename_i hbegins
    simp [hbegins]
  rename_i hreserved hprotected hbegins
  split
  · rename_i hzero
    simp [hzero]
  · rename_i hzero
    exact iff_of_true rfl ⟨hzero, hreserved, hprotected, hbegins⟩

theorem not_reserved_protectedKey (h : c.Separate) (name : Bytes) : ¬ c.reservedKeys <+: c.protectedKey name :=
  fun hkey => h _ ⟨hkey, List.prefix_append _ _⟩

end HostConfig

/-! ## Writes with the guard lifted -/

namespace Staging

variable {c : HostConfig} {L : Ledger} {s : Staging} {m : Meter}

theorem not_protects_of_unguarded (hguard : s.frame.guarded = false) (key : Bytes) : ¬ s.Protects c key :=
  fun hprotects => absurd (hprotects.1.symm.trans hguard) (by decide)

theorem admits_protectedKey (h : c.Separate) (hguard : s.frame.guarded = false) (hrw : s.frame.readOnly = false)
    (name : Bytes) : s.Admits c (c.protectedKey name) where
  unreserved := HostConfig.not_reserved_protectedKey h name
  unprotected := not_protects_of_unguarded hguard _
  writable := hrw

/-- Without the guard a protected key is never refused for its class. -/
theorem write_protectedKey (h : c.Separate) (hguard : s.frame.guarded = false) (name value : Bytes) :
    (s.write c L m (c.protectedKey name) value).result ≠ .error .reservedKey ∧
      (s.write c L m (c.protectedKey name) value).result ≠ .error .protectedKey := by
  have hreserved := HostConfig.not_reserved_protectedKey h name
  have hprotects : ¬ s.Protects c (c.protectedKey name) := not_protects_of_unguarded hguard _
  rcases s.write_outcomes c L m (c.protectedKey name) value with
    ⟨hkey, -⟩ | ⟨⟨-, hprotected⟩, -⟩ | ⟨-, hw⟩ | ⟨-, hw⟩ | ⟨-, hw⟩
  · exact absurd hkey hreserved
  · exact absurd hprotected hprotects
  all_goals
    rw [hw]
    exact ⟨nofun, nofun⟩

end Staging

/-! ## Upgrades -/

namespace Host

open ContractHost.Action

variable {c : HostConfig} {L : Ledger} {h : Host}

/-- What is written with the guard lifted is paid and put, and the guard is as it was. -/
theorem unguarded_writeStorage_outcomes {key : Bytes} (hadmits : (h.staging.setGuarded false).Admits c key)
    (value : Bytes) :
    let cost := h.staging.writeCost c L key value
    (h.meter.left < cost.charge ∧
      unguarded (writeStorage c L key value) h = (.error (.storage .outOfGas), h)) ∨
    (cost.charge ≤ h.meter.left ∧
      unguarded (writeStorage c L key value) h = (.ok (.classify (h.staging.get L key) value),
        { h with
          meter := (h.meter.spend cost.charge).free cost.release
          staging := h.staging.put key value })) := by
  intro cost
  have hwrite := Staging.write_admitted (L := L) (m := h.meter) hadmits value
  -- the guard has no part in what is staged and what a write costs
  have hcost : (h.staging.setGuarded false).writeCost c L key value = cost := rfl
  have hold : (h.staging.setGuarded false).get L key = h.staging.get L key := rfl
  rw [hcost, hold] at hwrite
  rcases Nat.lt_or_ge h.meter.left.val cost.charge.val with hlt | hle
  · rw [Meter.use?_eq_none_iff.2 hlt] at hwrite
    exact .inl ⟨hlt, unguarded_of_write h.staging rfl hwrite⟩
  · rw [Meter.use?_spend hle] at hwrite
    exact .inr ⟨hle, unguarded_of_write (h.staging.put key value) rfl hwrite⟩

/-- Where an upgrade is allowed its two payments decide. -/
theorem upgrade_outcomes (hseparate : c.Separate) (hrw : h.readOnly = false) (hup : L.Upgradeable h.address)
    (code : Bytes) (metadata : CodeMetadata) :
    let price := c.schedule.charge .upgradeContract .compilePerByte code.length
    let key := c.protectedKey metadataKey
    let cost := h.staging.writeCost c L key metadata.bytes
    (h.meter.left < price ∧ upgrade c L code metadata h = (.error .outOfGas, h)) ∨
    ((price ≤ h.meter.left ∧ h.meter.left.val < price.val + cost.charge.val) ∧
      upgrade c L code metadata h = (.error (.storage .outOfGas), { h with meter := h.meter.spend price })) ∨
    (price.val + cost.charge.val ≤ h.meter.left.val ∧
      upgrade c L code metadata h = (.ok (),
        { h with
          meter := ((h.meter.spend price).spend cost.charge).free cost.release
          staging := h.staging.put key metadata.bytes
          output := h.output.deploy h.address code metadata })) := by
  intro price key cost
  obtain ⟨current, hcurrent, hupgradeable⟩ := hup
  have hwritable : require (!h.readOnly) .writeInReadOnly h = (.ok (), h) := by
    rw [hrw]
    rfl
  have hfound : lookup (L.metadata h.address) h = (.ok current, h) := by
    rw [hcurrent]
    rfl
  have hallowed : require current.upgradeable (.userError "contract is not upgradeable") h = (.ok (), h) := by
    rw [hupgradeable]
    rfl
  have hadmits : (h.staging.setGuarded false).Admits c key :=
    Staging.admits_protectedKey (s := h.staging.setGuarded false) hseparate rfl hrw metadataKey
  unfold upgrade charge
  simp only [bind_apply, read_apply, hwritable, hfound, hallowed]
  rcases useGas_outcomes price h with ⟨hlt, hpaid⟩ | ⟨hle, hpaid⟩ <;> rw [hpaid]
  · exact .inl ⟨hlt, rfl⟩
  have hleft : (h.meter.spend price).left.val = h.meter.left.val - price.val := Meter.val_left_spend hle
  rw [Capped.le_iff] at hle
  rcases unguarded_writeStorage_outcomes (L := L) (h := { h with meter := h.meter.spend price }) hadmits
    metadata.bytes with ⟨hlt', hw⟩ | ⟨hle', hw⟩
  · have hshort : (h.meter.spend price).left.val < cost.charge.val := hlt'
    refine .inr (.inl ⟨⟨hle, ?_⟩, ?_⟩)
    · omega
    · dsimp only
      rw [hw]
  · have henough : cost.charge.val ≤ (h.meter.spend price).left.val := hle'
    refine .inr (.inr ⟨?_, ?_⟩)
    · omega
    · dsimp only
      rw [hw]
      rfl

end Host

/-! ## Valid configurations -/

/-- A configuration is valid exactly if calls may nest and its prefixes are there and begin no key together. In a
    valid one no protected key is reserved, no write of one without the guard is refused for its class, and an
    upgrade that is allowed ends well exactly if there is gas for the code and the metadata. -/
theorem HostConfig.valid_separates (c : HostConfig) :
    (c.validate = .ok () ↔ 0 < c.maxCallDepth ∧ c.reservedKeys ≠ [] ∧ c.protectedKeys ≠ [] ∧
      ∀ key : Bytes, ¬ (c.reservedKeys <+: key ∧ c.protectedKeys <+: key)) ∧
    (c.validate = .ok () →
      (∀ name, c.isReserved (c.protectedKey name) = false) ∧
      (∀ (L : Ledger) (s : Staging) (m : Meter) (name value : Bytes), s.frame.guarded = false →
        (s.write c L m (c.protectedKey name) value).result ≠ .error .reservedKey ∧
        (s.write c L m (c.protectedKey name) value).result ≠ .error .protectedKey) ∧
      ∀ (L : Ledger) (h : Host) (code : Bytes) (metadata : CodeMetadata),
        h.readOnly = false → L.Upgradeable h.address →
        let price := c.schedule.charge .upgradeContract .compilePerByte code.length
        let key := c.protectedKey Host.metadataKey
        let cost := h.staging.writeCost c L key metadata.bytes
        (h.meter.left < price ∧ Host.upgrade c L code metadata h = (.error .outOfGas, h)) ∨
        ((price ≤ h.meter.left ∧ h.meter.left.val < price.val + cost.charge.val) ∧
          Host.upgrade c L code metadata h = (.error (.storage .outOfGas), { h with meter := h.meter.spend price })) ∨
        (price.val + cost.charge.val ≤ h.meter.left.val ∧
          Host.upgrade c L code metadata h = (.ok (),
            { h with
              meter := ((h.meter.spend price).spend cost.charge).free cost.release
              staging := h.staging.put key metadata.bytes
              output := h.output.deploy h.address code metadata }))) := by
  refine ⟨validate_eq_ok_iff, fun hvalid => ?_⟩
  obtain ⟨-, -, -, hseparate⟩ := validate_eq_ok_iff.1 hvalid
  refine ⟨fun name => ?_, fun L s m name value hguard => Staging.write_protectedKey hseparate hguard name value,
    fun L h code metadata hrw hup => Host.upgrade_outcomes hseparate hrw hup code metadata⟩
  rw [isReserved, Bool.eq_false_iff, Ne, List.isPrefixOf_iff_prefix]
  exact not_reserved_protectedKey hseparate name

/-- A ledger with code that may be replaced. -/
def upgradingLedger : Ledger :=
  (World.ofSteps [.putAccount (.named "bob") ⟨40, 0, [7], { CodeMetadata.none with upgradeable := true }⟩]).ledger

/-- A call of that code, at its beginning. -/
def upgradingHost (gas : U64) : Host := { Host.start gas with staging := Staging.empty.setAddress (.named "bob") }

/-- One byte of code for 1001 and the metadata for 100. -/
theorem HostConfig.valid_separates_upgrading :
    standard.validate = .ok () ∧
      (Host.upgrade standard upgradingLedger [9] .none (upgradingHost 1000)).1 = .error .outOfGas ∧
      (Host.upgrade standard upgradingLedger [9] .none (upgradingHost 1100)).1 = .error (.storage .outOfGas) ∧
      (Host.upgrade standard upgradingLedger [9] .none (upgradingHost 1101)).1 = .ok () := by
  have hvalid : standard.validate = .ok () := rfl
  have hup : upgradingLedger.Upgradeable (.named "bob") := ⟨{ CodeMetadata.none with upgradeable := true }, rfl, rfl⟩
  obtain ⟨-, -, hends⟩ := (valid_separates standard).2 hvalid
  refine ⟨hvalid, ?_, ?_, ?_⟩
  · rcases hends upgradingLedger (upgradingHost 1000) [9] .none rfl hup with ⟨-, hx⟩ | ⟨⟨hle, -⟩, -⟩ | ⟨hle, -⟩
    · rw [hx]
    · exact absurd hle (by decide +kernel)
    · exact absurd hle (by decide +kernel)
  · rcases hends upgradingLedger (upgradingHost 1100) [9] .none rfl hup with ⟨hlt, -⟩ | ⟨-, hx⟩ | ⟨hle, -⟩
    · exact absurd hlt (by decide +kernel)
    · rw [hx]
    · exact absurd hle (by decide +kernel)
  · rcases hends upgradingLedger (upgradingHost 1101) [9] .none rfl hup with ⟨hlt, -⟩ | ⟨⟨-, hlt⟩, -⟩ | ⟨-, hx⟩
    · exact absurd hlt (by decide +kernel)
    · exact absurd hlt (by decide +kernel)
    · rw [hx]

end ContractHost

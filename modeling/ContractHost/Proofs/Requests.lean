/-
  ContractHost.Proofs.Requests — all that a request may do to the host.

  A request that is refused has spent gas at most; one that is granted has its one effect
  besides, and that on the account of the running call (`Effect`). Every request of guest
  code is one or the other (`Request.perform_effect`), so what holds of a host before and
  after each `Effect` holds after any request.
-/

import ContractHost.Host.Guest
import ContractHost.Proofs.Supply

namespace ContractHost

/-! ## Spending gas -/

/-- A call spends of what it was given, and leaves the gas of the waiting calls alone. -/
structure Meter.Spends (m m' : Meter) : Prop where
  parked : m'.parked = m.parked
  provided : m'.frame.provided = m.frame.provided
  within : m.frame.used ≤ m.frame.provided → m'.frame.used ≤ m'.frame.provided

namespace Meter

theorem Spends.refl (m : Meter) : m.Spends m := ⟨rfl, rfl, id⟩

theorem Spends.trans {m₁ m₂ m₃ : Meter} (h : m₁.Spends m₂) (h' : m₂.Spends m₃) : m₁.Spends m₃ :=
  ⟨h'.parked.trans h.parked, h'.provided.trans h.provided, fun hle => h'.within (h.within hle)⟩

/-- The running call after it has paid. -/
def spend (m : Meter) (amount : U64) : Meter := { m with frame := { m.frame with used := m.frame.used + amount } }

theorem use?_eq_some_iff {m m' : Meter} {amount : U64} :
    m.use? amount = some m' ↔ amount ≤ m.left ∧ m' = m.spend amount := by
  unfold use? spend
  split <;> simp_all [eq_comm]

theorem use?_eq_none_iff {m : Meter} {amount : U64} : m.use? amount = none ↔ m.left < amount := by
  unfold use?
  rw [Capped.lt_iff]
  split <;> rename_i h <;> rw [Capped.le_iff] at h
  · simpa using h
  · simpa using h

theorem use?_spend {m : Meter} {amount : U64} (h : amount ≤ m.left) : m.use? amount = some (m.spend amount) :=
  use?_eq_some_iff.2 ⟨h, rfl⟩

theorem val_used_spend {m : Meter} {amount : U64} (h : amount ≤ m.left) :
    (m.spend amount).frame.used.val = m.frame.used.val + amount.val := by
  have hprovided := m.frame.provided.val_le
  have hused := m.frame.used.val_le
  rw [Capped.le_iff] at h
  simp only [left, GasFrame.left, Capped.val_sub] at h
  show min (m.frame.used.val + amount.val) _ = _
  omega

theorem val_left_spend {m : Meter} {amount : U64} (h : amount ≤ m.left) :
    (m.spend amount).left.val = m.left.val - amount.val := by
  have hspent := val_used_spend h
  show m.frame.provided.val - (m.spend amount).frame.used.val = m.frame.provided.val - m.frame.used.val - amount.val
  omega

theorem Spends.of_use {m m' : Meter} {amount : U64} (h : m.use? amount = some m') : m.Spends m' := by
  obtain ⟨hle, rfl⟩ := use?_eq_some_iff.1 h
  refine ⟨rfl, rfl, fun hwithin => ?_⟩
  have hcap := m.frame.provided.val_le
  rw [Capped.le_iff] at hle hwithin ⊢
  simp only [left, GasFrame.left, Capped.val_sub] at hle
  show min (m.frame.used.val + amount.val) _ ≤ m.frame.provided.val
  omega

theorem Spends.free {m m' : Meter} (h : m.Spends m') (amount : U64) : m.Spends (m'.free amount) :=
  ⟨h.parked, h.provided, h.within⟩

end Meter

/-! ## Actions -/

theorem Action.read_apply {α : Type} (f : Host → α) (h : Host) : Action.read f h = (.ok (f h), h) := rfl

/-- An action that goes well has gone well at every step. -/
theorem Action.bind_ok {α β : Type} {x : Action α} {f : α → Action β} {h h' : Host} {b : β}
    (hok : (x >>= f) h = (.ok b, h')) : ∃ a h₁, x h = (.ok a, h₁) ∧ f a h₁ = (.ok b, h') := by
  rw [bind_apply] at hok
  rcases hx : x h with ⟨e | a, h₁⟩ <;> rw [hx] at hok
  · cases hok
  · exact ⟨a, h₁, rfl, hok⟩

/-- However it ends, the action leaves what `f` shows of a host as it was. -/
def Action.Keeps {α γ : Type} (f : Host → γ) (x : Action α) : Prop := ∀ h, f (x h).2 = f h

namespace Action

variable {α β γ : Type} {f : Host → γ}

theorem keeps_pure (a : α) : Keeps f (pure a) := fun _ => rfl

theorem keeps_read (g : Host → α) : Keeps f (read g) := fun _ => rfl

theorem keeps_lookup (answer : Except LookupError α) : Keeps f (lookup answer) := fun _ => rfl

theorem keeps_require (condition : Bool) (e : CallError) : Keeps f (require condition e) := by
  intro h
  cases condition <;> rfl

theorem Keeps.bind {x : Action α} {g : α → Action β} (hx : Keeps f x) (hg : ∀ a, Keeps f (g a)) : Keeps f (x >>= g) := by
  intro h
  have hfirst := hx h
  rw [bind_apply]
  rcases hstep : x h with ⟨e | a, after⟩ <;> rw [hstep] at hfirst
  · exact hfirst
  · exact (hg a after).trans hfirst

end Action

/-- A value that is put is one more write to the account of the running call. -/
theorem Staging.updates_put (s : Staging) (key value : Bytes) (a : Address) :
    (s.put key value).updates a =
      if s.frame.address = a then (s.updates a).insert key ⟨key, value⟩ else s.updates a := by
  unfold put updates
  simp only [Std.ExtTreeMap.getD_insert, Std.LawfulEqCmp.compare_eq_iff_eq]
  split
  · subst_vars
    rfl
  · rfl

/-- The rules of a write in their order, and what the write is by each of them. -/
theorem Staging.write_rules (c : HostConfig) (L : Ledger) (s : Staging) (m : Meter) (key value : Bytes) :
    let status := StorageStatus.classify (s.get L key) value
    let cost := c.schedule.write (s.get L key).length value.length (status != .unchanged)
    let protects := s.frame.guarded = true ∧ c.isProtected key = true
    (c.isReserved key = true ∧ s.write c L m key value = ⟨.error .reservedKey, s, m⟩) ∨
    (c.isReserved key = false ∧ protects ∧ s.write c L m key value = ⟨.error .protectedKey, s, m⟩) ∨
    (c.isReserved key = false ∧ ¬ protects ∧ s.frame.readOnly = true ∧
      s.write c L m key value = ⟨.ok .unchanged, s, m⟩) ∨
    (c.isReserved key = false ∧ ¬ protects ∧ s.frame.readOnly = false ∧ m.use? cost.charge = none ∧
      s.write c L m key value = ⟨.error .outOfGas, s, m⟩) ∨
    ∃ meter, c.isReserved key = false ∧ ¬ protects ∧ s.frame.readOnly = false ∧ m.use? cost.charge = some meter ∧
      s.write c L m key value = ⟨.ok status, s.put key value, meter.free cost.release⟩ := by
  intro status cost protects
  unfold write
  split
  · rename_i hreserved
    exact .inl ⟨hreserved, rfl⟩
  rename_i hreserved
  rw [Bool.not_eq_true] at hreserved
  split
  · rename_i hprotects
    exact .inr (.inl ⟨hreserved, hprotects, rfl⟩)
  rename_i hprotects
  split
  · rename_i hro
    exact .inr (.inr (.inl ⟨hreserved, hprotects, hro, rfl⟩))
  rename_i hrw
  rw [Bool.not_eq_true] at hrw
  dsimp only
  split
  · rename_i hm
    exact .inr (.inr (.inr (.inl ⟨hreserved, hprotects, hrw, hm, rfl⟩)))
  · rename_i meter hm
    exact .inr (.inr (.inr (.inr ⟨meter, hreserved, hprotects, hrw, hm, rfl⟩)))

theorem Host.changeStaging_apply (f : Staging → Staging) (h : Host) :
    changeStaging f h = (.ok (), { h with staging := f h.staging }) := rfl

namespace Host

open ContractHost.Action

variable {c : HostConfig} {L : Ledger} {h : Host}

/-- Gas is taken or is the one thing that lacks. -/
theorem useGas_outcomes (amount : U64) (h : Host) :
    (h.meter.left < amount ∧ useGas amount h = (.error .outOfGas, h)) ∨
    (amount ≤ h.meter.left ∧ useGas amount h = (.ok (), { h with meter := h.meter.spend amount })) := by
  unfold useGas
  rcases Nat.lt_or_ge h.meter.left.val amount.val with hlt | hle
  · exact .inl ⟨hlt, by rw [Meter.use?_eq_none_iff.2 hlt]⟩
  · exact .inr ⟨hle, by rw [Meter.use?_spend hle]⟩

theorem useGas_cases (amount : U64) (h : Host) :
    useGas amount h = (.error .outOfGas, h) ∨
      ∃ meter, h.meter.Spends meter ∧ useGas amount h = (.ok (), { h with meter }) := by
  rcases useGas_outcomes amount h with ⟨-, hx⟩ | ⟨hle, hx⟩
  · exact .inl hx
  · exact .inr ⟨_, .of_use (Meter.use?_spend hle), hx⟩

theorem require_cases (condition : Bool) (e : CallError) (h : Host) :
    condition = false ∧ require condition e h = (.error e, h) ∨ condition = true ∧ require condition e h = (.ok (), h) := by
  cases condition
  · exact .inl ⟨rfl, rfl⟩
  · exact .inr ⟨rfl, rfl⟩

theorem lookup_cases {α : Type} (answer : Except LookupError α) (h : Host) :
    (∃ e, lookup answer h = (.error e, h)) ∨ ∃ a, answer = .ok a ∧ lookup answer h = (.ok a, h) := by
  cases answer with
  | error e => exact .inl ⟨_, rfl⟩
  | ok a => exact .inr ⟨a, rfl, rfl⟩

theorem recordTransfer_cases (sender receiver : Address) (value : U256) (data : Bytes) (h : Host) :
    (∃ e, recordTransfer L sender receiver value data h = (.error e, h)) ∨
      ∃ output, h.output.transfer L sender receiver value data = .ok output ∧
        recordTransfer L sender receiver value data h = (.ok (), { h with output }) := by
  unfold recordTransfer
  cases ht : h.output.transfer L sender receiver value data with
  | error e => exact .inl ⟨e, rfl⟩
  | ok output => exact .inr ⟨output, rfl, rfl⟩

theorem moveValue_cases (sender receiver : Address) (value : U256) (data : Bytes) (h : Host) :
    (∃ e, moveValue L sender receiver value data h = (.error e, h)) ∨
      ∃ output, h.output.transfer L sender receiver value data = .ok output ∧
        moveValue L sender receiver value data h = (.ok (), { h with output }) := by
  have hrecord := recordTransfer_cases (L := L) sender receiver value data h
  unfold moveValue
  split
  · simp only [bind_apply]
    rcases lookup_cases (L.account receiver) h with ⟨e, hx⟩ | ⟨account, -, hx⟩ <;> rw [hx]
    · exact .inl ⟨e, rfl⟩
    dsimp only
    rcases require_cases (!account.isContract || account.metadata.payable) (.userError "receiver is not payable") h with
      ⟨-, hx⟩ | ⟨-, hx⟩ <;> rw [hx]
    · exact .inl ⟨_, rfl⟩
    · exact hrecord
  · exact hrecord

section Keeps

variable {γ : Type} {f : Host → γ}

/-- What does not show the used gas does not show a payment. -/
theorem keeps_useGas {amount : U64} (hf : ∀ h, f { h with meter := h.meter.spend amount } = f h) :
    Keeps f (useGas amount) := by
  intro h
  unfold useGas
  cases hm : h.meter.use? amount with
  | none => rfl
  | some meter =>
    obtain ⟨-, rfl⟩ := Meter.use?_eq_some_iff.1 hm
    exact hf h

variable (hf : ∀ h output, f { h with output } = f h) (sender receiver : Address) (value : U256) (data : Bytes)

include hf

/-- What does not show the output does not show a transfer. -/
theorem keeps_recordTransfer : Keeps f (recordTransfer L sender receiver value data) := by
  intro h
  rcases recordTransfer_cases (L := L) sender receiver value data h with ⟨e, hx⟩ | ⟨output, -, hx⟩ <;> rw [hx]
  exact hf h output

theorem keeps_moveValue : Keeps f (moveValue L sender receiver value data) := by
  intro h
  rcases moveValue_cases (L := L) sender receiver value data h with ⟨e, hx⟩ | ⟨output, -, hx⟩ <;> rw [hx]
  exact hf h output

end Keeps

/-- A write is refused, or skipped in a read-only call, or paid and put under a key that is free to write. -/
theorem writeStorage_cases (key value : Bytes) (h : Host) :
    (∃ e, writeStorage c L key value h = (.error e, h)) ∨
      h.readOnly = true ∧ writeStorage c L key value h = (.ok .unchanged, h) ∨
      ∃ status meter, h.meter.Spends meter ∧ c.isReserved key = false ∧
        (h.staging.frame.guarded = true → c.isProtected key = false) ∧
        writeStorage c L key value h = (.ok status, { h with meter, staging := h.staging.put key value }) := by
  unfold writeStorage
  rcases h.staging.write_rules c L h.meter key value with
    ⟨-, hw⟩ | ⟨-, -, hw⟩ | ⟨-, -, hro, hw⟩ | ⟨-, -, -, -, hw⟩ | ⟨meter, hreserved, hprotects, -, hm, hw⟩ <;> rw [hw]
  · exact .inl ⟨_, rfl⟩
  · exact .inl ⟨_, rfl⟩
  · exact .inr (.inl ⟨hro, rfl⟩)
  · exact .inl ⟨_, rfl⟩
  · refine .inr (.inr ⟨_, _, (Meter.Spends.of_use hm).free _, hreserved, fun hguarded => ?_, rfl⟩)
    exact Bool.eq_false_iff.2 fun hkey => hprotects ⟨hguarded, hkey⟩

/-- The guard that is lifted for an action is back after it. -/
theorem unguarded_of_eq {α : Type} {x : Action α} {h : Host} {result : Except CallError α} {meter : Meter}
    (staging : Staging) (hguarded : staging.frame.guarded = h.staging.frame.guarded)
    (hx : x { h with staging := h.staging.setGuarded false } =
      (result, { h with meter, staging := staging.setGuarded false })) :
    unguarded x h = (result, { h with meter, staging }) := by
  obtain ⟨accounts, ⟨a, guarded, readOnly⟩, saved⟩ := staging
  unfold unguarded
  rw [hx]
  dsimp only at hguarded ⊢
  rw [← hguarded]
  cases guarded <;> rfl

theorem unguarded_writeStorage_cases (key value : Bytes) {h : Host} (hro : h.readOnly = false) :
    (∃ e, unguarded (writeStorage c L key value) h = (.error e, h)) ∨
      ∃ status meter, h.meter.Spends meter ∧ c.isReserved key = false ∧ unguarded (writeStorage c L key value) h =
        (.ok status, { h with meter, staging := h.staging.put key value }) := by
  rcases writeStorage_cases (c := c) (L := L) key value { h with staging := h.staging.setGuarded false } with
    ⟨e, hx⟩ | ⟨hskip, -⟩ | ⟨status, meter, hm, hreserved, -, hx⟩
  · exact .inl ⟨e, unguarded_of_eq h.staging rfl hx⟩
  · exact absurd (hskip.symm.trans hro) (by decide)
  · exact .inr ⟨status, meter, hm, hreserved, unguarded_of_eq (h.staging.put key value) rfl hx⟩

end Host

/-! ## Requests -/

/-- The value that a request moves, asked for in the account `a`. -/
def Request.flows (a : Address) : Request → List Flow
  | .transfer receiver value _ => [⟨a, receiver, value⟩]
  | _ => []

/-- The committed metadata of an account lets its code be replaced. -/
def Ledger.Upgradeable (L : Ledger) (a : Address) : Prop :=
  ∃ metadata, L.metadata a = .ok metadata ∧ metadata.upgradeable = true

/-- What a request answers and leaves. -/
inductive Effect (c : HostConfig) (L : Ledger) (h : Host) : (r : Request) → Except CallError r.Answer → Host → Prop
  | refused {r : Request} {e : CallError} {meter : Meter} (hm : h.meter.Spends meter) :
      Effect c L h r (.error e) { h with meter }
  | observed {r : Request} {answer : r.Answer} {meter : Meter} (hm : h.meter.Spends meter)
      (hr : r.flows h.address = []) : Effect c L h r (.ok answer) { h with meter }
  | stored {key value : Bytes} {status : StorageStatus} {meter : Meter} (hm : h.meter.Spends meter)
      (hreserved : c.isReserved key = false)
      (hprotected : h.staging.frame.guarded = true → c.isProtected key = false) :
      Effect c L h (.store key value) (.ok status) { h with meter, staging := h.staging.put key value }
  | finished {data : Bytes} {meter : Meter} (hm : h.meter.Spends meter) :
      Effect c L h (.finish data) (.ok ()) { h with meter, output := h.output.finish data }
  | transferred {receiver : Address} {value : U256} {data : Bytes} {meter : Meter} {output : Accumulator}
      (hm : h.meter.Spends meter) (ht : h.output.transfer L h.address receiver value data = .ok output) :
      Effect c L h (.transfer receiver value data) (.ok ()) { h with meter, output }
  | logged {identifier data : Bytes} {topics : List Bytes} {meter : Meter} (hm : h.meter.Spends meter) :
      Effect c L h (.log identifier topics data) (.ok ())
        { h with meter, output := h.output.log ⟨h.address, identifier, topics, data⟩ }
  | upgraded {code : Bytes} {metadata : CodeMetadata} {meter : Meter} (hm : h.meter.Spends meter)
      (hreserved : c.isReserved (c.protectedKey Host.metadataKey) = false) (hcommitted : L.Upgradeable h.address) :
      Effect c L h (.upgrade code metadata) (.ok ())
        { h with
          meter
          staging := h.staging.put (c.protectedKey Host.metadataKey) metadata.bytes
          output := h.output.deploy h.address code metadata }

namespace Request

open ContractHost.Action Host

variable (c : HostConfig) (L : Ledger) (h : Host)

theorem useGas_effect (amount : U64) :
    Effect c L h (.useGas amount) (Host.useGas amount h).1 (Host.useGas amount h).2 := by
  rcases useGas_cases amount h with hx | ⟨meter, hm, hx⟩ <;> rw [hx]
  · exact .refused (.refl _)
  · exact .observed hm rfl

theorem store_effect (key value : Bytes) :
    Effect c L h (.store key value) (Host.store c L key value h).1 (Host.store c L key value h).2 := by
  unfold Host.store
  rw [bind_apply]
  rcases useGas_cases (c.schedule.cost .storageStore) h with hx | ⟨meter, hm, hx⟩ <;> rw [hx]
  · exact .refused (.refl _)
  dsimp only
  rcases writeStorage_cases (c := c) (L := L) key value { h with meter } with
    ⟨e, hw⟩ | ⟨-, hw⟩ | ⟨status, meter', hm', hreserved, hprotected, hw⟩ <;> rw [hw]
  · exact .refused hm
  · exact .observed hm rfl
  · exact .stored (hm.trans hm') hreserved hprotected

theorem load_effect (key : Bytes) : Effect c L h (.load key) (Host.load c L key h).1 (Host.load c L key h).2 := by
  unfold Host.load charge
  simp only [bind_apply, read_apply]
  rcases useGas_cases (c.schedule.charge .storageLoad .dataCopyPerByte (h.staging.get L key).length) h with
    hx | ⟨meter, hm, hx⟩ <;> rw [hx]
  · exact .refused (.refl _)
  · exact .observed hm rfl

theorem loadFrom_effect (a : Address) (key : Bytes) :
    Effect c L h (.loadFrom a key) (Host.loadFrom c L a key h).1 (Host.loadFrom c L a key h).2 := by
  unfold Host.loadFrom charge
  simp only [bind_apply, read_apply]
  rcases useGas_cases (c.schedule.charge .getStorageFromAddress .dataCopyPerByte
    ((h.staging.getFrom L a key).getD []).length) h with hx | ⟨meter, hm, hx⟩ <;> rw [hx]
  · exact .refused (.refl _)
  · exact .observed hm rfl

theorem finish_effect (data : Bytes) :
    Effect c L h (.finish data) (Host.finish c data h).1 (Host.finish c data h).2 := by
  unfold Host.finish charge
  rw [bind_apply]
  rcases useGas_cases (c.schedule.charge .finish .storePerByte data.length) h with hx | ⟨meter, hm, hx⟩ <;> rw [hx]
  · exact .refused (.refl _)
  · exact .finished hm

theorem transfer_effect (receiver : Address) (value : U256) (data : Bytes) :
    Effect c L h (.transfer receiver value data) (Host.transfer c L receiver value data h).1
      (Host.transfer c L receiver value data h).2 := by
  unfold Host.transfer charge
  simp only [bind_apply, read_apply]
  rcases require_cases (!h.readOnly) .writeInReadOnly h with ⟨-, hx⟩ | ⟨-, hx⟩ <;> rw [hx]
  · exact .refused (.refl _)
  dsimp only
  rcases useGas_cases (c.schedule.charge .transferValue .storePerByte data.length) h with hx | ⟨meter, hm, hx⟩ <;>
    rw [hx]
  · exact .refused (.refl _)
  dsimp only
  rcases moveValue_cases (L := L) (address { h with meter }) receiver value data { h with meter } with
    ⟨e, hv⟩ | ⟨output, ht, hv⟩ <;> rw [hv]
  · exact .refused hm
  · exact .transferred hm ht

theorem log_effect (identifier : Bytes) (topics : List Bytes) (data : Bytes) :
    Effect c L h (.log identifier topics data) (Host.log c identifier topics data h).1
      (Host.log c identifier topics data h).2 := by
  unfold Host.log charge
  simp only [bind_apply, read_apply]
  rcases useGas_cases (c.schedule.charge .log .storePerByte (topics.length * topicLength + data.length)) h with
    hx | ⟨meter, hm, hx⟩ <;> rw [hx]
  · exact .refused (.refl _)
  · exact .logged hm

theorem upgrade_effect (code : Bytes) (metadata : CodeMetadata) :
    Effect c L h (.upgrade code metadata) (Host.upgrade c L code metadata h).1
      (Host.upgrade c L code metadata h).2 := by
  unfold Host.upgrade charge
  simp only [bind_apply, read_apply]
  rcases require_cases (!h.readOnly) .writeInReadOnly h with ⟨-, hx⟩ | ⟨hro, hx⟩ <;> rw [hx]
  · exact .refused (.refl _)
  dsimp only
  rcases lookup_cases (L.metadata h.address) h with ⟨e, hx⟩ | ⟨current, hcurrent, hx⟩ <;> rw [hx]
  · exact .refused (.refl _)
  dsimp only
  rcases require_cases current.upgradeable (.userError "contract is not upgradeable") h with
    ⟨-, hx⟩ | ⟨hupgradeable, hx⟩ <;> rw [hx]
  · exact .refused (.refl _)
  dsimp only
  rcases useGas_cases (c.schedule.charge .upgradeContract .compilePerByte code.length) h with
    hx | ⟨meter, hm, hx⟩ <;> rw [hx]
  · exact .refused (.refl _)
  dsimp only
  rcases unguarded_writeStorage_cases (c := c) (L := L) (c.protectedKey metadataKey) metadata.bytes
    (h := { h with meter }) (Bool.not_eq_eq_eq_not.1 hro) with ⟨e, hw⟩ | ⟨status, meter', hm', hreserved, hw⟩ <;>
    rw [hw]
  · exact .refused hm
  · exact .upgraded (hm.trans hm') hreserved ⟨current, hcurrent, hupgradeable⟩

theorem balance_effect (a : Address) : Effect c L h (.balance a) (Host.balance L a h).1 (Host.balance L a h).2 := by
  unfold Host.balance
  cases h.output.effectiveBalance L a with
  | error e => exact .refused (.refl _)
  | ok b => exact .observed (.refl _) rfl

theorem perform_effect (r : Request) : Effect c L h r (r.perform c L h).1 (r.perform c L h).2 := by
  cases r with
  | useGas amount => exact useGas_effect c L h amount
  | store key value => exact store_effect c L h key value
  | load key => exact load_effect c L h key
  | loadFrom a key => exact loadFrom_effect c L h a key
  | finish data => exact finish_effect c L h data
  | transfer receiver value data => exact transfer_effect c L h receiver value data
  | log identifier topics data => exact log_effect c L h identifier topics data
  | upgrade code metadata => exact upgrade_effect c L h code metadata
  | balance a => exact balance_effect c L h a

end Request

theorem Effect.of_perform {c : HostConfig} {L : Ledger} {h h' : Host} {r : Request} {reply : Except CallError r.Answer}
    (hperform : r.perform c L h = (reply, h')) : Effect c L h r reply h' := by
  have heffect := r.perform_effect c L h
  rwa [hperform] at heffect

end ContractHost

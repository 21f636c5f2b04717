/-
  ContractHost.Proofs.Prices — a request is checked, then paid, then carried out.

  Whatever guest code asks for, the host first looks whether it may have it, which changes
  nothing, then takes the price of the request, and only then carries it out
  (`Request.perform_eq`). Carrying it out may still fail, and then changes nothing
  either; where it does not, the staged writes and the gas are as they were, or there is
  one more write, which was paid by what the key read as before
  (`Request.deliver_cases`). A key reads as its latest staged value, or as the committed
  one (`Staging.valueOf_eq`).
-/

import ContractHost.Proofs.Requests

namespace ContractHost

theorem Meter.use?_zero (m : Meter) : m.use? 0 = some m := by
  obtain ⟨⟨provided, used, freed⟩, parked⟩ := m
  have hused : used + 0 = used := by
    ext
    rw [Capped.val_add, Capped.val_ofNat, Nat.zero_min, Nat.add_zero, Nat.min_eq_left used.val_le]
  rw [use?_spend (Nat.zero_le _), spend, hused]

/-! ## Reads -/

/-- The committed value of a key, empty where the ledger gives no answer. -/
def Ledger.stored (L : Ledger) (a : Address) (key : Bytes) : Bytes :=
  match L.storage a key with
  | .ok value => value
  | .error _ => []

namespace Staging

variable {L : Ledger} {s : Staging}

theorem getElem?_updates_put (key value : Bytes) (a : Address) (k : Bytes) :
    ((s.put key value).updates a)[k]? =
      if (a, k) = (s.frame.address, key) then some ⟨key, value⟩ else (s.updates a)[k]? := by
  rw [updates_put]
  by_cases ha : s.frame.address = a
  · subst ha
    rw [if_pos rfl, Std.ExtTreeMap.getElem?_insert]
    by_cases hk : key = k
    · subst hk
      simp
    · simp [hk, Ne.symm hk]
  · simp [ha, Ne.symm ha]

/-- A key reads as the latest staged value, or as the committed one. -/
theorem valueOf_eq (a : Address) (key : Bytes) :
    s.valueOf L a key = ((s.updates a)[key]?.map (·.value)).getD (L.stored a key) := by
  unfold valueOf
  cases (s.updates a)[key]? <;> rfl

theorem valueOf_put (key value : Bytes) (a : Address) (k : Bytes) :
    (s.put key value).valueOf L a k = if (a, k) = (s.frame.address, key) then value else s.valueOf L a k := by
  rw [valueOf_eq, valueOf_eq, getElem?_updates_put]
  split <;> rfl

end Staging

/-! ## Writes -/

theorem StorageStatus.classify_eq_unchanged {old new : Bytes} : classify old new = .unchanged ↔ old = new := by
  unfold classify
  split
  · simp [*]
  · split <;> [skip; split] <;> simp [*]

namespace Staging

variable {c : HostConfig} {L : Ledger}

/-- What a write takes and gives back, going by what the key reads as now. -/
def writeCost (c : HostConfig) (L : Ledger) (s : Staging) (key value : Bytes) : WriteCost :=
  c.schedule.write (s.get L key).length value.length (StorageStatus.classify (s.get L key) value != .unchanged)

/-- A write is refused, or skipped in a read-only call, or paid and put. -/
theorem write_cases (s : Staging) (m : Meter) (key value : Bytes) :
    (∃ e, s.write c L m key value = ⟨.error e, s, m⟩) ∨
      s.frame.readOnly = true ∧ s.write c L m key value = ⟨.ok .unchanged, s, m⟩ ∨
      ∃ status meter, s.frame.readOnly = false ∧ m.use? (s.writeCost c L key value).charge = some meter ∧
        s.write c L m key value =
          ⟨.ok status, s.put key value, meter.free (s.writeCost c L key value).release⟩ := by
  rcases s.write_rules c L m key value with
    ⟨-, hw⟩ | ⟨-, -, hw⟩ | ⟨-, -, hro, hw⟩ | ⟨-, -, -, -, hw⟩ | ⟨meter, -, -, hrw, hm, hw⟩
  · exact .inl ⟨_, hw⟩
  · exact .inl ⟨_, hw⟩
  · exact .inr (.inl ⟨hro, hw⟩)
  · exact .inl ⟨_, hw⟩
  · exact .inr (.inr ⟨_, meter, hrw, hm, hw⟩)

end Staging

/-- The staged writes and the gas are as they were, or one more write is staged and paid. -/
inductive Host.Carried (c : HostConfig) (L : Ledger) (h h' : Host) : Prop
  | kept (hstaging : h'.staging = h.staging) (hmeter : h'.meter = h.meter)
  | wrote {key value : Bytes} {meter : Meter}
      (hpaid : h.meter.use? (h.staging.writeCost c L key value).charge = some meter)
      (hstaging : h'.staging = h.staging.put key value)
      (hmeter : h'.meter = meter.free (h.staging.writeCost c L key value).release)

namespace Host

open ContractHost.Action

variable {c : HostConfig} {L : Ledger}

theorem writeStorage_carried (key value : Bytes) (h : Host) :
    (∃ e, writeStorage c L key value h = (.error e, h)) ∨
      ∃ status h', writeStorage c L key value h = (.ok status, h') ∧ Carried c L h h' := by
  unfold writeStorage
  rcases h.staging.write_cases (c := c) (L := L) h.meter key value with
    ⟨e, hw⟩ | ⟨-, hw⟩ | ⟨status, meter, -, hpaid, hw⟩ <;> rw [hw]
  · exact .inl ⟨_, rfl⟩
  · exact .inr ⟨_, _, rfl, .kept rfl rfl⟩
  · exact .inr ⟨_, _, rfl, .wrote hpaid rfl rfl⟩

/-- A write with the guard lifted, and the guard back after it. -/
theorem unguarded_of_write {key value : Bytes} {h : Host} {result : Except StorageError StorageStatus} {meter : Meter}
    (staging : Staging) (hguarded : staging.frame.guarded = h.staging.frame.guarded)
    (hw : (h.staging.setGuarded false).write c L h.meter key value = ⟨result, staging.setGuarded false, meter⟩) :
    unguarded (writeStorage c L key value) h = (result.mapError .storage, { h with meter, staging }) := by
  refine unguarded_of_eq staging hguarded ?_
  unfold writeStorage
  dsimp only
  rw [hw]

/-- Lifting the guard for a write leaves no trace. -/
theorem unguarded_carried (key value : Bytes) (h : Host) :
    (∃ e, unguarded (writeStorage c L key value) h = (.error e, h)) ∨
      ∃ status h', unguarded (writeStorage c L key value) h = (.ok status, h') ∧ Carried c L h h' := by
  rcases (h.staging.setGuarded false).write_cases (c := c) (L := L) h.meter key value with
    ⟨e, hw⟩ | ⟨-, hw⟩ | ⟨status, meter, -, hpaid, hw⟩
  · exact .inl ⟨_, unguarded_of_write h.staging rfl hw⟩
  · exact .inr ⟨_, h, unguarded_of_write h.staging rfl hw, .kept rfl rfl⟩
  · exact .inr ⟨_, _, unguarded_of_write (h.staging.put key value) rfl hw, .wrote hpaid rfl rfl⟩

/-! ## Checked, then paid -/

/-- From `h` the action is refused and changes nothing, or takes the amount and is then what is `paid` for. -/
def Costs {α : Type} (x : Action α) (amount : U64) (paid : Action α) (h : Host) : Prop :=
  (∃ e, x h = (.error e, h)) ∨ ∃ meter, h.meter.use? amount = some meter ∧ x h = paid { h with meter }

/-- After a payment the host is as before it but for the meter. -/
theorem useGas_congr {α : Type} {amount : U64} {x y : Unit → Action α} {h : Host}
    (hxy : ∀ meter, x () { h with meter } = y () { h with meter }) :
    (useGas amount >>= x) h = (useGas amount >>= y) h := by
  rw [bind_apply, bind_apply]
  unfold useGas
  cases h.meter.use? amount with
  | none => rfl
  | some meter => exact hxy meter

end Host

/-! ## Requests -/

namespace Request

open ContractHost.Action Host

/-- What the host takes for a request, a base price and a price for its bytes; a write is paid beside it. -/
def price (c : HostConfig) (L : Ledger) (h : Host) : Request → U64
  | .useGas amount => amount
  | .store _ _ => c.schedule.cost .storageStore
  | .load key => c.schedule.charge .storageLoad .dataCopyPerByte (h.staging.get L key).length
  | .loadFrom a key =>
    c.schedule.charge .getStorageFromAddress .dataCopyPerByte ((h.staging.getFrom L a key).getD []).length
  | .finish data => c.schedule.charge .finish .storePerByte data.length
  | .transfer _ _ data => c.schedule.charge .transferValue .storePerByte data.length
  | .log _ topics data => c.schedule.charge .log .storePerByte (topics.length * topicLength + data.length)
  | .upgrade code _ => c.schedule.charge .upgradeContract .compilePerByte code.length
  | .balance _ => 0

/-- What is looked at before a request is paid. -/
def admission (L : Ledger) : Request → Action Unit
  | .transfer _ _ _ => do require (!(← read readOnly)) .writeInReadOnly
  | .upgrade _ _ => do
    require (!(← read readOnly)) .writeInReadOnly
    let current ← lookup (L.metadata (← read address))
    require current.upgradeable (.userError "contract is not upgradeable")
  | _ => pure ()

/-- What the host does for a request that is paid. -/
def deliver (c : HostConfig) (L : Ledger) : (r : Request) → Action r.Answer
  | .useGas _ => pure ()
  | .store key value => writeStorage c L key value
  | .load key => read fun h => h.staging.get L key
  | .loadFrom a key => read fun h => h.staging.getFrom L a key
  | .finish data => changeOutput (·.finish data)
  | .transfer receiver value data => do moveValue L (← read address) receiver value data
  | .log identifier topics data => do
    let a ← read address
    changeOutput (·.log ⟨a, identifier, topics, data⟩)
  | .upgrade code metadata => do
    let a ← read address
    let _ ← unguarded (writeStorage c L (c.protectedKey metadataKey) metadata.bytes)
    changeOutput (·.deploy a code metadata)
  | .balance a => Host.balance L a

variable (c : HostConfig) (L : Ledger) (h : Host)

theorem keeps_admission {γ : Type} {f : Host → γ} (r : Request) : Keeps f (r.admission L) := by
  cases r with
  | transfer receiver value data => exact (keeps_read _).bind fun _ => keeps_require _ _
  | upgrade code metadata =>
    refine (keeps_read _).bind fun _ => (keeps_require _ _).bind fun _ => (keeps_read _).bind fun _ => ?_
    exact (keeps_lookup _).bind fun _ => keeps_require _ _
  | _ => exact keeps_pure ()

/-- What is asked for is looked at, then paid, then carried out. -/
theorem perform_eq (r : Request) :
    r.perform c L h = (r.admission L >>= fun _ => Host.useGas (r.price c L h) >>= fun _ => r.deliver c L) h := by
  -- A host function may read before it is paid what is read here after it: a payment changes the meter alone.
  cases r with
  | useGas amount =>
    simp only [perform, admission, price, deliver, bind_apply, pure_apply, Host.useGas]
    cases h.meter.use? amount <;> rfl
  | store key value => rfl
  | load key =>
    simp only [perform, Host.load, Host.charge, admission, price, deliver, bind_apply, pure_apply, read_apply,
      Host.useGas]
    cases h.meter.use? _ <;> rfl
  | loadFrom a key =>
    simp only [perform, Host.loadFrom, Host.charge, admission, price, deliver, bind_apply, pure_apply, read_apply,
      Host.useGas]
    cases h.meter.use? _ <;> rfl
  | finish data => rfl
  | transfer receiver value data => rfl
  | log identifier topics data => rfl
  | upgrade code metadata =>
    simp only [perform, Host.upgrade, admission, bind_apply, read_apply]
    rcases require_cases (!h.readOnly) .writeInReadOnly h with ⟨-, hx⟩ | ⟨-, hx⟩ <;> rw [hx]
    · rfl
    dsimp only
    rcases lookup_cases (L.metadata h.address) h with ⟨e, hx⟩ | ⟨current, -, hx⟩ <;> rw [hx]
    · rfl
    dsimp only
    rcases require_cases current.upgradeable (.userError "contract is not upgradeable") h with ⟨-, hx⟩ | ⟨-, hx⟩ <;>
      rw [hx]
    · rfl
    exact useGas_congr fun meter => rfl
  | balance a =>
    show Host.balance L a h = (Host.useGas 0 >>= fun _ => Host.balance L a) h
    rw [bind_apply, Host.useGas, Meter.use?_zero]

/-- A request is refused at once, or paid and carried out. -/
theorem perform_costs (r : Request) : Costs (r.perform c L) (r.price c L h) (r.deliver c L) h := by
  have hlook : (r.admission L h).2 = h := keeps_admission (f := id) L r h
  unfold Costs
  rw [perform_eq, bind_apply]
  rcases hx : r.admission L h with ⟨e | _, after⟩ <;> rw [hx] at hlook <;> obtain rfl : h = after := hlook.symm
  · exact .inl ⟨e, rfl⟩
  · dsimp only
    rw [bind_apply, Host.useGas]
    cases hm : h.meter.use? (r.price c L h) with
    | none => exact .inl ⟨_, rfl⟩
    | some meter => exact .inr ⟨meter, rfl, rfl⟩

/-- Carrying out a request changes nothing where it fails, and otherwise adds one write at most. -/
theorem deliver_cases (r : Request) :
    (∃ e, r.deliver c L h = (.error e, h)) ∨
      ∃ answer h', r.deliver c L h = (.ok answer, h') ∧ h.Carried c L h' := by
  cases r with
  | useGas amount => exact .inr ⟨_, _, rfl, .kept rfl rfl⟩
  | store key value => exact writeStorage_carried key value h
  | load key => exact .inr ⟨_, _, rfl, .kept rfl rfl⟩
  | loadFrom a key => exact .inr ⟨_, _, rfl, .kept rfl rfl⟩
  | finish data => exact .inr ⟨_, _, rfl, .kept rfl rfl⟩
  | transfer receiver value data =>
    rcases moveValue_cases (L := L) h.address receiver value data h with ⟨e, hx⟩ | ⟨output, -, hx⟩
    · exact .inl ⟨e, hx⟩
    · exact .inr ⟨_, _, hx, .kept rfl rfl⟩
  | log identifier topics data => exact .inr ⟨_, _, rfl, .kept rfl rfl⟩
  | upgrade code metadata =>
    unfold deliver
    simp only [bind_apply, read_apply]
    rcases unguarded_carried (c := c) (L := L) (c.protectedKey metadataKey) metadata.bytes h with
      ⟨e, hx⟩ | ⟨status, h', hx, hcarried⟩ <;> rw [hx]
    · exact .inl ⟨e, rfl⟩
    · refine .inr ⟨(), _, rfl, ?_⟩
      cases hcarried with
      | kept hstaging hmeter => exact .kept hstaging hmeter
      | wrote hpaid hstaging hmeter => exact .wrote hpaid hstaging hmeter
  | balance a =>
    have hx : deliver c L (.balance a) h = (h.output.effectiveBalance L a, h) := rfl
    rw [hx]
    cases h.output.effectiveBalance L a with
    | error e => exact .inl ⟨e, rfl⟩
    | ok b => exact .inr ⟨b, h, rfl, .kept rfl rfl⟩

end Request

end ContractHost

/-
  ContractHost.Proofs.Refunds — nobody earns gas by writing.

  The bytes that keys read as are worth gas: as many units each as a released byte gives
  back. Where storing a byte costs no less than that, a write never frees more than it
  charges and the worth of the bytes it takes away (`GasSchedule.write_bound`). Added up,
  what a run has freed is at most what it used and what the bytes have lost in worth
  (`Host.Earns`); a nested call that fails keeps its gas and gives back its bytes, one that
  succeeds keeps both. At the end of a transaction the bytes can have lost no more than the
  committed values of the written keys were worth (`Setting.transact_refunds`).

  No bound holds of a price that stopped at the cap; but who could pay that has used all
  the gas there is, and no refund is more.
-/

import ContractHost.Proofs.Points
import ContractHost.Proofs.Prices

namespace ContractHost

/-! ## One write -/

/-- A write frees no more than it charges and the bytes in its place are worth, unless its price is the cap. -/
theorem GasSchedule.write_bound {g : GasSchedule} (hprices : g.releasePerByte ≤ g.storePerByte) (old new : Nat)
    {changed : Bool} (hchanged : changed = false → old = new) :
    (g.write old new changed).charge = Capped.greatest ∨
      (g.write old new changed).release.val + g.releasePerByte.val * new ≤
        (g.write old new changed).charge.val + g.releasePerByte.val * old := by
  unfold write
  cases changed with
  | false =>
    rw [hchanged rfl]
    exact .inr (Nat.le_refl _)
  | true =>
    rw [Capped.ext_iff]
    rcases Nat.lt_or_ge old new with hlt | hge
    · obtain ⟨grown, rfl⟩ := Nat.exists_eq_add_of_le hlt.le
      have hworth : g.releasePerByte.val * grown ≤ g.storePerByte.val * grown := Nat.mul_le_mul_right grown hprices
      have hnothing : (0 : U64).val = 0 := rfl
      rw [if_neg (by decide), if_pos hlt]
      simp only [Nat.add_sub_cancel_left, Capped.val_add, Capped.val_mul_clamp, hnothing, Capped.val_greatest,
        Nat.mul_add]
      omega
    · obtain ⟨gone, rfl⟩ := Nat.exists_eq_add_of_le hge
      rw [if_neg (by decide), if_neg (Nat.not_lt.2 hge)]
      simp only [Nat.add_sub_cancel_left, Capped.val_mul_clamp, Capped.val_greatest, Nat.mul_add]
      omega

/-! ## What the bytes are worth -/

namespace Staging

/-- The bytes that some keys read as. -/
def size (L : Ledger) (s : Staging) (keys : Finset (Address × Bytes)) : Nat := ∑ p ∈ keys, (s.valueOf L p.1 p.2).length

variable {L L' : Ledger} {s s' : Staging}

theorem size_congr (hL : L'.storage = L.storage) (hs : s'.accounts = s.accounts) (keys : Finset (Address × Bytes)) :
    s'.size L' keys = s.size L keys := by
  unfold size valueOf updates
  rw [hL, hs]

/-- A write takes the bytes that its key read as and brings its own. -/
theorem size_put (key value : Bytes) {keys : Finset (Address × Bytes)} (hmem : (s.frame.address, key) ∈ keys) :
    (s.put key value).size L keys + (s.get L key).length = s.size L keys + value.length := by
  have hothers : ∑ p ∈ keys.erase (s.frame.address, key), ((s.put key value).valueOf L p.1 p.2).length =
      ∑ p ∈ keys.erase (s.frame.address, key), (s.valueOf L p.1 p.2).length := by
    refine Finset.sum_congr rfl fun p hp => ?_
    rw [valueOf_put, if_neg (Finset.ne_of_mem_erase hp)]
  unfold size
  rw [← Finset.add_sum_erase keys _ hmem, ← Finset.add_sum_erase keys _ hmem, hothers, valueOf_put, if_pos rfl, get]
  dsimp only
  omega

end Staging

/-! ## What a run has freed -/

/-- From the first host to the second no more gas was freed than was used and the bytes lost in worth, for all sets of
    keys that contain what was written; or all gas there is has been used. -/
structure Host.Earns (c : HostConfig) (L : Ledger) (h h' : Host) : Prop where
  used_le : h.meter.frame.used ≤ h'.meter.frame.used
  freed_le : h'.meter.frame.used = Capped.greatest ∨ ∃ written, ∀ keys, written ⊆ keys →
    h'.meter.frame.freed.val + c.schedule.releasePerByte.val * h'.staging.size L keys + h.meter.frame.used.val ≤
      h.meter.frame.freed.val + c.schedule.releasePerByte.val * h.staging.size L keys + h'.meter.frame.used.val

namespace Host.Earns

variable {c : HostConfig} {L L' : Ledger} {h h' h'' : Host}

/-- Gas that is used earns nothing. -/
theorem of_used (haccounts : h'.staging.accounts = h.staging.accounts)
    (hused : h.meter.frame.used ≤ h'.meter.frame.used) (hfreed : h'.meter.frame.freed = h.meter.frame.freed) :
    Earns c L h h' := by
  refine ⟨hused, .inr ⟨∅, fun keys _ => ?_⟩⟩
  rw [Staging.size_congr rfl haccounts, hfreed]
  exact Nat.add_le_add_left hused _

theorem refl (h : Host) : Earns c L h h := .of_used rfl (Nat.le_refl _) rfl

theorem trans (he : Earns c L h h') (he' : Earns c L h' h'') : Earns c L h h'' := by
  have hused' := he'.used_le
  rw [Capped.le_iff] at hused'
  refine ⟨Nat.le_trans he.used_le he'.used_le, ?_⟩
  rcases he'.freed_le with hall | ⟨written', hfreed'⟩
  · exact .inl hall
  rcases he.freed_le with hall | ⟨written, hfreed⟩
  · have hall := Capped.eq_greatest_iff.1 hall
    exact .inl (Capped.eq_greatest_iff.2 (by omega))
  · refine .inr ⟨written ∪ written', fun keys hkeys => ?_⟩
    have hfirst := hfreed keys (Finset.union_subset_left hkeys)
    have hrest := hfreed' keys (Finset.union_subset_right hkeys)
    omega

theorem of_use {amount : U64} {meter : Meter} (hm : h.meter.use? amount = some meter) :
    Earns c L h { h with meter } := by
  obtain ⟨hle, rfl⟩ := Meter.use?_eq_some_iff.1 hm
  have hspent := Meter.val_used_spend hle
  exact .of_used rfl (Capped.le_iff.2 (hspent ▸ Nat.le_add_right _ _)) rfl

/-- The worth of bytes is a matter of the storage alone. -/
theorem congr (hL : L'.storage = L.storage) (he : Earns c L h h') : Earns c L' h h' := by
  refine ⟨he.used_le, he.freed_le.imp_right fun ⟨written, hfreed⟩ => ⟨written, fun keys hkeys => ?_⟩⟩
  rw [Staging.size_congr hL rfl, Staging.size_congr hL rfl]
  exact hfreed keys hkeys

theorem of_carried (hprices : c.schedule.releasePerByte ≤ c.schedule.storePerByte) (hc : Carried c L h h') :
    Earns c L h h' := by
  cases hc with
  | kept hstaging hmeter => exact .of_used (by rw [hstaging]) (by rw [hmeter]; exact Nat.le_refl _) (by rw [hmeter])
  | @wrote key value meter hpaid hstaging hmeter =>
    obtain ⟨hle, rfl⟩ := Meter.use?_eq_some_iff.1 hpaid
    have hspent := Meter.val_used_spend hle
    have hused : h'.meter.frame.used = (h.meter.spend (h.staging.writeCost c L key value).charge).frame.used := by
      rw [hmeter]
      rfl
    have hfreed : h'.meter.frame.freed = h.meter.frame.freed + (h.staging.writeCost c L key value).release := by
      rw [hmeter]
      rfl
    rw [← hused] at hspent
    refine ⟨Capped.le_iff.2 (hspent ▸ Nat.le_add_right _ _), ?_⟩
    have hsame : (StorageStatus.classify (h.staging.get L key) value != .unchanged) = false →
        (h.staging.get L key).length = value.length := by
      intro hstatus
      exact congrArg List.length (StorageStatus.classify_eq_unchanged.1 (by simpa using hstatus))
    rcases GasSchedule.write_bound hprices (h.staging.get L key).length value.length hsame with hall | hbound
    · have hall : _ ≤ (h.staging.writeCost c L key value).charge.val := Capped.eq_greatest_iff.1 hall
      exact .inl (Capped.eq_greatest_iff.2 (by omega))
    · refine .inr ⟨{(h.staging.frame.address, key)}, fun keys hkeys => ?_⟩
      have hsize := Staging.size_put (L := L) key value (hkeys (Finset.mem_singleton_self _))
      have hworth := congrArg (c.schedule.releasePerByte.val * ·) hsize
      have hcap := Nat.min_le_left
        (h.meter.frame.freed.val + (h.staging.writeCost c L key value).release.val) 0xffffffffffffffff
      simp only [Nat.mul_add] at hworth
      rw [hstaging, hfreed, Capped.val_add, hspent]
      unfold Staging.writeCost at hcap ⊢
      omega

end Host.Earns

/-- A request frees no more gas than it takes and the bytes lose in worth. -/
theorem Request.perform_earns {c : HostConfig} {L : Ledger}
    (hprices : c.schedule.releasePerByte ≤ c.schedule.storePerByte) (r : Request) (h : Host) :
    h.Earns c L (r.perform c L h).2 := by
  rcases r.perform_costs c L h with ⟨e, hx⟩ | ⟨meter, hm, hx⟩ <;> rw [hx]
  · exact .refl h
  refine (Host.Earns.of_use hm).trans ?_
  rcases r.deliver_cases c L { h with meter } with ⟨e, hx⟩ | ⟨answer, h', hx, hcarried⟩ <;> rw [hx]
  · exact .refl _
  · exact .of_carried hprices hcarried

/-! ## Nested calls -/

section Runs

variable {ε σ : Type} {S : Setting ε σ} {levels : Nat} {mode : CallMode} {call : NestedCall} {h inner : Host} {s : σ}
  {L : Ledger}

theorem earns_begun {input : CallInput} (hbegun : S.begun mode call h s = (.ok input, inner)) :
    (h.enter mode call.callee (h.grant call)).Earns S.config L inner := by
  obtain ⟨code, output, meter, -, -, hm, -, rfl⟩ := begun_ok hbegun
  have hpaid : (h.enter mode call.callee (h.grant call)).Earns S.config L
    { h.enter mode call.callee (h.grant call) with meter } := .of_use hm
  exact ⟨hpaid.used_le, hpaid.freed_le⟩

/-- The caller pays what a success used, and has what it freed and wrote. -/
theorem earns_afterSuccess {c : HostConfig} {parent : Host} {callee : Address} {gas : U64}
    (hle : inner.meter.frame.used ≤ parent.meter.left) (he : (parent.enter mode callee gas).Earns c L inner) :
    parent.Earns c L (parent.afterSuccess mode inner) := by
  have hspent : (parent.afterSuccess mode inner).meter.frame.used.val =
      parent.meter.frame.used.val + inner.meter.frame.used.val := Meter.val_used_spend hle
  refine ⟨Capped.le_iff.2 (hspent ▸ Nat.le_add_right _ _), ?_⟩
  rcases he.freed_le with hall | ⟨written, hfreed⟩
  · have hall := Capped.eq_greatest_iff.1 hall
    exact .inl (Capped.eq_greatest_iff.2 (by omega))
  · refine .inr ⟨written, fun keys hkeys => ?_⟩
    have hstart : (parent.enter mode callee gas).meter.frame.used.val = 0 ∧
        (parent.enter mode callee gas).meter.frame.freed.val = 0 := ⟨rfl, rfl⟩
    have hentered : (parent.enter mode callee gas).staging.size L keys = parent.staging.size L keys :=
      Staging.size_congr rfl (by cases mode <;> rfl) keys
    have hended : (parent.afterSuccess mode inner).staging.size L keys = inner.staging.size L keys :=
      Staging.size_congr rfl rfl keys
    have hadded : (parent.afterSuccess mode inner).meter.frame.freed.val ≤
        parent.meter.frame.freed.val + inner.meter.frame.freed.val := Nat.min_le_left _ _
    have hinside := hfreed keys hkeys
    rw [hentered, hstart.1, hstart.2] at hinside
    rw [hended, hspent]
    omega

/-- A run on a ledger whose storage stays that of `L` frees no more gas than it uses and the bytes lose in worth. -/
def EarnsFrom (S : Setting ε σ) (L : Ledger) (h : Host) (s : σ) (h' : Host) (s' : σ) : Prop :=
  (S.ledger s).storage = L.storage → (S.ledger s').storage = L.storage ∧ h.Earns S.config L h'

theorem Called.earns {u : Turn ε σ (Except CallError CallOutcome)}
    (hinside : ∀ R, S.inside levels = some R → ∀ h s t, R h s t → EarnsFrom S L h s t.host t.around)
    (hcall : Called S (S.inside levels) mode call h s u) : EarnsFrom S L h s u.host u.around := by
  intro hL
  -- The caller pays for a failure, and everything else of it is undone.
  have hfailure : ∀ {meter : Meter} {cost : U64}, h.meter.use? (Host.baseCost S.config mode) = some meter →
      h.Earns S.config L (Host.afterFailure { h with meter } cost) := by
    intro meter cost hmeter
    exact (Host.Earns.of_use hmeter).trans (.of_used rfl (Capped.le_add_right _ _) rfl)
  cases hcall with
  | doomed hfatal => exact ⟨hL, .refl h⟩
  | tooDeep hfree hlevel he => exact ⟨hL, .of_used rfl (Nat.le_refl _) rfl⟩
  | unpaid hfree hlevel hmeter => exact ⟨hL, .refl h⟩
  | unbegun hfree hlevel hmeter hbegun hcost => exact ⟨hL, hfailure hmeter⟩
  | died hfree hlevel hmeter hbegun hrun hfatal =>
    have hpaid := Host.Earns.of_use (c := S.config) (L := L) hmeter
    exact ⟨(hinside _ hlevel _ _ _ hrun hL).1, hpaid.used_le, hpaid.freed_le⟩
  | failed hfree hlevel hmeter hbegun hrun hfatal hreply hcost =>
    exact ⟨(hinside _ hlevel _ _ _ hrun hL).1, hfailure hmeter⟩
  | @succeeded R meter input inner t hfree hlevel hmeter hbegun hrun hfatal hreply =>
    obtain ⟨hL', hearns⟩ := hinside R hlevel _ _ _ hrun hL
    have hsame := (sameCall_begun hbegun).trans (sameCall_inside hlevel hrun)
    have hle := Nat.le_trans (Host.used_inner_le hsame) (grant_le { h with meter } call)
    exact ⟨hL', (Host.Earns.of_use hmeter).trans (earns_afterSuccess hle ((earns_begun hbegun).trans hearns))⟩

theorem Runs.earns (hprices : S.config.schedule.releasePerByte ≤ S.config.schedule.storePerByte)
    (hstorage : ∀ e s, (S.ledger (S.react e s)).storage = (S.ledger s).storage)
    {t : Turn ε σ (Except CallError Unit)} (hrun : Runs S levels h s t) : EarnsFrom S L h s t.host t.around := by
  refine hrun.of_steps (Q := fun h s t => EarnsFrom S L h s t.host t.around) fun levels hinside h s t hsteps => ?_
  induction hsteps with
  | ended result => exact fun hL => ⟨hL, .refl _⟩
  | @asked h after s r reply t hperform hrest ih =>
    intro hL
    have hfirst := r.perform_earns (L := S.ledger s) hprices h
    rw [hperform] at hfirst
    exact ⟨(ih hL).1, (hfirst.congr hL.symm).trans (ih hL).2⟩
  | called hcall hrest ih =>
    intro hL
    obtain ⟨hL', hfirst⟩ := hcall.earns hinside hL
    exact ⟨(ih hL').1, hfirst.trans (ih hL').2⟩
  | @signalled h s event t hrest ih => exact fun hL => ih ((hstorage event s).trans hL)

end Runs

/-! ## Transactions -/

/-- The gas that was freed and the writes that are staged. -/
def Host.proceeds (h : Host) : U64 × AddressMap AccountStorage := (h.meter.frame.freed, h.staging.accounts)

section Prepare

open ContractHost.Action

variable {c : HostConfig} {L : Ledger}

/-- Before its code a transaction writes nothing and frees nothing. -/
theorem keeps_proceeds_prepare (tx : Transaction) : Keeps Host.proceeds (Host.prepare c L tx) := by
  have hpaid : ∀ (move : Action Unit) (amount : U64) (input : U64 → CallInput), Keeps Host.proceeds move →
      Keeps Host.proceeds do
        move
        Host.useGas amount
        let gas ← read (·.meter.frame.provided)
        return input gas := fun move amount input hmove =>
    hmove.bind fun _ => (Host.keeps_useGas fun _ => rfl).bind fun _ => (keeps_read _).bind fun _ => keeps_pure _
  unfold Host.prepare
  refine (Host.keeps_target (fun _ _ => rfl) tx).bind fun ⟨callee, code⟩ => (keeps_require _ _).bind fun _ => ?_
  refine Keeps.bind (fun h => rfl) fun _ => ?_
  dsimp only
  split
  · exact hpaid _ _ _ (Host.keeps_recordTransfer (fun _ _ => rfl) _ _ _ _)
  · exact hpaid _ _ _ (Host.keeps_moveValue (fun _ _ => rfl) _ _ _ _)

end Prepare

variable {ε σ : Type} {S : Setting ε σ}

theorem Setting.earns_process (hprices : S.config.schedule.releasePerByte ≤ S.config.schedule.storePerByte)
    (hstorage : ∀ e s, (S.ledger (S.react e s)).storage = (S.ledger s).storage) (tx : Transaction) (gas : U64) (s : σ) :
    (Host.start gas).Earns S.config (S.ledger s) (S.process tx (.start gas) s).host := by
  have hkept : ∀ h : Host, h.proceeds = (Host.start gas).proceeds → (Host.start gas).Earns S.config (S.ledger s) h :=
    fun h hh => .of_used (congrArg Prod.snd hh) (Nat.zero_le _) (congrArg Prod.fst hh)
  unfold process
  split
  · exact hkept _ (Host.keeps_moveValue (fun _ _ => rfl) _ _ _ _ _)
  · have hprepared := keeps_proceeds_prepare (c := S.config) (L := S.ledger s) tx (.start gas)
    rcases hx : Host.prepare S.config (S.ledger s) tx (.start gas) with ⟨e | input, h⟩ <;> rw [hx] at hprepared
    · exact hkept h hprepared
    · exact (hkept h hprepared).trans ((S.run_runs _ _ h s).earns hprices hstorage rfl).2

/-- The keys that an output has updates for. -/
def TransactionOutput.writes (o : TransactionOutput) : Finset (Address × Bytes) :=
  (o.accounts.toList.flatMap fun e => e.2.updates.keys.map fun key => (e.1, key)).toFinset

theorem TransactionOutput.mem_writes {o : TransactionOutput} {a : Address} {key : Bytes} :
    (a, key) ∈ o.writes ↔ ∃ account, o.accounts[a]? = some account ∧ key ∈ account.updates := by
  unfold writes
  simp only [List.mem_toFinset, List.mem_flatMap, List.mem_map, Prod.exists, Prod.mk.injEq,
    Std.ExtTreeMap.mem_toList_iff_getElem?_eq_some, Std.ExtTreeMap.mem_keys]
  constructor
  · rintro ⟨a', account, haccount, key', hkey, rfl, rfl⟩
    exact ⟨account, haccount, hkey⟩
  · rintro ⟨account, haccount, hkey⟩
    exact ⟨a, account, haccount, key, hkey, rfl, rfl⟩

theorem Accumulator.mem_writes_finalize {staging : Staging} {a : Address} {key : Bytes} (hkey : key ∈ staging.updates a)
    (o : Accumulator) (gasRemaining gasRefund : U64) :
    (a, key) ∈ (o.finalize staging.accounts gasRemaining gasRefund).writes := by
  refine TransactionOutput.mem_writes.2 ⟨{ o.frame.account a with updates := staging.updates a }, ?_, hkey⟩
  have hsome : ¬(staging.accounts.getD a ∅).isEmpty = true := fun hempty =>
    Std.ExtTreeMap.ne_empty_of_mem hkey (Std.ExtTreeMap.isEmpty_iff.1 hempty)
  rw [getElem?_finalize, if_neg hsome]
  rfl

/-- The committed bytes of some keys are those of the keys among them that were written, and bytes that are still
    read. -/
theorem Staging.sum_stored_le {L : Ledger} {s : Staging} {written : Finset (Address × Bytes)}
    (hwritten : ∀ a key, key ∈ s.updates a → (a, key) ∈ written) (keys : Finset (Address × Bytes)) :
    ∑ p ∈ keys, (L.stored p.1 p.2).length ≤ ∑ p ∈ written, (L.stored p.1 p.2).length + s.size L keys := by
  have hpoint : ∀ p ∈ keys, (L.stored p.1 p.2).length ≤
      (if p ∈ written then (L.stored p.1 p.2).length else 0) + (s.valueOf L p.1 p.2).length := by
    rintro ⟨a, key⟩ -
    split
    · exact Nat.le_add_right _ _
    · rename_i hout
      rw [valueOf_eq, Std.ExtTreeMap.getElem?_eq_none (mt (hwritten a key) hout)]
      exact Nat.le_add_left _ _
  calc ∑ p ∈ keys, (L.stored p.1 p.2).length
      ≤ ∑ p ∈ keys, ((if p ∈ written then (L.stored p.1 p.2).length else 0) + (s.valueOf L p.1 p.2).length) :=
        Finset.sum_le_sum hpoint
    _ = ∑ p ∈ keys ∩ written, (L.stored p.1 p.2).length + s.size L keys := by
        rw [Finset.sum_add_distrib, Finset.sum_ite_mem]
        rfl
    _ ≤ ∑ p ∈ written, (L.stored p.1 p.2).length + s.size L keys :=
        Nat.add_le_add_right (Finset.sum_le_sum_of_subset Finset.inter_subset_right) _

/-- What was freed since the start is at most what was used and the worth of the committed bytes of the keys that
    are staged. -/
theorem Host.Earns.freed_le_of_start {c : HostConfig} {L : Ledger} {gas : U64} {h : Host}
    (he : (Host.start gas).Earns c L h) {written : Finset (Address × Bytes)}
    (hwritten : ∀ a key, key ∈ h.staging.updates a → (a, key) ∈ written) :
    h.meter.frame.freed.val ≤ h.meter.frame.used.val +
      c.schedule.releasePerByte.val * ∑ p ∈ written, (L.stored p.1 p.2).length := by
  rcases he.freed_le with hall | ⟨keys, hbound⟩
  · rw [hall]
    exact Nat.le_add_right_of_le h.meter.frame.freed.val_le
  · have hstart : (Host.start gas).meter.frame.used.val = 0 ∧ (Host.start gas).meter.frame.freed.val = 0 := ⟨rfl, rfl⟩
    have hcommitted : (Host.start gas).staging.size L keys = ∑ p ∈ keys, (L.stored p.1 p.2).length :=
      Finset.sum_congr rfl fun p _ => congrArg List.length (Staging.valueOf_eq p.1 p.2)
    have hworth := Nat.mul_le_mul_left c.schedule.releasePerByte.val (Staging.sum_stored_le (L := L) hwritten keys)
    have hrun := hbound keys (Finset.Subset.refl _)
    rw [hcommitted, hstart.1, hstart.2] at hrun
    rw [Nat.mul_add] at hworth
    omega

/-- The refund of a success is at most the gas that it used and what the committed values of the keys it wrote are worth
    at the price of a released byte, where storing a byte costs no less than that. -/
theorem Setting.transact_refunds (hprices : S.config.schedule.releasePerByte ≤ S.config.schedule.storePerByte)
    (hstorage : ∀ e s, (S.ledger (S.react e s)).storage = (S.ledger s).storage) {tx : Transaction} {gas : U64} {s : σ}
    (hsuccess : (S.transact tx (.start gas) s).reply.isSuccess = true) :
    let o := (S.transact tx (.start gas) s).reply
    (o.gasRefund.val : Int) ≤ ((gas.val : Int) - o.gasRemaining.val) +
      S.config.schedule.releasePerByte.val * ∑ p ∈ o.writes, ((S.ledger s).stored p.1 p.2).length := by
  intro o
  let h := (S.process tx (.start gas) s).host
  have hout : o = h.output.finalize h.staging.accounts h.meter.left h.meter.frame.freed :=
    (Host.conclude_success hsuccess).2.2
  have hend := S.sameStacks_process tx (.start gas) s
  have hprovided : h.meter.frame.provided = gas := hend.meter.provided
  have hused : h.meter.frame.used.val ≤ gas.val := hprovided ▸ hend.meter.within (Nat.zero_le _)
  have hremaining : o.gasRemaining.val = gas.val - h.meter.frame.used.val := by
    rw [hout, ← hprovided]
    rfl
  have hrefund : o.gasRefund = h.meter.frame.freed := by rw [hout]; rfl
  have hwritten : ∀ a key, key ∈ h.staging.updates a → (a, key) ∈ o.writes := fun a key hkey =>
    hout ▸ Accumulator.mem_writes_finalize hkey _ _ _
  have hearns : (Host.start gas).Earns S.config (S.ledger s) h := S.earns_process hprices hstorage tx gas s
  have hfreed := hearns.freed_le_of_start hwritten
  rw [hrefund, hremaining]
  omega

/-- Code that grows a value, calls itself to delete another and fail, and then deletes both. -/
def recyclingGuest (input : CallInput) : Guest Unit :=
  if input.depth = 0 then
    .ask (.store [1] [1, 2, 3, 4]) fun _ => .call .sameContext ⟨input.callee, 0, "f", [], 1000⟩ fun _ =>
      .ask (.store [2] []) fun _ => .ask (.store [1] []) fun reply => .done (reply.map fun _ => ())
  else .ask (.store [2] []) fun _ => .done (.error .outOfFunds)

def recyclingSetting : Setting Unit World := ⟨.standard, recyclingGuest, World.ledger, fun _ w => w⟩

def recyclingWorld : World :=
  .ofSteps [.putAccount (.named "bob") ⟨40, 0, [7], .none⟩, .setStorage (.named "bob") [2] (List.replicate 100 9)]

def recyclingCall : Transaction := .call (.named "alice") (.named "bob") "f" 100000

theorem Setting.transact_refunds_recycling :
    let o := (recyclingSetting.transact recyclingCall (.start 100000) recyclingWorld).reply
    o.isSuccess = true ∧ o.gasRefund = 520 ∧
      (o.gasRefund.val : Int) ≤ (((100000 : U64).val : Int) - o.gasRemaining.val) +
        recyclingSetting.config.schedule.releasePerByte.val *
          ∑ p ∈ o.writes, (recyclingWorld.ledger.stored p.1 p.2).length := by
  have hsuccess : (recyclingSetting.transact recyclingCall (.start 100000) recyclingWorld).reply.isSuccess = true := by
    decide +kernel
  exact ⟨hsuccess, by decide +kernel, Setting.transact_refunds (by decide) (fun _ _ => rfl) hsuccess⟩

end ContractHost

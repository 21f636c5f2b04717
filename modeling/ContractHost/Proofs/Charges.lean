/-
  ContractHost.Proofs.Charges — what is paid is the price in whole numbers.

  A price in capped numbers is the price in whole numbers, brought to the cap where it is
  above it (`GasSchedule.charge_eq`, `compile_eq`, `write_eq`), whatever was multiplied and
  added on the way. No transaction that was given less gas than the cap ever has a call
  that has as much left (`Setting.Reached.left_lt`), so a price at the cap cannot be paid
  by any, and no other price was brought there: what is looked for and taken is the price
  in whole numbers, and without it nothing is (`Meter.takes_of_use?`).

  So every host function, every nested call and the code of a transaction is paid, each
  after what is looked at first, which takes no gas (`Setting.reached_charges`).
-/

import ContractHost.Proofs.Points
import ContractHost.Proofs.Writes

namespace ContractHost

/-! ## Prices in whole numbers -/

namespace GasSchedule

variable (g : GasSchedule)

def exactCharge (base perByte : Operation) (length : Nat) : Nat := (g.cost base).val + (g.cost perByte).val * length

def exactCompile (length : Nat) : Nat := g.compilePerByte.val * length

/-- What putting `new` bytes in the place of `old` ones takes. -/
def exactWrite (old new : Nat) (changed : Bool) : Nat :=
  if !changed then 0
  else if old < new then g.storePerByte.val * (new - old) + g.persistPerByte.val * old
  else g.persistPerByte.val * new

/-- What it gives back. -/
def exactRelease (old new : Nat) (changed : Bool) : Nat :=
  if !changed ∨ old < new then 0 else g.releasePerByte.val * (old - new)

theorem charge_eq (base perByte : Operation) (length : Nat) :
    g.charge base perByte length = Capped.clamp (g.exactCharge base perByte length) := by
  ext
  rw [charge, exactCharge, Capped.val_add, Capped.val_mul_clamp, Capped.val_clamp]
  omega

theorem compile_eq (length : Nat) : g.compile length = Capped.clamp (g.exactCompile length) := by
  ext
  rw [compile, exactCompile, Capped.val_mul_clamp, Capped.val_clamp]

theorem write_eq (old new : Nat) (changed : Bool) :
    g.write old new changed =
      ⟨Capped.clamp (g.exactWrite old new changed), Capped.clamp (g.exactRelease old new changed)⟩ := by
  have hproduct : ∀ (price : U64) (n : Nat), price * Capped.clamp n = Capped.clamp (price.val * n) := fun price n =>
    Capped.ext (Capped.val_mul_clamp price n)
  unfold write exactWrite exactRelease
  cases changed with
  | false => rfl
  | true =>
    by_cases hgrows : old < new
    · have hsum : g.storePerByte * Capped.clamp (new - old) + g.persistPerByte * Capped.clamp old =
          Capped.clamp (g.storePerByte.val * (new - old) + g.persistPerByte.val * old) := by
        ext
        rw [Capped.val_add, Capped.val_mul_clamp, Capped.val_mul_clamp, Capped.val_clamp]
        omega
      simp only [hgrows, hsum, Bool.not_true, Bool.false_eq_true, if_false, if_true, or_true]
      rfl
    · simp only [hgrows, hproduct, Bool.not_true, Bool.false_eq_true, if_false, or_self]

end GasSchedule

/-! ## Payments -/

/-- Where the gas left covers the price, that much more is used and the result is the paid one; otherwise the result
    is the refused one. -/
def Meter.Takes {α : Type} (m : Meter) (price : Nat) (result refused : α) (paid : Meter → α) : Prop :=
  (price ≤ m.left.val →
    ∃ used : U64, used.val = m.frame.used.val + price ∧ result = paid { m with frame := { m.frame with used } }) ∧
  (m.left.val < price → result = refused)

/-- A price that was brought to the cap is out of reach for a meter that has less left. -/
theorem Meter.takes_of_use? {α : Type} {m : Meter} {price : Nat} {result refused : α} {paid : Meter → α}
    (hleft : m.left < Capped.greatest)
    (hresult : result = match m.use? (Capped.clamp price) with
      | some meter => paid meter
      | none => refused) : m.Takes price result refused paid := by
  rw [Capped.lt_iff, Capped.val_greatest] at hleft
  constructor
  · intro hle
    have hprice : (Capped.clamp price : U64).val = price := Nat.min_eq_left (by omega)
    have hpaid : Capped.clamp price ≤ m.left := by rwa [Capped.le_iff, hprice]
    rw [use?_spend hpaid] at hresult
    exact ⟨(m.spend (Capped.clamp price)).frame.used, by rw [val_used_spend hpaid, hprice], hresult⟩
  · intro hlt
    have hunpaid : m.left < Capped.clamp price := by
      rw [Capped.lt_iff, Capped.val_clamp]
      omega
    rwa [use?_eq_none_iff.2 hunpaid] at hresult

namespace Host

open ContractHost.Action

/-- From `h` the action looks first, which takes no gas, then takes the price that goes with what it saw, and is
    then what is `paid` for. -/
def Charges {α β : Type} (x : Action α) (look : Action β) (price : β → Nat) (paid : β → Action α) (h : Host) : Prop :=
  ∃ seen after, look h = (seen, after) ∧ after.meter = h.meter ∧
    match seen with
    | .error e => x h = (.error e, after)
    | .ok b => h.meter.Takes (price b) (x h) (.error .outOfGas, after) fun meter => paid b { after with meter }

theorem charges_of_eq {α β : Type} {x : Action α} {look : Action β} {price : β → Nat} {paid : β → Action α} {h : Host}
    (hleft : h.meter.left < Capped.greatest) (hlook : Keeps Host.meter look)
    (hx : x h = (look >>= fun b => useGas (Capped.clamp (price b)) >>= fun _ => paid b) h) :
    Charges x look price paid h := by
  have hmeter := hlook h
  rw [bind_apply] at hx
  rcases hseen : look h with ⟨e | b, after⟩ <;> rw [hseen] at hx hmeter
  · exact ⟨.error e, after, hseen, hmeter, hx⟩
  · refine ⟨.ok b, after, hseen, hmeter, Meter.takes_of_use? hleft ?_⟩
    rw [hx]
    dsimp only at hmeter ⊢
    rw [bind_apply, useGas, hmeter]
    cases h.meter.use? (Capped.clamp (price b)) <;> rfl

end Host

/-! ## Host functions -/

namespace Request

open ContractHost.Action Host

/-- The price of a request in whole numbers; a write is paid beside it. -/
def exactPrice (c : HostConfig) (L : Ledger) (h : Host) : Request → Nat
  | .useGas amount => amount.val
  | .store _ _ => (c.schedule.cost .storageStore).val
  | .load key => c.schedule.exactCharge .storageLoad .dataCopyPerByte (h.staging.get L key).length
  | .loadFrom a key =>
    c.schedule.exactCharge .getStorageFromAddress .dataCopyPerByte ((h.staging.getFrom L a key).getD []).length
  | .finish data => c.schedule.exactCharge .finish .storePerByte data.length
  | .transfer _ _ data => c.schedule.exactCharge .transferValue .storePerByte data.length
  | .log _ topics data => c.schedule.exactCharge .log .storePerByte (topics.length * topicLength + data.length)
  | .upgrade code _ => c.schedule.exactCharge .upgradeContract .compilePerByte code.length
  | .balance _ => 0

variable (c : HostConfig) (L : Ledger) (h : Host)

theorem price_eq (r : Request) : r.price c L h = Capped.clamp (r.exactPrice c L h) := by
  cases r with
  | useGas amount => exact (Capped.clamp_val amount).symm
  | store key value => exact (Capped.clamp_val _).symm
  | balance a => rfl
  | _ => exact c.schedule.charge_eq _ _ _

theorem perform_charges (r : Request) (hleft : h.meter.left < Capped.greatest) :
    Charges (r.perform c L) (r.admission L) (fun _ => r.exactPrice c L h) (fun _ => r.deliver c L) h :=
  charges_of_eq hleft (keeps_admission L r) (by rw [← price_eq]; exact perform_eq c L h r)

end Request

namespace Staging

variable {c : HostConfig} {L : Ledger} {m : Meter}

/-- A write that only the gas is in the way of takes what it costs in whole numbers and frees what it releases. -/
theorem write_takes (hleft : m.left < Capped.greatest) {s : Staging} {key : Bytes} (hadmits : s.Admits c key)
    (value : Bytes) :
    let old := s.get L key
    let changed := decide (old ≠ value)
    m.Takes (c.schedule.exactWrite old.length value.length changed) (s.write c L m key value)
      ⟨.error .outOfGas, s, m⟩ fun meter => ⟨.ok (.classify old value), s.put key value,
        meter.free (Capped.clamp (c.schedule.exactRelease old.length value.length changed))⟩ := by
  intro old changed
  have hwrite := write_admitted (L := L) (m := m) hadmits value
  rw [writeCost_eq, GasSchedule.write_eq] at hwrite
  exact Meter.takes_of_use? hleft hwrite

end Staging

/-! ## Calls and transactions -/

namespace Action

variable {α β γ : Type}

theorem bind_assoc (x : Action α) (f : α → Action β) (g : β → Action γ) :
    x >>= f >>= g = x >>= fun a => f a >>= g := by
  funext h
  simp only [bind_apply]
  rcases x h with ⟨e | a, after⟩ <;> rfl

theorem pure_bind (a : α) (f : α → Action β) : pure a >>= f = f a := rfl

end Action

namespace Host

open ContractHost.Action

variable {c : HostConfig} {L : Ledger}

/-- What happens in the frame of a call before its code is paid: the value is moved and the code found. -/
def found (L : Ledger) (caller : Address) (call : NestedCall) : Action Bytes := do
  require (call.value = 0 || !(← read readOnly)) .writeInReadOnly
  moveValue L caller call.callee call.value []
  let code ← lookup (L.code call.callee)
  require (!code.isEmpty) .contractNotFound
  return code

/-- What happens in a transaction before its code is paid, that is with the account it runs on and the code. -/
def readied (L : Ledger) (tx : Transaction) : Action (Address × Bytes) := do
  let (callee, code) ← target L tx
  require (!code.isEmpty) .contractNotFound
  changeStaging fun s => (s.setAddress callee).setReadOnly (tx.kind = .query)
  if tx.kind = .deploy then recordTransfer L tx.sender callee tx.carried []
  else moveValue L tx.sender callee tx.carried []
  return (callee, code)

/-- What the code of a nested call is called with. -/
def handed (caller : Address) (call : NestedCall) (gas : U64) (code : Bytes) : Action CallInput := do
  let depth ← read (·.depth)
  return ⟨caller, call.callee, call.value, call.function, call.arguments, gas, code, depth⟩

/-- What the code of a transaction is called with. -/
def handedTop (tx : Transaction) (callee : Address) (code : Bytes) : Action CallInput := do
  let gas ← read (·.meter.frame.provided)
  return ⟨tx.sender, callee, tx.carried, tx.function, tx.arguments, gas, code, 0⟩

theorem keeps_meter_found (caller : Address) (call : NestedCall) : Keeps Host.meter (found L caller call) := by
  refine (keeps_read _).bind fun _ => (keeps_require _ _).bind fun _ => ?_
  refine (keeps_moveValue (fun _ _ => rfl) _ _ _ _).bind fun _ => ?_
  exact (keeps_lookup _).bind fun _ => (keeps_require _ _).bind fun _ => keeps_pure _

theorem keeps_meter_readied (tx : Transaction) : Keeps Host.meter (readied L tx) := by
  refine (keeps_target (fun _ _ => rfl) tx).bind fun ⟨callee, code⟩ => (keeps_require _ _).bind fun _ => ?_
  refine Keeps.bind (fun h => rfl) fun _ => ?_
  dsimp only
  split
  · exact (keeps_recordTransfer (fun _ _ => rfl) _ _ _ _).bind fun _ => keeps_pure _
  · exact (keeps_moveValue (fun _ _ => rfl) _ _ _ _).bind fun _ => keeps_pure _

theorem begin_eq (caller : Address) (call : NestedCall) (gas : U64) :
    begin c L caller call gas =
      found L caller call >>= fun code => useGas (c.schedule.compile code.length) >>= fun _ =>
        handed caller call gas code := by
  unfold begin found handed
  simp only [Action.bind_assoc, Action.pure_bind]

theorem prepare_eq (tx : Transaction) :
    prepare c L tx =
      readied L tx >>= fun found => useGas (c.schedule.compile found.2.length) >>= fun _ =>
        handedTop tx found.1 found.2 := by
  unfold prepare readied handedTop Transaction.carried
  simp only [Action.bind_assoc]
  congr 1
  funext ⟨callee, code⟩
  dsimp only
  split <;> simp only [Action.bind_assoc, Action.pure_bind]

end Host

namespace Setting

variable {ε σ : Type} (S : Setting ε σ)

/-- A nested call from the host `h` that has paid its base price, which leaves `parent`. -/
def granted (code : Callee ε σ) (mode : CallMode) (call : NestedCall) (h parent : Host) (s : σ) :
    Turn ε σ (Except CallError CallOutcome) :=
  match S.begun mode call parent s with
  | (.error e, inner) =>
    let settled := Host.settle S.config mode parent (.error e) inner
    ⟨settled.reply, settled.host, s, [.called h mode call none [] (.entered :: settled.phases) settled.reply]⟩
  | (.ok input, inner) =>
    let t := code input inner s
    let settled := Host.settle S.config mode parent t.reply t.host
    ⟨settled.reply, settled.host, t.around,
      [.called h mode call (some input) t.deeds (.entered :: .executing :: settled.phases) settled.reply]⟩

theorem nested_eq (code : Callee ε σ) (mode : CallMode) (call : NestedCall) {h : Host} (hfree : h.fatal = none)
    (s : σ) :
    S.nested (some code) mode call h s = match h.meter.use? (Host.baseCost S.config mode) with
      | some meter => S.granted code mode call h { h with meter } s
      | none => ⟨.error .outOfGas, h, s, [.called h mode call none [] [] (.error .outOfGas)]⟩ := by
  obtain ⟨staging, output, before, depth, fatal⟩ := h
  cases hfree
  unfold nested
  dsimp only
  cases before.use? (Host.baseCost S.config mode) <;> rfl

/-- Every step from a host that takes gas for a price of its own: what is looked at before it takes none, and it is
    paid with the price in whole numbers, or not at all. -/
structure ChargesExactly (h : Host) : Prop where
  request : ∀ L (r : Request),
    Host.Charges (r.perform S.config L) (r.admission L) (fun _ => r.exactPrice S.config L h)
      (fun _ => r.deliver S.config L) h
  write : ∀ L (staging : Staging) key value,
    let old := staging.get L key
    let changed := decide (old ≠ value)
    (¬ staging.Admits S.config key → (staging.write S.config L h.meter key value).meter = h.meter) ∧
      (staging.Admits S.config key →
        h.meter.Takes (S.config.schedule.exactWrite old.length value.length changed)
          (staging.write S.config L h.meter key value) ⟨.error .outOfGas, staging, h.meter⟩ fun meter =>
            ⟨.ok (.classify old value), staging.put key value,
              meter.free (Capped.clamp (S.config.schedule.exactRelease old.length value.length changed))⟩)
  base : ∀ code mode call s, h.fatal = none →
    h.meter.Takes (Host.baseCost S.config mode).val (S.nested (some code) mode call h s)
      ⟨.error .outOfGas, h, s, [.called h mode call none [] [] (.error .outOfGas)]⟩
      fun meter => S.granted code mode call h { h with meter } s
  calleeCode : ∀ L caller call gas,
    Host.Charges (Host.begin S.config L caller call gas) (Host.found L caller call)
      (fun code => S.config.schedule.exactCompile code.length) (Host.handed caller call gas) h
  topCode : ∀ L tx,
    Host.Charges (Host.prepare S.config L tx) (Host.readied L tx)
      (fun found => S.config.schedule.exactCompile found.2.length) (fun found => Host.handedTop tx found.1 found.2) h

theorem chargesExactly {h : Host} (hleft : h.meter.left < Capped.greatest) : S.ChargesExactly h where
  request L r := r.perform_charges S.config L h hleft
  write L staging key value := by
    refine ⟨fun hrefused => ?_, fun hadmits => Staging.write_takes hleft hadmits value⟩
    rcases staging.write_outcomes S.config L h.meter key value with
      ⟨-, hw⟩ | ⟨-, hw⟩ | ⟨-, hw⟩ | ⟨⟨hadmits, -⟩, -⟩ | ⟨⟨hadmits, -⟩, -⟩
    · rw [hw]
    · rw [hw]
    · rw [hw]
    · exact absurd hadmits hrefused
    · exact absurd hadmits hrefused
  base code mode call s hfree :=
    Meter.takes_of_use? hleft (by rw [Capped.clamp_val, S.nested_eq code mode call hfree s])
  calleeCode L caller call gas := by
    refine Host.charges_of_eq hleft (Host.keeps_meter_found caller call) ?_
    simp only [← GasSchedule.compile_eq]
    rw [Host.begin_eq]
  topCode L tx := by
    refine Host.charges_of_eq hleft (Host.keeps_meter_readied tx) ?_
    simp only [← GasSchedule.compile_eq]
    rw [Host.prepare_eq]

/-- The hosts that a transaction comes by: the one it starts with, the one before each deed, the one that a payment
    leaves, and the one in the frame of a call that is given no more than its caller has left. -/
inductive Reached (tx : Transaction) (gas : U64) (s : σ) : Host → Prop
  | start : Reached tx gas s (.start gas)
  | before {calls : List (OpenCall ε)} {d : Deed ε} {rest : List (Deed ε)}
      (hpoint : Point (S.process tx (.start gas) s).deeds calls (d :: rest)) : Reached tx gas s d.before
  | paid {h : Host} {meter : Meter} {amount : U64} (hh : Reached tx gas s h) (hm : h.meter.use? amount = some meter) :
      Reached tx gas s { h with meter }
  | entered {h : Host} {granted : U64} (mode : CallMode) (callee : Address) (hh : Reached tx gas s h)
      (hgas : granted ≤ h.meter.left) : Reached tx gas s (h.enter mode callee granted)

variable {S} {tx : Transaction} {gas : U64} {s : σ}

theorem provided_le_of_point {calls : List (OpenCall ε)} {d : Deed ε} {rest : List (Deed ε)}
    (hpoint : Point (S.process tx (.start gas) s).deeds calls (d :: rest)) :
    d.before.meter.frame.provided ≤ gas := by
  obtain ⟨top, inner, -, hsame, -, -, hrun⟩ := runs_of_point hpoint
  have hstart : inner.meter.frame.provided ≤ gas := hsame.meter.provided ▸ Nat.le_refl _
  have hat := hrun.of_point (P := fun _ _ h _ _ => h.meter.frame.provided ≤ gas) hstart ?step ?enter hpoint
  case step =>
    intro calls lv d h s h' s' t' hle hstep _
    rwa [hstep.sameCall.meter.provided]
  case enter =>
    intro calls lv mode call input phases reply h s h' s' t' meter inner v hle _ _ he _
    have hprovided : inner.meter.frame.provided = Host.grant { h with meter } call :=
      Host.provided_inner (sameCall_begun he.begun)
    have hgrant : Host.grant { h with meter } call ≤ meter.left := grant_le { h with meter } call
    rw [hprovided]
    exact Nat.le_trans hgrant (Nat.le_trans (Nat.sub_le _ _) ((Meter.Spends.of_use he.paid).provided ▸ hle))
  obtain ⟨lv, s', t', hle, -⟩ := hat
  exact hle

/-- No call is given more than the transaction was. -/
theorem Reached.provided_le {h : Host} (hh : S.Reached tx gas s h) : h.meter.frame.provided ≤ gas := by
  induction hh with
  | start => exact Nat.le_refl _
  | before hpoint => exact provided_le_of_point hpoint
  | paid hh hm ih => exact (Meter.Spends.of_use hm).provided ▸ ih
  | entered mode callee hh hgas ih => exact Nat.le_trans hgas (Nat.le_trans (Nat.sub_le _ _) ih)

theorem Reached.left_lt (hgas : gas < Capped.greatest) {h : Host} (hh : S.Reached tx gas s h) :
    h.meter.left < Capped.greatest :=
  Nat.lt_of_le_of_lt (Nat.le_trans (Nat.sub_le _ _) hh.provided_le) hgas

/-- Whatever the prices are, a transaction with less gas than the cap pays each in whole numbers or does not pay it. -/
theorem reached_charges (hgas : gas < Capped.greatest) {h : Host} (hh : S.Reached tx gas s h) : S.ChargesExactly h :=
  S.chargesExactly (hh.left_lt hgas)

/-- Code that calls itself, and inside of the call logs. -/
def loggingGuest (input : CallInput) : Guest Unit :=
  if input.depth = 0 then .call .sameContext ⟨input.callee, 0, "log", [], 300⟩ fun _ => .done (.ok ())
  else .ask (.log [] [] []) fun reply => .done reply

/-- A log costs 5 here, and the least of its bytes more than there is. -/
def loggingSetting : Setting Unit World :=
  ⟨{ HostConfig.standard with schedule := { GasSchedule.standard with log := 5, storePerByte := Capped.greatest } },
    loggingGuest, World.ledger, fun _ w => w⟩

def loggingWorld : World := .ofSteps [.putAccount (.named "bob") ⟨40, 0, [7], .none⟩]

/-- Whether the point is inside of a call that is about to log. -/
def logsNext (p : List (OpenCall Unit) × List (Deed Unit)) : Bool :=
  match p with
  | ([_], .asked h (.log [] [] []) _ :: _) => h.meter.left.val = 299
  | _ => false

theorem reached_charges_logging :
    ∃ h, loggingSetting.Reached (.call (.named "alice") (.named "bob") "f" 100000) 100000 loggingWorld h ∧
      h.meter.left.val = 299 ∧
      (((Request.log [] [] []).perform loggingSetting.config loggingWorld.ledger h).2.meter.frame.used.val =
        h.meter.frame.used.val + 5) ∧
      (Request.log [] [[]] []).perform loggingSetting.config loggingWorld.ledger h = (.error .outOfGas, h) := by
  have hlogs : (pointsOf [] (loggingSetting.process (.call (.named "alice") (.named "bob") "f" 100000) (.start 100000)
      loggingWorld).deeds).any logsNext = true := by decide +kernel
  obtain ⟨calls, ds, hpoint, hnext⟩ := exists_point_of_any hlogs
  unfold logsNext at hnext
  split at hnext
  · rename_i h reply rest hp
    cases hp
    have hleft : h.meter.left.val = 299 := of_decide_eq_true hnext
    have hreached : loggingSetting.Reached (.call (.named "alice") (.named "bob") "f" 100000) 100000 loggingWorld h :=
      .before hpoint
    have hcharges : loggingSetting.ChargesExactly h := reached_charges (by decide) hreached
    have hcheap : (Request.log [] [] []).exactPrice loggingSetting.config loggingWorld.ledger h = 5 := rfl
    have hdear : (Request.log [] [[]] []).exactPrice loggingSetting.config loggingWorld.ledger h =
      5 + 0xffffffffffffffff * topicLength := rfl
    obtain ⟨seen, after, hlook, -, hpays⟩ := hcharges.request loggingWorld.ledger (.log [] [] [])
    cases hlook
    obtain ⟨used, hused, hperform⟩ := hpays.1 (by rw [hleft, hcheap]; decide)
    obtain ⟨seen, after, hlook, -, hlacks⟩ := hcharges.request loggingWorld.ledger (.log [] [[]] [])
    cases hlook
    refine ⟨h, hreached, hleft, ?_, hlacks.2 (by rw [hleft, hdear]; decide)⟩
    rw [hperform]
    exact hused
  · cases hnext

end Setting

end ContractHost

/-
  ContractHost.Proofs.Queries — queries are pure.

  The frame in which a query's code runs is read-only, and so is that of every call of it,
  in either mode. In such a frame transfers and upgrades are refused, a call with value is
  refused before anything moved, and a write that the guard lets through is skipped
  (`Deed.WithoutEffect`). What is left to do records nothing about any account: at every
  point of a query the host is `Inert`, with no staged write, no account in its output and
  no gas freed.

  So is the host at the end, and the output of a success has no account and refunds
  nothing. The value that a query is sent with is never looked at
  (`Setting.transact_pure`).
-/

import ContractHost.Proofs.Alignment
import ContractHost.Proofs.Refunds

namespace ContractHost

variable {ε σ : Type}

/-- Writes are skipped, none is staged, the output has no account, and no gas was freed. -/
structure Host.Inert (h : Host) : Prop where
  readOnly : h.readOnly = true
  staged : h.staging.accounts = ∅
  accounts : h.output.frame.accounts = ∅
  freed : h.meter.frame.freed = 0

/-- What changes an account is refused, and a write that the guard lets through and that is paid changes nothing. -/
def Deed.WithoutEffect (c : HostConfig) : Deed ε → Prop
  | .asked _ (.transfer _ _ _) reply => reply = .error .writeInReadOnly
  | .asked _ (.upgrade _ _) reply => reply = .error .writeInReadOnly
  | .asked before (.store key _) reply =>
    c.isReserved key = false → c.isProtected key = false → c.schedule.cost .storageStore ≤ before.meter.left →
      reply = .ok .unchanged
  | .called _ _ call input inside phases reply =>
    call.value ≠ 0 → input = none ∧ inside = [] ∧
      ((∃ e, phases = [] ∧ reply = .error e) ∨
        ∃ cost, phases = [.entered, .failed, .returned] ∧
          reply = .ok (.failed CallError.writeInReadOnly.returnCode CallError.writeInReadOnly.message cost))
  | _ => True

theorem OutputFrame.accounts_merge_eq_empty {f g : OutputFrame} (hf : f.accounts = ∅) (hg : g.accounts = ∅) :
    (f.merge g).accounts = ∅ := by
  unfold merge
  ext1 a
  simp [hf, hg]

theorem Meter.freed_use? {m m' : Meter} {amount : U64} (hm : m.use? amount = some m') :
    m'.frame.freed = m.frame.freed := by
  obtain ⟨-, rfl⟩ := use?_eq_some_iff.1 hm
  rfl

namespace Host.Inert

variable {h : Host} {meter : Meter} {amount : U64}

/-- Gas may be spent. -/
theorem paid (hi : h.Inert) (hm : h.meter.use? amount = some meter) : Host.Inert { h with meter } :=
  ⟨hi.readOnly, hi.staged, hi.accounts, (Meter.freed_use? hm).trans hi.freed⟩

theorem doomed (hi : h.Inert) (fatal : Option CallError) : Host.Inert { h with fatal } :=
  ⟨hi.readOnly, hi.staged, hi.accounts, hi.freed⟩

theorem enter (hi : h.Inert) (mode : CallMode) (callee : Address) (gas : U64) : (h.enter mode callee gas).Inert := by
  cases mode with
  | sameContext => exact ⟨hi.readOnly, hi.staged, hi.accounts, rfl⟩
  | destinationContext => exact ⟨hi.readOnly, hi.staged, rfl, rfl⟩

theorem afterFailure (hi : h.Inert) (charged : U64) : (h.afterFailure charged).Inert :=
  ⟨hi.readOnly, hi.staged, hi.accounts, hi.freed⟩

theorem afterSuccess {inner : Host} {mode : CallMode} {callee : Address} {gas : U64} (hi : h.Inert) (hinner : inner.Inert)
    (hsame : SameCall (h.enter mode callee gas) inner) : (h.afterSuccess mode inner).Inert := by
  refine ⟨hi.readOnly, hinner.staged, ?_, ?_⟩
  · cases mode with
    | sameContext =>
      rw [Host.output_afterSuccess_same hsame]
      exact hinner.accounts
    | destinationContext =>
      rw [Host.output_afterSuccess_destination hsame]
      exact OutputFrame.accounts_merge_eq_empty hi.accounts hinner.accounts
  · show h.meter.frame.freed + inner.meter.frame.freed = 0
    rw [hi.freed, hinner.freed]
    rfl

end Host.Inert

/-! ## Requests -/

namespace Host

open ContractHost.Action

variable {c : HostConfig} {L : Ledger} {h : Host}

theorem transfer_readOnly (hro : h.readOnly = true) (receiver : Address) (value : U256) (data : Bytes) :
    transfer c L receiver value data h = (.error .writeInReadOnly, h) := by
  unfold transfer
  rw [bind_apply, read_apply, hro]
  rfl

theorem upgrade_readOnly (hro : h.readOnly = true) (code : Bytes) (metadata : CodeMetadata) :
    upgrade c L code metadata h = (.error .writeInReadOnly, h) := by
  unfold upgrade
  rw [bind_apply, read_apply, hro]
  rfl

theorem Inert.writeStorage (hi : h.Inert) (key value : Bytes) : (writeStorage c L key value h).2.Inert := by
  unfold Host.writeStorage
  rcases h.staging.write_cases (c := c) (L := L) h.meter key value with
    ⟨e, hw⟩ | ⟨-, hw⟩ | ⟨status, meter, hrw, -, hw⟩ <;> rw [hw]
  · exact hi
  · exact hi
  · cases hi.readOnly.symm.trans hrw

/-- A write to a key that the guard lets through is paid and skipped. -/
theorem store_readOnly (hro : h.readOnly = true) {key : Bytes} (hreserved : c.isReserved key = false)
    (hprotected : c.isProtected key = false) (hleft : c.schedule.cost .storageStore ≤ h.meter.left) (value : Bytes) :
    (store c L key value h).1 = .ok .unchanged := by
  have hkey : ¬ (h.staging.frame.guarded = true ∧ c.isProtected key = true) := by simp [hprotected]
  have hskip : h.staging.frame.readOnly = true := hro
  have hpaid : useGas (c.schedule.cost .storageStore) h =
      (.ok (), { h with meter := h.meter.spend (c.schedule.cost .storageStore) }) := by
    unfold useGas
    rw [Meter.use?_spend hleft]
  unfold store
  rw [bind_apply, hpaid]
  simp [Host.writeStorage, Staging.write, hreserved, hkey, hskip, Except.mapError]

end Host

theorem Request.perform_inert {c : HostConfig} {L : Ledger} {h : Host} (hi : h.Inert) (r : Request) :
    (r.perform c L h).2.Inert := by
  have hcosts := r.perform_costs c L h
  cases r with
  | transfer receiver value data =>
    show (Host.transfer c L receiver value data h).2.Inert
    rwa [Host.transfer_readOnly hi.readOnly]
  | upgrade code metadata =>
    show (Host.upgrade c L code metadata h).2.Inert
    rwa [Host.upgrade_readOnly hi.readOnly]
  | store key value =>
    rcases hcosts with ⟨e, hx⟩ | ⟨meter, hm, hx⟩ <;> rw [hx]
    · exact hi
    · exact (hi.paid hm).writeStorage key value
  | _ =>
    rcases hcosts with ⟨e, hx⟩ | ⟨meter, hm, hx⟩ <;> rw [hx]
    · exact hi
    · have hpaid := hi.paid hm
      exact ⟨hpaid.readOnly, hpaid.staged, hpaid.accounts, hpaid.freed⟩

theorem Request.perform_withoutEffect {c : HostConfig} {L : Ledger} {h h' : Host} {r : Request}
    {reply : Except CallError r.Answer} (hro : h.readOnly = true) (hperform : r.perform c L h = (reply, h')) :
    (Deed.asked h r reply : Deed ε).WithoutEffect c := by
  have hreply : (r.perform c L h).1 = reply := congrArg Prod.fst hperform
  subst hreply
  cases r with
  | transfer receiver value data => exact congrArg Prod.fst (Host.transfer_readOnly hro receiver value data)
  | upgrade code metadata => exact congrArg Prod.fst (Host.upgrade_readOnly hro code metadata)
  | store key value =>
    intro hreserved hprotected hleft
    exact Host.store_readOnly hro hreserved hprotected hleft value
  | _ => exact trivial

/-! ## Runs -/

section Runs

variable {S : Setting ε σ} {levels : Nat} {mode : CallMode} {call : NestedCall} {h inner : Host} {s : σ}

/-- A call with value does not begin in a read-only frame. -/
theorem begun_readOnly (hro : h.readOnly = true) (hvalue : call.value ≠ 0) :
    S.begun mode call h s = (.error .writeInReadOnly, h.enter mode call.callee (h.grant call)) := by
  have hro' : (h.enter mode call.callee (h.grant call)).readOnly = true := by cases mode <;> exact hro
  unfold Setting.begun Host.begin
  rw [Action.bind_apply, Action.read_apply, hro']
  simp [hvalue, Action.bind_apply, Action.require, Action.refuse]

theorem inert_begun {input : CallInput} (hi : h.Inert) (hbegun : S.begun mode call h s = (.ok input, inner)) :
    inner.Inert := by
  have hentered := hi.enter mode call.callee (h.grant call)
  have hvalue : call.value = 0 := by
    by_contra hvalue
    cases (begun_readOnly hi.readOnly hvalue).symm.trans hbegun
  obtain ⟨code, output, meter, -, ht, hm, -, rfl⟩ := begun_ok hbegun
  -- Without value there is nothing to record.
  rw [hvalue, Accumulator.transfer_eq, if_pos ⟨rfl, rfl⟩] at ht
  cases ht
  exact hentered.paid hm

theorem Called.inert (hinside : ∀ R, S.inside levels = some R → ∀ h s t, R h s t → h.Inert → t.host.Inert)
    {u : Turn ε σ (Except CallError CallOutcome)} (hcall : Called S (S.inside levels) mode call h s u) (hi : h.Inert) :
    u.host.Inert := by
  cases hcall with
  | doomed hfatal => exact hi
  | tooDeep hfree hlevel he => exact hi.doomed _
  | unpaid hfree hlevel hmeter => exact hi
  | unbegun hfree hlevel hmeter hbegun hcost => exact (hi.paid hmeter).afterFailure _
  | died hfree hlevel hmeter hbegun hrun hfatal => exact (hi.paid hmeter).doomed _
  | failed hfree hlevel hmeter hbegun hrun hfatal hreply hcost => exact (hi.paid hmeter).afterFailure _
  | @succeeded R meter input inner t hfree hlevel hmeter hbegun hrun hfatal hreply =>
    have hpaid := hi.paid hmeter
    have hsame := (sameCall_begun hbegun).trans (sameCall_inside hlevel hrun)
    exact hpaid.afterSuccess (hinside R hlevel inner s t hrun (inert_begun hpaid hbegun)) hsame

theorem Runs.inert {t : Turn ε σ (Except CallError Unit)} (hrun : Runs S levels h s t) (hi : h.Inert) : t.host.Inert := by
  refine hrun.of_performed (Q := fun h _ _ h' _ => h.Inert → h'.Inert) ?_ ?_ ?_ ?_ ?_ hi
  · intro h s result hi
    exact hi
  · intro h s r reply h' hperform hi
    have hafter := r.perform_inert (c := S.config) (L := S.ledger s) hi
    rwa [hperform] at hafter
  · intro levels mode call h s u hinside hcall
    exact hcall.inert hinside
  · intro h s event hi
    exact hi
  · intro h s ds h' s' ds' h'' s'' hfirst hrest hi
    exact hrest (hfirst hi)

theorem Step.inert {d : Deed ε} {h' : Host} {s' : σ} (hstep : Step S (S.inside levels) d h s h' s') (hi : h.Inert) :
    h'.Inert := by
  cases hstep with
  | @asked _ _ _ r reply hperform =>
    have hafter := r.perform_inert (c := S.config) (L := S.ledger s) hi
    rwa [hperform] at hafter
  | called hcall hdeeds =>
    refine hcall.inert (fun R hlevel h s t hrun => ?_) hi
    obtain ⟨levels', -, rfl⟩ := inside_eq_some hlevel
    exact hrun.inert
  | signalled => exact hi

/-- A call with value is refused before its code, whatever refuses it. -/
theorem Called.withoutEffect {u : Turn ε σ (Except CallError CallOutcome)} {input : Option CallInput} {ds : List (Deed ε)}
    {phases : List CallPhase} (hcall : Called S (S.inside levels) mode call h s u) (hro : h.readOnly = true)
    (hdeeds : u.deeds = [.called h mode call input ds phases u.reply]) :
    (Deed.called h mode call input ds phases u.reply).WithoutEffect S.config := by
  intro hvalue
  have hrefused : ∀ {meter : Meter} {input : CallInput} {inner : Host},
      S.begun mode call { h with meter } s ≠ (.ok input, inner) := by
    intro meter input inner hbegun
    cases (begun_readOnly (h := { h with meter }) hro hvalue).symm.trans hbegun
  cases hcall with
  | doomed hfatal =>
    cases hdeeds
    exact ⟨rfl, rfl, .inl ⟨_, rfl, rfl⟩⟩
  | tooDeep hfree hlevel he =>
    cases hdeeds
    exact ⟨rfl, rfl, .inl ⟨_, rfl, rfl⟩⟩
  | unpaid hfree hlevel hmeter =>
    cases hdeeds
    exact ⟨rfl, rfl, .inl ⟨_, rfl, rfl⟩⟩
  | @unbegun R meter e inner cost hfree hlevel hmeter hbegun hcost =>
    cases (begun_readOnly (h := { h with meter }) hro hvalue).symm.trans hbegun
    cases hdeeds
    exact ⟨rfl, rfl, .inr ⟨cost, rfl, rfl⟩⟩
  | died hfree hlevel hmeter hbegun hrun hfatal => exact absurd hbegun hrefused
  | failed hfree hlevel hmeter hbegun hrun hfatal hreply hcost => exact absurd hbegun hrefused
  | succeeded hfree hlevel hmeter hbegun hrun hfatal hreply => exact absurd hbegun hrefused

theorem Step.withoutEffect {d : Deed ε} {h' : Host} {s' : σ} (hstep : Step S (S.inside levels) d h s h' s')
    (hro : h.readOnly = true) : d.WithoutEffect S.config := by
  cases hstep with
  | asked hperform => exact Request.perform_withoutEffect hro hperform
  | called hcall hdeeds => exact hcall.withoutEffect hro hdeeds
  | signalled => exact trivial

end Runs

/-! ## Transactions -/

section Transactions

variable {S : Setting ε σ} {tx : Transaction} {gas : U64} {s : σ}

theorem inert_prepare {c : HostConfig} {L : Ledger} {top : CallInput} {inner : Host} (hquery : tx.kind = .query)
    (hprepare : Host.prepare c L tx (.start gas) = (.ok top, inner)) : inner.Inert := by
  have hproceeds := keeps_proceeds_prepare (c := c) (L := L) tx (.start gas)
  rcases Host.prepare_cases (c := c) (L := L) tx (.start gas) with
    ⟨e, h', -, -, hx⟩ | ⟨callee, code, output, meter, -, ht, -, hx⟩ <;> cases hx.symm.trans hprepare
  rw [hprepare] at hproceeds
  obtain ⟨hfreed, -⟩ := Prod.mk.inj hproceeds
  have hcarried : tx.carried = 0 := by
    rw [Transaction.carried, hquery]
    rfl
  rw [Accumulator.placed, hquery, if_neg (by decide), hcarried, Accumulator.transfer_eq, if_pos ⟨rfl, rfl⟩] at ht
  cases ht
  exact ⟨decide_eq_true hquery, rfl, rfl, hfreed⟩

/-- A query ends well only by its code. -/
theorem Setting.inert_process (hquery : tx.kind = .query) (hreply : (S.process tx (.start gas) s).reply = .ok ()) :
    (S.process tx (.start gas) s).host.Inert := by
  unfold process at hreply ⊢
  rw [if_neg (by rw [hquery]; decide)] at hreply ⊢
  rcases hprepare : Host.prepare S.config (S.ledger s) tx (.start gas) with ⟨e | top, inner⟩ <;> rw [hprepare] at hreply
  · cases hreply
  · exact (S.run_runs _ _ _ _).inert (inert_prepare hquery hprepare)

theorem Setting.inert_of_point (hquery : tx.kind = .query) {calls : List (OpenCall ε)} {d : Deed ε} {rest : List (Deed ε)}
    (hpoint : Point (S.process tx (.start gas) s).deeds calls (d :: rest)) : d.before.Inert := by
  obtain ⟨top, inner, hprepare, -, -, -, hrun⟩ := runs_of_point hpoint
  obtain ⟨lv, s', t', hi, -⟩ := hrun.of_point (P := fun _ _ h _ _ => h.Inert) (inert_prepare hquery hprepare)
    (fun hi hstep _ => hstep.inert hi) (fun hi _ _ he _ => inert_begun (hi.paid he.paid) he.begun) hpoint
  exact hi

theorem Setting.process_value (hquery : tx.kind = .query) (value : U256) (h : Host) :
    S.process { tx with value } h s = S.process tx h s := by
  have hkind : ({ tx with value } : Transaction).kind ≠ .transfer := by simp [hquery]
  have hprepare : Host.prepare S.config (S.ledger s) { tx with value } h = Host.prepare S.config (S.ledger s) tx h := by
    unfold Host.prepare
    simp [hquery, TransactionKind.hasValue, Host.target]
  unfold process
  rw [if_neg hkind, if_neg (show tx.kind ≠ .transfer from hkind), hprepare]

/-- At every point of a query the host is inert and what is asked of it has no effect. The output of a success has no
    account and refunds nothing, and a query runs in the same way whatever value it is sent with. -/
theorem Setting.transact_pure (S : Setting ε σ) (tx : Transaction) (hquery : tx.kind = .query) (gas : U64) (s : σ) :
    let t := S.transact tx (.start gas) s
    (t.reply.isSuccess = true → t.reply.accounts = ∅ ∧ t.reply.gasRefund = 0) ∧
      (∀ value, S.transact { tx with value } (.start gas) s = t) ∧
      ∀ calls d rest, Point t.deeds calls (d :: rest) → d.before.Inert ∧ d.WithoutEffect S.config := by
  intro t
  refine ⟨fun hsuccess => ?_, fun value => ?_, fun calls d rest hpoint => ?_⟩
  · obtain ⟨-, hreply, hfinal⟩ := Host.conclude_success hsuccess
    have hi := inert_process hquery hreply
    have hout : t.reply = _ := hfinal
    rw [hout]
    refine ⟨?_, hi.freed⟩
    ext1 a
    rw [Accumulator.getElem?_finalize, hi.staged, hi.accounts]
    rfl
  · show (⟨_, _, _, _⟩ : Turn ε σ TransactionOutput) = ⟨_, _, _, _⟩
    rw [process_value hquery]
  · have hi := inert_of_point hquery hpoint
    refine ⟨hi, ?_⟩
    rcases taken_of_point hpoint with ⟨result, hended⟩ | ⟨lv, s, h', s', hstep⟩
    · rw [hended]
      exact trivial
    · exact hstep.withoutEffect hi.readOnly

/-- Code that tries everything that changes an account, also in calls of its own. -/
def tamperingGuest (input : CallInput) : Guest Unit :=
  .ask (.store [1] [2]) fun _ =>
    .ask (.transfer (.named "carol") 3 [5]) fun _ =>
      .ask (.upgrade [9] .none) fun _ =>
        .call .sameContext ⟨.named "carol", 4, "paid", [], 5000⟩ fun _ =>
          if input.depth = 0 then
            .call .destinationContext ⟨.named "carol", 0, "inner", [], 30000⟩ fun _ =>
              .call .sameContext ⟨.named "carol", 0, "inner", [], 30000⟩ fun _ => .done (.ok ())
          else .done (.ok ())

def tamperingSetting : Setting Unit World := ⟨.standard, tamperingGuest, World.ledger, fun _ w => w⟩

def tamperingWorld : World :=
  .ofSteps [.putAccount (.named "bob") ⟨40, 0, [7], ⟨true, true, true⟩⟩,
    .putAccount (.named "carol") ⟨9, 0, [8], ⟨true, true, true⟩⟩]

def tamperingQuery : Transaction := { Transaction.query (.named "bob") "f" 100000 with value := 6 }

theorem Setting.transact_pure_tampering :
    let t := tamperingSetting.transact tamperingQuery (.start 100000) tamperingWorld
    tamperingQuery.kind = .query ∧ t.reply.isSuccess = true ∧ t.deeds.length = 7 ∧ t.reply.accounts = ∅ ∧
      t.reply.gasRefund = 0 := by
  intro t
  have hsuccess : t.reply.isSuccess = true := by decide +kernel
  obtain ⟨haccounts, hrefund⟩ :=
    (tamperingSetting.transact_pure tamperingQuery rfl 100000 tamperingWorld).1 hsuccess
  exact ⟨rfl, hsuccess, by decide +kernel, haccounts, hrefund⟩

end Transactions

end ContractHost

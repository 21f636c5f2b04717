/-
  ContractHost.Proofs.Unpayable — a contract that is not payable never gains value.

  Value comes to an account by four routes: a transaction, a transfer that its code asks
  for, and a nested call in either mode. All of them ask the receiver first, except where
  the value is zero or the account sends to itself (`Host.moveValue_harmless`), or the
  account is the new one of a deployment. The two exceptions add nothing: a flow that is
  `Flow.Harmless` leaves a change that is at most zero at most zero, also where the debit
  was stopped at the limit and the credit was not. The invariant is that this is so in the
  live frame and in every parked one (`Accumulator.NoGain`), so that no sum of frames, and
  none that is stopped, comes to more (`NoGain.visibleDelta`).

  It holds at every point of every transaction, and in its output
  (`Setting.transact_unpayable`); no bound on the supply is needed.
-/

import ContractHost.Proofs.Points
import ContractHost.Proofs.Prices

namespace ContractHost

variable {ε σ : Type}

/-- The account at `X` holds code and takes no value, wherever the ledger answers for it. -/
def Ledger.Unpayable (L : Ledger) (X : Address) : Prop :=
  ∀ account, L.account X = .ok account → account.isContract = true ∧ account.metadata.payable = false

/-- The ledger lets `X` take no value before, after and between the events. -/
def Setting.UnpayableIn (S : Setting ε σ) (s : σ) (events : List ε) (X : Address) : Prop :=
  ∀ seen, seen <+: events → (S.ledger (S.after s seen)).Unpayable X

namespace Setting.UnpayableIn

variable {S : Setting ε σ} {s : σ} {X : Address} {events later : List ε}

theorem of_fixed (hfixed : ∀ event s, S.ledger (S.react event s) = S.ledger s) (hX : (S.ledger s).Unpayable X)
    (events : List ε) : S.UnpayableIn s events X := by
  intro seen _
  rwa [ledger_after hfixed]

theorem now (h : S.UnpayableIn s events X) : (S.ledger s).Unpayable X := h [] (List.nil_prefix)

theorem first (h : S.UnpayableIn s (events ++ later) X) : S.UnpayableIn s events X :=
  fun seen hseen => h seen (hseen.trans (List.prefix_append _ _))

theorem rest (h : S.UnpayableIn s (events ++ later) X) : S.UnpayableIn (S.after s events) later X := by
  intro seen hseen
  rw [← after_append]
  exact h _ ((List.prefix_append_right_inj events).2 hseen)

end Setting.UnpayableIn

/-! ## The routes of value -/

/-- The flow brings nothing to `X`: it goes to another account, is zero, or comes from `X` itself. -/
def Flow.Harmless (X : Address) (f : Flow) : Prop := f.receiver = X → f.value = 0 ∨ f.sender = X

section Routes

open ContractHost.Action

variable {c : HostConfig} {L : Ledger} {X : Address}

/-- Value is moved only where the receiver was asked, or in a way that brings it nothing. -/
theorem Host.moveValue_harmless {sender receiver : Address} {value : U256} {data : Bytes} {h h' : Host}
    (hX : L.Unpayable X) (hmove : moveValue L sender receiver value data h = (.ok (), h')) :
    Flow.Harmless X ⟨sender, receiver, value⟩ := by
  rintro rfl
  by_contra hgain
  rw [not_or] at hgain
  unfold moveValue at hmove
  rw [if_pos hgain] at hmove
  obtain ⟨account, h₁, hlookup, hmove⟩ := bind_ok hmove
  obtain ⟨_, h₂, hrequire, -⟩ := bind_ok hmove
  rcases lookup_cases (L.account receiver) h with ⟨e, hx⟩ | ⟨_, haccount, hx⟩ <;> cases hx.symm.trans hlookup
  obtain ⟨hcontract, hpayable⟩ := hX account haccount
  rw [hcontract, hpayable] at hrequire
  cases hrequire

theorem Request.transfer_harmless {receiver : Address} {value : U256} {data : Bytes} {h h' : Host}
    (hX : L.Unpayable X) (hperform : (Request.transfer receiver value data).perform c L h = (.ok (), h')) :
    Flow.Harmless X ⟨h.address, receiver, value⟩ := by
  rcases (Request.transfer receiver value data).perform_costs c L h with ⟨e, hx⟩ | ⟨meter, -, hx⟩
  · cases hx.symm.trans hperform
  · exact Host.moveValue_harmless hX (hx.symm.trans hperform)

theorem harmless_begun {S : Setting ε σ} {mode : CallMode} {call : NestedCall} {h inner : Host} {s : σ} {input : CallInput}
    (hX : (S.ledger s).Unpayable X) (hbegun : S.begun mode call h s = (.ok input, inner)) :
    Flow.Harmless X ⟨h.address, call.callee, call.value⟩ := by
  unfold Setting.begun Host.begin at hbegun
  obtain ⟨readOnly, h₁, -, hbegun⟩ := bind_ok hbegun
  obtain ⟨_, h₂, -, hbegun⟩ := bind_ok hbegun
  obtain ⟨_, h₃, hmove, -⟩ := bind_ok hbegun
  exact Host.moveValue_harmless hX hmove

/-- A transaction asks its receiver, or deploys it. -/
theorem harmless_prepare {tx : Transaction} {h inner : Host} {top : CallInput} {callee : Address}
    (hX : L.Unpayable X) (hnew : ¬ tx.Deploys L X) (hcallee : L.callee tx = .ok callee)
    (hprepare : Host.prepare c L tx h = (.ok top, inner)) : Flow.Harmless X ⟨tx.sender, callee, tx.carried⟩ := by
  unfold Host.prepare at hprepare
  obtain ⟨⟨callee', code⟩, h₁, htarget, hprepare⟩ := bind_ok hprepare
  obtain ⟨_, h₂, -, hprepare⟩ := bind_ok hprepare
  obtain ⟨_, h₃, -, hprepare⟩ := bind_ok hprepare
  have htarget' : callee' = callee := by
    rcases Host.target_cases (L := L) tx h with ⟨e, hx⟩ | ⟨_, _, hcallee', hx⟩ <;> cases hx.symm.trans htarget
    cases hcallee'.symm.trans hcallee
    rfl
  subst htarget'
  by_cases hkind : tx.kind = .deploy
  · rintro rfl
    rw [Ledger.callee, if_pos hkind] at hcallee
    exact absurd ⟨hkind, hcallee⟩ hnew
  · rw [if_neg hkind] at hprepare
    obtain ⟨_, h₄, hmove, -⟩ := bind_ok hprepare
    exact Host.moveValue_harmless hX hmove

end Routes

/-! ## Changes that bring nothing -/

/-- The change of `X` is at most zero in the live frame and in every parked one. -/
structure Accumulator.NoGain (X : Address) (o : Accumulator) : Prop where
  live : (o.frame.deltaOf X).toInt ≤ 0
  parked : ∀ p ∈ o.parked, (p.frame.deltaOf X).toInt ≤ 0

namespace Delta

theorem toInt_add_nonpos {a b : Delta} (ha : a.toInt ≤ 0) (hb : b.toInt ≤ 0) : (a + b).toInt ≤ 0 := by
  rw [toInt_add]
  unfold limit
  omega

/-- A credit brings back at most what the debit of the same amount took, even where the debit was stopped. -/
theorem toInt_debit_credit_nonpos {d : Delta} (hd : d.toInt ≤ 0) (value : U256) :
    (d + debit value + credit value).toInt ≤ 0 := by
  have hvalue := (credit value).toInt_inRange.2
  rw [toInt_credit] at hvalue
  rw [toInt_add, toInt_add, toInt_debit, toInt_credit]
  omega

end Delta

namespace Accumulator

variable {X : Address} {o o' : Accumulator}

theorem noGain_empty (X : Address) : empty.NoGain X := by
  refine ⟨?_, by simp [empty]⟩
  simp [empty]

theorem NoGain.of_frame (ho : o.NoGain X) (hlive : o'.frame.deltaOf X = o.frame.deltaOf X)
    (hparked : o'.parked = o.parked) : o'.NoGain X :=
  ⟨hlive ▸ ho.live, hparked ▸ ho.parked⟩

theorem visibleFrom_nonpos {ps : List ParkedFrame} (hps : ∀ p ∈ ps, (p.frame.deltaOf X).toInt ≤ 0) {origin : FrameOrigin}
    {d : Delta} (hd : d.toInt ≤ 0) : (visibleFrom X origin ps d).toInt ≤ 0 := by
  induction ps generalizing origin d with
  | nil => simpa [visibleFrom] using hd
  | cons p ps ih =>
    have hrest : ∀ p ∈ ps, (p.frame.deltaOf X).toInt ≤ 0 := fun q hq => hps q (by simp [hq])
    cases origin with
    | shared => exact ih hrest hd
    | isolated => exact ih hrest (Delta.toInt_add_nonpos hd (hps p (by simp)))

theorem NoGain.visibleDelta (ho : o.NoGain X) : (o.visibleDelta X).toInt ≤ 0 := visibleFrom_nonpos ho.parked ho.live

theorem NoGain.finish (ho : o.NoGain X) (data : Bytes) : (o.finish data).NoGain X := ho.of_frame rfl rfl

theorem NoGain.log (ho : o.NoGain X) (entry : LogEntry) : (o.log entry).NoGain X := ho.of_frame rfl rfl

theorem deltaOf_deploy (o : Accumulator) (a b : Address) (code : Bytes) (metadata : CodeMetadata) :
    (o.deploy a code metadata).frame.deltaOf b = o.frame.deltaOf b := by
  simp only [deploy, OutputFrame.deltaOf_update]
  split <;> rfl

theorem NoGain.deploy (ho : o.NoGain X) (a : Address) (code : Bytes) (metadata : CodeMetadata) :
    (o.deploy a code metadata).NoGain X :=
  ho.of_frame (o.deltaOf_deploy a X code metadata) rfl

theorem NoGain.placed (ho : o.NoGain X) (tx : Transaction) (callee : Address) : (o.placed tx callee).NoGain X := by
  unfold Accumulator.placed
  split
  · exact ho.deploy _ _ _
  · exact ho

theorem deltaOf_moved (o : Accumulator) (sender receiver : Address) (value : U256) (data : Bytes) (a : Address) :
    (o.moved sender receiver value data).frame.deltaOf a =
      ((o.addToBalance sender (.debit value)).addToBalance receiver (.credit value)).frame.deltaOf a := by
  unfold moved mark
  split
  · rfl
  · simp only [OutputFrame.deltaOf_update]
    split <;> rfl

theorem deltaOf_addToBalance (o : Accumulator) (a b : Address) (d : Delta) :
    (o.addToBalance a d).frame.deltaOf b = if a = b then o.frame.deltaOf b + d else o.frame.deltaOf b := by
  simp only [addToBalance, OutputFrame.deltaOf_update]
  split <;> rfl

theorem NoGain.transfer {L : Ledger} {sender receiver : Address} {value : U256} {data : Bytes} (ho : o.NoGain X)
    (hflow : Flow.Harmless X ⟨sender, receiver, value⟩)
    (ht : o.transfer L sender receiver value data = .ok o') : o'.NoGain X := by
  refine ⟨?_, parked_transfer ht ▸ ho.parked⟩
  have hlive := ho.live
  rcases transfer_cases ht with rfl | ⟨-, rfl⟩
  swap
  · exact hlive
  have hdebit : (o.frame.deltaOf X + .debit value).toInt ≤ 0 := by
    refine Delta.toInt_add_nonpos hlive ?_
    rw [Delta.toInt_debit]
    omega
  rw [deltaOf_moved, deltaOf_addToBalance, deltaOf_addToBalance]
  by_cases hreceiver : receiver = X
  · by_cases hsender : sender = X
    · rw [if_pos hreceiver, if_pos hsender]
      exact Delta.toInt_debit_credit_nonpos hlive value
    · have hzero := Capped.eq_zero_iff.1 ((hflow hreceiver).resolve_right hsender)
      rw [if_pos hreceiver, if_neg hsender]
      refine Delta.toInt_add_nonpos hlive ?_
      rw [Delta.toInt_credit, hzero]
      omega
  · rw [if_neg hreceiver]
    split
    · exact hdebit
    · exact hlive

theorem NoGain.push (ho : o.NoGain X) : o.push.NoGain X := by
  refine ⟨ho.live, fun p hp => ?_⟩
  rcases List.mem_cons.1 hp with rfl | hp
  · exact ho.live
  · exact ho.parked p hp

theorem NoGain.isolate (ho : o.NoGain X) : o.isolate.NoGain X :=
  ⟨(noGain_empty X).live, ho.push.parked⟩

theorem NoGain.discard (ho : o.NoGain X) : o.discard.NoGain X := by
  obtain ⟨frame, origin, parked⟩ := o
  cases parked with
  | nil => exact ho
  | cons p ps => exact ⟨ho.live, fun q hq => ho.parked q (List.mem_cons_of_mem p hq)⟩

theorem NoGain.fold (ho : o.NoGain X) : o.fold.NoGain X := by
  obtain ⟨frame, origin, parked⟩ := o
  cases parked with
  | nil => exact ho
  | cons p ps =>
    refine ⟨?_, fun q hq => ho.parked q (List.mem_cons_of_mem p hq)⟩
    show ((p.frame.merge frame).deltaOf X).toInt ≤ 0
    rw [OutputFrame.deltaOf_merge]
    exact Delta.toInt_add_nonpos (ho.parked p (List.mem_cons_self ..)) ho.live

end Accumulator

/-! ## Runs -/

section Runs

variable {S : Setting ε σ} {X : Address} {levels : Nat} {mode : CallMode} {call : NestedCall} {h inner : Host} {s : σ}

theorem Request.noGain {c : HostConfig} {L : Ledger} {h' : Host} {r : Request} {reply : Except CallError r.Answer}
    (hX : L.Unpayable X) (hperform : r.perform c L h = (reply, h')) (ho : h.output.NoGain X) : h'.output.NoGain X := by
  have he := Effect.of_perform hperform
  cases he with
  | refused hm => exact ho
  | observed hm hr => exact ho
  | stored hm => exact ho
  | finished hm => exact ho.finish _
  | transferred hm ht => exact ho.transfer (Request.transfer_harmless hX hperform) ht
  | logged hm => exact ho.log _
  | upgraded hm => exact ho.deploy _ _ _

theorem noGain_begun {input : CallInput} (hX : (S.ledger s).Unpayable X)
    (hbegun : S.begun mode call h s = (.ok input, inner)) (ho : h.output.NoGain X) : inner.output.NoGain X := by
  have hflow := harmless_begun hX hbegun
  obtain ⟨-, output, meter, -, ht, -, -, rfl⟩ := begun_ok hbegun
  have hentered : (h.enter mode call.callee (h.grant call)).output.NoGain X := by
    cases mode with
    | sameContext => exact ho.push
    | destinationContext => exact ho.isolate
  exact hentered.transfer hflow ht

theorem noGain_afterSuccess {parent : Host} (hinner : inner.output.NoGain X) :
    (parent.afterSuccess mode inner).output.NoGain X := by
  cases mode with
  | sameContext => exact hinner.discard.finish _
  | destinationContext => exact hinner.fold.finish _

/-- Deeds that find `X` not payable bring it nothing. -/
def KeepsNoGain (S : Setting ε σ) (X : Address) (h : Host) (s : σ) (ds : List (Deed ε)) (h' : Host) : Prop :=
  S.UnpayableIn s (eventsOf ds) X → h.output.NoGain X → h'.output.NoGain X

theorem Called.noGain
    (hinside : ∀ R, S.inside levels = some R → ∀ h s t, R h s t → KeepsNoGain S X h s t.deeds t.host)
    {u : Turn ε σ (Except CallError CallOutcome)} (hcall : Called S (S.inside levels) mode call h s u) :
    KeepsNoGain S X h s u.deeds u.host := by
  intro hX ho
  cases hcall with
  | doomed hfatal => exact ho
  | tooDeep hfree hlevel he => exact ho
  | unpaid hfree hlevel hmeter => exact ho
  | unbegun hfree hlevel hmeter hbegun hcost => exact ho.finish _
  | died hfree hlevel hmeter hbegun hrun hfatal => exact ho
  | failed hfree hlevel hmeter hbegun hrun hfatal hreply hcost => exact ho.finish _
  | @succeeded R meter input inner t hfree hlevel hmeter hbegun hrun hfatal hreply =>
    have hbegins := noGain_begun (h := { h with meter }) hX.now hbegun ho
    exact noGain_afterSuccess (hinside R hlevel inner s t hrun hX.first hbegins)

theorem Runs.noGain {t : Turn ε σ (Except CallError Unit)} (hrun : Runs S levels h s t) :
    KeepsNoGain S X h s t.deeds t.host := by
  refine hrun.of_connected (Q := KeepsNoGain S X) ?_ ?_ ?_ ?_ ?_
  · intro h s result _ ho
    exact ho
  · intro h s r reply h' hperform hX ho
    exact Request.noGain hX.now hperform ho
  · intro levels mode call h s u hinside hcall
    exact hcall.noGain hinside
  · intro h s event _ ho
    exact ho
  · intro h s ds h' ds' h'' hsame hfirst hrest hX ho
    rw [eventsOf_append] at hX
    exact hrest hX.rest (hfirst hX.first ho)

theorem Step.noGain {d : Deed ε} {h' : Host} {s' : σ} (hstep : Step S (S.inside levels) d h s h' s')
    (hX : S.UnpayableIn s d.events X) (ho : h.output.NoGain X) : h'.output.NoGain X := by
  cases hstep with
  | asked hperform => exact Request.noGain hX.now hperform ho
  | called hcall hdeeds =>
    refine hcall.noGain (X := X) (fun R hlevel h s t hrun => ?_) ?_ ho
    · obtain ⟨levels', -, rfl⟩ := inside_eq_some hlevel
      exact hrun.noGain
    · rwa [hdeeds, eventsOf, eventsOf, List.append_nil]
  | signalled => exact ho

end Runs

/-! ## Transactions -/

section Transactions

variable {S : Setting ε σ} {X : Address} {tx : Transaction} {h : Host} {s : σ}

theorem noGain_prepare {c : HostConfig} {L : Ledger} {top : CallInput} {inner : Host} (hX : L.Unpayable X)
    (hnew : ¬ tx.Deploys L X) (hprepare : Host.prepare c L tx h = (.ok top, inner)) (ho : h.output.NoGain X) :
    inner.output.NoGain X := by
  rcases Host.prepare_cases (c := c) (L := L) tx h with
    ⟨e, h', -, -, hx⟩ | ⟨callee, code, output, meter, hcallee, ht, -, hx⟩
  · cases hx.symm.trans hprepare
  · have hflow := harmless_prepare hX hnew hcallee hprepare
    cases hx.symm.trans hprepare
    exact (ho.placed tx callee).transfer hflow ht

/-- Whatever ends well has brought `X` nothing. -/
theorem Setting.noGain_process (hX : S.UnpayableIn s (eventsOf (S.process tx h s).deeds) X)
    (hnew : ¬ tx.Deploys (S.ledger s) X) (ho : h.output.NoGain X) (hreply : (S.process tx h s).reply = .ok ()) :
    (S.process tx h s).host.output.NoGain X := by
  unfold process at hX hreply ⊢
  split
  · rename_i hkind
    rw [if_pos hkind] at hX hreply
    rcases Host.moveValue_cases (L := S.ledger s) tx.sender tx.recipient tx.value [] h with
      ⟨e, hx⟩ | ⟨output, ht, hx⟩ <;> rw [hx] at hreply ⊢
    · cases hreply
    · exact ho.transfer (Host.moveValue_harmless hX.now hx) ht
  · rename_i hkind
    rw [if_neg hkind] at hX hreply
    rcases hprepare : Host.prepare S.config (S.ledger s) tx h with ⟨e | top, inner⟩ <;>
      rw [hprepare] at hX hreply
    · cases hreply
    · exact (S.run_runs _ _ _ _).noGain hX (noGain_prepare hX.now hnew hprepare ho)

/-- At every point of a transaction `X` has gained nothing. -/
theorem Setting.noGain_of_point {gas : U64} {calls : List (OpenCall ε)} {d : Deed ε} {rest : List (Deed ε)}
    (hX : S.UnpayableIn s (eventsOf (S.process tx (.start gas) s).deeds) X) (hnew : ¬ tx.Deploys (S.ledger s) X)
    (hpoint : Point (S.process tx (.start gas) s).deeds calls (d :: rest)) : d.before.output.NoGain X := by
  obtain ⟨top, inner, hprepare, -, -, -, hrun⟩ := runs_of_point hpoint
  have hstart : inner.output.NoGain X := noGain_prepare hX.now hnew hprepare (Accumulator.noGain_empty X)
  have hat := hrun.of_point (P := fun _ _ h s t => S.UnpayableIn s (eventsOf t.deeds) X ∧ h.output.NoGain X)
    ⟨hX, hstart⟩ ?step ?enter hpoint
  case step =>
    rintro calls lv d h s h' s' t' ⟨hX, ho⟩ hstep -
    have hX' : S.UnpayableIn s (d.events ++ eventsOf t'.deeds) X := hX
    exact ⟨hstep.around_eq ▸ hX'.rest, hstep.noGain hX'.first ho⟩
  case enter =>
    rintro calls lv mode call input phases reply h s h' s' t' meter inner v ⟨hX, ho⟩ - - he -
    have hX' : S.UnpayableIn s (eventsOf v.deeds ++ eventsOf t'.deeds) X := hX
    exact ⟨hX'.first, noGain_begun (h := { h with meter }) hX.now he.begun ho⟩
  obtain ⟨lv, s', t', ⟨-, ho⟩, -⟩ := hat
  exact ho

/-- A contract that is not payable, and not deployed by the transaction, shows no gain at any point of it,
    and has none in the output of a success. -/
theorem Setting.transact_unpayable {gas : U64}
    (hX : S.UnpayableIn s (eventsOf (S.transact tx (.start gas) s).deeds) X) (hnew : ¬ tx.Deploys (S.ledger s) X) :
    let t := S.transact tx (.start gas) s
    (∀ calls d rest, Point t.deeds calls (d :: rest) → (d.before.output.visibleDelta X).toInt ≤ 0) ∧
      (t.reply.isSuccess = true → ∀ o, t.reply.accounts[X]? = some o → o.delta.toInt ≤ 0) := by
  intro t
  refine ⟨fun calls d rest hpoint => (noGain_of_point hX hnew hpoint).visibleDelta, fun hsuccess o ho => ?_⟩
  obtain ⟨-, hreply, hfinal⟩ := Host.conclude_success hsuccess
  have hend := noGain_process hX hnew (Accumulator.noGain_empty X) hreply
  have hout : t.reply = _ := hfinal
  have hrecord : t.reply.deltaOf X = o.delta := by
    rw [TransactionOutput.deltaOf, ho]
    rfl
  rw [← hrecord, hout, Accumulator.deltaOf_finalize]
  exact hend.live

/-- Code that pays out, sends to itself and calls itself with value; the code it calls is sent value in vain. -/
def refusingGuest (input : CallInput) : Guest Unit :=
  match input.depth with
  | 0 =>
    .ask (.transfer (.named "carol") 7 []) fun _ =>
      .ask (.transfer input.callee 5 []) fun _ =>
        .call .destinationContext ⟨input.callee, 4, "itself", [], 30000⟩ fun _ =>
          .call .destinationContext ⟨.named "carol", 0, "other", [], 30000⟩ fun _ => .done (.ok ())
  | _ =>
    .ask (.transfer (.named "bob") 2 []) fun _ =>
      .call .sameContext ⟨.named "bob", 1, "back", [], 5000⟩ fun _ => .done (.ok ())

def refusingSetting : Setting Unit World := ⟨.standard, refusingGuest, World.ledger, fun _ w => w⟩

def refusingWorld : World :=
  .ofSteps [.putAccount (.named "bob") ⟨40, 0, [7], .none⟩,
    .putAccount (.named "carol") ⟨9, 0, [8], { CodeMetadata.none with payable := true }⟩]

def refusingCall : Transaction := .call (.named "alice") (.named "bob") "f" 200000

theorem Setting.transact_unpayable_refusing :
    let t := refusingSetting.transact refusingCall (.start 200000) refusingWorld
    refusingSetting.UnpayableIn refusingWorld (eventsOf t.deeds) (.named "bob") ∧ t.reply.isSuccess = true ∧
      ∃ o, t.reply.accounts[Address.named "bob"]? = some o ∧ o.delta = .debit 7 ∧ o.delta.toInt ≤ 0 := by
  intro t
  have hX : refusingSetting.UnpayableIn refusingWorld (eventsOf t.deeds) (.named "bob") := by
    refine .of_fixed (fun _ _ => rfl) ?_ _
    intro account haccount
    have hbob : refusingWorld.ledger.account (.named "bob") = .ok ⟨40, 0, [7], .none⟩ := by decide +kernel
    cases hbob.symm.trans haccount
    exact ⟨rfl, rfl⟩
  have hnew : ¬ refusingCall.Deploys (refusingSetting.ledger refusingWorld) (.named "bob") := fun hdeploys => by
    cases hdeploys.1
  have hsuccess : t.reply.isSuccess = true := by decide +kernel
  have hbob : (t.reply.accounts[Address.named "bob"]?).map (·.delta) = some (.debit 7) := by decide +kernel
  obtain ⟨o, ho, hdelta⟩ := Option.map_eq_some_iff.1 hbob
  exact ⟨hX, hsuccess, o, ho, hdelta, (transact_unpayable hX hnew).2 hsuccess o ho⟩

end Transactions

end ContractHost

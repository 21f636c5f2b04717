/-
  ContractHost.Proofs.Settlement — the gas of nested calls is settled exactly.

  At every point of a transaction no call has used more gas than it was given, and none was
  given more than its caller had left (`Meter.Funded`). What a call costs is therefore
  always there when it has ended: a call is refused only for its depth or for its base
  price, and every other one is answered with the gas that its caller then has paid, on top
  of the base price (`Called.pays`). All sums of used gas are exact on the way.
-/

import ContractHost.Proofs.Points

namespace ContractHost

variable {ε σ : Type}

/-! ## Funded meters -/

/-- No frame has used more than it was given, and none was given more than the one below it has left. -/
structure Meter.Funded (m : Meter) : Prop where
  within : ∀ f ∈ m.frame :: m.parked, f.used ≤ f.provided
  given : (m.frame :: m.parked).IsChain fun f below => f.provided ≤ below.left

namespace Meter

theorem funded_ofGas (gas : U64) : (ofGas gas).Funded where
  within f hf := by
    cases List.mem_singleton.1 hf
    exact Nat.zero_le _
  given := .singleton _

theorem Funded.spends {m m' : Meter} (hm : m.Funded) (h : m.Spends m') : m'.Funded where
  within f hf := by
    rcases List.mem_cons.1 hf with rfl | hf
    · exact h.within (hm.within _ List.mem_cons_self)
    · exact hm.within f (List.mem_cons_of_mem _ (h.parked ▸ hf))
  given := by
    have hgiven := hm.given
    rw [h.parked]
    cases hparked : m.parked with
    | nil => exact .singleton _
    | cons below frames =>
      rw [hparked, List.isChain_cons_cons] at hgiven
      rw [List.isChain_cons_cons, h.provided]
      exact hgiven

/-- A call that is given what its caller has left at most. -/
theorem Funded.push {m : Meter} (hm : m.Funded) {gas : U64} (hgas : gas ≤ m.left) : (m.push gas).Funded where
  within f hf := by
    rcases List.mem_cons.1 hf with rfl | hf
    · exact Nat.zero_le _
    · exact hm.within f hf
  given := List.isChain_cons_cons.2 ⟨hgas, hm.given⟩

/-- Gas that is taken is added to what was used, and the cap is never in the way. -/
theorem used_use? {m m' : Meter} {amount : U64} (h : m.use? amount = some m') :
    m'.frame.used.val = m.frame.used.val + amount.val := by
  obtain ⟨hle, rfl⟩ := use?_eq_some_iff.1 h
  exact val_used_spend hle

end Meter

/-! ## The end of a call -/

/-- The gas that a call cost beside its base price. -/
def CallOutcome.gas : CallOutcome → U64
  | .succeeded gas => gas
  | .failed _ _ gas => gas

/-- The gas that the code of a call had freed at its end; none where it did not run. -/
def Deed.freedInside : Deed ε → U64
  | .called _ _ _ _ inside _ _ =>
    match inside.getLast? with
    | some (.ended h _) => h.meter.frame.freed
    | _ => 0
  | _ => 0

section Settle

variable {S : Setting ε σ} {levels : Nat} {mode : CallMode} {call : NestedCall} {h : Host} {s : σ}
  {u : Turn ε σ (Except CallError CallOutcome)}

/-- A call gets no answer exactly where a depth is on record after it, or its base price could not be paid. -/
theorem Called.error_iff {inside : Option (Execution ε σ)} (hcall : Called S inside mode call h s u) :
    (∃ e, u.reply = .error e) ↔ u.host.fatal ≠ none ∨ h.meter.left < Host.baseCost S.config mode := by
  have hanswered : ∀ {meter : Meter} (outcome : CallOutcome), h.fatal = none →
      h.meter.use? (Host.baseCost S.config mode) = some meter →
      ((∃ e, (.ok outcome : Except CallError CallOutcome) = .error e) ↔
        h.fatal ≠ none ∨ h.meter.left < Host.baseCost S.config mode) := by
    intro meter outcome hfree hmeter
    constructor
    · rintro ⟨e, he⟩
      cases he
    · rintro (hfatal | hlt)
      · exact absurd hfree hfatal
      · cases (Meter.use?_eq_none_iff.2 hlt).symm.trans hmeter
  cases hcall with
  | @doomed e hfatal => exact ⟨fun _ => .inl (by simp [hfatal]), fun _ => ⟨e, rfl⟩⟩
  | @tooDeep e hfree hlevel he => exact ⟨fun _ => .inl (by simp), fun _ => ⟨e, rfl⟩⟩
  | unpaid hfree hlevel hmeter => exact ⟨fun _ => .inr (Meter.use?_eq_none_iff.1 hmeter), fun _ => ⟨_, rfl⟩⟩
  | unbegun hfree hlevel hmeter hbegun hcost => exact hanswered _ hfree hmeter
  | @died R meter input inner t e hfree hlevel hmeter hbegun hrun hfatal =>
    exact ⟨fun _ => .inl (by simp), fun _ => ⟨e, rfl⟩⟩
  | failed hfree hlevel hmeter hbegun hrun hfatal hreply hcost => exact hanswered _ hfree hmeter
  | succeeded hfree hlevel hmeter hbegun hrun hfatal hreply => exact hanswered _ hfree hmeter

/-- The caller after an answered call has paid the base price and what the answer says, which is no more than
    the call was given; it is credited the gas that the call freed if it succeeded. -/
structure Host.Pays (before after : Host) (base limit : U64) (outcome : CallOutcome) (freedInside : U64) : Prop where
  gas_le : outcome.gas.val ≤ min limit.val (before.meter.left.val - base.val)
  used : after.meter.frame.used.val = before.meter.frame.used.val + base.val + outcome.gas.val
  freed : after.meter.frame.freed = match outcome with
    | .succeeded _ => before.meter.frame.freed + freedInside
    | .failed _ _ _ => before.meter.frame.freed

theorem Called.pays (hcall : Called S (S.inside levels) mode call h s u) {d : Deed ε} (hdeeds : u.deeds = [d])
    {outcome : CallOutcome} (hreply : u.reply = .ok outcome) :
    h.Pays u.host (Host.baseCost S.config mode) call.gasLimit outcome d.freedInside := by
  have hgrant : ∀ {meter : Meter}, h.meter.use? (Host.baseCost S.config mode) = some meter →
      meter.frame.used.val = h.meter.frame.used.val + (Host.baseCost S.config mode).val ∧
      meter.frame.freed = h.meter.frame.freed ∧
      (Host.grant { h with meter } call).val =
        min call.gasLimit.val (h.meter.left.val - (Host.baseCost S.config mode).val) := by
    intro meter hmeter
    obtain ⟨hbase, rfl⟩ := Meter.use?_eq_some_iff.1 hmeter
    exact ⟨Meter.val_used_spend hbase, rfl, by rw [Host.grant, Capped.val_min, Meter.val_left_spend hbase]⟩
  -- The cost of a failure, whether or not the code ran.
  have hfailure : ∀ {meter : Meter} {inner : Host} {code : ReturnCode} {message : String} {cost : U64},
      h.meter.use? (Host.baseCost S.config mode) = some meter →
      SameCall (Host.enter { h with meter } mode call.callee (Host.grant { h with meter } call)) inner →
      cost = Host.charged S.config mode (Host.grant { h with meter } call) inner.meter.frame.used →
      h.Pays (Host.afterFailure { h with meter } cost) (Host.baseCost S.config mode) call.gasLimit
        (.failed code message cost) d.freedInside := by
    intro meter inner code message cost hmeter hsame hcost
    obtain ⟨hused, hfreed, hgas⟩ := hgrant hmeter
    have hle : cost ≤ Host.grant { h with meter } call := hcost ▸ Host.charged_le hsame
    have hleft : cost ≤ meter.left := Nat.le_trans hle (grant_le { h with meter } call)
    refine ⟨hgas ▸ hle, ?_, hfreed⟩
    rw [← hused]
    exact Meter.val_used_spend hleft
  cases hcall with
  | doomed hfatal => cases hreply
  | tooDeep hfree hlevel he => cases hreply
  | unpaid hfree hlevel hmeter => cases hreply
  | died hfree hlevel hmeter hbegun hrun hfatal => cases hreply
  | unbegun hfree hlevel hmeter hbegun hcost =>
    cases hreply
    exact hfailure hmeter (sameCall_begun hbegun) hcost
  | failed hfree hlevel hmeter hbegun hrun hfatal hresult hcost =>
    cases hreply
    exact hfailure hmeter ((sameCall_begun hbegun).trans (sameCall_inside hlevel hrun)) hcost
  | @succeeded R meter input inner v hfree hlevel hmeter hbegun hrun hfatal hresult =>
    cases hreply
    cases hdeeds
    obtain ⟨levels', rfl, rfl⟩ := inside_eq_some hlevel
    obtain ⟨hused, hfreed, hgas⟩ := hgrant hmeter
    have hsame := (sameCall_begun hbegun).trans hrun.sameCall
    have hle := Host.used_inner_le hsame
    have hleft : v.host.meter.frame.used ≤ meter.left := Nat.le_trans hle (grant_le { h with meter } call)
    refine ⟨hgas ▸ hle, ?_, ?_⟩
    · rw [← hused]
      exact Meter.val_used_spend hleft
    · dsimp only [Deed.freedInside]
      rw [hrun.getLast_deeds, ← hfreed]
      rfl

end Settle

/-! ## Transactions -/

/-- A success gives back the gas that its code has left, a failure none. -/
theorem Host.gasRemaining_conclude (h : Host) (result : Except CallError Unit) :
    (h.conclude result).gasRemaining ≤ h.meter.left ∧
      ((h.conclude result).isSuccess = true → (h.conclude result).gasRemaining = h.meter.left) := by
  rcases h.conclude_cases result with ⟨e, -, hout⟩ | ⟨-, -, hout⟩ <;> rw [hout]
  · rw [failure_isSuccess]
    exact ⟨Nat.zero_le _, fun h => by cases h⟩
  · exact ⟨Nat.le_refl _, fun _ => rfl⟩

theorem Setting.funded_of_point {S : Setting ε σ} {tx : Transaction} {gas : U64} {s : σ} {calls : List (OpenCall ε)}
    {d : Deed ε} {rest : List (Deed ε)} (hpoint : Point (S.process tx (.start gas) s).deeds calls (d :: rest)) :
    d.before.meter.Funded := by
  obtain ⟨top, inner, -, hsame, -, -, hrun⟩ := runs_of_point hpoint
  have hstart : inner.meter.Funded := (Meter.funded_ofGas gas).spends hsame.meter
  have hat := hrun.of_point (P := fun _ _ h _ _ => h.meter.Funded) hstart ?step ?enter hpoint
  case step =>
    intro calls lv d h s h' s' t' hfunded hstep _
    exact hfunded.spends hstep.sameCall.meter
  case enter =>
    intro calls lv mode call input phases reply h s h' s' t' meter inner v hfunded _ _ he _
    have hentered : (meter.push (Host.grant { h with meter } call)).Funded :=
      (hfunded.spends (.of_use he.paid)).push (grant_le { h with meter } call)
    exact hentered.spends (sameCall_begun he.begun).meter
  obtain ⟨lv, s', t', hfunded, -⟩ := hat
  exact hfunded

/-- The gas at every point of a transaction is funded and every debit is exact; a nested call is refused for a
    depth on record or for its base price, and otherwise answered and paid as the answer says. -/
theorem Setting.transact_settles (S : Setting ε σ) (tx : Transaction) (gas : U64) (s : σ) :
    let t := S.transact tx (.start gas) s
    (∀ calls d rest, Point t.deeds calls (d :: rest) → d.before.meter.Funded ∧
      ∀ mode meter gas', d.before.meter.use? (Host.baseCost S.config mode) = some meter → gas' ≤ meter.left →
        (meter.push gas').Funded) ∧
    (∀ (m m' : Meter) amount, m.use? amount = some m' → m'.frame.used.val = m.frame.used.val + amount.val) ∧
    (∀ calls before mode call input inside phases reply after rest,
      Point t.deeds calls (.called before mode call input inside phases reply :: after :: rest) →
      ((∃ e, reply = .error e) ↔ after.before.fatal ≠ none ∨ before.meter.left < Host.baseCost S.config mode) ∧
      ∀ outcome, reply = .ok outcome →
        before.Pays after.before (Host.baseCost S.config mode) call.gasLimit outcome
          (Deed.called before mode call input inside phases reply).freedInside) ∧
    t.host.meter.Funded ∧ t.reply.gasRemaining ≤ gas ∧
    (t.reply.isSuccess = true → t.reply.gasRemaining.val + t.host.meter.frame.used.val = gas.val) := by
  intro t
  have hstart : (Host.start gas).meter.Funded := Meter.funded_ofGas gas
  have hend := S.sameStacks_process tx (.start gas) s
  have hfunded := hstart.spends hend.meter
  have hused := hfunded.within _ List.mem_cons_self
  have hprovided : (S.process tx (.start gas) s).host.meter.frame.provided = gas := hend.meter.provided
  rw [Capped.le_iff, hprovided] at hused
  refine ⟨fun calls d rest hpoint => ?_, fun m m' amount => Meter.used_use?, ?_, hfunded, ?_⟩
  · have hfunded := funded_of_point hpoint
    exact ⟨hfunded, fun mode meter gas' hpaid hgas => (hfunded.spends (.of_use hpaid)).push hgas⟩
  · intro calls before mode call input inside phases reply after rest hpoint
    obtain ⟨lv, s, s', -, hstep⟩ := step_of_point hpoint
    generalize after.before = h' at hstep
    cases hstep with
    | called hcall hdeeds => exact ⟨hcall.error_iff, fun outcome => hcall.pays hdeeds⟩
  · have hleft : t.host.meter.left.val = gas.val - t.host.meter.frame.used.val := by
      rw [← hprovided]
      rfl
    obtain ⟨hle, hsuccess⟩ := t.host.gasRemaining_conclude (S.process tx (.start gas) s).reply
    rw [Capped.le_iff, hleft] at hle
    refine ⟨Nat.le_trans hle (Nat.sub_le _ _), fun hs => ?_⟩
    have hremaining : t.reply.gasRemaining = t.host.meter.left := hsuccess hs
    rw [hremaining, hleft]
    exact Nat.sub_add_cancel hused

/-- Code that calls itself with less gas than the called code then asks for. -/
def exhaustingGuest (input : CallInput) : Guest Unit :=
  if input.depth = 0 then .call .sameContext ⟨input.callee, 0, "burn", [], 300⟩ fun _ => .done (.ok ())
  else .ask (.useGas 1000) fun reply => .done reply

def exhaustingSetting : Setting Unit World := ⟨.standard, exhaustingGuest, World.ledger, fun _ w => w⟩

def exhaustingWorld : World := .ofSteps [.putAccount (.named "bob") ⟨40, 0, [7], .none⟩]

def exhaustingCall : Transaction := .call (.named "alice") (.named "bob") "f" 100000

/-- Whether the next deed at a point is a call that cost this much gas beside its base price. -/
def costsAt (gas : Nat) (p : List (OpenCall Unit) × List (Deed Unit)) : Bool :=
  match p.2 with
  | .called _ _ _ _ _ _ (.ok outcome) :: _ :: _ => outcome.gas.val = gas
  | _ => false

theorem Setting.transact_settles_exhausting :
    ∃ calls before mode call input inside phases outcome after rest,
      Point (exhaustingSetting.transact exhaustingCall (.start 100000) exhaustingWorld).deeds calls
        (.called before mode call input inside phases (.ok outcome) :: after :: rest) ∧
      outcome.gas.val = 300 ∧ after.before.meter.Funded ∧
      after.before.meter.frame.used.val =
        before.meter.frame.used.val + (Host.baseCost exhaustingSetting.config mode).val + 300 := by
  have hcall : (pointsOf [] (exhaustingSetting.transact exhaustingCall (.start 100000) exhaustingWorld).deeds).any
      (costsAt 300) = true := by decide +kernel
  obtain ⟨calls, ds, hpoint, hanswer⟩ := exists_point_of_any hcall
  unfold costsAt at hanswer
  dsimp only at hanswer
  split at hanswer
  · have hgas := of_decide_eq_true hanswer
    have hsettles := exhaustingSetting.transact_settles exhaustingCall 100000 exhaustingWorld
    have hpays := (hsettles.2.2.1 _ _ _ _ _ _ _ _ _ _ hpoint).2 _ rfl
    refine ⟨_, _, _, _, _, _, _, _, _, _, hpoint, hgas, (hsettles.1 _ _ _ hpoint.later).1, ?_⟩
    rw [hpays.used, hgas]
  · cases hanswer

end ContractHost

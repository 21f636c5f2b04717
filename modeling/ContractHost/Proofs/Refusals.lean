/-
  ContractHost.Proofs.Refusals — what a refusal leaves is the host it met.

  A host function that answers with an error has taken gas at most, and no more than its
  price; everything else of the host is as it was before (`Request.perform_error`). A
  nested call that gets no answer has taken its base price at most, even where its code
  ran, and besides may have put a refusal for the depth on record (`Called.of_error`).
-/

import ContractHost.Proofs.Overflow
import ContractHost.Proofs.Prices

namespace ContractHost

/-- The second host is the first with more gas used in its running frame, `most` more at most. -/
def Host.SpentUpTo (h : Host) (most : U64) (h' : Host) : Prop :=
  ∃ used, h.meter.frame.used ≤ used ∧ used.val ≤ h.meter.frame.used.val + most.val ∧
    h' = { h with meter := { h.meter with frame := { h.meter.frame with used } } }

theorem Host.SpentUpTo.refl (h : Host) (most : U64) : h.SpentUpTo most h :=
  ⟨h.meter.frame.used, Nat.le_refl _, Nat.le_add_right _ _, rfl⟩

theorem Host.SpentUpTo.of_use {h : Host} {meter : Meter} {amount : U64} (hm : h.meter.use? amount = some meter) :
    h.SpentUpTo amount { h with meter } := by
  obtain ⟨hle, rfl⟩ := Meter.use?_eq_some_iff.1 hm
  have hused := Meter.val_used_spend hle
  exact ⟨(h.meter.spend amount).frame.used, Capped.le_iff.2 (by omega), by omega, rfl⟩

/-! ## Requests -/

theorem Request.perform_error {c : HostConfig} {L : Ledger} {h : Host} {r : Request} {e : CallError}
    (herror : (r.perform c L h).1 = .error e) : h.SpentUpTo (r.price c L h) (r.perform c L h).2 := by
  rcases r.perform_costs c L h with ⟨e', hx⟩ | ⟨meter, hm, hx⟩
  · rw [hx]
    exact .refl h _
  rw [hx] at herror ⊢
  rcases r.deliver_cases c L { h with meter } with ⟨e', hd⟩ | ⟨answer, h', hd, -⟩ <;> rw [hd] at herror ⊢
  · exact .of_use hm
  · cases herror

/-! ## Nested calls -/

variable {ε σ : Type} {S : Setting ε σ}

/-- A refusal that is on record is one for the depth. -/
def Host.DoomedByDepth (c : HostConfig) (h : Host) : Prop :=
  ∀ e, h.fatal = some e → ∃ depth, e = .callDepthExceeded depth c.maxCallDepth.val

/-- A refusal that a call records first is the one for its depth, or the one that its code recorded. -/
theorem Called.doomedByDepth {inside : Option (Execution ε σ)} {mode : CallMode} {call : NestedCall} {h : Host} {s : σ}
    {u : Turn ε σ (Except CallError CallOutcome)}
    (hinside : ∀ R, inside = some R → ∀ h s t, R h s t → h.DoomedByDepth S.config → t.host.DoomedByDepth S.config)
    (hcall : Called S inside mode call h s u) (hh : h.DoomedByDepth S.config) : u.host.DoomedByDepth S.config := by
  cases hcall with
  | doomed hfatal => exact hh
  | tooDeep hfree hlevel he =>
    rintro e' he'
    cases he'
    exact ⟨_, he⟩
  | unpaid hfree hlevel hmeter => exact hh
  | unbegun hfree hlevel hmeter hbegun hcost => exact hh
  | @died R meter input inner t e hfree hlevel hmeter hbegun hrun hfatal =>
    have hinner : inner.DoomedByDepth S.config := by
      intro e he
      rw [fatal_begun hbegun, show ({ h with meter } : Host).fatal = none from hfree] at he
      cases he
    rintro e' he'
    cases he'
    exact hinside R hlevel _ _ _ hrun hinner e hfatal
  | failed hfree hlevel hmeter hbegun hrun hfatal hreply hcost => exact hh
  | succeeded hfree hlevel hmeter hbegun hrun hfatal hreply => exact hh

theorem Runs.doomedByDepth {levels : Nat} {h : Host} {s : σ} {t : Turn ε σ (Except CallError Unit)}
    (hrun : Runs S levels h s t) (hh : h.DoomedByDepth S.config) : t.host.DoomedByDepth S.config := by
  refine hrun.of_deeds (Q := fun h _ _ h' _ => h.DoomedByDepth S.config → h'.DoomedByDepth S.config) ?_ ?_ ?_ ?_ ?_ hh
  · exact fun h s result => id
  · intro h s r reply h' heffect hh e he
    exact hh e (heffect.fatal ▸ he)
  · exact fun hinside hcall => hcall.doomedByDepth hinside
  · exact fun h s event => id
  · exact fun hfirst hrest hh => hrest (hfirst hh)

/-- A call without an answer has taken its base price at most, and recorded a refusal for the depth at most. -/
theorem Called.of_error {levels : Nat} {mode : CallMode} {call : NestedCall} {h : Host} {s : σ}
    {u : Turn ε σ (Except CallError CallOutcome)} (hcall : Called S (S.inside levels) mode call h s u) {e : CallError}
    (herror : u.reply = .error e) :
    h.SpentUpTo (Host.baseCost S.config mode) { u.host with fatal := h.fatal } ∧
      (u.host.fatal = h.fatal ∨ h.fatal = none ∧ u.host.fatal = some e ∧
        ∃ depth, e = .callDepthExceeded depth S.config.maxCallDepth.val) := by
  have hdepth := hcall.doomedByDepth fun R hlevel h s t hrun hh => by
    obtain ⟨levels', -, rfl⟩ := inside_eq_some hlevel
    exact hrun.doomedByDepth hh
  have hnone : h.fatal = none → h.DoomedByDepth S.config := by
    rintro hfree e he
    cases hfree.symm.trans he
  cases hcall with
  | doomed hfatal => exact ⟨.refl h _, .inl rfl⟩
  | tooDeep hfree hlevel he =>
    cases herror
    exact ⟨.refl h _, .inr ⟨hfree, rfl, hdepth (hnone hfree) e rfl⟩⟩
  | unpaid hfree hlevel hmeter => exact ⟨.refl h _, .inl rfl⟩
  | died hfree hlevel hmeter hbegun hrun hfatal =>
    cases herror
    exact ⟨.of_use hmeter, .inr ⟨hfree, rfl, hdepth (hnone hfree) e rfl⟩⟩
  | unbegun hfree hlevel hmeter hbegun hcost => cases herror
  | failed hfree hlevel hmeter hbegun hrun hfatal hreply hcost => cases herror
  | succeeded hfree hlevel hmeter hbegun hrun hfatal hreply => cases herror

/-- A host function or a nested call that fails leaves the host as it was, but for gas that was used, by no more than
    the price of what was asked for, and in a call for the first refusal for its depth. -/
theorem Setting.error_keeps_host (S : Setting ε σ) (h : Host) (s : σ) :
    (∀ (r : Request) e, (r.perform S.config (S.ledger s) h).1 = .error e →
      h.SpentUpTo (r.price S.config (S.ledger s) h) (r.perform S.config (S.ledger s) h).2) ∧
    ∀ levels mode call e, (S.nested (S.callee levels) mode call h s).reply = .error e →
      let after := (S.nested (S.callee levels) mode call h s).host
      h.SpentUpTo (Host.baseCost S.config mode) { after with fatal := h.fatal } ∧
      (after.fatal = h.fatal ∨ h.fatal = none ∧ after.fatal = some e ∧
        ∃ depth, e = .callDepthExceeded depth S.config.maxCallDepth.val) :=
  ⟨fun _ _ => Request.perform_error, fun levels mode call _ => (S.nested_called levels mode call h s).of_error⟩

/-- Code that stores and finishes with data and calls itself. -/
def nestingGuest (input : CallInput) : Guest Unit :=
  .ask (.store [1] [2]) fun _ => .ask (.finish [3]) fun _ =>
    .call .destinationContext ⟨input.callee, 0, "f", [], 100000⟩ fun _ => .done (.ok ())

def nestingSetting : Setting Unit World :=
  ⟨{ HostConfig.standard with maxCallDepth := 1 }, nestingGuest, World.ledger, fun _ w => w⟩

def nestingWorld : World := .ofSteps [.putAccount (.named "bob") ⟨40, 0, [7], .none⟩]

theorem Setting.error_keeps_host_nesting :
    let h := Host.start 100000
    let call : NestedCall := ⟨.named "bob", 0, "f", [], 50000⟩
    let after := (nestingSetting.nested (nestingSetting.callee 1) .destinationContext call h nestingWorld).host
    let stored := ((Request.store (Bytes.ofText "PROTECTED") [1]).perform nestingSetting.config nestingWorld.ledger h).2
    after.fatal = some (.callDepthExceeded 2 1) ∧ h.SpentUpTo 1000 { after with fatal := none } ∧
      after.staging = h.staging ∧ h.SpentUpTo 100 stored ∧ stored.meter.frame.used = 100 := by
  have hcalled := (nestingSetting.error_keeps_host (.start 100000) nestingWorld).2 1 .destinationContext
    ⟨.named "bob", 0, "f", [], 50000⟩ (.callDepthExceeded 2 1) (by decide)
  have hstored := (nestingSetting.error_keeps_host (.start 100000) nestingWorld).1
    (.store (Bytes.ofText "PROTECTED") [1]) (.storage .protectedKey) rfl
  refine ⟨by decide, hcalled.1, ?_, hstored, by decide⟩
  obtain ⟨used, -, -, hafter⟩ := hcalled.1
  exact (Host.mk.inj hafter).1

end ContractHost

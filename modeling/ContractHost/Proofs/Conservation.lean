/-
  ContractHost.Proofs.Conservation — transactions neither make nor lose value.

  On a ledger that stays, always answers and has a supply that fits a balance, every
  balance that can be seen during a transaction is the committed one and the flows that are
  not rolled back, and the output of a success moves value only: its changes leave no
  account overdrawn and come to nothing (`Setting.transact_conserves`). The audit, which
  adds the changes up one by one, is then never stopped on the way
  (`Audit.conserved_of_covers`).
-/

import ContractHost.Audit
import ContractHost.Proofs.Flows
import ContractHost.Proofs.Transactions

namespace ContractHost

/-! ## The audit -/

/-- A sum of many changes is exact if no partial sum leaves the range. -/
theorem Delta.toInt_foldl {α : Type} (f : α → Delta) (l : List α) (start : Delta)
    (h : ∀ part, part <+: l → InRange (start.toInt + (part.map fun x => (f x).toInt).sum)) :
    (l.foldl (fun sum x => sum + f x) start).toInt = start.toInt + (l.map fun x => (f x).toInt).sum := by
  induction l generalizing start with
  | nil => simp
  | cons x l ih =>
    have hfirst : (start + f x).toInt = start.toInt + (f x).toInt := by
      have hx := h [x] (List.prefix_append [x] l)
      rw [List.map_singleton, List.sum_singleton] at hx
      exact toInt_add_of_mem hx
    rw [List.foldl_cons, ih, hfirst, List.map_cons, List.sum_cons, Int.add_assoc]
    intro part hpart
    have hrest := h (x :: part) (List.prefix_cons_inj x |>.2 hpart)
    rwa [List.map_cons, List.sum_cons, ← Int.add_assoc, ← hfirst] at hrest

/-- Some changes of an output, added up in the integers. -/
theorem TransactionOutput.sum_delta {o : TransactionOutput} {entries : List (Address × OutputAccount)}
    (h : entries.Sublist o.accounts.toList) :
    (entries.map fun e => e.2.delta.toInt).sum = ∑ a ∈ (entries.map Prod.fst).toFinset, (o.deltaOf a).toInt := by
  rw [AddressMap.sum_sublist h fun account => account.delta.toInt]
  refine Finset.sum_congr rfl fun a _ => ?_
  unfold deltaOf
  cases o.accounts[a]? with
  | none => exact Delta.toInt_zero.symm
  | some account => rfl

theorem TransactionOutput.sum_delta_toList (o : TransactionOutput) :
    (o.accounts.toList.map fun e => e.2.delta.toInt).sum = ∑ a, (o.deltaOf a).toInt := by
  rw [sum_delta (List.Sublist.refl _)]
  refine Finset.sum_subset (Finset.subset_univ _) fun a _ ha => ?_
  rw [List.mem_toFinset, Std.ExtTreeMap.map_fst_toList_eq_keys, Std.ExtTreeMap.mem_keys] at ha
  rw [deltaOf, Std.ExtTreeMap.getElem?_eq_none ha]
  exact Delta.toInt_zero

/-- Changes that only move value add up to nothing in whatever order they are added. -/
theorem Audit.conserved_of_covers {L : Ledger} (hL : L.Bounded) {o : TransactionOutput}
    (h : L.Covers fun a => (o.deltaOf a).toInt) : Audit.conserved o = true := by
  have hpart : ∀ part, part <+: o.accounts.toList →
      Delta.InRange (Delta.zero.toInt + (part.map fun e => e.2.delta.toInt).sum) := by
    intro part hprefix
    rw [Delta.toInt_zero, Int.zero_add, TransactionOutput.sum_delta hprefix.sublist]
    exact h.sum_inRange hL _
  unfold conserved netChange
  rw [Delta.isZero_iff, Std.ExtTreeMap.foldl_eq_foldl_toList,
    Delta.toInt_foldl (fun e : Address × OutputAccount => e.2.delta) _ _ hpart, o.sum_delta_toList, h.balanced,
    Delta.toInt_zero]
  rfl

/-! ## Transactions -/

/-- The flow of a transaction itself; none where there is no account to receive it. -/
def Transaction.flows (L : Ledger) (tx : Transaction) : List Flow :=
  match L.callee tx with
  | .ok callee => [⟨tx.sender, callee, tx.carried⟩]
  | .error _ => []

variable {ε σ : Type} {S : Setting ε σ}

theorem Accumulator.shows_placed {L : Ledger} {o : Accumulator} (hs : o.Solvent L) (tx : Transaction) (callee : Address) :
    o.Shows L [] (o.placed tx callee) := by
  unfold placed
  split
  · exact .of_exactDelta hs (exactDelta_deploy _ _ _ _) rfl
  · exact .refl hs

/-- A processed transaction tracks its own flow and those of its code. -/
theorem Processed.tracks (hfixed : ∀ e s, S.ledger (S.react e s) = S.ledger s) {tx : Transaction} {h : Host} {s : σ}
    {t : Turn ε σ (Except CallError Unit)} (hp : Processed S tx h s t) (hL : (S.ledger s).Bounded)
    (hs : h.output.Solvent (S.ledger s)) :
    (∀ fs m, Moment t.deeds fs m → h.output.Shows (S.ledger s) (tx.flows (S.ledger s) ++ fs) m.output) ∧
      (t.reply = .ok () → h.output.Shows (S.ledger s) (tx.flows (S.ledger s) ++ flowsOf t.deeds) t.host.output) := by
  cases hp with
  | rejected e h' => exact ⟨fun _ _ hm => (by cases hm), fun hreply => (by cases hreply)⟩
  | @paid callee output hkind hcallee ht =>
    have hplaced := Accumulator.shows_placed hs tx callee
    rw [Transaction.flows, hcallee]
    exact ⟨fun _ _ hm => (by cases hm), fun _ => hplaced.trans (.transfer hL hplaced.solvent ht)⟩
  | @ran callee output meter levels t hkind hcallee ht hmeter hrun =>
    have hplaced := Accumulator.shows_placed hs tx callee
    have hmoved := hplaced.trans (.transfer hL hplaced.solvent ht)
    obtain ⟨htracks, -⟩ := hrun.tracks hfixed hL hmoved.solvent
    rw [Transaction.flows, hcallee]
    exact ⟨fun fs m hm => hmoved.trans (htracks.moments fs m hm), fun _ => hmoved.trans htracks.shows⟩

theorem Processed.parked {tx : Transaction} {h : Host} {s : σ} {t : Turn ε σ (Except CallError Unit)}
    (hp : Processed S tx h s t) (hreply : t.reply = .ok ()) : t.host.output.parked = h.output.parked := by
  cases hp with
  | rejected e h' => cases hreply
  | @paid callee output hkind hcallee ht => exact (Accumulator.parked_transfer ht).trans (h.output.parked_placed tx callee)
  | @ran callee output meter levels t hkind hcallee ht hmeter hrun =>
    have hstart : output.parked = h.output.parked :=
      (Accumulator.parked_transfer ht).trans (h.output.parked_placed tx callee)
    exact hrun.sameCall.parked.trans hstart

theorem Accumulator.exactDelta_of_parked {o : Accumulator} (h : o.parked = []) (a : Address) :
    o.exactDelta a = (o.frame.deltaOf a).toInt := by
  rw [exactDelta, h]
  simp [exactBelow]

theorem Accumulator.Shows.exactDelta_empty {L : Ledger} {fs : List Flow} {o : Accumulator} (h : Shows L empty fs o)
    (a : Address) : o.exactDelta a = Flow.net fs a := by
  rw [h.exact, exactDelta_of_parked rfl]
  simp [empty]

/-- What an output shows that started empty: the exact changes, and balances that nothing stopped. -/
theorem Accumulator.Shows.balance {L : Ledger} (hL : L.Bounded) {fs : List Flow} {o : Accumulator}
    (h : Shows L empty fs o) {a : Address} {committed : U256} (ha : L.balance a = .ok committed) :
    (o.visibleDelta a).toInt = Flow.net fs a ∧
      ∃ balance : U256, o.effectiveBalance L a = .ok balance ∧ (o.visibleDelta a).applyTo committed = some balance ∧
        (balance.val : Int) = committed.val + Flow.net fs a := by
  rw [toInt_visibleDelta hL h.solvent, ← h.exactDelta_empty]
  exact ⟨rfl, effectiveBalance_eq hL h.solvent ha⟩

theorem Ledger.balance_of_account {L : Ledger} {a : Address} (h : ∃ account, L.account? a = .ok account) :
    ∃ committed, L.balance a = .ok committed := by
  obtain ⟨account, haccount⟩ := h
  unfold balance Ledger.account
  rw [haccount]
  exact ⟨_, rfl⟩

/-- At every moment of a transaction every balance is exact, and the output of a success only moves value. -/
theorem Setting.transact_conserves (hfixed : ∀ e s, S.ledger (S.react e s) = S.ledger s) {s : σ}
    (havailable : ∀ a, ∃ account, (S.ledger s).account? a = .ok account) (hL : (S.ledger s).Bounded)
    (tx : Transaction) (gas : U64) :
    let L := S.ledger s
    let t := S.transact tx (.start gas) s
    (∀ fs h, Moment t.deeds fs h → ∀ a, ∃ committed balance : U256, L.balance a = .ok committed ∧
      h.output.effectiveBalance L a = .ok balance ∧
      (h.output.visibleDelta a).toInt = Flow.net (tx.flows L ++ fs) a ∧
      (h.output.visibleDelta a).applyTo committed = some balance ∧
      (balance.val : Int) = committed.val + Flow.net (tx.flows L ++ fs) a) ∧
    (t.reply.isSuccess = true →
      (∀ a, (t.reply.deltaOf a).toInt = Flow.net (tx.flows L ++ flowsOf t.deeds) a) ∧
      (t.reply.accounts.toList.map fun e => e.2.delta.toInt).sum = 0 ∧
      (∀ a, 0 ≤ L.committed a + (t.reply.deltaOf a).toInt) ∧
      Audit.conserved t.reply = true) := by
  intro L t
  have hp := S.process_processed tx (.start gas) s
  obtain ⟨hmoments, hend⟩ := hp.tracks hfixed hL Accumulator.solvent_empty
  refine ⟨fun fs h hm a => ?_, fun hsuccess => ?_⟩
  · obtain ⟨committed, ha⟩ := Ledger.balance_of_account (havailable a)
    obtain ⟨hdelta, balance, heff, happly, hval⟩ := (hmoments fs h hm).balance hL ha
    exact ⟨committed, balance, ha, heff, hdelta, happly, hval⟩
  · obtain ⟨-, hreply, hfinal⟩ := Host.conclude_success hsuccess
    have hshows := hend hreply
    have hdelta : ∀ a, (t.reply.deltaOf a).toInt = t.host.output.exactDelta a := by
      intro a
      have hout : t.reply = _ := hfinal
      rw [hout, Accumulator.deltaOf_finalize]
      exact (Accumulator.exactDelta_of_parked (hp.parked hreply) a).symm
    have hcovers : L.Covers fun a => (t.reply.deltaOf a).toInt := by
      simp only [hdelta]
      exact hshows.solvent.covers
    refine ⟨fun a => ?_, ?_, hcovers.solvent, Audit.conserved_of_covers hL hcovers⟩
    · rw [hdelta]
      exact hshows.exactDelta_empty a
    · rw [t.reply.sum_delta_toList, hcovers.balanced]

/-- Code that calls itself with value and there passes some of it on. -/
def forwardingGuest (input : CallInput) : Guest Unit :=
  if input.depth = 0 then .call .destinationContext ⟨input.callee, 5, "pass", [], 50000⟩ fun _ => .done (.ok ())
  else .ask (.transfer (.named "carol") 3 []) fun reply => .done reply

def forwardingSetting : Setting Unit World := ⟨.standard, forwardingGuest, World.ledger, fun _ w => w⟩

def forwardingWorld : World :=
  .ofSteps [.setBalance (.named "alice") 100,
    .putAccount (.named "bob") ⟨40, 0, [7], { CodeMetadata.none with payable := true }⟩]

def forwardingCall : Transaction := { Transaction.call (.named "alice") (.named "bob") "f" 100000 with value := 20 }

theorem Setting.transact_conserves_forwarding :
    forwardingWorld.ledger.Bounded ∧
      (forwardingSetting.transact forwardingCall (.start 100000) forwardingWorld).reply.isSuccess = true ∧
      Audit.conserved (forwardingSetting.transact forwardingCall (.start 100000) forwardingWorld).reply = true :=
  have hL : forwardingWorld.ledger.Bounded := World.bounded_ledger (by decide) (by decide)
  have havailable : ∀ a, ∃ account, forwardingWorld.ledger.account? a = .ok account := fun _ => ⟨_, rfl⟩
  have hsuccess : (forwardingSetting.transact forwardingCall (.start 100000) forwardingWorld).reply.isSuccess = true := by
    decide +kernel
  have hconserves := forwardingSetting.transact_conserves (fun _ _ => rfl) havailable hL forwardingCall 100000
  ⟨hL, hsuccess, (hconserves.2 hsuccess).2.2.2⟩

end ContractHost

/-
  ContractHost.Proofs.Transactions — what a transaction does around its code.

  A transaction is rejected before anything ran, or moves its value and runs nothing, or
  is prepared and its code runs (`Processed`); every transaction is one of these
  (`Setting.process_processed`). Its output is a success only where processing ended well
  and no call was refused for its depth, and then it is that of the final host
  (`Host.conclude_success`).
-/

import ContractHost.Host.Transact
import ContractHost.Proofs.Runs

namespace ContractHost

/-- The account that a transaction runs on or pays. -/
def Ledger.callee (L : Ledger) (tx : Transaction) : Except LookupError Address :=
  if tx.kind = .deploy then L.newAddress tx.sender tx.nonce else .ok tx.recipient

/-- The account is the new one of a deployment. -/
def Transaction.Deploys (tx : Transaction) (L : Ledger) (a : Address) : Prop :=
  tx.kind = .deploy ∧ L.newAddress tx.sender tx.nonce = .ok a

/-- The value that a transaction moves. -/
def Transaction.carried (tx : Transaction) : U256 := if tx.kind.hasValue then tx.value else 0

/-- The output in which a deployment has left its code. -/
def Accumulator.placed (o : Accumulator) (tx : Transaction) (callee : Address) : Accumulator :=
  if tx.kind = .deploy then o.deploy callee tx.code tx.metadata else o

theorem Accumulator.parked_placed (o : Accumulator) (tx : Transaction) (callee : Address) :
    (o.placed tx callee).parked = o.parked := by
  unfold placed
  split <;> rfl

/-- The staging in which the code of a transaction runs. -/
def Staging.prepared (s : Staging) (tx : Transaction) (callee : Address) : Staging :=
  (s.setAddress callee).setReadOnly (tx.kind = .query)

/-- No call has begun or ended, and gas was spent at most. -/
structure SameStacks (h h' : Host) : Prop where
  saved : h'.staging.saved = h.staging.saved
  parked : h'.output.parked = h.output.parked
  meter : h.meter.Spends h'.meter
  depth : h'.depth = h.depth

theorem SameStacks.refl (h : Host) : SameStacks h h := ⟨rfl, rfl, .refl _, rfl⟩

theorem SameStacks.trans {h₁ h₂ h₃ : Host} (h : SameStacks h₁ h₂) (h' : SameStacks h₂ h₃) : SameStacks h₁ h₃ :=
  ⟨h'.saved.trans h.saved, h'.parked.trans h.parked, h.meter.trans h'.meter, h'.depth.trans h.depth⟩

theorem SameCall.sameStacks {h h' : Host} (hsame : SameCall h h') : SameStacks h h' :=
  ⟨hsame.saved, hsame.parked, hsame.meter, hsame.depth⟩

namespace Host

open ContractHost.Action

variable {c : HostConfig} {L : Ledger}

/-! ## Before the code -/

theorem target_cases (tx : Transaction) (h : Host) :
    (∃ e, target L tx h = (.error e, h)) ∨
      ∃ callee code, L.callee tx = .ok callee ∧
        target L tx h = (.ok (callee, code), { h with output := h.output.placed tx callee }) := by
  unfold target Ledger.callee Accumulator.placed
  split
  · simp only [bind_apply]
    rcases lookup_cases (L.newAddress tx.sender tx.nonce) h with ⟨e, hx⟩ | ⟨callee, hcallee, hx⟩ <;> rw [hx]
    · exact .inl ⟨e, rfl⟩
    · exact .inr ⟨callee, tx.code, hcallee, rfl⟩
  · simp only [bind_apply]
    rcases lookup_cases (L.code tx.recipient) h with ⟨e, hx⟩ | ⟨code, -, hx⟩ <;> rw [hx]
    · exact .inl ⟨e, rfl⟩
    · exact .inr ⟨tx.recipient, code, rfl, rfl⟩

theorem keeps_target {γ : Type} {f : Host → γ} (hf : ∀ h output, f { h with output } = f h) (tx : Transaction) :
    Keeps f (target L tx) := by
  intro h
  rcases target_cases (L := L) tx h with ⟨e, hx⟩ | ⟨callee, code, -, hx⟩ <;> rw [hx]
  exact hf h _

/-- A step that moves value, and after it the price of the code. -/
theorem compile_cases {move : Action Unit} {h : Host} {moves : Accumulator → Prop}
    (hmove : (∃ e, move h = (.error e, h)) ∨ ∃ output, moves output ∧ move h = (.ok (), { h with output }))
    (amount : U64) (input : U64 → CallInput) :
    let x : Action CallInput := do
      move
      useGas amount
      let gas ← read (·.meter.frame.provided)
      return input gas
    (∃ e output, (output = h.output ∨ moves output) ∧ x h = (.error e, { h with output })) ∨
      ∃ output meter, moves output ∧ h.meter.Spends meter ∧
        x h = (.ok (input h.meter.frame.provided), { h with output, meter }) := by
  simp only [bind_apply, read_apply, pure_apply]
  rcases hmove with ⟨e, hx⟩ | ⟨output, hmoves, hx⟩ <;> rw [hx]
  · exact .inl ⟨e, h.output, .inl rfl, rfl⟩
  dsimp only
  rcases useGas_cases amount { h with output } with hx | ⟨meter, hm, hx⟩ <;> rw [hx]
  · exact .inl ⟨_, output, .inr hmoves, rfl⟩
  · exact .inr ⟨output, meter, hmoves, hm, by rw [← hm.provided]⟩

theorem prepare_cases (tx : Transaction) (h : Host) :
    (∃ e h', SameStacks h h' ∧ h'.fatal = h.fatal ∧ prepare c L tx h = (.error e, h')) ∨
      ∃ callee code output meter, L.callee tx = .ok callee ∧
        (h.output.placed tx callee).transfer L tx.sender callee tx.carried [] = .ok output ∧
        h.meter.Spends meter ∧
        prepare c L tx h =
          (.ok ⟨tx.sender, callee, tx.carried, tx.function, tx.arguments, h.meter.frame.provided, code, 0⟩,
            { h with staging := h.staging.prepared tx callee, output, meter }) := by
  unfold prepare
  simp only [bind_apply]
  rcases target_cases (L := L) tx h with ⟨e, hx⟩ | ⟨callee, code, hcallee, hx⟩ <;> rw [hx]
  · exact .inl ⟨e, h, .refl h, rfl, rfl⟩
  have hplaced := h.output.parked_placed tx callee
  dsimp only
  rcases require_cases (!code.isEmpty) .contractNotFound { h with output := h.output.placed tx callee } with
    ⟨-, hx⟩ | ⟨-, hx⟩ <;> rw [hx]
  · exact .inl ⟨_, { h with output := h.output.placed tx callee }, ⟨rfl, hplaced, .refl _, rfl⟩, rfl, rfl⟩
  dsimp only
  rw [changeStaging_apply]
  dsimp only
  let placed : Host := { h with staging := h.staging.prepared tx callee, output := h.output.placed tx callee }
  let input (gas : U64) : CallInput :=
    ⟨tx.sender, callee, tx.carried, tx.function, tx.arguments, gas, code, 0⟩
  have hrefused : ∀ output, (output = placed.output ∨
      placed.output.transfer L tx.sender callee tx.carried [] = .ok output) → SameStacks h { placed with output } := by
    rintro output (rfl | ht)
    · exact ⟨rfl, hplaced, .refl _, rfl⟩
    · exact ⟨rfl, (Accumulator.parked_transfer ht).trans hplaced, .refl _, rfl⟩
  -- A deployment records its value, any other transaction asks the receiver first.
  split
  · rcases compile_cases (recordTransfer_cases (L := L) tx.sender callee tx.carried [] placed)
      (c.schedule.compile code.length) input with ⟨e, output, ho, hx⟩ | ⟨output, meter, ht, hm, hx⟩
    · exact .inl ⟨e, _, hrefused output ho, rfl, hx⟩
    · exact .inr ⟨callee, code, output, meter, hcallee, ht, hm, hx⟩
  · rcases compile_cases (moveValue_cases (L := L) tx.sender callee tx.carried [] placed)
      (c.schedule.compile code.length) input with ⟨e, output, ho, hx⟩ | ⟨output, meter, ht, hm, hx⟩
    · exact .inl ⟨e, _, hrefused output ho, rfl, hx⟩
    · exact .inr ⟨callee, code, output, meter, hcallee, ht, hm, hx⟩

/-! ## The output -/

theorem returnCode_ne_ok (e : CallError) : e.returnCode ≠ .ok := by
  cases e with
  | storage cause => cases cause <;> decide
  | _ => exact fun h => by cases h

theorem failure_isSuccess (e : CallError) : (TransactionOutput.failure e.returnCode e.message).isSuccess = false :=
  decide_eq_false (returnCode_ne_ok e)

/-- The output is the failure of a recorded depth or of the processing, or that of a host that ended well. -/
theorem conclude_cases (h : Host) (result : Except CallError Unit) :
    (∃ e, (h.fatal = some e ∨ h.fatal = none ∧ result = .error e) ∧
      h.conclude result = .failure e.returnCode e.message) ∨
    h.fatal = none ∧ result = .ok () ∧
      h.conclude result = h.output.finalize h.staging.accounts h.meter.left h.meter.frame.freed := by
  unfold conclude
  cases hf : h.fatal with
  | some e => exact .inl ⟨e, .inl rfl, rfl⟩
  | none =>
    cases result with
    | ok _ => exact .inr ⟨rfl, rfl, rfl⟩
    | error e => exact .inl ⟨e, .inr ⟨rfl, rfl⟩, rfl⟩

/-- A success is the output of a host that ended well. -/
theorem conclude_success {h : Host} {result : Except CallError Unit} (hs : (h.conclude result).isSuccess = true) :
    h.fatal = none ∧ result = .ok () ∧
      h.conclude result = h.output.finalize h.staging.accounts h.meter.left h.meter.frame.freed := by
  rcases h.conclude_cases result with ⟨e, -, hout⟩ | hgood
  · rw [hout, failure_isSuccess] at hs
    cases hs
  · exact hgood

end Host

/-- The change of a balance in an output, none where the account has no record. -/
def TransactionOutput.deltaOf (o : TransactionOutput) (a : Address) : Delta := ((o.accounts[a]?).map (·.delta)).getD .zero

theorem Accumulator.getElem?_finalize (o : Accumulator) (staged : AddressMap AccountStorage)
    (gasRemaining gasRefund : U64) (a : Address) :
    (o.finalize staged gasRemaining gasRefund).accounts[a]? =
      if (staged.getD a ∅).isEmpty then o.frame.accounts[a]?
      else some { o.frame.account a with updates := staged.getD a ∅ } := by
  unfold finalize
  rw [Std.ExtTreeMap.getElem?_union, Std.ExtTreeMap.getElem?_map, Std.ExtTreeMap.getElem?_filter',
    Std.ExtTreeMap.getD_eq_getD_getElem?]
  cases staged[a]? with
  | none => rfl
  | some updates => cases hempty : updates.isEmpty <;> simp [hempty, Option.filter]

theorem Accumulator.deltaOf_finalize (o : Accumulator) (staged : AddressMap AccountStorage)
    (gasRemaining gasRefund : U64) (a : Address) :
    (o.finalize staged gasRemaining gasRefund).deltaOf a = o.frame.deltaOf a := by
  unfold TransactionOutput.deltaOf
  rw [getElem?_finalize]
  split
  · unfold OutputFrame.deltaOf OutputFrame.account
    rw [Std.ExtTreeMap.getD_eq_getD_getElem?]
    cases o.frame.accounts[a]? <;> rfl
  · rfl

/-! ## Processing -/

variable {ε σ : Type} (S : Setting ε σ)

/-- The processing of a transaction on a host. -/
inductive Processed (tx : Transaction) (h : Host) (s : σ) : Turn ε σ (Except CallError Unit) → Prop
  | rejected (e : CallError) (h' : Host) : Processed tx h s ⟨.error e, h', s, []⟩
  | paid {callee : Address} {output : Accumulator} (hkind : tx.kind = .transfer) (hcallee : (S.ledger s).callee tx = .ok callee)
      (ht : (h.output.placed tx callee).transfer (S.ledger s) tx.sender callee tx.carried [] = .ok output) :
      Processed tx h s ⟨.ok (), { h with output }, s, []⟩
  | ran {callee : Address} {output : Accumulator} {meter : Meter} {levels : Nat} {t : Turn ε σ (Except CallError Unit)}
      (hkind : tx.kind ≠ .transfer) (hcallee : (S.ledger s).callee tx = .ok callee)
      (ht : (h.output.placed tx callee).transfer (S.ledger s) tx.sender callee tx.carried [] = .ok output)
      (hmeter : h.meter.Spends meter)
      (hrun : Runs S levels { h with staging := h.staging.prepared tx callee, output, meter } s t) :
      Processed tx h s t

theorem Setting.process_processed (tx : Transaction) (h : Host) (s : σ) : Processed S tx h s (S.process tx h s) := by
  unfold process
  split
  · rename_i hkind
    have hcallee : (S.ledger s).callee tx = .ok tx.recipient := by
      rw [Ledger.callee, hkind]
      rfl
    have hplaced : h.output.placed tx tx.recipient = h.output := by
      rw [Accumulator.placed, hkind]
      rfl
    have hcarried : tx.carried = tx.value := by
      rw [Transaction.carried, hkind]
      rfl
    rcases Host.moveValue_cases (L := S.ledger s) tx.sender tx.recipient tx.value [] h with
      ⟨e, hx⟩ | ⟨output, ht, hx⟩ <;> rw [hx]
    · exact .rejected e h
    · exact .paid hkind hcallee (by rwa [hplaced, hcarried])
  · rename_i hkind
    rcases Host.prepare_cases (c := S.config) (L := S.ledger s) tx h with
      ⟨e, h', -, -, hx⟩ | ⟨callee, code, output, meter, hcallee, ht, hm, hx⟩ <;> rw [hx]
    · exact .rejected e h'
    · exact .ran hkind hcallee ht hm (S.run_runs _ _ _ _)

/-- The code of a transaction runs from the host that was prepared for it, or nothing runs. -/
theorem Setting.process_cases (tx : Transaction) (h : Host) (s : σ) :
    ((S.process tx h s).deeds = [] ∧ SameStacks h (S.process tx h s).host ∧ (S.process tx h s).host.fatal = h.fatal) ∨
      ∃ input inner, Host.prepare S.config (S.ledger s) tx h = (.ok input, inner) ∧ SameStacks h inner ∧
        inner.fatal = h.fatal ∧ Runs S (S.levels inner) inner s (S.process tx h s) := by
  unfold process
  split
  · rcases Host.moveValue_cases (L := S.ledger s) tx.sender tx.recipient tx.value [] h with
      ⟨e, hx⟩ | ⟨output, ht, hx⟩ <;> rw [hx]
    · exact .inl ⟨rfl, .refl h, rfl⟩
    · exact .inl ⟨rfl, ⟨rfl, Accumulator.parked_transfer ht, .refl _, rfl⟩, rfl⟩
  · rcases Host.prepare_cases (c := S.config) (L := S.ledger s) tx h with
      ⟨e, h', hsame, hfatal, hx⟩ | ⟨callee, code, output, meter, hcallee, ht, hm, hx⟩ <;> rw [hx]
    · exact .inl ⟨rfl, hsame, hfatal⟩
    · have hparked := (Accumulator.parked_transfer ht).trans (Accumulator.parked_placed _ _ _)
      exact .inr ⟨_, _, rfl, ⟨rfl, hparked, hm, rfl⟩, rfl, S.run_runs _ _ _ _⟩

/-- A transaction ends with the calls open that were open before it. -/
theorem Setting.sameStacks_process (tx : Transaction) (h : Host) (s : σ) : SameStacks h (S.process tx h s).host := by
  rcases S.process_cases tx h s with ⟨-, hsame, -⟩ | ⟨top, inner, -, hsame, -, hrun⟩
  · exact hsame
  · exact hsame.trans hrun.sameCall.sameStacks

end ContractHost

/-
  ContractHost.Proofs.Runs — runs of guest code, step by step.

  `Runs` relates a host to a turn that guest code may take from it: requests, signals and
  nested calls, one deed after another. A nested call is one of seven (`Called`), each with
  the host it leaves spelled out: what was parked when it was entered is back at its end,
  because the code of a call leaves everything of the waiting calls alone (`SameCall`).
  Every run of guest code is such a run (`Setting.run_runs`), and what single deeds do
  holds of runs (`Runs.of_deeds`), also where a deed relies on what the deeds before it
  have left (`Runs.of_connected`). The surroundings of a run change by its signals alone
  (`Runs.around_eq`).
-/

import ContractHost.Host.Nested
import ContractHost.Proofs.Requests
import ContractHost.Proofs.Solvency

namespace ContractHost

/-! ## Two points of the code of one call -/

/-- The frame of the running call is the same and nothing of the waiting calls has changed. -/
structure SameCall (h h' : Host) : Prop where
  frame : h'.staging.frame = h.staging.frame
  saved : h'.staging.saved = h.staging.saved
  origin : h'.output.origin = h.output.origin
  parked : h'.output.parked = h.output.parked
  meter : h.meter.Spends h'.meter
  depth : h'.depth = h.depth

theorem SameCall.refl (h : Host) : SameCall h h := ⟨rfl, rfl, rfl, rfl, .refl _, rfl⟩

theorem SameCall.trans {h₁ h₂ h₃ : Host} (h : SameCall h₁ h₂) (h' : SameCall h₂ h₃) : SameCall h₁ h₃ where
  frame := h'.frame.trans h.frame
  saved := h'.saved.trans h.saved
  origin := h'.origin.trans h.origin
  parked := h'.parked.trans h.parked
  meter := h.meter.trans h'.meter
  depth := h'.depth.trans h.depth

theorem SameCall.address {h h' : Host} (hsame : SameCall h h') : h'.address = h.address :=
  congrArg CallFrame.address hsame.frame

theorem Effect.sameCall {c : HostConfig} {L : Ledger} {h h' : Host} {r : Request} {reply : Except CallError r.Answer}
    (he : Effect c L h r reply h') : SameCall h h' := by
  cases he with
  | refused hm => exact ⟨rfl, rfl, rfl, rfl, hm, rfl⟩
  | observed hm => exact ⟨rfl, rfl, rfl, rfl, hm, rfl⟩
  | stored hm => exact ⟨rfl, rfl, rfl, rfl, hm, rfl⟩
  | finished hm => exact ⟨rfl, rfl, rfl, rfl, hm, rfl⟩
  | transferred hm ht => exact ⟨rfl, rfl, Accumulator.origin_transfer ht, Accumulator.parked_transfer ht, hm, rfl⟩
  | logged hm => exact ⟨rfl, rfl, rfl, rfl, hm, rfl⟩
  | upgraded hm => exact ⟨rfl, rfl, rfl, rfl, hm, rfl⟩

namespace Host

open ContractHost.Action

variable {c : HostConfig} {L : Ledger}

/-! ## Before the code of a call -/

/-- Before its code a call has moved its value at most; it begins once that is done and the code paid. -/
theorem begin_cases (caller : Address) (call : NestedCall) (gas : U64) (h : Host) :
    (∃ e, begin c L caller call gas h = (.error e, h)) ∨
      ∃ output, h.output.transfer L caller call.callee call.value [] = .ok output ∧
        ((∃ e, begin c L caller call gas h = (.error e, { h with output })) ∨
          ∃ code meter, L.code call.callee = .ok code ∧ code ≠ [] ∧
            h.meter.use? (c.schedule.compile code.length) = some meter ∧
            begin c L caller call gas h =
              (.ok ⟨caller, call.callee, call.value, call.function, call.arguments, gas, code, h.depth⟩,
                { h with meter, output })) := by
  unfold begin
  simp only [bind_apply, read_apply, pure_apply]
  rcases require_cases (call.value = 0 || !h.readOnly) .writeInReadOnly h with ⟨-, hx⟩ | ⟨-, hx⟩ <;> rw [hx]
  · exact .inl ⟨_, rfl⟩
  dsimp only
  rcases moveValue_cases (L := L) caller call.callee call.value [] h with ⟨e, hx⟩ | ⟨output, ht, hx⟩ <;> rw [hx]
  · exact .inl ⟨e, rfl⟩
  refine .inr ⟨output, ht, ?_⟩
  dsimp only
  rcases lookup_cases (L.code call.callee) { h with output } with ⟨e, hx⟩ | ⟨code, hcode, hx⟩ <;> rw [hx]
  · exact .inl ⟨e, rfl⟩
  dsimp only
  rcases require_cases (!code.isEmpty) .contractNotFound { h with output } with ⟨-, hx⟩ | ⟨hne, hx⟩ <;> rw [hx]
  · exact .inl ⟨_, rfl⟩
  dsimp only [useGas]
  cases hm : h.meter.use? (c.schedule.compile code.length) with
  | none => exact .inl ⟨_, rfl⟩
  | some meter => exact .inr ⟨code, meter, hcode, by simpa using hne, hm, rfl⟩

theorem begin_sameCall (caller : Address) (call : NestedCall) (gas : U64) (h : Host) :
    SameCall h (begin c L caller call gas h).2 := by
  rcases begin_cases (c := c) (L := L) caller call gas h with
    ⟨e, hx⟩ | ⟨output, ht, ⟨e, hx⟩ | ⟨code, meter, -, -, hm, hx⟩⟩ <;> rw [hx]
  · exact .refl h
  · exact ⟨rfl, rfl, Accumulator.origin_transfer ht, Accumulator.parked_transfer ht, .refl _, rfl⟩
  · exact ⟨rfl, rfl, Accumulator.origin_transfer ht, Accumulator.parked_transfer ht, .of_use hm, rfl⟩

theorem begin_fatal (caller : Address) (call : NestedCall) (gas : U64) (h : Host) :
    (begin c L caller call gas h).2.fatal = h.fatal := by
  rcases begin_cases (c := c) (L := L) caller call gas h with
    ⟨e, hx⟩ | ⟨output, -, ⟨e, hx⟩ | ⟨code, meter, -, -, -, hx⟩⟩ <;> rw [hx]

/-- The account that the code of a call works on. -/
theorem address_enter (h : Host) (mode : CallMode) (callee : Address) (gas : U64) :
    (h.enter mode callee gas).address = match mode with
      | .sameContext => h.address
      | .destinationContext => callee := by
  cases mode <;> rfl

/-! ## The end of a call -/

/-- The gas that a caller who has paid the base price gives to a call. -/
def grant (parent : Host) (call : NestedCall) : U64 := min call.gasLimit parent.meter.left

/-- What a failed call costs that was given `gas`. -/
def charged (c : HostConfig) (mode : CallMode) (gas used : U64) : U64 := max used (min (penalty c mode) gas)

/-- The caller after a call that failed. -/
def afterFailure (parent : Host) (charged : U64) : Host :=
  { parent with meter := parent.meter.spend charged, output := parent.output.finish failureMarker }

/-- The caller after a call that succeeded and ended with the host `inner`. -/
def afterSuccess (parent : Host) (mode : CallMode) (inner : Host) : Host :=
  { parent with
    meter := (parent.meter.spend inner.meter.frame.used).free inner.meter.frame.freed
    staging := { parent.staging with accounts := inner.staging.accounts }
    output := Accumulator.finish (match mode with
      | .sameContext => inner.output.discard
      | .destinationContext => inner.output.fold) successMarker }

section Settle

variable {mode : CallMode} {parent inner : Host} {callee : Address} {gas : U64}

theorem pop?_inner (h : SameCall (parent.enter mode callee gas) inner) :
    inner.meter.pop? = some (inner.meter.frame, parent.meter) := by
  unfold Meter.pop?
  rw [h.meter.parked]
  rfl

theorem rollback_staging (h : SameCall (parent.enter mode callee gas) inner) : inner.staging.rollback = parent.staging := by
  unfold Staging.rollback
  rw [h.saved]
  cases mode <;> rfl

theorem rollback_output (h : SameCall (parent.enter mode callee gas) inner) : inner.output.rollback = parent.output := by
  unfold Accumulator.rollback
  rw [h.parked]
  cases mode <;> rfl

theorem commit_staging (h : SameCall (parent.enter mode callee gas) inner) :
    { inner.staging.commit with frame := parent.staging.frame } =
      { parent.staging with accounts := inner.staging.accounts } := by
  rw [Staging.commit_eq, h.saved]
  cases mode <;> rfl

theorem provided_inner (h : SameCall (parent.enter mode callee gas) inner) : inner.meter.frame.provided = gas :=
  h.meter.provided

theorem used_inner_le (h : SameCall (parent.enter mode callee gas) inner) : inner.meter.frame.used ≤ gas := by
  have hstart : (0 : U64) ≤ gas := Nat.zero_le _
  have hwithin := h.meter.within hstart
  rwa [provided_inner h] at hwithin

theorem charged_le (h : SameCall (parent.enter mode callee gas) inner) :
    charged c mode gas inner.meter.frame.used ≤ gas := by
  have hused := used_inner_le h
  rw [Capped.le_iff] at hused ⊢
  rw [charged, Capped.val_max, Capped.val_min]
  omega

theorem origin_afterSuccess (h : SameCall (parent.enter mode callee gas) inner) :
    (parent.afterSuccess mode inner).output.origin = parent.output.origin := by
  have hparked := h.parked
  cases mode <;> simp only [afterSuccess, Accumulator.finish, Accumulator.discard, Accumulator.fold] <;>
    rw [hparked] <;> rfl

theorem parked_afterSuccess (h : SameCall (parent.enter mode callee gas) inner) :
    (parent.afterSuccess mode inner).output.parked = parent.output.parked := by
  have hparked := h.parked
  cases mode <;> simp only [afterSuccess, Accumulator.finish, Accumulator.discard, Accumulator.fold] <;>
    rw [hparked] <;> rfl

/-- Of a call in the same context the frame that it worked on is kept. -/
theorem output_afterSuccess_same (h : SameCall (parent.enter .sameContext callee gas) inner) :
    (parent.afterSuccess .sameContext inner).output =
      Accumulator.finish ⟨inner.output.frame, parent.output.origin, parent.output.parked⟩ successMarker := by
  have hparked := h.parked
  simp only [afterSuccess, Accumulator.discard]
  rw [hparked]
  rfl

/-- Of a call in a destination context the frame that it worked on is put over the caller's. -/
theorem output_afterSuccess_destination (h : SameCall (parent.enter .destinationContext callee gas) inner) :
    (parent.afterSuccess .destinationContext inner).output =
      Accumulator.finish ⟨parent.output.frame.merge inner.output.frame, parent.output.origin, parent.output.parked⟩
        successMarker := by
  have hparked := h.parked
  simp only [afterSuccess, Accumulator.fold]
  rw [hparked]
  rfl

/-- Every end of a call but for the depth is paid, and what was parked is back. -/
theorem settle_eq (h : SameCall (parent.enter mode callee gas) inner) (hfree : parent.fatal = none)
    (hgas : gas ≤ parent.meter.left) (result : Except CallError Unit) :
    settle c mode parent result inner =
      match inner.fatal, result with
      | some e, _ => ⟨.error e, { parent with fatal := some e }, []⟩
      | none, .ok () =>
        ⟨.ok (.succeeded inner.meter.frame.used), parent.afterSuccess mode inner, [.succeeded, .returned]⟩
      | none, .error e =>
        ⟨.ok (.failed e.returnCode e.message (charged c mode gas inner.meter.frame.used)),
          parent.afterFailure (charged c mode gas inner.meter.frame.used), [.ofError e, .returned]⟩ := by
  have hused : inner.meter.frame.used ≤ parent.meter.left := Nat.le_trans (used_inner_le h) hgas
  have hcharged : charged c mode gas inner.meter.frame.used ≤ parent.meter.left := Nat.le_trans (charged_le h) hgas
  unfold settle
  rw [pop?_inner h]
  dsimp only [Option.getD_some]
  rw [rollback_staging h, rollback_output h]
  cases hf : inner.fatal with
  | some e => rfl
  | none =>
    cases result with
    | ok _ =>
      rw [Meter.use?_spend hused]
      unfold afterSuccess
      dsimp only
      cases mode <;> simp only [commit_staging h, hfree]
    | error e =>
      dsimp only
      rw [provided_inner h]
      unfold charged at hcharged
      rw [Meter.use?_spend hcharged]
      unfold afterFailure charged
      rw [hfree]

end Settle

end Host

/-! ## Runs -/

/-- The turns that guest code may take from a host and its surroundings. -/
abbrev Execution (ε σ : Type) := Host → σ → Turn ε σ (Except CallError Unit) → Prop

variable {ε σ : Type} (S : Setting ε σ)

/-- A call before its code runs; `parent` is the caller who has paid the base price. -/
def Setting.begun (mode : CallMode) (call : NestedCall) (parent : Host) (s : σ) : Except CallError CallInput × Host :=
  Host.begin S.config (S.ledger s) parent.address call (parent.grant call)
    (parent.enter mode call.callee (parent.grant call))

/-- A nested call from `h`, whose code runs by `inside` where a level is left. -/
inductive Called (inside : Option (Execution ε σ)) (mode : CallMode) (call : NestedCall) (h : Host) (s : σ) :
    Turn ε σ (Except CallError CallOutcome) → Prop
  | doomed {e : CallError} (hfatal : h.fatal = some e) :
      Called inside mode call h s ⟨.error e, h, s, [.called h mode call none [] [] (.error e)]⟩
  | tooDeep {e : CallError} (hfree : h.fatal = none) (hlevel : inside = none)
      (he : e = .callDepthExceeded (h.depth + 1) S.config.maxCallDepth.val) :
      Called inside mode call h s
        ⟨.error e, { h with fatal := some e }, s, [.called h mode call none [] [] (.error e)]⟩
  | unpaid {R : Execution ε σ} (hfree : h.fatal = none) (hlevel : inside = some R)
      (hmeter : h.meter.use? (Host.baseCost S.config mode) = none) :
      Called inside mode call h s ⟨.error .outOfGas, h, s, [.called h mode call none [] [] (.error .outOfGas)]⟩
  | unbegun {R : Execution ε σ} {meter : Meter} {e : CallError} {inner : Host} {cost : U64} (hfree : h.fatal = none)
      (hlevel : inside = some R) (hmeter : h.meter.use? (Host.baseCost S.config mode) = some meter)
      (hbegun : S.begun mode call { h with meter } s = (.error e, inner))
      (hcost : cost = Host.charged S.config mode (Host.grant { h with meter } call) inner.meter.frame.used) :
      Called inside mode call h s
        ⟨.ok (.failed e.returnCode e.message cost), Host.afterFailure { h with meter } cost, s,
          [.called h mode call none [] [.entered, .ofError e, .returned] (.ok (.failed e.returnCode e.message cost))]⟩
  /-- A call of its code was refused for its depth. -/
  | died {R : Execution ε σ} {meter : Meter} {input : CallInput} {inner : Host} {t : Turn ε σ (Except CallError Unit)}
      {e : CallError} (hfree : h.fatal = none) (hlevel : inside = some R)
      (hmeter : h.meter.use? (Host.baseCost S.config mode) = some meter)
      (hbegun : S.begun mode call { h with meter } s = (.ok input, inner)) (hrun : R inner s t)
      (hfatal : t.host.fatal = some e) :
      Called inside mode call h s
        ⟨.error e, { h with meter, fatal := some e }, t.around,
          [.called h mode call (some input) t.deeds [.entered, .executing] (.error e)]⟩
  | failed {R : Execution ε σ} {meter : Meter} {input : CallInput} {inner : Host} {t : Turn ε σ (Except CallError Unit)}
      {e : CallError} {cost : U64} (hfree : h.fatal = none) (hlevel : inside = some R)
      (hmeter : h.meter.use? (Host.baseCost S.config mode) = some meter)
      (hbegun : S.begun mode call { h with meter } s = (.ok input, inner)) (hrun : R inner s t)
      (hfatal : t.host.fatal = none) (hreply : t.reply = .error e)
      (hcost : cost = Host.charged S.config mode (Host.grant { h with meter } call) t.host.meter.frame.used) :
      Called inside mode call h s
        ⟨.ok (.failed e.returnCode e.message cost), Host.afterFailure { h with meter } cost, t.around,
          [.called h mode call (some input) t.deeds [.entered, .executing, .ofError e, .returned]
            (.ok (.failed e.returnCode e.message cost))]⟩
  | succeeded {R : Execution ε σ} {meter : Meter} {input : CallInput} {inner : Host}
      {t : Turn ε σ (Except CallError Unit)} (hfree : h.fatal = none) (hlevel : inside = some R)
      (hmeter : h.meter.use? (Host.baseCost S.config mode) = some meter)
      (hbegun : S.begun mode call { h with meter } s = (.ok input, inner)) (hrun : R inner s t)
      (hfatal : t.host.fatal = none) (hreply : t.reply = .ok ()) :
      Called inside mode call h s
        ⟨.ok (.succeeded t.host.meter.frame.used), Host.afterSuccess { h with meter } mode t.host, t.around,
          [.called h mode call (some input) t.deeds [.entered, .executing, .succeeded, .returned]
            (.ok (.succeeded t.host.meter.frame.used))]⟩

/-- Guest code step by step, nested calls running by `inside`. -/
inductive Steps (inside : Option (Execution ε σ)) : Host → σ → Turn ε σ (Except CallError Unit) → Prop
  | ended {h : Host} {s : σ} (result : Except CallError Unit) : Steps inside h s ⟨result, h, s, [.ended h result]⟩
  | asked {h after : Host} {s : σ} {r : Request} {reply : Except CallError r.Answer} {t : Turn ε σ (Except CallError Unit)}
      (hperform : r.perform S.config (S.ledger s) h = (reply, after)) (hrest : Steps inside after s t) :
      Steps inside h s (t.following [.asked h r reply])
  | called {h : Host} {s : σ} {mode : CallMode} {call : NestedCall} {u : Turn ε σ (Except CallError CallOutcome)}
      {t : Turn ε σ (Except CallError Unit)} (hcall : Called S inside mode call h s u)
      (hrest : Steps inside u.host u.around t) : Steps inside h s (t.following u.deeds)
  | signalled {h : Host} {s : σ} {event : ε} {t : Turn ε σ (Except CallError Unit)}
      (hrest : Steps inside h (S.react event s) t) : Steps inside h s (t.following [.signalled h event])

/-- Guest code with levels of calls left below it. -/
def Runs : Nat → Execution ε σ
  | 0 => Steps S none
  | levels + 1 => Steps S (some (Runs levels))

/-- How the code of nested calls runs. -/
def Setting.inside : Nat → Option (Execution ε σ)
  | 0 => none
  | levels + 1 => some (Runs S levels)

variable {S}

theorem runs_eq (levels : Nat) : Runs S levels = Steps S (S.inside levels) := by
  cases levels <;> rfl

theorem inside_eq_none {levels : Nat} (hlevel : S.inside levels = none) : levels = 0 := by
  cases levels with
  | zero => rfl
  | succ levels' => cases hlevel

theorem inside_eq_some {levels : Nat} {R : Execution ε σ} (hlevel : S.inside levels = some R) :
    ∃ levels', levels = levels' + 1 ∧ R = Runs S levels' := by
  cases levels with
  | zero => cases hlevel
  | succ levels' => exact ⟨levels', rfl, (Option.some.inj hlevel).symm⟩

/-- What steps establish once the code of nested calls does holds of every run. -/
theorem Runs.of_steps {Q : Execution ε σ}
    (hsteps : ∀ levels, (∀ R, S.inside levels = some R → ∀ h s t, R h s t → Q h s t) →
      ∀ h s t, Steps S (S.inside levels) h s t → Q h s t)
    {levels : Nat} {h : Host} {s : σ} {t : Turn ε σ (Except CallError Unit)} (hrun : Runs S levels h s t) : Q h s t := by
  induction levels generalizing h s t with
  | zero => exact hsteps 0 (fun R hR => by cases hR) h s t hrun
  | succ levels ih => exact hsteps (levels + 1) (fun R hR => by cases hR; exact fun h s t => ih) h s t hrun

/-- What requests as they are performed and calls do, the latter once the code of nested calls does, and what adds up
    from deed to deed holds of every run. -/
theorem Runs.of_performed {Q : Host → σ → List (Deed ε) → Host → σ → Prop}
    (hended : ∀ h s result, Q h s [.ended h result] h s)
    (hasked : ∀ {h s r reply h'}, r.perform S.config (S.ledger s) h = (reply, h') → Q h s [.asked h r reply] h' s)
    (hcalled : ∀ {levels mode call h s u},
      (∀ R, S.inside levels = some R → ∀ h s t, R h s t → Q h s t.deeds t.host t.around) →
      Called S (S.inside levels) mode call h s u → Q h s u.deeds u.host u.around)
    (hsignalled : ∀ h s event, Q h s [.signalled h event] h (S.react event s))
    (happend : ∀ {h s ds h' s' ds' h'' s''}, Q h s ds h' s' → Q h' s' ds' h'' s'' → Q h s (ds ++ ds') h'' s'')
    {levels : Nat} {h : Host} {s : σ} {t : Turn ε σ (Except CallError Unit)} (hrun : Runs S levels h s t) :
    Q h s t.deeds t.host t.around := by
  refine hrun.of_steps (Q := fun h s t => Q h s t.deeds t.host t.around) fun levels hinside h s t hsteps => ?_
  induction hsteps with
  | ended result => exact hended _ _ result
  | asked hperform hrest ih => exact happend (hasked hperform) ih
  | called hcall hrest ih => exact happend (hcalled hinside hcall) ih
  | signalled hrest ih => exact happend (hsignalled _ _ _) ih

/-- The same where what a request may do to the host is enough to know of it. -/
theorem Runs.of_deeds {Q : Host → σ → List (Deed ε) → Host → σ → Prop}
    (hended : ∀ h s result, Q h s [.ended h result] h s)
    (hasked : ∀ {h s r reply h'}, Effect S.config (S.ledger s) h r reply h' → Q h s [.asked h r reply] h' s)
    (hcalled : ∀ {levels mode call h s u},
      (∀ R, S.inside levels = some R → ∀ h s t, R h s t → Q h s t.deeds t.host t.around) →
      Called S (S.inside levels) mode call h s u → Q h s u.deeds u.host u.around)
    (hsignalled : ∀ h s event, Q h s [.signalled h event] h (S.react event s))
    (happend : ∀ {h s ds h' s' ds' h'' s''}, Q h s ds h' s' → Q h' s' ds' h'' s'' → Q h s (ds ++ ds') h'' s'')
    {levels : Nat} {h : Host} {s : σ} {t : Turn ε σ (Except CallError Unit)} (hrun : Runs S levels h s t) :
    Q h s t.deeds t.host t.around :=
  hrun.of_performed hended (fun hperform => hasked (.of_perform hperform)) hcalled hsignalled happend

/-! ## The surroundings of a run -/

/-- What is collected from one deed after another is collected from the earlier ones first. -/
theorem collected_append {α : Type} {collected : List (Deed ε) → List α} {one : Deed ε → List α}
    (hnil : collected [] = []) (hcons : ∀ d ds, collected (d :: ds) = one d ++ collected ds) (ds es : List (Deed ε)) :
    collected (ds ++ es) = collected ds ++ collected es := by
  induction ds with
  | nil => rw [hnil, List.nil_append, List.nil_append]
  | cons d ds ih => rw [List.cons_append, hcons, hcons, ih, List.append_assoc]

theorem eventsOf_append (ds es : List (Deed ε)) : eventsOf (ds ++ es) = eventsOf ds ++ eventsOf es :=
  collected_append rfl (fun _ _ => rfl) ds es

/-- The surroundings after events. -/
def Setting.after (S : Setting ε σ) (s : σ) (events : List ε) : σ := events.foldl (fun s event => S.react event s) s

theorem Setting.after_append (S : Setting ε σ) (s : σ) (events later : List ε) :
    S.after s (events ++ later) = S.after (S.after s events) later := List.foldl_append

theorem Setting.ledger_after {S : Setting ε σ} (hfixed : ∀ event s, S.ledger (S.react event s) = S.ledger s) (s : σ)
    (events : List ε) : S.ledger (S.after s events) = S.ledger s := by
  induction events generalizing s with
  | nil => rfl
  | cons event events ih => exact (ih _).trans (hfixed event s)

section Surroundings

variable {levels : Nat} {mode : CallMode} {call : NestedCall} {h : Host} {s : σ}

/-- The surroundings change by the signals of guest code alone. -/
theorem Called.around_eq
    (hinside : ∀ R, S.inside levels = some R → ∀ h s t, R h s t → t.around = S.after s (eventsOf t.deeds))
    {u : Turn ε σ (Except CallError CallOutcome)} (hcall : Called S (S.inside levels) mode call h s u) :
    u.around = S.after s (eventsOf u.deeds) := by
  have hran : ∀ {R : Execution ε σ} {inner : Host} {t : Turn ε σ (Except CallError Unit)}, S.inside levels = some R →
      R inner s t → t.around = S.after s (eventsOf t.deeds ++ []) := by
    intro R inner t hlevel hrun
    rw [List.append_nil]
    exact hinside R hlevel inner s t hrun
  cases hcall with
  | doomed | tooDeep | unpaid | unbegun => rfl
  | died hfree hlevel hmeter hbegun hrun hfatal => exact hran hlevel hrun
  | failed hfree hlevel hmeter hbegun hrun hfatal hreply hcost => exact hran hlevel hrun
  | succeeded hfree hlevel hmeter hbegun hrun hfatal hreply => exact hran hlevel hrun

theorem Runs.around_eq {t : Turn ε σ (Except CallError Unit)} (hrun : Runs S levels h s t) :
    t.around = S.after s (eventsOf t.deeds) := by
  refine hrun.of_deeds (Q := fun _ s ds _ s' => s' = S.after s (eventsOf ds)) ?_ ?_ ?_ ?_ ?_
  · intro h s result
    rfl
  · intro h s r reply h' heffect
    rfl
  · intro levels mode call h s u hinside hcall
    exact hcall.around_eq hinside
  · intro h s event
    rfl
  · rintro h s ds h' s' ds' h'' s'' rfl rfl
    rw [eventsOf_append, Setting.after_append]

end Surroundings

/-! ## The code of a call keeps to it -/

section SameCall

variable {inside : Option (Execution ε σ)} {mode : CallMode} {call : NestedCall} {h inner : Host} {s : σ}
  {begun : Except CallError CallInput}

theorem sameCall_begun (hbegun : S.begun mode call h s = (begun, inner)) :
    SameCall (h.enter mode call.callee (h.grant call)) inner := by
  have hsame := Host.begin_sameCall (c := S.config) (L := S.ledger s) h.address call (h.grant call)
    (h.enter mode call.callee (h.grant call))
  rwa [show Host.begin S.config (S.ledger s) h.address call _ _ = _ from hbegun] at hsame

theorem fatal_begun (hbegun : S.begun mode call h s = (begun, inner)) : inner.fatal = h.fatal := by
  have hfatal := Host.begin_fatal (c := S.config) (L := S.ledger s) h.address call (h.grant call)
    (h.enter mode call.callee (h.grant call))
  rwa [show Host.begin S.config (S.ledger s) h.address call _ _ = _ from hbegun] at hfatal

/-- A call whose code runs has its value moved and its code paid; `input` is what the code is called with. -/
theorem begun_ok {input : CallInput} (hbegun : S.begun mode call h s = (.ok input, inner)) :
    ∃ code output meter, (S.ledger s).code call.callee = .ok code ∧
      (h.enter mode call.callee (h.grant call)).output.transfer (S.ledger s) h.address call.callee call.value [] =
        .ok output ∧
      (h.enter mode call.callee (h.grant call)).meter.use? (S.config.schedule.compile code.length) = some meter ∧
      input = ⟨h.address, call.callee, call.value, call.function, call.arguments, h.grant call, code, h.depth + 1⟩ ∧
      inner = { h.enter mode call.callee (h.grant call) with output, meter } := by
  unfold Setting.begun at hbegun
  rcases Host.begin_cases (c := S.config) (L := S.ledger s) h.address call (h.grant call)
    (h.enter mode call.callee (h.grant call)) with
    ⟨e, hx⟩ | ⟨output, ht, ⟨e, hx⟩ | ⟨code, meter, hcode, -, hm, hx⟩⟩ <;> rw [hx] at hbegun <;> cases hbegun
  exact ⟨code, output, meter, hcode, ht, hm, rfl, rfl⟩

theorem grant_le (h : Host) (call : NestedCall) : h.grant call ≤ h.meter.left := by
  rw [Capped.le_iff, Host.grant, Capped.val_min]
  omega

theorem Called.sameCall (hinside : ∀ R, inside = some R → ∀ h s t, R h s t → SameCall h t.host)
    {t : Turn ε σ (Except CallError CallOutcome)} (hcall : Called S inside mode call h s t) : SameCall h t.host := by
  cases hcall with
  | doomed hfatal => exact .refl h
  | tooDeep hfree hlevel he => exact ⟨rfl, rfl, rfl, rfl, .refl _, rfl⟩
  | unpaid hfree hlevel hmeter => exact .refl h
  | @unbegun R meter e inner cost hfree hlevel hmeter hbegun hcost =>
    have hle : cost ≤ meter.left :=
      hcost ▸ Nat.le_trans (Host.charged_le (sameCall_begun hbegun)) (grant_le { h with meter } call)
    exact ⟨rfl, rfl, rfl, rfl, (Meter.Spends.of_use hmeter).trans (.of_use (Meter.use?_spend hle)), rfl⟩
  | died hfree hlevel hmeter hbegun hrun hfatal => exact ⟨rfl, rfl, rfl, rfl, .of_use hmeter, rfl⟩
  | @failed R meter input inner t e cost hfree hlevel hmeter hbegun hrun hfatal hreply hcost =>
    have hsame := (sameCall_begun hbegun).trans (hinside R hlevel _ _ _ hrun)
    have hle : cost ≤ meter.left := hcost ▸ Nat.le_trans (Host.charged_le hsame) (grant_le { h with meter } call)
    exact ⟨rfl, rfl, rfl, rfl, (Meter.Spends.of_use hmeter).trans (.of_use (Meter.use?_spend hle)), rfl⟩
  | @succeeded R meter input inner t hfree hlevel hmeter hbegun hrun hfatal hreply =>
    have hsame := (sameCall_begun hbegun).trans (hinside R hlevel _ _ _ hrun)
    have hle : t.host.meter.frame.used ≤ meter.left :=
      Nat.le_trans (Host.used_inner_le hsame) (grant_le { h with meter } call)
    have hspends := (Meter.Spends.of_use hmeter).trans (.of_use (Meter.use?_spend hle))
    refine ⟨rfl, rfl, ?_, ?_, hspends.free _, rfl⟩
    · exact Host.origin_afterSuccess hsame
    · exact Host.parked_afterSuccess hsame

theorem Runs.sameCall {levels : Nat} {t : Turn ε σ (Except CallError Unit)} (hrun : Runs S levels h s t) :
    SameCall h t.host := by
  refine hrun.of_deeds (Q := fun h _ _ h' _ => SameCall h h') ?_ ?_ ?_ ?_ ?_
  · intro h s result
    exact .refl h
  · intro h s r reply h' heffect
    exact heffect.sameCall
  · intro levels mode call h s u hinside hcall
    exact hcall.sameCall hinside
  · intro h s event
    exact .refl h
  · intro h s ds h' s' ds' h'' s'' hfirst hrest
    exact hfirst.trans hrest

/-- What single deeds do holds of every run, also where a deed relies on those before it: it is one of the same call, in
    the surroundings that their signals left. -/
theorem Runs.of_connected {Q : Host → σ → List (Deed ε) → Host → Prop}
    (hended : ∀ h s result, Q h s [.ended h result] h)
    (hasked : ∀ {h s r reply h'}, r.perform S.config (S.ledger s) h = (reply, h') → Q h s [.asked h r reply] h')
    (hcalled : ∀ {levels mode call h s u},
      (∀ R, S.inside levels = some R → ∀ h s t, R h s t → Q h s t.deeds t.host) →
      Called S (S.inside levels) mode call h s u → Q h s u.deeds u.host)
    (hsignalled : ∀ h s event, Q h s [.signalled h event] h)
    (happend : ∀ {h s ds h' ds' h''}, SameCall h h' → Q h s ds h' → Q h' (S.after s (eventsOf ds)) ds' h'' →
      Q h s (ds ++ ds') h'')
    {levels : Nat} {t : Turn ε σ (Except CallError Unit)} (hrun : Runs S levels h s t) : Q h s t.deeds t.host := by
  refine (hrun.of_performed (Q := fun h s ds h' s' => (SameCall h h' ∧ s' = S.after s (eventsOf ds)) ∧ Q h s ds h')
    ?_ ?_ ?_ ?_ ?_).2
  · intro h s result
    exact ⟨⟨.refl h, rfl⟩, hended h s result⟩
  · intro h s r reply h' hperform
    exact ⟨⟨(Effect.of_perform hperform).sameCall, rfl⟩, hasked hperform⟩
  · intro levels mode call h s u hinside hcall
    have hsame := hcall.sameCall fun R hlevel h s t hrun => (hinside R hlevel h s t hrun).1.1
    have haround := hcall.around_eq fun R hlevel h s t hrun => (hinside R hlevel h s t hrun).1.2
    exact ⟨⟨hsame, haround⟩, hcalled (fun R hlevel h s t hrun => (hinside R hlevel h s t hrun).2) hcall⟩
  · intro h s event
    exact ⟨⟨.refl h, rfl⟩, hsignalled h s event⟩
  · rintro h s ds h' s' ds' h'' s'' ⟨⟨hsame, rfl⟩, hfirst⟩ ⟨⟨hsame', rfl⟩, hrest⟩
    refine ⟨⟨hsame.trans hsame', ?_⟩, happend hsame hfirst hrest⟩
    rw [eventsOf_append, Setting.after_append]

theorem sameCall_inside {levels : Nat} {R : Execution ε σ} (hlevel : S.inside levels = some R)
    {t : Turn ε σ (Except CallError Unit)} (hrun : R h s t) : SameCall h t.host := by
  obtain ⟨levels', rfl, rfl⟩ := inside_eq_some hlevel
  exact hrun.sameCall

end SameCall

/-! ## Guest code only takes such turns -/

namespace Setting

variable (S)

/-- How the code of nested calls is run. -/
def callee : Nat → Option (Callee ε σ)
  | 0 => none
  | levels + 1 => some fun input => S.run levels (S.executor input)

theorem run_eq (levels : Nat) (g : Guest ε) :
    S.run levels g = g.run (fun s r => r.perform S.config (S.ledger s)) (S.nested (S.callee levels)) S.react := by
  cases levels <;> rfl

theorem nested_none (mode : CallMode) (call : NestedCall) (h : Host) (s : σ) :
    Called S none mode call h s (S.nested none mode call h s) := by
  unfold nested
  cases hf : h.fatal with
  | some e => exact .doomed hf
  | none => exact .tooDeep hf rfl rfl

theorem nested_some {R : Execution ε σ} {callee : Callee ε σ} (hcallee : ∀ input h s, R h s (callee input h s))
    (hR : ∀ h s t, R h s t → SameCall h t.host) (mode : CallMode) (call : NestedCall) (h : Host) (s : σ) :
    Called S (some R) mode call h s (S.nested (some callee) mode call h s) := by
  obtain ⟨staging, output, before, depth, fatal⟩ := h
  unfold nested
  cases fatal with
  | some e => exact .doomed rfl
  | none =>
    dsimp only
    cases hm : before.use? (Host.baseCost S.config mode) with
    | none => exact .unpaid rfl rfl hm
    | some meter =>
      let parent : Host := ⟨staging, output, meter, depth, none⟩
      have hgrant := grant_le parent call
      rcases hb : S.begun mode call parent s with ⟨begun, inner⟩
      have hsame := sameCall_begun hb
      have hfree : inner.fatal = none := fatal_begun hb
      dsimp only
      rw [show Host.begin S.config (S.ledger s) parent.address call (min call.gasLimit meter.left)
        (parent.enter mode call.callee (min call.gasLimit meter.left)) = (begun, inner) from hb]
      cases begun with
      | error e =>
        dsimp only
        rw [Host.settle_eq hsame rfl hgrant, hfree]
        exact .unbegun rfl rfl hm hb rfl
      | ok input =>
        have hrun := hcallee input inner s
        dsimp only
        rw [Host.settle_eq (hsame.trans (hR _ _ _ hrun)) rfl hgrant]
        cases hfatal : (callee input inner s).host.fatal with
        | some e => exact .died rfl rfl hm hb hrun hfatal
        | none =>
          cases hreply : (callee input inner s).reply with
          | ok _ => exact .succeeded rfl rfl hm hb hrun hfatal hreply
          | error e => exact .failed rfl rfl hm hb hrun hfatal hreply rfl

/-- A run of guest code takes the steps that its requests and calls are. -/
theorem run_steps {inside : Option (Execution ε σ)} {callee : Option (Callee ε σ)}
    (hnested : ∀ mode call h s, Called S inside mode call h s (S.nested callee mode call h s)) (g : Guest ε) (h : Host)
    (s : σ) :
    Steps S inside h s (g.run (fun s r => r.perform S.config (S.ledger s)) (S.nested callee) S.react h s) := by
  induction g generalizing h s with
  | done result => exact .ended result
  | ask r next ih => exact .asked rfl (ih _ _ _)
  | call mode call next ih => exact .called (hnested mode call h s) (ih _ _ _)
  | look next ih => exact ih h h s
  | signal event next ih => exact .signalled (ih h _)

theorem run_runs (levels : Nat) (g : Guest ε) (h : Host) (s : σ) : Runs S levels h s (S.run levels g h s) := by
  induction levels generalizing g h s with
  | zero => exact S.run_steps S.nested_none g h s
  | succ levels ih =>
    exact S.run_steps (S.nested_some (fun input => ih (S.executor input)) fun _ _ _ => Runs.sameCall) g h s

theorem nested_called (levels : Nat) (mode : CallMode) (call : NestedCall) (h : Host) (s : σ) :
    Called S (S.inside levels) mode call h s (S.nested (S.callee levels) mode call h s) := by
  cases levels with
  | zero => exact S.nested_none mode call h s
  | succ levels =>
    exact S.nested_some (fun input => S.run_runs levels (S.executor input)) (fun _ _ _ => Runs.sameCall) mode call h s

end Setting

end ContractHost

/-
  ContractHost.Proofs.Alignment — stacks and scope at every point of a run.

  A host tells in four ways how many calls are open: by its depth, by the gas frames, the
  staged writes and the output frames that it keeps for the callers. At every point of a
  transaction all four tell of the calls that are open there (`Host.AtDepth`), and the
  frame of the running call is the one that these calls make (`Aligned`): its account is
  the callee of the innermost call in a destination context, protected keys are guarded,
  and writes are skipped in a query only. A request or a call leaves all of this as it was,
  and nothing is open when the transaction ends (`Setting.transact_aligned`).
-/

import ContractHost.Proofs.Points

namespace ContractHost

variable {ε σ : Type}

/-- All four counts of open calls are `n`. -/
structure Host.AtDepth (h : Host) (n : Nat) : Prop where
  depth : h.depth = n
  meter : h.meter.depth = n
  saved : h.staging.saved.length = n
  parked : h.output.parked.length = n

/-- The callee of the innermost call in a destination context, or of the transaction where there is none. -/
def scope (top : CallInput) : List (OpenCall ε) → Address
  | [] => top.callee
  | ⟨_, .destinationContext, call, _, _, _⟩ :: _ => call.callee
  | ⟨_, .sameContext, _, _, _, _⟩ :: calls => scope top calls

/-- What the running code was called with. -/
def running (top : CallInput) : List (OpenCall ε) → CallInput
  | [] => top
  | c :: _ => c.input

/-- The host `h` is where the open calls of a transaction have led, whose own code was called with `top`. -/
structure Aligned (tx : Transaction) (top : CallInput) (calls : List (OpenCall ε)) (h : Host) : Prop where
  depths : h.AtDepth calls.length
  running : (running top calls).depth = calls.length
  address : h.address = scope top calls
  callers : ∀ c ∈ calls, c.input.caller = c.before.address
  guarded : h.staging.frame.guarded = true
  readOnly : h.readOnly = true ↔ tx.kind = .query

theorem SameStacks.atDepth {h h' : Host} {n : Nat} (hsame : SameStacks h h') (hn : h.AtDepth n) : h'.AtDepth n where
  depth := hsame.depth.trans hn.depth
  meter := (congrArg List.length hsame.meter.parked).trans hn.meter
  saved := (congrArg List.length hsame.saved).trans hn.saved
  parked := (congrArg List.length hsame.parked).trans hn.parked

theorem atDepth_start (gas : U64) : (Host.start gas).AtDepth 0 := ⟨rfl, rfl, rfl, rfl⟩

/-- A call that is entered is one more open call in every count. -/
theorem Host.AtDepth.enter {h : Host} {n : Nat} (hn : h.AtDepth n) (mode : CallMode) (callee : Address) (gas : U64) :
    (h.enter mode callee gas).AtDepth (n + 1) where
  depth := congrArg (· + 1) hn.depth
  meter := congrArg (· + 1) hn.meter
  saved := by cases mode <;> exact congrArg (· + 1) hn.saved
  parked := by cases mode <;> exact congrArg (· + 1) hn.parked

section Aligned

variable {S : Setting ε σ} {tx : Transaction} {top : CallInput} {calls : List (OpenCall ε)} {h h' : Host}

theorem Aligned.sameCall (ha : Aligned tx top calls h) (hsame : SameCall h h') : Aligned tx top calls h' where
  depths := hsame.sameStacks.atDepth ha.depths
  running := ha.running
  address := hsame.address.trans ha.address
  callers := ha.callers
  guarded := hsame.frame ▸ ha.guarded
  readOnly := by
    unfold Host.readOnly
    rw [hsame.frame]
    exact ha.readOnly

/-- The code of a call runs one call deeper, in the account that its mode says. -/
theorem Aligned.entered (ha : Aligned tx top calls h) {levels : Nat} {mode : CallMode} {call : NestedCall} {s : σ}
    {meter : Meter} {input : CallInput} {inner : Host} {v : Turn ε σ (Except CallError Unit)}
    (he : Entered S levels mode call h s meter input inner v) (reply : Except CallError CallOutcome)
    (rest : List (Deed ε)) : Aligned tx top (⟨h, mode, call, input, reply, rest⟩ :: calls) inner := by
  have hsame := sameCall_begun he.begun
  obtain ⟨code, -, -, -, -, -, rfl, -⟩ := begun_ok he.begun
  have hdepths : ({ h with meter } : Host).AtDepth calls.length := by
    obtain ⟨-, rfl⟩ := Meter.use?_eq_some_iff.1 he.paid
    exact ⟨ha.depths.depth, ha.depths.meter, ha.depths.saved, ha.depths.parked⟩
  have hframe : ∀ gas, (({ h with meter } : Host).enter mode call.callee gas).staging.frame.guarded = true ∧
      ((({ h with meter } : Host).enter mode call.callee gas).readOnly = true ↔ tx.kind = .query) := by
    intro gas
    cases mode <;> exact ⟨ha.guarded, ha.readOnly⟩
  refine ⟨hsame.sameStacks.atDepth (hdepths.enter _ _ _), ?_, ?_, ?_, ?_, ?_⟩
  · exact congrArg (· + 1) ha.depths.depth
  · rw [hsame.address, Host.address_enter]
    cases mode with
    | sameContext => exact ha.address
    | destinationContext => rfl
  · intro c hc
    rcases List.mem_cons.1 hc with rfl | hc
    · rfl
    · exact ha.callers c hc
  · rw [hsame.frame]
    exact (hframe _).1
  · unfold Host.readOnly
    rw [hsame.frame]
    exact (hframe _).2

/-- The host that was prepared for the code of a transaction. -/
theorem Aligned.prepared {L : Ledger} {c : HostConfig} {gas : U64} {inner : Host}
    (hprepare : Host.prepare c L tx (.start gas) = (.ok top, inner)) :
    L.callee tx = .ok top.callee ∧ Aligned tx top ([] : List (OpenCall ε)) inner := by
  rcases Host.prepare_cases (c := c) (L := L) tx (.start gas) with
    ⟨e, h', -, -, hx⟩ | ⟨callee, code, output, meter, hcallee, ht, hm, hx⟩ <;> rw [hx] at hprepare <;> cases hprepare
  have hparked := (Accumulator.parked_transfer ht).trans (Accumulator.parked_placed _ _ _)
  refine ⟨hcallee, SameStacks.atDepth ?_ (atDepth_start gas), rfl, rfl, fun c hc => ?_, rfl, decide_eq_true_iff⟩
  · exact ⟨rfl, hparked, hm, rfl⟩
  · cases hc

end Aligned

/-- At every point of a transaction the host is where the open calls have led, and at most as many are open as may be. -/
theorem Setting.aligned_of_point {S : Setting ε σ} {tx : Transaction} {gas : U64} {s : σ} {calls : List (OpenCall ε)}
    {d : Deed ε} {rest : List (Deed ε)} (hpoint : Point (S.process tx (.start gas) s).deeds calls (d :: rest)) :
    ∃ top inner, Host.prepare S.config (S.ledger s) tx (.start gas) = (.ok top, inner) ∧
      (S.ledger s).callee tx = .ok top.callee ∧ Aligned tx top calls d.before ∧
      calls.length ≤ S.config.maxCallDepth.val := by
  obtain ⟨top, inner, hprepare, -, -, hlevels, hrun⟩ := runs_of_point hpoint
  obtain ⟨hcallee, hstart⟩ := Aligned.prepared (ε := ε) hprepare
  have hat := hrun.of_point
    (P := fun calls lv h _ _ => lv + calls.length = S.config.maxCallDepth.val ∧ Aligned tx top calls h)
    ⟨hstart.depths.depth ▸ hlevels, hstart⟩ ?step ?enter hpoint
  case step =>
    rintro calls lv d h s h' s' t' ⟨hlv, ha⟩ hstep -
    exact ⟨hlv, ha.sameCall hstep.sameCall⟩
  case enter =>
    rintro calls lv mode call input phases reply h s h' s' t' meter inner v ⟨hlv, ha⟩ - - he -
    exact ⟨(Nat.succ_add_eq_add_succ lv calls.length).symm.trans hlv, ha.entered he reply _⟩
  obtain ⟨lv, s', t', ⟨hlv, ha⟩, -⟩ := hat
  exact ⟨top, inner, hprepare, hcallee, ha, by omega⟩

/-- At every point of a transaction all counts of open calls agree, and the frame is the one of the open calls;
    no request and no call changes any of it, and after the transaction no call is open. -/
theorem Setting.transact_aligned (S : Setting ε σ) (tx : Transaction) (gas : U64) (s : σ) :
    let t := S.transact tx (.start gas) s
    (∀ calls d rest, Point t.deeds calls (d :: rest) →
      ∃ top inner, Host.prepare S.config (S.ledger s) tx (.start gas) = (.ok top, inner) ∧
        (S.ledger s).callee tx = .ok top.callee ∧ Aligned tx top calls d.before ∧
        calls.length ≤ S.config.maxCallDepth.val) ∧
    (∀ calls d d' rest, Point t.deeds calls (d :: d' :: rest) →
      d'.before.staging.frame = d.before.staging.frame ∧ d.before.AtDepth calls.length ∧
        d'.before.AtDepth calls.length) ∧
    t.host.AtDepth 0 := by
  intro t
  refine ⟨fun calls d rest => aligned_of_point, fun calls d d' rest hpoint => ?_, ?_⟩
  · obtain ⟨top, inner, -, -, ha, -⟩ := aligned_of_point hpoint
    obtain ⟨lv, s, s', -, hstep⟩ := step_of_point hpoint
    exact ⟨hstep.sameCall.frame, ha.depths, hstep.sameCall.sameStacks.atDepth ha.depths⟩
  · exact (S.sameStacks_process tx (.start gas) s).atDepth (atDepth_start gas)

/-- Code that calls another account and there lets the code of a third run. -/
def descendingGuest (input : CallInput) : Guest Unit :=
  match input.depth with
  | 0 => .call .destinationContext ⟨.named "carol", 0, "down", [], 50000⟩ fun _ => .done (.ok ())
  | 1 => .call .sameContext ⟨.named "bob", 0, "down", [], 20000⟩ fun _ => .done (.ok ())
  | _ => .done (.ok ())

def descendingSetting : Setting Unit World := ⟨.standard, descendingGuest, World.ledger, fun _ w => w⟩

def descendingWorld : World :=
  .ofSteps [.putAccount (.named "bob") ⟨40, 0, [7], .none⟩, .putAccount (.named "carol") ⟨9, 0, [8], .none⟩]

def descendingCall : Transaction := .call (.named "alice") (.named "bob") "f" 100000

theorem Setting.transact_aligned_descending :
    ∃ calls d rest,
      Point (descendingSetting.transact descendingCall (.start 100000) descendingWorld).deeds calls (d :: rest) ∧
        calls.length = 2 ∧ d.before.AtDepth 2 ∧ d.before.staging.frame.guarded = true := by
  have hdeep : ((pointsOf [] (descendingSetting.transact descendingCall (.start 100000) descendingWorld).deeds).any
      fun p => p.1.length = 2 && !p.2.isEmpty) = true := by decide +kernel
  obtain ⟨calls, ds, hpoint, hlength⟩ := exists_point_of_any hdeep
  cases ds with
  | nil => simp at hlength
  | cons d rest =>
    have hlength : calls.length = 2 := by simpa using hlength
    obtain ⟨top, inner, -, -, ha, -⟩ := (transact_aligned _ _ _ _).1 calls d rest hpoint
    exact ⟨calls, d, rest, hpoint, hlength, hlength ▸ ha.depths, ha.guarded⟩

end ContractHost

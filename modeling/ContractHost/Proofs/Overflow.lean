/-
  ContractHost.Proofs.Overflow — a call refused for its depth dooms the transaction.

  A nested call is refused for its depth exactly where none was before and its caller is as
  deep as calls may be (`Called.refused_iff`). The refusal goes on record, and a host with
  a depth on record keeps it whatever its code goes on to do (`Runs.fatal`): every later
  call gets the recorded error and changes nothing (`Doomed`), every call that was open
  ends with that error and without effects (`OpenCall.Undone`), and the transaction fails
  with its message. Nothing else puts a depth on record, so the output is a success exactly
  where the processing ended well and no call was refused (`Setting.transact_overflow`).
-/

import ContractHost.Proofs.Points

namespace ContractHost

variable {ε σ : Type}

/-- A call was refused for its depth: its code did not run, and the error it got is on record only after it. -/
def Deed.Refused (after : Host) : Deed ε → Prop
  | .called before _ _ none _ _ (.error e) => before.fatal ≠ some e ∧ after.fatal = some e
  | _ => False

instance (after : Host) : (d : Deed ε) → Decidable (d.Refused after)
  | .called before _ _ none _ _ (.error e) => inferInstanceAs (Decidable (before.fatal ≠ some e ∧ after.fatal = some e))
  | .called _ _ _ none _ _ (.ok _) | .called _ _ _ (some _) _ _ _ => isFalse id
  | .asked _ _ _ | .signalled _ _ | .ended _ _ => isFalse id

/-- A call was refused for its depth somewhere in the run that left the deeds. -/
def Overflows (ds : List (Deed ε)) : Prop :=
  ∃ calls d after rest, Point ds calls (d :: after :: rest) ∧ d.Refused after.before

/-- Every call in the deeds gets the error `e` and changes nothing. -/
def Doomed (e : CallError) (ds : List (Deed ε)) : Prop :=
  ∀ calls before mode call input inside phases reply after rest,
    Point ds calls (.called before mode call input inside phases reply :: after :: rest) →
    reply = .error e ∧ after.before = before

/-- An open call ends with the error `e` and undone: its caller goes on from the host before it, the base price paid
    and `e` on record. -/
def OpenCall.Undone (c : HostConfig) (e : CallError) (o : OpenCall ε) : Prop :=
  o.reply = .error e ∧ ∃ after rest meter, o.rest = after :: rest ∧
    o.before.meter.use? (Host.baseCost c o.mode) = some meter ∧ after.before = { o.before with meter, fatal := some e }

/-! ## On record -/

section Record

variable {S : Setting ε σ} {levels : Nat} {mode : CallMode} {call : NestedCall} {h h' : Host} {s s' : σ} {e : CallError}

theorem Effect.fatal {c : HostConfig} {L : Ledger} {r : Request} {reply : Except CallError r.Answer}
    (he : Effect c L h r reply h') : h'.fatal = h.fatal := by
  cases he <;> rfl

theorem Called.eq_of_fatal {inside : Option (Execution ε σ)} {u : Turn ε σ (Except CallError CallOutcome)}
    (hcall : Called S inside mode call h s u) (hfatal : h.fatal = some e) : u.reply = .error e ∧ u.host = h := by
  cases hcall with
  | doomed hfatal' =>
    cases hfatal.symm.trans hfatal'
    exact ⟨rfl, rfl⟩
  | tooDeep hfree | unpaid hfree | unbegun hfree | died hfree | failed hfree | succeeded hfree =>
    cases hfatal.symm.trans hfree

theorem Step.fatal {inside : Option (Execution ε σ)} {d : Deed ε} (hstep : Step S inside d h s h' s')
    (hfatal : h.fatal = some e) : h'.fatal = some e := by
  cases hstep with
  | asked hperform =>
    exact (Effect.of_perform hperform).fatal.trans hfatal
  | called hcall hdeeds => rwa [(hcall.eq_of_fatal hfatal).2]
  | signalled => exact hfatal

/-- A depth stays on record. -/
theorem Runs.fatal {t : Turn ε σ (Except CallError Unit)} (hrun : Runs S levels h s t) (hfatal : h.fatal = some e) :
    t.host.fatal = some e :=
  (runs_eq (S := S) levels ▸ hrun).preserves (P := fun h => h.fatal = some e) Step.fatal hfatal

/-- A run with a depth on record from its start gets into no call at all. -/
theorem Runs.doomed {t : Turn ε σ (Except CallError Unit)} (hrun : Runs S levels h s t) (hfatal : h.fatal = some e) :
    Doomed e t.deeds := by
  intro calls before mode call input inside phases reply after rest hpoint
  have hat := hrun.of_point (P := fun _ _ h _ _ => h.fatal = some e) hfatal ?step ?enter hpoint
  case step =>
    intro calls lv d h s h' s' t' hfatal hstep _
    exact hstep.fatal hfatal
  case enter =>
    intro calls lv mode call input phases reply h s h' s' t' meter inner v hfatal _ _ he _
    cases hfatal.symm.trans he.free
  obtain ⟨lv, s', t', hfatal', hrun', hdeeds⟩ := hat
  obtain ⟨s'', t'', hstep, -⟩ := hrun'.next hdeeds
  generalize after.before = h' at hstep
  cases hstep with
  | called hcall => exact hcall.eq_of_fatal hfatal'

end Record

/-! ## Refused -/

section Refused

variable {S : Setting ε σ} {levels : Nat} {mode : CallMode} {call : NestedCall} {h : Host} {s : σ}

/-- A call is refused for its depth exactly where none was before and no level is left. -/
theorem Called.refused_iff {input : Option CallInput} {ds : List (Deed ε)} {phases : List CallPhase}
    {u : Turn ε σ (Except CallError CallOutcome)} (hcall : Called S (S.inside levels) mode call h s u)
    (hdeeds : u.deeds = [.called h mode call input ds phases u.reply]) :
    Deed.Refused u.host (.called h mode call input ds phases u.reply) ↔ h.fatal = none ∧ levels = 0 := by
  -- Where a level is left neither side holds, whatever becomes of the call.
  have hallowed : ∀ {R : Execution ε σ} {after : Host} {d : Deed ε}, S.inside levels = some R → ¬ d.Refused after →
      (d.Refused after ↔ h.fatal = none ∧ levels = 0) := by
    intro R after d hlevel hnot
    obtain ⟨levels', rfl, -⟩ := inside_eq_some hlevel
    exact ⟨fun hrefused => absurd hrefused hnot, fun hnone => absurd hnone.2 (Nat.succ_ne_zero levels')⟩
  cases hcall with
  | doomed hfatal =>
    cases hdeeds
    exact ⟨fun hrefused => absurd hfatal hrefused.1, fun hnone => by cases hfatal.symm.trans hnone.1⟩
  | tooDeep hfree hlevel he =>
    cases hdeeds
    refine ⟨fun _ => ⟨hfree, inside_eq_none hlevel⟩, fun _ => ⟨?_, rfl⟩⟩
    rw [hfree]
    exact (nomatch ·)
  | unpaid hfree hlevel hmeter =>
    cases hdeeds
    exact hallowed hlevel fun hrefused => hrefused.1 hrefused.2
  | unbegun hfree hlevel hmeter hbegun hcost =>
    cases hdeeds
    exact hallowed hlevel id
  | died hfree hlevel hmeter hbegun hrun hfatal =>
    cases hdeeds
    exact hallowed hlevel id
  | failed hfree hlevel hmeter hbegun hrun hfatal hreply hcost =>
    cases hdeeds
    exact hallowed hlevel id
  | succeeded hfree hlevel hmeter hbegun hrun hfatal hreply =>
    cases hdeeds
    exact hallowed hlevel id

/-- A call without a level left puts its depth on record and does nothing else. -/
theorem Called.of_zero {u : Turn ε σ (Except CallError CallOutcome)} (hcall : Called S (S.inside 0) mode call h s u)
    (hfree : h.fatal = none) :
    let e := CallError.callDepthExceeded (h.depth + 1) S.config.maxCallDepth.val
    u.reply = .error e ∧ u.host = { h with fatal := some e } := by
  cases hcall with
  | doomed hfatal => cases hfatal.symm.trans hfree
  | tooDeep hfree hlevel he =>
    cases he
    exact ⟨rfl, rfl⟩
  | unpaid _ hlevel | unbegun _ hlevel | died _ hlevel | failed _ hlevel | succeeded _ hlevel => cases hlevel

/-- A depth that is on record after a call was put there by that call or by one of its code. -/
theorem Called.overflows (hinside : ∀ R, S.inside levels = some R → ∀ h s t, R h s t →
      h.fatal = none → t.host.fatal ≠ none → Overflows t.deeds)
    {u : Turn ε σ (Except CallError CallOutcome)} (hcall : Called S (S.inside levels) mode call h s u)
    (hfree : h.fatal = none) (hfatal : u.host.fatal ≠ none) {after : Deed ε} (hafter : after.before = u.host)
    (rest : List (Deed ε)) : Overflows (u.deeds ++ after :: rest) := by
  cases hcall with
  | doomed hfatal' => cases hfatal'.symm.trans hfree
  | @tooDeep e _ hlevel he =>
    refine ⟨_, _, after, rest, .start, ?_, ?_⟩
    · rw [hfree]
      exact (nomatch ·)
    · rw [hafter]
  | @died R meter input inner v e _ hlevel hmeter hbegun hrun hdied =>
    have hnone : inner.fatal = none := (fatal_begun hbegun).trans hfree
    obtain ⟨calls, d, after', rest', hpoint, hrefused⟩ := hinside R hlevel inner s v hrun hnone (by simp [hdied])
    exact ⟨_, d, after', rest', (Point.inside .start).trans hpoint, hrefused⟩
  | unpaid | unbegun | failed | succeeded => exact absurd hfree hfatal

theorem Overflows.cons {ds : List (Deed ε)} (d : Deed ε) (ho : Overflows ds) : Overflows (d :: ds) := by
  obtain ⟨calls, d', after, rest, hpoint, hrefused⟩ := ho
  cases ds with
  | nil => cases hpoint.of_nil
  | cons d'' ds => exact ⟨_, d', after, rest, (Point.later .start).trans hpoint, hrefused⟩

theorem Steps.overflows (hinside : ∀ R, S.inside levels = some R → ∀ h s t, R h s t →
      h.fatal = none → t.host.fatal ≠ none → Overflows t.deeds)
    {t : Turn ε σ (Except CallError Unit)} (hsteps : Steps S (S.inside levels) h s t) :
    h.fatal = none → t.host.fatal ≠ none → Overflows t.deeds := by
  intro hfree hfatal
  induction hsteps with
  | ended result => exact absurd hfree hfatal
  | asked hperform hrest ih =>
    exact (ih ((Effect.of_perform hperform).fatal.trans hfree) hfatal).cons _
  | @called h s mode call u t hcall hrest ih =>
    obtain ⟨input, inside, phases, hu⟩ := hcall.deeds_eq
    by_cases hnone : u.host.fatal = none
    · show Overflows (u.deeds ++ t.deeds)
      rw [hu]
      exact (ih hnone hfatal).cons _
    · obtain ⟨after, rest, hdeeds, hafter⟩ := hrest.exists_cons
      have hover := hcall.overflows hinside hfree hnone hafter rest
      rwa [← hdeeds] at hover
  | signalled hrest ih => exact (ih hfree hfatal).cons _

/-- A depth that is on record after a run is that of a call refused in it. -/
theorem Runs.overflows {t : Turn ε σ (Except CallError Unit)} (hrun : Runs S levels h s t) (hfree : h.fatal = none)
    (hfatal : t.host.fatal ≠ none) : Overflows t.deeds :=
  hrun.of_steps (Q := fun h _ t => h.fatal = none → t.host.fatal ≠ none → Overflows t.deeds)
    (fun _ hinside _ _ _ => Steps.overflows hinside) hfree hfatal

end Refused

/-! ## Transactions -/

section Transactions

variable {S : Setting ε σ} {tx : Transaction} {gas : U64} {s : σ} {calls : List (OpenCall ε)}

/-- Once a depth is on record at a point, every call that is open there ends with it, and so does the transaction;
    what is left to do inside of any of them is doomed. -/
theorem Setting.doomed_of_point {d : Deed ε} {rest : List (Deed ε)}
    (hpoint : Point (S.process tx (.start gas) s).deeds calls (d :: rest)) {e : CallError}
    (hfatal : d.before.fatal = some e) :
    (∀ ds ∈ (d :: rest) :: calls.map (·.rest), Doomed e ds) ∧ (∀ o ∈ calls, o.Undone S.config e) ∧
      (S.process tx (.start gas) s).host.fatal = some e := by
  obtain ⟨top, inner, -, -, -, -, hrun⟩ := runs_of_point hpoint
  -- What holds at a point is said of the end of the code that runs there: a depth then on record is passed on.
  have hat := hrun.of_point
    (P := fun calls _ _ _ t => ∀ e, t.host.fatal = some e → (∀ ds ∈ calls.map OpenCall.rest, Doomed e ds) ∧
      (∀ o ∈ calls, o.Undone S.config e) ∧ (S.process tx (.start gas) s).host.fatal = some e)
    (fun e he => ⟨by simp, by simp, he⟩) ?step ?enter hpoint
  case step =>
    intro calls lv d h s h' s' t' hends _ _
    exact hends
  case enter =>
    intro calls lv mode call input phases reply h s h' s' t' meter inner v hends _ hrest he hdies e hfatal
    obtain ⟨rfl, rfl⟩ := hdies e hfatal
    obtain ⟨hdoomed, hundone, hend⟩ := hends e (hrest.fatal rfl)
    refine ⟨?_, ?_, hend⟩
    · intro ds hds
      rcases List.mem_cons.1 hds with rfl | hds
      · exact hrest.doomed rfl
      · exact hdoomed ds hds
    · intro o ho
      rcases List.mem_cons.1 ho with rfl | ho
      · obtain ⟨after, rest, hdeeds, hafter⟩ := hrest.exists_cons
        exact ⟨rfl, after, rest, meter, hdeeds, he.paid, hafter⟩
      · exact hundone o ho
  obtain ⟨lv, s', t', hends, hrun', hdeeds⟩ := hat
  obtain ⟨hdoomed, hundone, hend⟩ := hends e (hrun'.fatal hfatal)
  refine ⟨fun ds hds => ?_, hundone, hend⟩
  rcases List.mem_cons.1 hds with rfl | hds
  · exact hdeeds ▸ hrun'.doomed hfatal
  · exact hdoomed ds hds

/-- At a point of a transaction a call is refused for its depth exactly where none was before and its caller is as
    deep as may be. -/
theorem Setting.refused_of_point {before : Host} {mode : CallMode} {call : NestedCall} {input : Option CallInput}
    {inside rest : List (Deed ε)} {phases : List CallPhase} {reply : Except CallError CallOutcome} {after : Deed ε}
    (hpoint : Point (S.process tx (.start gas) s).deeds calls
      (.called before mode call input inside phases reply :: after :: rest)) :
    (Deed.Refused after.before (.called before mode call input inside phases reply) ↔
        before.fatal = none ∧ before.depth = S.config.maxCallDepth.val) ∧
      (Deed.Refused after.before (.called before mode call input inside phases reply) →
        let e := CallError.callDepthExceeded (S.config.maxCallDepth.val + 1) S.config.maxCallDepth.val
        reply = .error e ∧ after.before = { before with fatal := some e }) := by
  obtain ⟨lv, s, s', hlevels, hstep⟩ := step_of_point hpoint
  generalize after.before = h' at hstep ⊢
  cases hstep with
  | called hcall hdeeds =>
    rw [hcall.refused_iff hdeeds]
    have hdepth : lv + before.depth = S.config.maxCallDepth.val := hlevels
    refine ⟨and_congr_right fun _ => by omega, ?_⟩
    rintro ⟨hfree, rfl⟩
    have hfull : S.config.maxCallDepth.val = before.depth := by omega
    have hzero := hcall.of_zero hfree
    rw [hfull] at hzero ⊢
    exact hzero

/-- A depth is on record at the end of a transaction exactly where one of its calls was refused. -/
theorem Setting.fatal_process_iff :
    (S.process tx (.start gas) s).host.fatal ≠ none ↔ Overflows (S.process tx (.start gas) s).deeds := by
  constructor
  · intro hfatal
    rcases S.process_cases tx (.start gas) s with ⟨-, -, hnone⟩ | ⟨top, inner, -, -, hnone, hrun⟩
    · exact absurd hnone hfatal
    · exact hrun.overflows hnone hfatal
  · rintro ⟨calls, d, after, rest, hpoint, hrefused⟩
    have hafter : ∃ e, after.before.fatal = some e := by
      unfold Deed.Refused at hrefused
      split at hrefused
      · exact ⟨_, hrefused.2⟩
      · cases hrefused
    obtain ⟨e, he⟩ := hafter
    rw [(doomed_of_point hpoint.later he).2.2]
    exact Option.some_ne_none e

end Transactions

/-- The output is a success or has no effects. -/
theorem Host.conclude_clean (h : Host) (result : Except CallError Unit) :
    ((h.conclude result).code = .ok ↔ result = .ok () ∧ h.fatal = none) ∧
      ((h.conclude result).code ≠ .ok →
        h.conclude result = .failure (h.conclude result).code (h.conclude result).message) := by
  rcases h.conclude_cases result with ⟨e, herror, hout⟩ | ⟨hfree, hok, hout⟩ <;> rw [hout]
  · have hnot : ¬ (result = .ok () ∧ h.fatal = none) := by
      rintro ⟨rfl, hfree⟩
      rcases herror with hfatal | ⟨-, herror⟩
      · cases hfatal.symm.trans hfree
      · cases herror
    exact ⟨⟨fun hcode => absurd hcode (returnCode_ne_ok e), fun h => absurd h hnot⟩, fun _ => rfl⟩
  · exact ⟨⟨fun _ => ⟨hok, hfree⟩, fun _ => rfl⟩, fun hcode => absurd rfl hcode⟩

/-- A nested call is refused for its depth exactly where none was before and its caller is as deep as may be. After
    that all later calls are refused and change nothing, all open ones end with the same error and undone, and the
    transaction fails with it. A transaction succeeds exactly where its processing does and no call was refused. -/
theorem Setting.transact_overflow (S : Setting ε σ) (tx : Transaction) (gas : U64) (s : σ) :
    let t := S.transact tx (.start gas) s
    let max := S.config.maxCallDepth.val
    (∀ calls before mode call input inside phases reply after rest,
      Point t.deeds calls (.called before mode call input inside phases reply :: after :: rest) →
      (Deed.Refused after.before (.called before mode call input inside phases reply) ↔
        before.fatal = none ∧ before.depth = max) ∧
      (Deed.Refused after.before (.called before mode call input inside phases reply) →
        let e := .callDepthExceeded (max + 1) max
        reply = .error e ∧ after.before = { before with fatal := some e } ∧
        (∀ ds ∈ (after :: rest) :: calls.map (·.rest), Doomed e ds) ∧ (∀ o ∈ calls, o.Undone S.config e) ∧
        t.reply = .failure .callStackOverflow e.message)) ∧
    (t.reply.code = .ok ↔ (S.process tx (.start gas) s).reply = .ok () ∧ ¬ Overflows t.deeds) ∧
    (t.reply.code ≠ .ok → t.reply.accounts = ∅ ∧ t.reply.finishData = [] ∧ t.reply.logs = [] ∧
      t.reply.gasRemaining = 0 ∧ t.reply.gasRefund = 0) := by
  intro t max
  obtain ⟨hcode, hclean⟩ := t.host.conclude_clean (S.process tx (.start gas) s).reply
  refine ⟨fun calls before mode call input inside phases reply after rest hpoint => ?_, ?_, fun hne => ?_⟩
  · obtain ⟨hiff, hrefusal⟩ := refused_of_point hpoint
    refine ⟨hiff, fun hrefused => ?_⟩
    obtain ⟨hfree, hdepth⟩ := hiff.1 hrefused
    obtain ⟨hreply, hafter⟩ := hrefusal hrefused
    obtain ⟨hdoomed, hundone, hend⟩ := doomed_of_point hpoint.later (congrArg Host.fatal hafter)
    refine ⟨hreply, hafter, hdoomed, hundone, ?_⟩
    show (S.process tx (.start gas) s).host.conclude _ = _
    unfold Host.conclude
    rw [hend]
    rfl
  · have hover : ¬ Overflows t.deeds ↔ t.host.fatal = none := not_iff_comm.1 fatal_process_iff
    rw [hover]
    exact hcode
  · have hfailure : t.reply = _ := hclean hne
    rw [hfailure]
    exact ⟨rfl, rfl, rfl, rfl, rfl⟩

/-- Code that calls itself, passes over a refusal and goes on to write and to finish. -/
def stubbornGuest (input : CallInput) : Guest Unit :=
  .call .sameContext ⟨input.callee, 0, "again", [], 5000⟩ fun _ =>
    .ask (.store [1] [2]) fun _ => .ask (.finish [3]) fun _ => .done (.ok ())

def stubbornSetting : Setting Unit World :=
  ⟨{ HostConfig.standard with maxCallDepth := 2 }, stubbornGuest, World.ledger, fun _ w => w⟩

def stubbornWorld : World := .ofSteps [.putAccount (.named "bob") ⟨40, 0, [7], .none⟩]

def stubbornCall : Transaction := .call (.named "alice") (.named "bob") "f" 100000

/-- Whether the next deed at a point is a call that is refused for its depth. -/
def refusedAt (p : List (OpenCall Unit) × List (Deed Unit)) : Bool :=
  match p.2 with
  | d@(.called _ _ _ _ _ _ _) :: after :: _ => decide (d.Refused after.before)
  | _ => false

theorem Setting.transact_overflow_swallowed :
    let t := stubbornSetting.transact stubbornCall (.start 100000) stubbornWorld
    Overflows t.deeds ∧ (stubbornSetting.process stubbornCall (.start 100000) stubbornWorld).reply = .ok () ∧
      t.reply = .failure .callStackOverflow "call depth exceeded: 3 > 2" ∧ t.reply.accounts = ∅ := by
  intro t
  have hrefused : (pointsOf [] t.deeds).any refusedAt = true := by decide +kernel
  obtain ⟨calls, ds, hpoint, hrefused⟩ := exists_point_of_any hrefused
  unfold refusedAt at hrefused
  dsimp only at hrefused
  split at hrefused
  · have hoverflow := stubbornSetting.transact_overflow stubbornCall 100000 stubbornWorld
    have hrefused := of_decide_eq_true hrefused
    have hfailure := ((hoverflow.1 _ _ _ _ _ _ _ _ _ _ hpoint).2 hrefused).2.2.2.2
    refine ⟨⟨_, _, _, _, hpoint, hrefused⟩, by decide +kernel, hfailure, (hoverflow.2.2 ?_).1⟩
    rw [hfailure]
    decide
  · cases hrefused

end ContractHost

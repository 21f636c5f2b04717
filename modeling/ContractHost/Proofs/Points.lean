/-
  ContractHost.Proofs.Points — the points of a run.

  Between two deeds of a run some calls are open, and the code of the innermost one, or of
  the transaction itself, goes on from there. A `Point` is such a place: the open calls,
  the innermost first, each with what its caller does after it, and the deeds that the
  running code is left to do. The host at a point is the one before the next of them.

  From deed to deed a run takes a `Step`, into the code of a call it is `Entered`; what
  holds at the start of a run and passes on along both holds at every point
  (`Runs.of_point`).
-/

import ContractHost.Proofs.Flows
import ContractHost.Proofs.Rollback
import ContractHost.Proofs.Transactions

namespace ContractHost

variable {ε σ : Type}

/-- A call whose code runs, and what its caller does after it. -/
structure OpenCall (ε : Type) where
  before : Host
  mode : CallMode
  call : NestedCall
  input : CallInput
  reply : Except CallError CallOutcome
  rest : List (Deed ε)

/-- A point of the run that left the deeds `ds`. -/
inductive Point (ds : List (Deed ε)) : List (OpenCall ε) → List (Deed ε) → Prop
  | start : Point ds [] ds
  | later {calls : List (OpenCall ε)} {d d' : Deed ε} {rest : List (Deed ε)} (h : Point ds calls (d :: d' :: rest)) :
      Point ds calls (d' :: rest)
  | inside {calls : List (OpenCall ε)} {before : Host} {mode : CallMode} {call : NestedCall} {input : CallInput}
      {inside rest : List (Deed ε)} {phases : List CallPhase} {reply : Except CallError CallOutcome}
      (h : Point ds calls (.called before mode call (some input) inside phases reply :: rest)) :
      Point ds (⟨before, mode, call, input, reply, rest⟩ :: calls) inside

/-- A point of what is left at a point. -/
theorem Point.trans {ds ds' rest : List (Deed ε)} {calls calls' : List (OpenCall ε)} (hfirst : Point ds calls ds')
    (hpoint : Point ds' calls' rest) : Point ds (calls' ++ calls) rest := by
  induction hpoint with
  | start => exact hfirst
  | later _ ih => exact ih.later
  | inside _ ih => exact ih.inside

mutual

/-- The points inside of a deed, after which its caller does `rest`. -/
def Deed.points (calls : List (OpenCall ε)) (rest : List (Deed ε)) : Deed ε → List (List (OpenCall ε) × List (Deed ε))
  | .called before mode call (some input) inside _ reply =>
    pointsOf (⟨before, mode, call, input, reply, rest⟩ :: calls) inside
  | _ => []
termination_by structural d => d

/-- The points from deeds on, those inside of calls in their places. -/
def pointsOf (calls : List (OpenCall ε)) : List (Deed ε) → List (List (OpenCall ε) × List (Deed ε))
  | [] => []
  | d :: ds => (calls, d :: ds) :: (d.points calls ds ++ pointsOf calls ds)
termination_by structural ds => ds

end

mutual

theorem Deed.point_of_mem {ds rest : List (Deed ε)} {calls : List (OpenCall ε)} :
    (d : Deed ε) → Point ds calls (d :: rest) → ∀ p ∈ d.points calls rest, Point ds p.1 p.2
  | .called _ _ _ (some _) inside _ _, hpoint, p, hp => point_of_mem_pointsOf inside hpoint.inside p hp
  | .called _ _ _ none _ _ _, _, _, hp => by cases hp
  | .asked _ _ _, _, _, hp | .signalled _ _, _, _, hp | .ended _ _, _, _, hp => by cases hp
termination_by structural d => d

theorem point_of_mem_pointsOf {ds : List (Deed ε)} {calls : List (OpenCall ε)} :
    (rest : List (Deed ε)) → Point ds calls rest → ∀ p ∈ pointsOf calls rest, Point ds p.1 p.2
  | [], _, _, hp => by cases hp
  | [d], hpoint, p, hp => by
    rcases List.mem_cons.1 hp with rfl | hp
    · exact hpoint
    · exact d.point_of_mem hpoint p (by simpa [pointsOf] using hp)
  | d :: d' :: rest, hpoint, p, hp => by
    rcases List.mem_cons.1 hp with rfl | hp
    · exact hpoint
    rcases List.mem_append.1 hp with hp | hp
    · exact d.point_of_mem hpoint p hp
    · exact point_of_mem_pointsOf (d' :: rest) hpoint.later p hp
termination_by structural rest => rest

end

/-- The computed points may be searched for one. -/
theorem exists_point_of_any {ds : List (Deed ε)} {test : List (OpenCall ε) × List (Deed ε) → Bool}
    (hfound : (pointsOf [] ds).any test = true) : ∃ calls rest, Point ds calls rest ∧ test (calls, rest) = true := by
  obtain ⟨⟨calls, rest⟩, hmem, htest⟩ := List.any_eq_true.1 hfound
  exact ⟨calls, rest, point_of_mem_pointsOf ds .start _ hmem, htest⟩

/-! ## One deed -/

section Step

variable (S : Setting ε σ)

/-- One deed of guest code, from the host and the surroundings before it to those after it. -/
inductive Step (inside : Option (Execution ε σ)) : Deed ε → Host → σ → Host → σ → Prop
  | asked {h after : Host} {s : σ} {r : Request} {reply : Except CallError r.Answer}
      (hperform : r.perform S.config (S.ledger s) h = (reply, after)) : Step inside (.asked h r reply) h s after s
  | called {h : Host} {s : σ} {mode : CallMode} {call : NestedCall} {input : Option CallInput}
      {ds : List (Deed ε)} {phases : List CallPhase} {u : Turn ε σ (Except CallError CallOutcome)}
      (hcall : Called S inside mode call h s u) (hdeeds : u.deeds = [.called h mode call input ds phases u.reply]) :
      Step inside (.called h mode call input ds phases u.reply) h s u.host u.around
  | signalled {h : Host} {s : σ} {event : ε} : Step inside (.signalled h event) h s h (S.react event s)

/-- A call that was paid with `meter` left, and whose code ran from `inner` to the end of the turn `v`. -/
structure Entered (levels : Nat) (mode : CallMode) (call : NestedCall) (h : Host) (s : σ) (meter : Meter)
    (input : CallInput) (inner : Host) (v : Turn ε σ (Except CallError Unit)) : Prop where
  free : h.fatal = none
  paid : h.meter.use? (Host.baseCost S.config mode) = some meter
  begun : S.begun mode call { h with meter } s = (.ok input, inner)
  run : Runs S levels inner s v

variable {S} {inside : Option (Execution ε σ)} {levels : Nat} {mode : CallMode} {call : NestedCall} {h : Host} {s : σ}

/-- A nested call is one deed. -/
theorem Called.deeds_eq {u : Turn ε σ (Except CallError CallOutcome)} (hcall : Called S inside mode call h s u) :
    ∃ input ds phases, u.deeds = [.called h mode call input ds phases u.reply] := by
  cases hcall <;> exact ⟨_, _, _, rfl⟩

/-- The first deed of a run starts from its host; where it is not the end, the rest is a run from what it leaves. -/
theorem Steps.uncons {t : Turn ε σ (Except CallError Unit)} {d : Deed ε} {rest : List (Deed ε)}
    (hsteps : Steps S inside h s t) (hdeeds : t.deeds = d :: rest) :
    d.before = h ∧ (rest = [] ∧ d = .ended h t.reply ∨
      ∃ h' s' t', Step S inside d h s h' s' ∧ Steps S inside h' s' t' ∧ t'.deeds = rest ∧ t = t'.following [d]) := by
  cases hsteps with
  | ended result =>
    cases hdeeds
    exact ⟨rfl, .inl ⟨rfl, rfl⟩⟩
  | @asked _ after _ r reply t' hperform hrest =>
    cases hdeeds
    exact ⟨rfl, .inr ⟨after, s, t', .asked hperform, hrest, rfl, rfl⟩⟩
  | @called _ _ mode call u t' hcall hrest =>
    obtain ⟨input, ds, phases, hu⟩ := hcall.deeds_eq
    rw [Turn.following, hu] at hdeeds
    cases hdeeds
    exact ⟨rfl, .inr ⟨u.host, u.around, t', .called hcall hu, hrest, rfl, by rw [hu]⟩⟩
  | @signalled _ _ event t' hrest =>
    cases hdeeds
    exact ⟨rfl, .inr ⟨h, _, t', .signalled, hrest, rfl, rfl⟩⟩

theorem Steps.exists_cons {t : Turn ε σ (Except CallError Unit)} (hsteps : Steps S inside h s t) :
    ∃ d rest, t.deeds = d :: rest ∧ d.before = h := by
  cases hdeeds : t.deeds with
  | nil =>
    have hlast := hsteps.getLast_deeds
    rw [hdeeds] at hlast
    cases hlast
  | cons d rest => exact ⟨d, rest, rfl, (hsteps.uncons hdeeds).1⟩

theorem Runs.exists_cons {t : Turn ε σ (Except CallError Unit)} (hrun : Runs S levels h s t) :
    ∃ d rest, t.deeds = d :: rest ∧ d.before = h :=
  Steps.exists_cons (runs_eq (S := S) levels ▸ hrun)

/-- What every deed keeps a run keeps to its end. -/
theorem Steps.preserves {P : Host → Prop} (hstep : ∀ {d h s h' s'}, Step S inside d h s h' s' → P h → P h')
    {t : Turn ε σ (Except CallError Unit)} (hsteps : Steps S inside h s t) (hP : P h) : P t.host := by
  induction hsteps with
  | ended result => exact hP
  | asked hperform hrest ih => exact ih (hstep (.asked hperform) hP)
  | called hcall hrest ih =>
    obtain ⟨input, ds, phases, hdeeds⟩ := hcall.deeds_eq
    exact ih (hstep (.called hcall hdeeds) hP)
  | signalled hrest ih => exact ih hP

/-- A call whose code ran was entered; once a call of that code was refused for its depth, so is the call itself. -/
theorem Called.entered {u : Turn ε σ (Except CallError CallOutcome)} {input : CallInput} {ds : List (Deed ε)}
    {phases : List CallPhase} (hcall : Called S (S.inside levels) mode call h s u)
    (hdeeds : u.deeds = [.called h mode call (some input) ds phases u.reply]) :
    ∃ levels' meter inner v, levels = levels' + 1 ∧ Entered S levels' mode call h s meter input inner v ∧ v.deeds = ds ∧
      ∀ e, v.host.fatal = some e → u.reply = .error e ∧ u.host = { h with meter, fatal := some e } := by
  cases hcall with
  | doomed hfatal => cases hdeeds
  | tooDeep hfree hlevel he => cases hdeeds
  | unpaid hfree hlevel hmeter => cases hdeeds
  | unbegun hfree hlevel hmeter hbegun hcost => cases hdeeds
  | @died R meter _ inner v e hfree hlevel hmeter hbegun hrun hfatal =>
    cases hdeeds
    obtain ⟨levels', rfl, rfl⟩ := inside_eq_some hlevel
    refine ⟨levels', meter, inner, v, rfl, ⟨hfree, hmeter, hbegun, hrun⟩, rfl, fun e' he' => ?_⟩
    cases hfatal.symm.trans he'
    exact ⟨rfl, rfl⟩
  | @failed R meter _ inner v e cost hfree hlevel hmeter hbegun hrun hfatal hreply hcost =>
    cases hdeeds
    obtain ⟨levels', rfl, rfl⟩ := inside_eq_some hlevel
    refine ⟨levels', meter, inner, v, rfl, ⟨hfree, hmeter, hbegun, hrun⟩, rfl, fun e' he' => ?_⟩
    cases hfatal.symm.trans he'
  | @succeeded R meter _ inner v hfree hlevel hmeter hbegun hrun hfatal hreply =>
    cases hdeeds
    obtain ⟨levels', rfl, rfl⟩ := inside_eq_some hlevel
    refine ⟨levels', meter, inner, v, rfl, ⟨hfree, hmeter, hbegun, hrun⟩, rfl, fun e' he' => ?_⟩
    cases hfatal.symm.trans he'

theorem Step.sameCall {d : Deed ε} {h' : Host} {s' : σ} (hstep : Step S (S.inside levels) d h s h' s') :
    SameCall h h' := by
  cases hstep with
  | asked hperform =>
    exact (Effect.of_perform hperform).sameCall
  | called hcall hdeeds => exact hcall.sameCall fun R hlevel _ _ _ hrun => sameCall_inside hlevel hrun
  | signalled => exact .refl h

theorem Step.around_eq {d : Deed ε} {h' : Host} {s' : σ} (hstep : Step S (S.inside levels) d h s h' s') :
    s' = S.after s d.events := by
  cases hstep with
  | asked hperform => rfl
  | @called _ _ mode call input ds phases u hcall hdeeds =>
    have haround := hcall.around_eq fun R hlevel h s t hrun => by
      obtain ⟨levels', -, rfl⟩ := inside_eq_some hlevel
      exact hrun.around_eq
    rwa [hdeeds, eventsOf, eventsOf, List.append_nil] at haround
  | signalled => rfl

end Step

/-! ## From point to point -/

section Points

variable {S : Setting ε σ} {levels : Nat} {h : Host} {s : σ} {t : Turn ε σ (Except CallError Unit)}

/-- A run whose first deed is not its last takes that deed and is a run from there. -/
theorem Runs.next {d d' : Deed ε} {rest : List (Deed ε)} (hrun : Runs S levels h s t)
    (hdeeds : t.deeds = d :: d' :: rest) :
    ∃ s' t', Step S (S.inside levels) d h s d'.before s' ∧ Runs S levels d'.before s' t' ∧ t'.deeds = d' :: rest ∧
      t = t'.following [d] := by
  rw [runs_eq] at hrun ⊢
  obtain ⟨-, ⟨hnil, -⟩ | ⟨h', s', t', hstep, hrest, hrest', ht⟩⟩ := hrun.uncons hdeeds
  · cases hnil
  · obtain ⟨rfl, -⟩ := hrest.uncons hrest'
    exact ⟨s', t', hstep, hrest, hrest', ht⟩

/-- What holds where a run starts, and passes on from deed to deed and into the code of calls, holds
    at every point. The property may speak of the open calls, the levels left and the turn still to take. -/
theorem Runs.of_point {P : List (OpenCall ε) → Nat → Host → σ → Turn ε σ (Except CallError Unit) → Prop}
    (hrun : Runs S levels h s t) (hstart : P [] levels h s t)
    (hstep : ∀ {calls lv d h s h' s' t'}, P calls lv h s (t'.following [d]) → Step S (S.inside lv) d h s h' s' →
      Runs S lv h' s' t' → P calls lv h' s' t')
    (henter : ∀ {calls lv mode call input phases reply h s h' s' t' meter inner v},
      P calls (lv + 1) h s (t'.following [.called h mode call (some input) v.deeds phases reply]) →
      Step S (S.inside (lv + 1)) (.called h mode call (some input) v.deeds phases reply) h s h' s' →
      Runs S (lv + 1) h' s' t' → Entered S lv mode call h s meter input inner v →
      (∀ e, v.host.fatal = some e → reply = .error e ∧ h' = { h with meter, fatal := some e }) →
      P (⟨h, mode, call, input, reply, t'.deeds⟩ :: calls) lv inner s v)
    {calls : List (OpenCall ε)} {d : Deed ε} {rest : List (Deed ε)} (hpoint : Point t.deeds calls (d :: rest)) :
    ∃ lv s t', P calls lv d.before s t' ∧ Runs S lv d.before s t' ∧ t'.deeds = d :: rest := by
  suffices hall : ∀ {calls ds}, Point t.deeds calls ds →
      ∃ lv h s t', P calls lv h s t' ∧ Runs S lv h s t' ∧ t'.deeds = ds by
    obtain ⟨lv, h, s, t', hP, hrun', hdeeds⟩ := hall hpoint
    obtain ⟨rfl, -⟩ := Steps.uncons (runs_eq (S := S) lv ▸ hrun') hdeeds
    exact ⟨lv, s, t', hP, hrun', hdeeds⟩
  intro calls ds hpoint
  induction hpoint with
  | start => exact ⟨levels, h, s, t, hstart, hrun, rfl⟩
  | @later calls d d' rest hpoint ih =>
    obtain ⟨lv, h, s, t', hP, hrun', hdeeds⟩ := ih
    obtain ⟨s', t'', hone, hrest, hrest', rfl⟩ := hrun'.next hdeeds
    exact ⟨lv, d'.before, s', t'', hstep hP hone hrest, hrest, hrest'⟩
  | @inside calls before mode call input ds rest phases reply hpoint ih =>
    obtain ⟨lv, h, s, t', hP, hrun', hdeeds⟩ := ih
    rw [runs_eq] at hrun'
    obtain ⟨-, ⟨-, hended⟩ | ⟨h', s', t'', hone, hrest, hrest', rfl⟩⟩ := hrun'.uncons hdeeds
    · cases hended
    · rw [← runs_eq] at hrest
      cases hone with
      | called hcall hu =>
        obtain ⟨lv', meter, inner, v, rfl, hentered, hv, hdoomed⟩ := hcall.entered hu
        cases hv
        cases hrest'
        exact ⟨lv', inner, s, v, henter hP (.called hcall hu) hrest hentered hdoomed, hentered.run, rfl⟩

end Points

/-! ## Points of a transaction -/

theorem Point.of_nil {calls : List (OpenCall ε)} {rest : List (Deed ε)} (hpoint : Point [] calls rest) : rest = [] := by
  induction hpoint with
  | start => rfl
  | later hpoint ih => cases ih
  | inside hpoint ih => cases ih

/-- A transaction with a point has run its code, from the host that was prepared for it and with all levels. -/
theorem Setting.runs_of_point {S : Setting ε σ} {tx : Transaction} {gas : U64} {s : σ} {calls : List (OpenCall ε)}
    {d : Deed ε} {rest : List (Deed ε)} (hpoint : Point (S.process tx (.start gas) s).deeds calls (d :: rest)) :
    ∃ top inner, Host.prepare S.config (S.ledger s) tx (.start gas) = (.ok top, inner) ∧ SameStacks (.start gas) inner ∧
      inner.fatal = none ∧ S.levels inner + inner.depth = S.config.maxCallDepth.val ∧
      Runs S (S.levels inner) inner s (S.process tx (.start gas) s) := by
  rcases S.process_cases tx (.start gas) s with ⟨hnil, -⟩ | ⟨top, inner, hprepare, hsame, hfatal, hrun⟩
  · rw [hnil] at hpoint
    cases hpoint.of_nil
  · have hdepth : inner.depth = 0 := hsame.depth
    refine ⟨top, inner, hprepare, hsame, hfatal, ?_, hrun⟩
    rw [levels, hdepth]
    exact Nat.sub_add_cancel (Nat.zero_le _)

/-- The deed at a point is the last of its code, or a step to the next one, with the levels that its depth leaves. -/
theorem Setting.deed_of_point {S : Setting ε σ} {tx : Transaction} {gas : U64} {s : σ} {calls : List (OpenCall ε)}
    {d : Deed ε} {rest : List (Deed ε)} (hpoint : Point (S.process tx (.start gas) s).deeds calls (d :: rest)) :
    (rest = [] ∧ ∃ result, d = .ended d.before result) ∨
      ∃ d' rest' lv s s', rest = d' :: rest' ∧ lv + d.before.depth = S.config.maxCallDepth.val ∧
        Step S (S.inside lv) d d.before s d'.before s' := by
  obtain ⟨top, inner, -, -, -, hlevels, hrun⟩ := runs_of_point hpoint
  have hat := hrun.of_point (P := fun _ lv h _ _ => lv + h.depth = S.config.maxCallDepth.val) hlevels ?step ?enter hpoint
  case step =>
    intro calls lv d h s h' s' t' hlv hstep _
    rwa [hstep.sameCall.depth]
  case enter =>
    intro calls lv mode call input phases reply h s h' s' t' meter inner v hlv _ _ he _
    have hdepth : inner.depth = h.depth + 1 := (sameCall_begun he.begun).depth
    omega
  obtain ⟨lv, s, t', hlv, hrun', hdeeds⟩ := hat
  cases rest with
  | nil =>
    rw [runs_eq] at hrun'
    obtain ⟨-, ⟨-, hended⟩ | ⟨h', s', t'', -, hrest, hnil, -⟩⟩ := hrun'.uncons hdeeds
    · exact .inl ⟨rfl, _, hended⟩
    · obtain ⟨d', rest', hcons, -⟩ := hrest.exists_cons
      cases hnil.symm.trans hcons
  | cons d' rest' =>
    obtain ⟨s', t'', hstep, -⟩ := hrun'.next hdeeds
    exact .inr ⟨d', rest', lv, s, s', rfl, hlv, hstep⟩

/-- The deed at a point is the end of its code or a step. -/
theorem Setting.taken_of_point {S : Setting ε σ} {tx : Transaction} {gas : U64} {s : σ} {calls : List (OpenCall ε)}
    {d : Deed ε} {rest : List (Deed ε)} (hpoint : Point (S.process tx (.start gas) s).deeds calls (d :: rest)) :
    (∃ result, d = .ended d.before result) ∨ ∃ lv s h' s', Step S (S.inside lv) d d.before s h' s' := by
  obtain ⟨-, hended⟩ | ⟨d', -, lv, s, s', -, -, hstep⟩ := deed_of_point hpoint
  · exact .inl hended
  · exact .inr ⟨lv, s, d'.before, s', hstep⟩

/-- From one deed at a point to the next a transaction takes one step. -/
theorem Setting.step_of_point {S : Setting ε σ} {tx : Transaction} {gas : U64} {s : σ} {calls : List (OpenCall ε)}
    {d d' : Deed ε} {rest : List (Deed ε)} (hpoint : Point (S.process tx (.start gas) s).deeds calls (d :: d' :: rest)) :
    ∃ lv s s', lv + d.before.depth = S.config.maxCallDepth.val ∧ Step S (S.inside lv) d d.before s d'.before s' := by
  obtain ⟨hnil, -⟩ | ⟨d'', rest'', lv, s, s', hcons, hlv, hstep⟩ := deed_of_point hpoint
  · cases hnil
  · cases hcons
    exact ⟨lv, s, s', hlv, hstep⟩

end ContractHost

/-
  ContractHost.Proofs.Flows — the value that a run moves.

  The deeds of a run say which flows of value it leaves (`flowsOf`): granted transfers and
  the values of nested calls, those of failed calls taken out. A `Moment` is any point of
  the run with the flows that are not rolled back there; code that looks at the host sees
  the one before its next deed. On a ledger whose supply fits a balance, the output at every
  moment is solvent and shows exactly these flows (`Runs.tracks`), whatever frames it is
  spread over.
-/

import ContractHost.Proofs.Runs

namespace ContractHost

variable {ε σ : Type}

/-! ## Flows of deeds -/

mutual

/-- The flows that a deed leaves, in order. -/
def Deed.flows : Deed ε → List Flow
  | .asked before r (.ok _) => r.flows before.address
  | .called before _ call _ inside _ (.ok (.succeeded _)) =>
    ⟨before.address, call.callee, call.value⟩ :: flowsOf inside
  | _ => []
termination_by structural d => d

def flowsOf : List (Deed ε) → List Flow
  | [] => []
  | d :: ds => d.flows ++ flowsOf ds
termination_by structural ds => ds

end

theorem flowsOf_append (ds es : List (Deed ε)) : flowsOf (ds ++ es) = flowsOf ds ++ flowsOf es :=
  collected_append rfl (fun _ _ => rfl) ds es

theorem flowsOf_singleton (d : Deed ε) : flowsOf [d] = d.flows := List.append_nil _

/-- The host before a deed. -/
def Deed.before : Deed ε → Host
  | .asked before _ _ | .called before _ _ _ _ _ _ | .signalled before _ | .ended before _ => before

/-- A point of the run that left the deeds: the flows from its start that are not rolled back there, and the host. -/
inductive Moment : List (Deed ε) → List Flow → Host → Prop
  | here (d : Deed ε) (ds : List (Deed ε)) : Moment (d :: ds) [] d.before
  | later {d : Deed ε} {ds : List (Deed ε)} {fs : List Flow} {h : Host} (hlater : Moment ds fs h) :
      Moment (d :: ds) (d.flows ++ fs) h
  | inside {before : Host} {mode : CallMode} {call : NestedCall} {input : Option CallInput} {inside ds : List (Deed ε)}
      {phases : List CallPhase} {reply : Except CallError CallOutcome} {fs : List Flow} {h : Host}
      (hinside : Moment inside fs h) :
      Moment (.called before mode call input inside phases reply :: ds) (⟨before.address, call.callee, call.value⟩ :: fs) h

theorem Moment.of_append {ds es : List (Deed ε)} {fs : List Flow} {h : Host} (hm : Moment (ds ++ es) fs h) :
    Moment ds fs h ∨ ∃ gs, fs = flowsOf ds ++ gs ∧ Moment es gs h := by
  induction ds generalizing fs with
  | nil => exact .inr ⟨fs, rfl, hm⟩
  | cons d ds ih =>
    cases hm with
    | here => exact .inl (.here d ds)
    | inside hinside => exact .inl (.inside hinside)
    | later hlater =>
      rcases ih hlater with hm | ⟨gs, rfl, hm⟩
      · exact .inl (.later hm)
      · exact .inr ⟨gs, by rw [flowsOf, List.append_assoc], hm⟩

/-! ## What an output shows -/

/-- The output `o'` is solvent and shows the changes of `o` and these flows. -/
structure Accumulator.Shows (L : Ledger) (o : Accumulator) (fs : List Flow) (o' : Accumulator) : Prop where
  solvent : o'.Solvent L
  exact : ∀ a, o'.exactDelta a = o.exactDelta a + Flow.net fs a

namespace Accumulator.Shows

variable {L : Ledger} {o o' o'' : Accumulator}

theorem of_exactDelta (hs : o.Solvent L) (hexact : o'.exactDelta = o.exactDelta) (hparked : o'.parked = o.parked) :
    Shows L o [] o' :=
  ⟨hs.of_frame hexact hparked, fun a => by rw [hexact, Flow.net_nil, Int.add_zero]⟩

theorem refl (hs : o.Solvent L) : Shows L o [] o := of_exactDelta hs rfl rfl

theorem trans {fs gs : List Flow} (hf : Shows L o fs o') (hg : Shows L o' gs o'') : Shows L o (fs ++ gs) o'' :=
  ⟨hg.solvent, fun a => by rw [hg.exact, hf.exact, Flow.net_append, Int.add_assoc]⟩

theorem transfer (hL : L.Bounded) (hs : o.Solvent L) {sender receiver : Address} {value : U256} {data : Bytes}
    (ht : o.transfer L sender receiver value data = .ok o') : Shows L o [⟨sender, receiver, value⟩] o' := by
  refine ⟨hs.transfer hL ht, fun a => ?_⟩
  rw [exactDelta_transfer hL hs ht, Flow.net_cons, Flow.net_nil, Int.add_zero]

theorem finish (hs : o.Solvent L) (data : Bytes) : Shows L o [] (o.finish data) :=
  of_exactDelta hs (exactDelta_finish _ _) rfl

/-- A copy that is kept has the changes of the frame it came from. -/
theorem discard {fs : List Flow} (h : Shows L o fs o') (horigin : o'.origin = .shared) : Shows L o fs o'.discard :=
  ⟨h.solvent.discard horigin, fun a => by rw [exactDelta_discard horigin, h.exact]⟩

theorem fold (hL : L.Bounded) {fs : List Flow} (h : Shows L o fs o') (horigin : o'.origin = .isolated) :
    Shows L o fs o'.fold :=
  ⟨h.solvent.fold hL horigin, fun a => by rw [exactDelta_fold hL h.solvent horigin, h.exact]⟩

end Accumulator.Shows

/-- A run shows its flows at its end and at every moment. -/
structure Tracks (L : Ledger) (o : Accumulator) (ds : List (Deed ε)) (o' : Accumulator) : Prop where
  shows : o.Shows L (flowsOf ds) o'
  moments : ∀ fs m, Moment ds fs m → o.Shows L fs m.output

section Tracks

variable {L : Ledger} {o o' o'' : Accumulator}

theorem Tracks.append {ds es : List (Deed ε)} (hd : Tracks L o ds o') (he : Tracks L o' es o'') :
    Tracks L o (ds ++ es) o'' := by
  refine ⟨by rw [flowsOf_append]; exact hd.shows.trans he.shows, fun fs m hm => ?_⟩
  rcases hm.of_append with hfirst | ⟨gs, rfl, hlater⟩
  · exact hd.moments fs m hfirst
  · exact hd.shows.trans (he.moments gs m hlater)

/-- One deed; what is inside of a call starts with the call's value moved. -/
theorem Tracks.of_deed {d : Deed ε} (hs : d.before.output.Solvent L) (hshows : d.before.output.Shows L d.flows o')
    (hinside : ∀ before mode call input inside phases reply, d = .called before mode call input inside phases reply →
      ∀ fs m, Moment inside fs m →
        before.output.Shows L (⟨before.address, call.callee, call.value⟩ :: fs) m.output) :
    Tracks L d.before.output [d] o' := by
  refine ⟨by rwa [flowsOf_singleton], fun fs m hm => ?_⟩
  cases hm with
  | here => exact .refl hs
  | later hlater => cases hlater
  | inside hm => exact hinside _ _ _ _ _ _ _ rfl _ _ hm

/-- A call whose code did not run. -/
theorem Tracks.of_unrun {h : Host} {mode : CallMode} {call : NestedCall} {phases : List CallPhase}
    {reply : Except CallError CallOutcome} (hs : h.output.Solvent L)
    (hshows : h.output.Shows L (Deed.flows (.called h mode call none [] phases reply : Deed ε)) o') :
    Tracks L h.output [(.called h mode call none [] phases reply : Deed ε)] o' :=
  .of_deed (d := .called h mode call none [] phases reply) hs hshows fun _ _ _ _ _ _ _ hd _ _ hm => by
    cases hd
    cases hm

/-- A call whose code ran. -/
theorem Tracks.of_ran {h : Host} {mode : CallMode} {call : NestedCall} {input : Option CallInput}
    {inside : List (Deed ε)} {phases : List CallPhase} {reply : Except CallError CallOutcome} {inner end' : Accumulator}
    (hs : h.output.Solvent L) (hbegun : h.output.Shows L [⟨h.address, call.callee, call.value⟩] inner)
    (hinside : Tracks L inner inside end')
    (hshows : h.output.Shows L (Deed.flows (.called h mode call input inside phases reply)) o') :
    Tracks L h.output [.called h mode call input inside phases reply] o' :=
  .of_deed (d := .called h mode call input inside phases reply) hs hshows fun _ _ _ _ _ _ _ hd fs m hm => by
    cases hd
    exact hbegun.trans (hinside.moments fs m hm)

end Tracks

/-! ## Every step shows its flows -/

section Steps

open Accumulator

variable {S : Setting ε σ} {L : Ledger} {levels : Nat} {mode : CallMode} {call : NestedCall} {h inner : Host} {s : σ}

theorem Effect.shows {c : HostConfig} (hL : L.Bounded) {h' : Host} {r : Request} {reply : Except CallError r.Answer}
    (he : Effect c L h r reply h') (hs : h.output.Solvent L) :
    h.output.Shows L (Deed.flows (.asked h r reply : Deed ε)) h'.output := by
  cases he with
  | refused hm => exact .refl hs
  | observed hm hr =>
    rw [Deed.flows, hr]
    exact .refl hs
  | stored hm => exact .refl hs
  | finished hm => exact .finish hs _
  | transferred hm ht => exact .transfer hL hs ht
  | logged hm => exact .of_exactDelta hs (exactDelta_log _ _) rfl
  | upgraded hm => exact .of_exactDelta hs (exactDelta_deploy _ _ _ _) rfl

theorem shows_enter (hs : h.output.Solvent L) (mode : CallMode) (callee : Address) (gas : U64) :
    h.output.Shows L [] (h.enter mode callee gas).output := by
  cases mode with
  | sameContext => exact ⟨hs.push, fun a => by simp [Host.enter]⟩
  | destinationContext => exact ⟨hs.isolate, fun a => by simp [Host.enter]⟩

theorem shows_begun (hL : (S.ledger s).Bounded) (hs : h.output.Solvent (S.ledger s)) {input : CallInput}
    (hbegun : S.begun mode call h s = (.ok input, inner)) :
    h.output.Shows (S.ledger s) [⟨h.address, call.callee, call.value⟩] inner.output := by
  have hentered := shows_enter hs mode call.callee (h.grant call)
  obtain ⟨-, output, meter, -, ht, -, -, rfl⟩ := begun_ok hbegun
  exact hentered.trans (.transfer hL hentered.solvent ht)

theorem shows_afterSuccess (hL : L.Bounded) {o : Accumulator} {parent : Host} {gas : U64}
    (hsame : SameCall (parent.enter mode call.callee gas) inner) {fs : List Flow} (hshows : o.Shows L fs inner.output) :
    o.Shows L fs (parent.afterSuccess mode inner).output := by
  have hfinish : ∀ kept : Accumulator, o.Shows L fs kept → o.Shows L fs (kept.finish Host.successMarker) :=
    fun kept hkept => List.append_nil fs ▸ hkept.trans (.finish hkept.solvent _)
  cases mode with
  | sameContext => exact hfinish _ (hshows.discard hsame.origin)
  | destinationContext => exact hfinish _ (hshows.fold hL hsame.origin)

/-- A run on a ledger that stays tracks its flows, and the ledger stays. -/
def TracksFrom (S : Setting ε σ) (h : Host) (s : σ) (ds : List (Deed ε)) (h' : Host) (s' : σ) : Prop :=
  (S.ledger s).Bounded → h.output.Solvent (S.ledger s) →
    Tracks (S.ledger s) h.output ds h'.output ∧ S.ledger s' = S.ledger s

theorem Called.tracks
    (hinside : ∀ R, S.inside levels = some R → ∀ h s t, R h s t → TracksFrom S h s t.deeds t.host t.around)
    {t : Turn ε σ (Except CallError CallOutcome)} (hcall : Called S (S.inside levels) mode call h s t) :
    TracksFrom S h s t.deeds t.host t.around := by
  intro hL hs
  cases hcall with
  | doomed hfatal => exact ⟨.of_unrun hs (.refl hs), rfl⟩
  | tooDeep hfree hlevel he => exact ⟨.of_unrun hs (.refl hs), rfl⟩
  | unpaid hfree hlevel hmeter => exact ⟨.of_unrun hs (.refl hs), rfl⟩
  | unbegun hfree hlevel hmeter hbegun hcost => exact ⟨.of_unrun hs (.finish hs _), rfl⟩
  | @died R meter input inner t e hfree hlevel hmeter hbegun hrun hfatal =>
    have hbegins := shows_begun (h := { h with meter }) hL hs hbegun
    obtain ⟨htracks, hledger⟩ := hinside R hlevel inner s t hrun hL hbegins.solvent
    exact ⟨.of_ran hs hbegins htracks (.refl hs), hledger⟩
  | @failed R meter input inner t e cost hfree hlevel hmeter hbegun hrun hfatal hreply hcost =>
    have hbegins := shows_begun (h := { h with meter }) hL hs hbegun
    obtain ⟨htracks, hledger⟩ := hinside R hlevel inner s t hrun hL hbegins.solvent
    exact ⟨.of_ran hs hbegins htracks (.finish hs _), hledger⟩
  | @succeeded R meter input inner t hfree hlevel hmeter hbegun hrun hfatal hreply =>
    have hbegins := shows_begun (h := { h with meter }) hL hs hbegun
    obtain ⟨htracks, hledger⟩ := hinside R hlevel inner s t hrun hL hbegins.solvent
    have hsame := (sameCall_begun hbegun).trans (sameCall_inside hlevel hrun)
    have hend := hbegins.trans htracks.shows
    exact ⟨.of_ran hs hbegins htracks (shows_afterSuccess hL hsame hend), hledger⟩

theorem Runs.tracks (hfixed : ∀ e s, S.ledger (S.react e s) = S.ledger s) {t : Turn ε σ (Except CallError Unit)}
    (hrun : Runs S levels h s t) : TracksFrom S h s t.deeds t.host t.around := by
  refine hrun.of_deeds (Q := TracksFrom S) ?_ ?_ ?_ ?_ ?_
  · intro h s result hL hs
    exact ⟨.of_deed (d := .ended h result) hs (.refl hs) (by rintro _ _ _ _ _ _ _ ⟨⟩), rfl⟩
  · intro h s r reply h' heffect hL hs
    have hshows : h.output.Shows _ (Deed.flows (.asked h r reply : Deed ε)) h'.output := heffect.shows hL hs
    exact ⟨.of_deed (d := .asked h r reply) hs hshows (by rintro _ _ _ _ _ _ _ ⟨⟩), rfl⟩
  · intro levels mode call h s u hinside hcall
    exact hcall.tracks hinside
  · intro h s event hL hs
    exact ⟨.of_deed (d := .signalled h event) hs (.refl hs) (by rintro _ _ _ _ _ _ _ ⟨⟩), hfixed event s⟩
  · intro h s ds h' s' ds' h'' s'' hfirst hrest hL hs
    obtain ⟨hfirst, hledger⟩ := hfirst hL hs
    rw [TracksFrom, hledger] at hrest
    obtain ⟨hrest, hledger'⟩ := hrest hL hfirst.shows.solvent
    exact ⟨hfirst.append hrest, hledger'⟩

end Steps

end ContractHost

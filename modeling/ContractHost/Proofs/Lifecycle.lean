/-
  ContractHost.Proofs.Lifecycle — the phases of a nested call.

  A call that is entered leaves the phases that it went through, and each of them may follow
  the one before it (`CallPhase.Lawful`). Whatever has become of its code, the frame of its
  caller is on top of the parked ones when it comes to its end, and what it costs is there, so
  nothing comes between its success or failure and its return; only a depth on record keeps it
  from returning (`Lived`). A call is answered with a success exactly if it went through one,
  and no phase but execution leads there (`Setting.transact_lifecycle`).
-/

import ContractHost.Proofs.Points

namespace ContractHost

variable {ε σ : Type}

/-! ## Phases in order -/

namespace CallPhase

/-- Each phase may follow the one before it. -/
def Lawful (phases : List CallPhase) : Prop := phases.IsChain fun p q => p.precedes q = true

instance (phases : List CallPhase) : Decidable (Lawful phases) := inferInstanceAs (Decidable (List.IsChain _ _))

theorem eq_executing_of_precedes {p : CallPhase} (h : p.precedes .succeeded = true) : p = .executing := by
  cases p with
  | executing => rfl
  | entered | succeeded | failed | outOfGas | returned => cases h

/-- No success comes first, or after anything but execution. -/
theorem Lawful.executing_mem {p : CallPhase} {phases : List CallPhase} (h : Lawful (p :: phases))
    (hsucceeded : .succeeded ∈ phases) : .executing ∈ p :: phases := by
  induction phases generalizing p with
  | nil => cases hsucceeded
  | cons q rest ih =>
    obtain ⟨hpq, hrest⟩ := List.isChain_cons_cons.1 h
    rcases List.mem_cons.1 hsucceeded with rfl | hlater
    · rw [eq_executing_of_precedes hpq]
      exact List.mem_cons_self
    · exact List.mem_cons_of_mem p (ih hrest hlater)

theorem Lawful.executing_of_succeeded {phases : List CallPhase} (h : Lawful phases)
    (hentered : phases.head? = some .entered) (hsucceeded : .succeeded ∈ phases) : .executing ∈ phases := by
  cases phases with
  | nil => cases hentered
  | cons p rest =>
    cases hentered
    rcases List.mem_cons.1 hsucceeded with hfirst | hlater
    · cases hfirst
    · exact h.executing_mem hlater

theorem ofError_cases (e : CallError) : ofError e = .outOfGas ∨ ofError e = .failed := by
  unfold ofError
  split
  · exact .inl rfl
  · exact .inr rfl

/-- The phases of a call up to its end, by whether its code was reached. -/
def reached : Bool → List CallPhase
  | false => [entered]
  | true => [entered, executing]

/-- A failure may come with the code or before it, and is none the less no success. -/
theorem reached_failure (ran : Bool) (e : CallError) :
    Lawful (reached ran ++ [ofError e, returned]) ∧ succeeded ∉ reached ran ++ [ofError e, returned] := by
  rcases ofError_cases e with he | he <;> rw [he] <;> cases ran <;> decide

end CallPhase

/-! ## The end of a call -/

section Lived

variable (S : Setting ε σ)

/-- How a call that `parent` entered came to its end, with `result` and the host `last`: its code was not reached, or
    ended with them. -/
inductive Exits (mode : CallMode) (call : NestedCall) (parent : Host) (s : σ) :
    Option CallInput → List (Deed ε) → Except CallError Unit → Host → Prop
  | unreached {e : CallError} {last : Host} (hbegun : S.begun mode call parent s = (.error e, last)) :
      Exits mode call parent s none [] (.error e) last
  | ended {input : CallInput} {inner : Host} {inside : List (Deed ε)} {result : Except CallError Unit} {last : Host}
      (hbegun : S.begun mode call parent s = (.ok input, inner)) (hlast : inside.getLast? = some (.ended last result)) :
      Exits mode call parent s (some input) inside result last

/-- A call that was entered with `meter` left to its caller, and came to its end with `result` and the host `last`. -/
structure Lived (mode : CallMode) (call : NestedCall) (before : Host) (s : σ) (input : Option CallInput)
    (inside : List (Deed ε)) (phases : List CallPhase) (reply : Except CallError CallOutcome) (meter : Meter)
    (result : Except CallError Unit) (last : Host) : Prop where
  paid : before.meter.use? (Host.baseCost S.config mode) = some meter
  exits : Exits S mode call { before with meter } s input inside result last
  /-- The frame of the caller is there. -/
  parked : last.meter.pop? = some (last.meter.frame, meter)
  reply_eq : reply = (Host.settle S.config mode { before with meter } result last).reply
  phases_eq : phases = CallPhase.reached input.isSome ++ (Host.settle S.config mode { before with meter } result last).phases
  lawful : CallPhase.Lawful phases
  returned : phases.getLast? = some .returned ↔ last.fatal = none
  succeeded : .succeeded ∈ phases ↔ ∃ gas, reply = .ok (.succeeded gas)

end Lived

section Called

variable {S : Setting ε σ} {levels : Nat} {mode : CallMode} {call : NestedCall} {h : Host} {s : σ}

theorem Lived.entered {before : Host} {input : Option CallInput} {inside : List (Deed ε)} {phases : List CallPhase}
    {reply : Except CallError CallOutcome} {meter : Meter} {result : Except CallError Unit} {last : Host}
    (hlived : Lived S mode call before s input inside phases reply meter result last) :
    phases.head? = some .entered := by
  rw [hlived.phases_eq]
  cases input <;> rfl

/-- A call that fails and leaves no depth on record, whether or not its code was reached. -/
theorem Lived.of_failure {meter : Meter} {input : Option CallInput} {inside : List (Deed ε)} {e : CallError}
    {last : Host} {cost : U64} (hfree : h.fatal = none) (hpaid : h.meter.use? (Host.baseCost S.config mode) = some meter)
    (hexits : Exits S mode call { h with meter } s input inside (.error e) last)
    (hsame : SameCall (Host.enter { h with meter } mode call.callee (Host.grant { h with meter } call)) last)
    (hfatal : last.fatal = none)
    (hcost : cost = Host.charged S.config mode (Host.grant { h with meter } call) last.meter.frame.used) :
    Lived S mode call h s input inside (CallPhase.reached input.isSome ++ [.ofError e, .returned])
      (.ok (.failed e.returnCode e.message cost)) meter (.error e) last := by
  have hsettled := Host.settle_eq (c := S.config) hsame hfree (grant_le { h with meter } call) (.error e)
  rw [hfatal] at hsettled
  obtain ⟨hlawful, hsucceeded⟩ := CallPhase.reached_failure input.isSome e
  refine ⟨hpaid, hexits, Host.pop?_inner hsame, ?_, ?_, hlawful, ?_, ?_⟩
  · rw [hsettled, hcost]
  · rw [hsettled]
  · rw [List.getLast?_append]
    exact iff_of_true rfl hfatal
  · exact iff_of_false hsucceeded nofun

/-- A call was not entered, or lived to its end. -/
theorem Called.lives {input : Option CallInput} {inside : List (Deed ε)} {phases : List CallPhase}
    {u : Turn ε σ (Except CallError CallOutcome)} (hcall : Called S (S.inside levels) mode call h s u)
    (hdeeds : u.deeds = [.called h mode call input inside phases u.reply]) :
    (phases = [] ∧ (h.fatal ≠ none ∨ levels = 0 ∨ h.meter.left < Host.baseCost S.config mode) ∧
        ∀ outcome, u.reply ≠ .ok outcome) ∨
      (h.fatal = none ∧ levels ≠ 0 ∧ ∃ meter result last,
        Lived S mode call h s input inside phases u.reply meter result last) := by
  cases hcall with
  | doomed hfatal =>
    cases hdeeds
    exact .inl ⟨rfl, .inl (by simp [hfatal]), nofun⟩
  | tooDeep hfree hlevel he =>
    cases hdeeds
    exact .inl ⟨rfl, .inr (.inl (inside_eq_none hlevel)), nofun⟩
  | unpaid hfree hlevel hmeter =>
    cases hdeeds
    exact .inl ⟨rfl, .inr (.inr (Meter.use?_eq_none_iff.1 hmeter)), nofun⟩
  | @unbegun R meter e last cost hfree hlevel hmeter hbegun hcost =>
    cases hdeeds
    obtain ⟨levels', rfl, rfl⟩ := inside_eq_some hlevel
    exact .inr ⟨hfree, Nat.succ_ne_zero levels', meter, .error e, last,
      .of_failure hfree hmeter (.unreached hbegun) (sameCall_begun hbegun) ((fatal_begun hbegun).trans hfree) hcost⟩
  | @died R meter input inner t e hfree hlevel hmeter hbegun hrun hfatal =>
    cases hdeeds
    obtain ⟨levels', rfl, rfl⟩ := inside_eq_some hlevel
    have hsame := (sameCall_begun hbegun).trans hrun.sameCall
    have hsettled := Host.settle_eq (c := S.config) hsame hfree (grant_le { h with meter } call) t.reply
    rw [hfatal] at hsettled
    refine .inr ⟨hfree, Nat.succ_ne_zero levels', meter, t.reply, t.host, hmeter, .ended hbegun hrun.getLast_deeds,
      Host.pop?_inner hsame, ?_, ?_, by decide, iff_of_false (by decide) ?_, iff_of_false (by decide) nofun⟩
    · rw [hsettled]
    · rw [hsettled]
      rfl
    · rw [hfatal]
      exact nofun
  | @failed R meter input inner t e cost hfree hlevel hmeter hbegun hrun hfatal hreply hcost =>
    cases hdeeds
    obtain ⟨levels', rfl, rfl⟩ := inside_eq_some hlevel
    have hsame := (sameCall_begun hbegun).trans hrun.sameCall
    have hlast := hrun.getLast_deeds
    rw [hreply] at hlast
    exact .inr ⟨hfree, Nat.succ_ne_zero levels', meter, .error e, t.host,
      .of_failure hfree hmeter (.ended hbegun hlast) hsame hfatal hcost⟩
  | @succeeded R meter input inner t hfree hlevel hmeter hbegun hrun hfatal hreply =>
    cases hdeeds
    obtain ⟨levels', rfl, rfl⟩ := inside_eq_some hlevel
    have hsame := (sameCall_begun hbegun).trans hrun.sameCall
    have hsettled := Host.settle_eq (c := S.config) hsame hfree (grant_le { h with meter } call) (.ok ())
    have hlast := hrun.getLast_deeds
    rw [hreply] at hlast
    rw [hfatal] at hsettled
    refine .inr ⟨hfree, Nat.succ_ne_zero levels', meter, .ok (), t.host, hmeter, .ended hbegun hlast,
      Host.pop?_inner hsame, ?_, ?_, by decide, iff_of_true rfl hfatal, iff_of_true (by decide) ⟨_, rfl⟩⟩
    · rw [hsettled]
    · rw [hsettled]
      rfl

end Called

/-! ## Transactions -/

/-- A nested call of a transaction is not entered exactly for a depth on record, for its own depth or for its base
    price. All its phases are allowed, it is answered with a success exactly if it went through one, and then its code
    has executed. Once it is entered it comes to its end with the frame of its caller parked, and returns unless a depth
    is on record there. -/
theorem Setting.transact_lifecycle (S : Setting ε σ) (tx : Transaction) (gas : U64) (s : σ) :
    ∀ calls before mode call input inside phases reply rest,
      Point (S.transact tx (.start gas) s).deeds calls (.called before mode call input inside phases reply :: rest) →
      (phases = [] ↔ before.fatal ≠ none ∨ before.depth = S.config.maxCallDepth.val ∨
        before.meter.left < Host.baseCost S.config mode) ∧
      CallPhase.Lawful phases ∧
      (.succeeded ∈ phases ↔ ∃ gas', reply = .ok (.succeeded gas')) ∧ (.succeeded ∈ phases → .executing ∈ phases) ∧
      (phases ≠ [] → phases.head? = some .entered ∧ ∃ s' meter result last,
        Lived S mode call before s' input inside phases reply meter result last) := by
  intro calls before mode call input inside phases reply rest hpoint
  obtain ⟨-, result, hended⟩ | ⟨d', rest', lv, s₁, s₂, rfl, hlv, hstep⟩ := deed_of_point hpoint
  · cases hended
  have hlv : lv + before.depth = S.config.maxCallDepth.val := hlv
  generalize d'.before = after at hstep
  cases hstep with
  | called hcall hdeeds =>
    obtain ⟨rfl, hrefused, herror⟩ | ⟨hfree, hlevels, meter, result, last, hlived⟩ := hcall.lives hdeeds
    · refine ⟨iff_of_true rfl ?_, .nil, iff_of_false List.not_mem_nil ?_, nofun, fun hne => absurd rfl hne⟩
      · rcases hrefused with hfatal | rfl | hunpaid
        · exact .inl hfatal
        · exact .inr (.inl (by omega))
        · exact .inr (.inr hunpaid)
      · rintro ⟨gas', hreply⟩
        exact herror _ hreply
    · have hentered := hlived.entered
      have hpaid := hlived.paid
      refine ⟨iff_of_false ?_ ?_, hlived.lawful, hlived.succeeded, fun hsucceeded => ?_,
        fun _ => ⟨hentered, s₁, meter, result, last, hlived⟩⟩
      · rintro rfl
        cases hentered
      · rintro (hfatal | hdepth | hunpaid)
        · exact hfatal hfree
        · omega
        · cases (Meter.use?_eq_none_iff.2 hunpaid).symm.trans hpaid
      · exact hlived.lawful.executing_of_succeeded hentered hsucceeded

/-- Code that calls an account without code, and then itself once more than it may. -/
def strayingGuest (input : CallInput) : Guest Unit :=
  if input.depth = 0 then
    .call .destinationContext ⟨.named "nobody", 0, "f", [], 1000⟩ fun _ =>
      .call .sameContext ⟨input.callee, 0, "again", [], 5000⟩ fun _ => .done (.ok ())
  else .call .sameContext ⟨input.callee, 0, "again", [], 1000⟩ fun _ => .done (.ok ())

def strayingSetting : Setting Unit World :=
  ⟨{ HostConfig.standard with maxCallDepth := 1 }, strayingGuest, World.ledger, fun _ w => w⟩

def strayingWorld : World := .ofSteps [.putAccount (.named "bob") ⟨40, 0, [7], .none⟩]

def strayingCall : Transaction := .call (.named "alice") (.named "bob") "f" 100000

/-- Whether the next deed at a point is a call that went through these phases. -/
def livedThrough (phases : List CallPhase) (p : List (OpenCall Unit) × List (Deed Unit)) : Bool :=
  match p.2 with
  | .called _ _ _ _ _ phases' _ :: _ => phases' = phases
  | _ => false

theorem exists_livedThrough {ds : List (Deed Unit)} {phases : List CallPhase}
    (hfound : (pointsOf [] ds).any (livedThrough phases) = true) :
    ∃ calls before mode call input inside reply rest,
      Point ds calls (.called before mode call input inside phases reply :: rest) := by
  obtain ⟨calls, rest, hpoint, hlived⟩ := exists_point_of_any hfound
  unfold livedThrough at hlived
  dsimp only at hlived
  split at hlived
  · cases of_decide_eq_true hlived
    exact ⟨_, _, _, _, _, _, _, _, hpoint⟩
  · cases hlived

/-- The call of no code fails and returns; that of its own code executes, and does not return. -/
theorem Setting.transact_lifecycle_straying :
    let t := strayingSetting.transact strayingCall (.start 100000) strayingWorld
    (∃ calls before mode call input inside reply rest,
      Point t.deeds calls (.called before mode call input inside [.entered, .failed, .returned] reply :: rest) ∧
      ∃ s meter result last, Lived strayingSetting mode call before s input inside [.entered, .failed, .returned] reply
        meter result last ∧ last.fatal = none) ∧
    ∃ calls before mode call input inside reply rest,
      Point t.deeds calls (.called before mode call input inside [.entered, .executing] reply :: rest) ∧
      ∃ s meter result last, Lived strayingSetting mode call before s input inside [.entered, .executing] reply
        meter result last ∧ last.fatal ≠ none := by
  intro t
  have hlives := strayingSetting.transact_lifecycle strayingCall 100000 strayingWorld
  constructor
  · have hfailed : (pointsOf [] t.deeds).any (livedThrough [.entered, .failed, .returned]) = true := by decide +kernel
    obtain ⟨calls, before, mode, call, input, inside, reply, rest, hpoint⟩ := exists_livedThrough hfailed
    obtain ⟨-, s, meter, result, last, hlived⟩ := (hlives _ _ _ _ _ _ _ _ _ hpoint).2.2.2.2 nofun
    exact ⟨_, _, _, _, _, _, _, _, hpoint, s, meter, result, last, hlived, hlived.returned.1 rfl⟩
  · have hdied : (pointsOf [] t.deeds).any (livedThrough [.entered, .executing]) = true := by decide +kernel
    obtain ⟨calls, before, mode, call, input, inside, reply, rest, hpoint⟩ := exists_livedThrough hdied
    obtain ⟨-, s, meter, result, last, hlived⟩ := (hlives _ _ _ _ _ _ _ _ _ hpoint).2.2.2.2 nofun
    refine ⟨_, _, _, _, _, _, _, _, hpoint, s, meter, result, last, hlived, fun hfree => ?_⟩
    cases hlived.returned.2 hfree

end ContractHost

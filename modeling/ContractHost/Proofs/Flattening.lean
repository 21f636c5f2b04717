/-
  ContractHost.Proofs.Flattening — finish data and logs are the calls laid flat.

  The deeds of a run say what it adds to both lists of the output, in order: the blocks of
  finish data (`blocksOf`) and the log entries (`entriesOf`). A call that succeeded adds
  what its code added and then a marker, one that failed adds its marker only, and a call
  that answers neither adds nothing. Whether the code of a call worked on a copy of its
  caller's frame or on an empty one that was folded in later makes no difference: from any
  host a run adds exactly these (`Runs.adds`), and the output of a success has nothing
  else (`Setting.transact_flattens`).
-/

import ContractHost.Proofs.Prices
import ContractHost.Proofs.Transactions

namespace ContractHost

variable {ε σ : Type}

/-! ## What deeds add -/

mutual

/-- The blocks of finish data that a deed adds, in order. -/
def Deed.blocks : Deed ε → List Bytes
  | .asked _ (.finish data) (.ok _) => [data]
  | .called _ _ _ _ inside _ (.ok (.succeeded _)) => blocksOf inside ++ [Host.successMarker]
  | .called _ _ _ _ _ _ (.ok (.failed _ _ _)) => [Host.failureMarker]
  | _ => []
termination_by structural d => d

def blocksOf : List (Deed ε) → List Bytes
  | [] => []
  | d :: ds => d.blocks ++ blocksOf ds
termination_by structural ds => ds

end

mutual

/-- The log entries that a deed adds, each with the account that was running. -/
def Deed.entries : Deed ε → List LogEntry
  | .asked before (.log identifier topics data) (.ok _) => [⟨before.address, identifier, topics, data⟩]
  | .called _ _ _ _ inside _ (.ok (.succeeded _)) => entriesOf inside
  | _ => []
termination_by structural d => d

def entriesOf : List (Deed ε) → List LogEntry
  | [] => []
  | d :: ds => d.entries ++ entriesOf ds
termination_by structural ds => ds

end

theorem blocksOf_append (ds es : List (Deed ε)) : blocksOf (ds ++ es) = blocksOf ds ++ blocksOf es :=
  collected_append rfl (fun _ _ => rfl) ds es

theorem entriesOf_append (ds es : List (Deed ε)) : entriesOf (ds ++ es) = entriesOf ds ++ entriesOf es :=
  collected_append rfl (fun _ _ => rfl) ds es

/-! ## Frames that grow -/

/-- `g` has the lists of `f` and then these blocks and entries. -/
structure OutputFrame.Adds (f : OutputFrame) (blocks : List Bytes) (entries : List LogEntry) (g : OutputFrame) :
    Prop where
  finishData : g.finishData = f.finishData ++ blocks
  logs : g.logs = f.logs ++ entries

namespace OutputFrame.Adds

variable {f g k : OutputFrame} {bs bs' : List Bytes} {es es' : List LogEntry}

theorem of_eq (hfinish : g.finishData = f.finishData) (hlogs : g.logs = f.logs) : Adds f [] [] g :=
  ⟨hfinish.trans (List.append_nil _).symm, hlogs.trans (List.append_nil _).symm⟩

theorem refl (f : OutputFrame) : Adds f [] [] f := of_eq rfl rfl

theorem trans (h : Adds f bs es g) (h' : Adds g bs' es' k) : Adds f (bs ++ bs') (es ++ es') k := by
  refine ⟨?_, ?_⟩
  · rw [h'.finishData, h.finishData, List.append_assoc]
  · rw [h'.logs, h.logs, List.append_assoc]

/-- What is in a frame that began empty is added to the frame that it is put over. -/
theorem merge (h : Adds .empty bs es g) (f : OutputFrame) : Adds f bs es (f.merge g) :=
  ⟨congrArg (f.finishData ++ ·) h.finishData, congrArg (f.logs ++ ·) h.logs⟩

end OutputFrame.Adds

namespace Accumulator

theorem adds_finish (o : Accumulator) (data : Bytes) : o.frame.Adds [data] [] (o.finish data).frame :=
  ⟨rfl, (List.append_nil _).symm⟩

theorem adds_log (o : Accumulator) (entry : LogEntry) : o.frame.Adds [] [entry] (o.log entry).frame :=
  ⟨(List.append_nil _).symm, rfl⟩

theorem adds_transfer {L : Ledger} {o o' : Accumulator} {sender receiver : Address} {value : U256} {data : Bytes}
    (ht : o.transfer L sender receiver value data = .ok o') : o.frame.Adds [] [] o'.frame := by
  rcases transfer_cases ht with rfl | ⟨-, rfl⟩
  · unfold moved mark
    split <;> exact .of_eq rfl rfl
  · exact .refl o'.frame

theorem adds_placed (o : Accumulator) (tx : Transaction) (callee : Address) :
    o.frame.Adds [] [] (o.placed tx callee).frame := by
  unfold placed
  split <;> exact .of_eq rfl rfl

end Accumulator

/-! ## Runs -/

/-- Of all requests only the two that are for them add to the lists. -/
theorem Effect.adds_nothing {c : HostConfig} {L : Ledger} {h h' : Host} {r : Request} {reply : Except CallError r.Answer}
    (he : Effect c L h r reply h') (hfinish : ∀ data, r ≠ .finish data)
    (hlog : ∀ identifier topics data, r ≠ .log identifier topics data) :
    h.output.frame.Adds [] [] h'.output.frame := by
  cases he with
  | refused hm => exact .refl _
  | observed hm hr => exact .refl _
  | stored hm => exact .refl _
  | finished hm => exact absurd rfl (hfinish _)
  | transferred hm ht => exact Accumulator.adds_transfer ht
  | logged hm => exact absurd rfl (hlog _ _ _)
  | upgraded hm => exact .of_eq rfl rfl

theorem Request.adds {c : HostConfig} {L : Ledger} {h h' : Host} {r : Request} {reply : Except CallError r.Answer}
    (hperform : r.perform c L h = (reply, h')) :
    h.output.frame.Adds (Deed.blocks (.asked h r reply : Deed ε)) (Deed.entries (.asked h r reply : Deed ε))
      h'.output.frame := by
  have hcosts := r.perform_costs c L h
  have he := Effect.of_perform hperform
  cases r with
  | finish data =>
    rcases hcosts with ⟨e, hx⟩ | ⟨meter, -, hx⟩ <;> cases hx.symm.trans hperform
    · exact .refl _
    · exact Accumulator.adds_finish _ _
  | log identifier topics data =>
    rcases hcosts with ⟨e, hx⟩ | ⟨meter, -, hx⟩ <;> cases hx.symm.trans hperform
    · exact .refl _
    · exact Accumulator.adds_log _ _
  | _ => exact he.adds_nothing nofun nofun

section Runs

variable {S : Setting ε σ} {levels : Nat} {mode : CallMode} {call : NestedCall} {h inner : Host} {s : σ}

/-- A call whose code begins has added nothing yet to the frame in which it was entered. -/
theorem adds_begun {input : CallInput} (hbegun : S.begun mode call h s = (.ok input, inner)) :
    (h.enter mode call.callee (h.grant call)).output.frame.Adds [] [] inner.output.frame := by
  obtain ⟨-, output, meter, -, ht, -, -, rfl⟩ := begun_ok hbegun
  exact Accumulator.adds_transfer ht

/-- What the code of a call adds to the frame in which it was entered a success adds to the caller's, and a marker. -/
theorem adds_afterSuccess {parent : Host} {callee : Address} {gas : U64} {bs : List Bytes} {es : List LogEntry}
    (hsame : SameCall (parent.enter mode callee gas) inner)
    (hadds : (parent.enter mode callee gas).output.frame.Adds bs es inner.output.frame) :
    parent.output.frame.Adds (bs ++ [Host.successMarker]) es (parent.afterSuccess mode inner).output.frame := by
  have hmarked : ∀ kept : Accumulator, parent.output.frame.Adds bs es kept.frame →
      parent.output.frame.Adds (bs ++ [Host.successMarker]) es (kept.finish Host.successMarker).frame :=
    fun kept hkept => List.append_nil es ▸ hkept.trans (kept.adds_finish _)
  cases mode with
  | sameContext =>
    rw [Host.output_afterSuccess_same hsame]
    exact hmarked _ hadds
  | destinationContext =>
    rw [Host.output_afterSuccess_destination hsame]
    exact hmarked _ (hadds.merge _)

theorem Called.adds
    (hinside : ∀ R, S.inside levels = some R → ∀ h s t, R h s t →
      h.output.frame.Adds (blocksOf t.deeds) (entriesOf t.deeds) t.host.output.frame)
    {u : Turn ε σ (Except CallError CallOutcome)} (hcall : Called S (S.inside levels) mode call h s u) :
    h.output.frame.Adds (blocksOf u.deeds) (entriesOf u.deeds) u.host.output.frame := by
  cases hcall with
  | doomed hfatal => exact .refl _
  | tooDeep hfree hlevel he => exact .refl _
  | unpaid hfree hlevel hmeter => exact .refl _
  | unbegun hfree hlevel hmeter hbegun hcost => exact Accumulator.adds_finish _ _
  | died hfree hlevel hmeter hbegun hrun hfatal => exact .refl _
  | failed hfree hlevel hmeter hbegun hrun hfatal hreply hcost => exact Accumulator.adds_finish _ _
  | @succeeded R meter input inner t hfree hlevel hmeter hbegun hrun hfatal hreply =>
    have hsame := (sameCall_begun hbegun).trans (sameCall_inside hlevel hrun)
    have hadds := (adds_begun hbegun).trans (hinside R hlevel _ _ _ hrun)
    have hafter := adds_afterSuccess hsame hadds
    simpa [blocksOf, entriesOf, Deed.blocks, Deed.entries] using hafter

/-- Every run of guest code adds the blocks and the entries of its deeds, and nothing else. -/
theorem Runs.adds {t : Turn ε σ (Except CallError Unit)} (hrun : Runs S levels h s t) :
    h.output.frame.Adds (blocksOf t.deeds) (entriesOf t.deeds) t.host.output.frame := by
  refine hrun.of_performed
    (Q := fun h _ ds h' _ => h.output.frame.Adds (blocksOf ds) (entriesOf ds) h'.output.frame) ?_ ?_ ?_ ?_ ?_
  · intro h s result
    exact .refl _
  · intro h s r reply h' hperform
    have hadds := Request.adds (ε := ε) hperform
    rwa [← List.append_nil (Deed.blocks _), ← List.append_nil (Deed.entries _)] at hadds
  · intro levels mode call h s u hinside hcall
    exact hcall.adds hinside
  · intro h s event
    exact .refl _
  · intro h s ds h' s' ds' h'' s'' hfirst hrest
    rw [blocksOf_append, entriesOf_append]
    exact hfirst.trans hrest

theorem Processed.adds {tx : Transaction} {t : Turn ε σ (Except CallError Unit)} (hp : Processed S tx h s t)
    (hreply : t.reply = .ok ()) :
    h.output.frame.Adds (blocksOf t.deeds) (entriesOf t.deeds) t.host.output.frame := by
  cases hp with
  | rejected e h' => cases hreply
  | paid hkind hcallee ht => exact (h.output.adds_placed tx _).trans (Accumulator.adds_transfer ht)
  | ran hkind hcallee ht hmeter hrun =>
    exact ((h.output.adds_placed tx _).trans (Accumulator.adds_transfer ht)).trans hrun.adds

end Runs

/-- The finish data and the logs of a success are those of its deeds, in order. -/
theorem Setting.transact_flattens (S : Setting ε σ) (tx : Transaction) (gas : U64) (s : σ)
    (hsuccess : (S.transact tx (.start gas) s).reply.isSuccess = true) :
    let t := S.transact tx (.start gas) s
    t.reply.finishData = blocksOf t.deeds ∧ t.reply.logs = entriesOf t.deeds := by
  intro t
  obtain ⟨-, hreply, hfinal⟩ := Host.conclude_success hsuccess
  have hadds := (S.process_processed tx (.start gas) s).adds hreply
  have hout : t.reply = _ := hfinal
  rw [hout]
  exact ⟨hadds.finishData, hadds.logs⟩

/-- Code that calls the same code in both contexts; that logs, has a call of its own fail and finishes. -/
def mixingGuest (input : CallInput) : Guest Unit :=
  match input.depth with
  | 0 =>
    .ask (.finish [1]) fun _ =>
      .call .sameContext ⟨.named "carol", 0, "inner", [], 30000⟩ fun _ =>
        .call .destinationContext ⟨.named "carol", 0, "inner", [], 30000⟩ fun _ => .done (.ok ())
  | 1 =>
    .ask (.log [2] [] []) fun _ =>
      .call .destinationContext ⟨.named "bob", 0, "innermost", [], 1000⟩ fun _ =>
        .ask (.finish [3]) fun reply => .done reply
  | _ => .ask (.log [4] [] []) fun _ => .done (.error .outOfFunds)

def mixingSetting : Setting Unit World := ⟨.standard, mixingGuest, World.ledger, fun _ w => w⟩

def mixingWorld : World :=
  .ofSteps [.putAccount (.named "bob") ⟨0, 0, [7], .none⟩, .putAccount (.named "carol") ⟨0, 0, [8], .none⟩]

def mixingCall : Transaction := .call (.named "alice") (.named "bob") "outer" 100000

theorem Setting.transact_flattens_mixing :
    let t := mixingSetting.transact mixingCall (.start 100000) mixingWorld
    t.reply.isSuccess = true ∧
      t.reply.finishData = [[1], Host.failureMarker, [3], Host.successMarker, Host.failureMarker, [3],
        Host.successMarker] ∧
      t.reply.logs = [⟨.named "bob", [2], [], []⟩, ⟨.named "carol", [2], [], []⟩] :=
  have hsuccess := by decide +kernel
  have hflat := mixingSetting.transact_flattens mixingCall 100000 mixingWorld hsuccess
  ⟨hsuccess, hflat.1.trans (by decide +kernel), hflat.2.trans (by decide +kernel)⟩

end ContractHost

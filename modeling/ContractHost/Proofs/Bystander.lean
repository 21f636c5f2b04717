/-
  ContractHost.Proofs.Bystander — an account that never runs cannot lose anything.

  Code writes, logs, upgrades and pays only in the account of its call, and only calls in a
  destination context change that account. So a run spares every account but its own and
  those destinations (`Runs.spares`): nothing is staged there, its record has the same code
  and updates, no log carries its address, and its balance change goes up only, even where
  sums are stopped. Calls in the same context may run any code and change nothing of this.
  For a whole transaction what is left to lose is the value that its sender sends
  (`Setting.transact_spares`).
-/

import ContractHost.Proofs.Transactions

namespace ContractHost

variable {ε σ : Type}

/-! ## Sparing an account -/

/-- The record of `X` in the frame `g` is the one in `f`, but for call data and a balance that
    has lost `loss` at most, and no log of `X` is new. -/
structure OutputFrame.Spares (X : Address) (loss : Nat) (f g : OutputFrame) : Prop where
  code : (g.account X).code = (f.account X).code
  metadata : (g.account X).metadata = (f.account X).metadata
  updates : (g.account X).updates = (f.account X).updates
  delta : (f.deltaOf X).toInt - loss ≤ (g.deltaOf X).toInt
  logs : ∀ entry ∈ g.logs, entry.address = X → entry ∈ f.logs

namespace OutputFrame.Spares

variable {X : Address} {f g k : OutputFrame}

theorem refl (X : Address) (f : OutputFrame) : Spares X 0 f f := ⟨rfl, rfl, rfl, by omega, fun _ h _ => h⟩

theorem trans {m n : Nat} (h : Spares X m f g) (h' : Spares X n g k) : Spares X (m + n) f k where
  code := h'.code.trans h.code
  metadata := h'.metadata.trans h.metadata
  updates := h'.updates.trans h.updates
  delta := by
    have := h.delta
    have := h'.delta
    omega
  logs entry hk hX := h.logs entry (h'.logs entry hk hX) hX

/-- A change of another account. -/
theorem update_ne {a : Address} (ha : a ≠ X) (f : OutputFrame) (change : OutputAccount → OutputAccount) :
    Spares X 0 f (f.update a change) := by
  have haccount : (f.update a change).account X = f.account X := by
    rw [account_update, if_neg ha]
  refine ⟨?_, ?_, ?_, ?_, fun _ h _ => h⟩
  · rw [haccount]
  · rw [haccount]
  · rw [haccount]
  · rw [deltaOf_update, if_neg ha]
    omega

/-- A change of any account that touches only call data and balance. -/
theorem update_delta {loss : Nat} {a : Address} {change : OutputAccount → OutputAccount}
    (hchange : ∀ o, (change o).code = o.code ∧ (change o).metadata = o.metadata ∧ (change o).updates = o.updates ∧
      o.delta.toInt - loss ≤ (change o).delta.toInt) (f : OutputFrame) :
    Spares X loss f (f.update a change) := by
  by_cases ha : a = X
  · subst ha
    obtain ⟨hcode, hmetadata, hupdates, hdelta⟩ := hchange (f.account a)
    have haccount : (f.update a change).account a = change (f.account a) := by
      rw [account_update, if_pos rfl]
    refine ⟨?_, ?_, ?_, ?_, fun _ h _ => h⟩
    · rw [haccount, hcode]
    · rw [haccount, hmetadata]
    · rw [haccount, hupdates]
    · rw [deltaOf_update, if_pos rfl]
      exact hdelta
  · have hother := update_ne ha f change
    have hdelta := hother.delta
    exact ⟨hother.code, hother.metadata, hother.updates, by omega, hother.logs⟩

/-- A frame that began empty and spared `X` spares it when it is folded. -/
theorem merge (h : Spares X 0 .empty g) (f : OutputFrame) : Spares X 0 f (f.merge g) := by
  have hcode : (g.account X).code = none := by rw [h.code, account_empty]; rfl
  have hupdates : (g.account X).updates = ∅ := by rw [h.updates, account_empty]; rfl
  have hdelta : 0 ≤ (g.deltaOf X).toInt := by
    have := h.delta
    rw [deltaOf_empty, Delta.toInt_zero] at this
    omega
  refine ⟨?_, ?_, ?_, ?_, fun entry hentry hX => ?_⟩
  · rw [account_merge, OutputAccount.merge, hcode]
    rfl
  · rw [account_merge, OutputAccount.merge, hcode]
    rfl
  · rw [account_merge, OutputAccount.merge, hupdates]
    exact AccountStorage.union_empty _
  · have := Delta.le_toInt_add (a := f.deltaOf X) hdelta
    rw [deltaOf_merge]
    omega
  · rcases List.mem_append.1 hentry with hf | hg
    · exact hf
    · cases h.logs entry hg hX

end OutputFrame.Spares

/-- A change of any balance that takes `loss` at most. -/
theorem Accumulator.spares_addToBalance {loss : Nat} {d : Delta} (hd : ∀ r : Delta, r.toInt - loss ≤ (r + d).toInt)
    (X : Address) (o : Accumulator) (a : Address) : o.frame.Spares X loss (o.addToBalance a d).frame := by
  show o.frame.Spares X loss (o.frame.update a fun r => { r with delta := r.delta + d })
  refine .update_delta ?_ o.frame
  exact fun r => ⟨rfl, rfl, rfl, hd r.delta⟩

theorem Accumulator.spares_mark (X : Address) (o : Accumulator) (receiver : Address) (data : Bytes) :
    o.frame.Spares X 0 (o.mark receiver data).frame := by
  unfold mark
  split
  · exact .refl X _
  · show o.frame.Spares X 0 (o.frame.update receiver fun r => { r with callData := data })
    refine .update_delta ?_ o.frame
    exact fun r => ⟨rfl, rfl, rfl, Int.sub_le_self _ (Int.natCast_nonneg 0)⟩

/-- What a transfer takes from `X` is at most its value, and nothing where `X` is not the sender. -/
theorem Accumulator.spares_transfer {L : Ledger} {o o' : Accumulator} {sender receiver : Address} {value : U256}
    {data : Bytes} (ht : o.transfer L sender receiver value data = .ok o') (X : Address) :
    o.frame.Spares X (if sender = X then value.val else 0) o'.frame := by
  have hdebit : o.frame.Spares X (if sender = X then value.val else 0) (o.addToBalance sender (.debit value)).frame := by
    split
    · exact spares_addToBalance (fun r => r.sub_le_toInt_add_debit value) X o sender
    · rename_i hne
      exact .update_ne hne o.frame fun r => { r with delta := r.delta + .debit value }
  have hcredit : ∀ r : Delta, r.toInt - (0 : Nat) ≤ (r + .credit value).toInt := by
    intro r
    have := Delta.le_toInt_add (a := r) (b := .credit value) (by rw [Delta.toInt_credit]; omega)
    omega
  rcases transfer_cases ht with rfl | ⟨hzero, rfl⟩
  · exact (hdebit.trans (spares_addToBalance hcredit X _ receiver)).trans (spares_mark X _ receiver data)
  · rw [Capped.eq_zero_iff.1 hzero, ite_self]
    exact .refl X _

theorem Accumulator.spares_finish (X : Address) (o : Accumulator) (data : Bytes) :
    o.frame.Spares X 0 (o.finish data).frame :=
  ⟨rfl, rfl, rfl, Int.sub_le_self _ (Int.natCast_nonneg 0), fun _ hentry _ => hentry⟩

theorem Accumulator.spares_log {X : Address} {entry : LogEntry} (hne : entry.address ≠ X) (o : Accumulator) :
    o.frame.Spares X 0 (o.log entry).frame := by
  refine ⟨rfl, rfl, rfl, Int.sub_le_self _ (Int.natCast_nonneg 0), fun other hother hX => ?_⟩
  rcases List.mem_append.1 hother with hold | hnew
  · exact hold
  · cases List.mem_singleton.1 hnew
    exact absurd hX hne

theorem Accumulator.spares_deploy {X a : Address} (hne : a ≠ X) (o : Accumulator) (code : Bytes)
    (metadata : CodeMetadata) : o.frame.Spares X 0 (o.deploy a code metadata).frame :=
  .update_ne hne o.frame fun r => { r with code := some code, metadata := some metadata }

/-- A host after another: nothing new is staged for `X`, and the frame spares it. -/
structure Host.Spares (X : Address) (h h' : Host) : Prop where
  staged : h'.staging.updates X = h.staging.updates X
  frame : h.output.frame.Spares X 0 h'.output.frame

namespace Host.Spares

variable {X : Address} {h h' h'' : Host}

theorem refl (X : Address) (h : Host) : Spares X h h := ⟨rfl, .refl X _⟩

theorem trans (hs : Spares X h h') (hs' : Spares X h' h'') : Spares X h h'' :=
  ⟨hs'.staged.trans hs.staged, hs.frame.trans hs'.frame⟩

/-- A transfer out of another account. -/
theorem transfer {L : Ledger} {sender receiver : Address} {value : U256} {data : Bytes} (hne : sender ≠ X)
    (hstaged : h'.staging.updates X = h.staging.updates X)
    (ht : h.output.transfer L sender receiver value data = .ok h'.output) : Spares X h h' := by
  have hframe := Accumulator.spares_transfer ht X
  rw [if_neg hne] at hframe
  exact ⟨hstaged, hframe⟩

end Host.Spares

theorem Staging.updates_put_ne {s : Staging} {X : Address} (hne : s.frame.address ≠ X) (key value : Bytes) :
    (s.put key value).updates X = s.updates X := by
  rw [updates_put, if_neg hne]

/-! ## Every step spares the others -/

theorem Effect.spares {c : HostConfig} {L : Ledger} {h h' : Host} {r : Request} {reply : Except CallError r.Answer}
    {X : Address} (he : Effect c L h r reply h') (hne : h.address ≠ X) : h.Spares X h' := by
  cases he with
  | refused hm => exact ⟨rfl, .refl X _⟩
  | observed hm => exact ⟨rfl, .refl X _⟩
  | stored hm => exact ⟨Staging.updates_put_ne hne _ _, .refl X _⟩
  | finished hm => exact ⟨rfl, Accumulator.spares_finish X _ _⟩
  | transferred hm ht => exact .transfer hne rfl ht
  | logged hm => exact ⟨rfl, Accumulator.spares_log hne _⟩
  | upgraded hm => exact ⟨Staging.updates_put_ne hne _ _, Accumulator.spares_deploy hne _ _ _⟩

mutual

/-- The accounts that calls in a destination context named, those inside of calls in their places. -/
def Deed.destinations : Deed ε → List Address
  | .called _ .destinationContext call _ inside _ _ => call.callee :: destinationsOf inside
  | .called _ .sameContext _ _ inside _ _ => destinationsOf inside
  | _ => []
termination_by structural d => d

def destinationsOf : List (Deed ε) → List Address
  | [] => []
  | d :: ds => d.destinations ++ destinationsOf ds
termination_by structural ds => ds

end

theorem destinationsOf_append (ds es : List (Deed ε)) :
    destinationsOf (ds ++ es) = destinationsOf ds ++ destinationsOf es :=
  collected_append rfl (fun _ _ => rfl) ds es

section Steps

variable {S : Setting ε σ} {levels : Nat} {mode : CallMode} {call : NestedCall} {h inner : Host} {s : σ} {X : Address}

/-- The code of a call works in the account of its caller or in one that it has as a destination. -/
theorem destinations_begun {input : CallInput} (hbegun : S.begun mode call h s = (.ok input, inner)) {before : Host}
    {inside : List (Deed ε)} {phases : List CallPhase} {reply : Except CallError CallOutcome} :
    inner.address :: destinationsOf inside ⊆
      h.address :: destinationsOf [.called before mode call (some input) inside phases reply] := by
  rw [(sameCall_begun hbegun).address, Host.address_enter]
  cases mode with
  | sameContext => simp [destinationsOf, Deed.destinations]
  | destinationContext => simp [destinationsOf, Deed.destinations]

theorem spares_begun (hne : h.address ≠ X) {input : CallInput} (hbegun : S.begun mode call h s = (.ok input, inner)) :
    (h.enter mode call.callee (h.grant call)).Spares X inner := by
  obtain ⟨-, output, meter, -, ht, -, -, rfl⟩ := begun_ok hbegun
  exact .transfer hne rfl ht

/-- What a success keeps spares what its code spared; an empty frame is folded into the caller's. -/
theorem spares_afterSuccess {gas : U64} (hsame : SameCall (h.enter mode call.callee gas) inner)
    (hs : (h.enter mode call.callee gas).Spares X inner) : h.Spares X (h.afterSuccess mode inner) := by
  have hstaged : inner.staging.updates X = h.staging.updates X := by
    rw [hs.staged]
    cases mode <;> rfl
  have hmarked : ∀ kept : Accumulator, h.output.frame.Spares X 0 kept.frame →
      h.output.frame.Spares X 0 (kept.finish Host.successMarker).frame :=
    fun kept hkept => hkept.trans (Accumulator.spares_finish X kept _)
  refine ⟨hstaged, ?_⟩
  cases mode with
  | sameContext =>
    rw [Host.output_afterSuccess_same hsame]
    exact hmarked _ hs.frame
  | destinationContext =>
    rw [Host.output_afterSuccess_destination hsame]
    exact hmarked _ (.merge hs.frame h.output.frame)

/-- A run of code in another account spares `X` unless it calls it in a destination context. -/
def SparesFrom (X : Address) (h : Host) (ds : List (Deed ε)) (h' : Host) : Prop :=
  h.address ≠ X → X ∉ destinationsOf ds → h.Spares X h'

theorem Called.spares
    (hinside : ∀ R, S.inside levels = some R → ∀ h s t, R h s t → SparesFrom X h t.deeds t.host)
    {t : Turn ε σ (Except CallError CallOutcome)} (hcall : Called S (S.inside levels) mode call h s t) :
    SparesFrom X h t.deeds t.host := by
  intro hne hdest
  cases hcall with
  | doomed hfatal => exact .refl X h
  | tooDeep hfree hlevel he => exact ⟨rfl, .refl X _⟩
  | unpaid hfree hlevel hmeter => exact .refl X h
  | unbegun hfree hlevel hmeter hbegun hcost => exact ⟨rfl, Accumulator.spares_finish X _ _⟩
  | died hfree hlevel hmeter hbegun hrun hfatal => exact ⟨rfl, .refl X _⟩
  | failed hfree hlevel hmeter hbegun hrun hfatal hreply hcost => exact ⟨rfl, Accumulator.spares_finish X _ _⟩
  | @succeeded R meter input inner t hfree hlevel hmeter hbegun hrun hfatal hreply =>
    have hentered := sameCall_begun hbegun
    have hinner : X ∉ inner.address :: destinationsOf t.deeds := by
      refine fun hmem => ?_
      rcases List.mem_cons.1 (destinations_begun hbegun hmem) with heq | hmem
      · exact hne heq.symm
      · exact hdest hmem
    rw [List.mem_cons, not_or] at hinner
    have hcode := hinside R hlevel inner s t hrun (Ne.symm hinner.1) hinner.2
    have hbegins := spares_begun (h := { h with meter }) hne hbegun
    have hafter := spares_afterSuccess (hentered.trans (sameCall_inside hlevel hrun)) (hbegins.trans hcode)
    exact ⟨hafter.staged, hafter.frame⟩

theorem Runs.spares {t : Turn ε σ (Except CallError Unit)} (hrun : Runs S levels h s t) :
    SparesFrom X h t.deeds t.host := by
  refine hrun.of_connected (Q := fun h _ ds h' => SparesFrom X h ds h') ?_ ?_ ?_ ?_ ?_
  · intro h s result _ _
    exact .refl X h
  · intro h s r reply h' hperform hne _
    exact (Effect.of_perform hperform).spares hne
  · intro levels mode call h s u hinside hcall
    exact hcall.spares hinside
  · intro h s event _ _
    exact .refl X h
  · intro h s ds h' ds' h'' hsame hfirst hrest hne hdest
    rw [destinationsOf_append, List.mem_append, not_or] at hdest
    exact (hfirst hne hdest.1).trans (hrest (hsame.address ▸ hne) hdest.2)

end Steps

/-! ## Transactions -/

/-- After a transaction that ended well `X` has lost what it sent as the sender, at most. -/
theorem Processed.spares {S : Setting ε σ} {tx : Transaction} {h : Host} {s : σ} {t : Turn ε σ (Except CallError Unit)}
    {X : Address} (hp : Processed S tx h s t) (hreply : t.reply = .ok ()) (hcallee : (S.ledger s).callee tx ≠ .ok X)
    (hdest : X ∉ destinationsOf t.deeds) :
    t.host.staging.updates X = h.staging.updates X ∧
      h.output.frame.Spares X (if tx.sender = X then tx.carried.val else 0) t.host.output.frame := by
  have hmoved : ∀ callee output, (S.ledger s).callee tx = .ok callee →
      (h.output.placed tx callee).transfer (S.ledger s) tx.sender callee tx.carried [] = .ok output →
      h.output.frame.Spares X (if tx.sender = X then tx.carried.val else 0) output.frame := by
    intro callee output hc ht
    have hne : callee ≠ X := fun heq => hcallee (heq ▸ hc)
    have hplaced : h.output.frame.Spares X 0 (h.output.placed tx callee).frame := by
      unfold Accumulator.placed
      split
      · exact Accumulator.spares_deploy hne _ _ _
      · exact .refl X _
    have hboth := hplaced.trans (Accumulator.spares_transfer ht X)
    rwa [Nat.zero_add] at hboth
  cases hp with
  | rejected e h' => cases hreply
  | paid hkind hc ht => exact ⟨rfl, hmoved _ _ hc ht⟩
  | @ran callee output meter levels t hkind hc ht hmeter hrun =>
    have hne : callee ≠ X := fun heq => hcallee (heq ▸ hc)
    have hcode := hrun.spares (X := X) hne hdest
    exact ⟨hcode.staged, (hmoved _ _ hc ht).trans hcode.frame⟩

/-- An account that neither is a transaction's callee nor was called in a destination context has
    no updates, code or logs in the output of a success, and lost what it sent itself at most. -/
theorem Setting.transact_spares {S : Setting ε σ} {tx : Transaction} {gas : U64} {s : σ} {X : Address}
    (hcallee : (S.ledger s).callee tx ≠ .ok X) (hdest : X ∉ destinationsOf (S.transact tx (.start gas) s).deeds)
    (hsuccess : (S.transact tx (.start gas) s).reply.isSuccess = true) :
    let o := (S.transact tx (.start gas) s).reply
    (∀ account, o.accounts[X]? = some account →
      account.updates = ∅ ∧ account.code = none ∧ account.metadata = none ∧
        (X ≠ tx.sender → 0 ≤ account.delta.toInt) ∧ (X = tx.sender → -(tx.carried.val : Int) ≤ account.delta.toInt)) ∧
      ∀ entry ∈ o.logs, entry.address ≠ X := by
  have hp := S.process_processed tx (.start gas) s
  obtain ⟨-, hreply, hfinal⟩ := Host.conclude_success hsuccess
  obtain ⟨hstaged, hframe⟩ := hp.spares hreply hcallee hdest
  have hout : (S.transact tx (.start gas) s).reply = _ := hfinal
  have hnothing : (Host.start gas).output.frame.account X = .empty X := OutputFrame.account_empty X
  have hunstaged : ((S.process tx (.start gas) s).host.staging.accounts.getD X ∅).isEmpty = true := by
    show (Staging.updates _ X).isEmpty = true
    rw [hstaged]
    rfl
  rw [hout]
  refine ⟨fun account haccount => ?_, fun entry hentry hX => ?_⟩
  · rw [Accumulator.getElem?_finalize, if_pos hunstaged] at haccount
    have hrecord : (S.process tx (.start gas) s).host.output.frame.account X = account := by
      rw [OutputFrame.account, Std.ExtTreeMap.getD_eq_getD_getElem?, haccount]
      rfl
    have hdelta := hframe.delta
    unfold OutputFrame.deltaOf at hdelta
    rw [hrecord, hnothing, show (OutputAccount.empty X).delta.toInt = 0 from Delta.toInt_zero] at hdelta
    refine ⟨?_, ?_, ?_, fun hne => ?_, fun heq => ?_⟩
    · rw [← hrecord, hframe.updates, hnothing]
      rfl
    · rw [← hrecord, hframe.code, hnothing]
      rfl
    · rw [← hrecord, hframe.metadata, hnothing]
      rfl
    · rw [if_neg (Ne.symm hne)] at hdelta
      omega
    · rw [if_pos heq.symm] at hdelta
      omega
  · cases hframe.logs entry hentry hX

/-- Code that runs the code of another account in its own, and there writes and sends value. -/
def borrowingGuest (input : CallInput) : Guest Unit :=
  if input.depth = 0 then .call .sameContext ⟨.named "carol", 0, "lend", [], 50000⟩ fun _ => .done (.ok ())
  else .ask (.store [1] [2]) fun _ => .ask (.transfer (.named "alice") 3 []) fun reply => .done reply

def borrowingSetting : Setting Unit World := ⟨.standard, borrowingGuest, World.ledger, fun _ w => w⟩

def borrowingWorld : World :=
  .ofSteps [.putAccount (.named "bob") ⟨40, 0, [7], .none⟩, .putAccount (.named "carol") ⟨9, 0, [8], .none⟩]

def borrowingCall : Transaction := .call (.named "alice") (.named "bob") "f" 100000

theorem Setting.transact_spares_borrowing :
    (borrowingSetting.transact borrowingCall (.start 100000) borrowingWorld).reply.isSuccess = true ∧
      (∀ account, (borrowingSetting.transact borrowingCall (.start 100000) borrowingWorld).reply.accounts[
        Address.named "carol"]? = some account → account.updates = ∅) ∧
      ∀ entry ∈ (borrowingSetting.transact borrowingCall (.start 100000) borrowingWorld).reply.logs,
        entry.address ≠ .named "carol" := by
  have hcallee : borrowingWorld.ledger.callee borrowingCall ≠ .ok (.named "carol") := by decide
  have hdest : Address.named "carol" ∉
      destinationsOf (borrowingSetting.transact borrowingCall (.start 100000) borrowingWorld).deeds := by decide +kernel
  have hsuccess : (borrowingSetting.transact borrowingCall (.start 100000) borrowingWorld).reply.isSuccess = true := by
    decide +kernel
  obtain ⟨haccount, hlogs⟩ := Setting.transact_spares hcallee hdest hsuccess
  exact ⟨hsuccess, fun account h => (haccount account h).1, hlogs⟩

end ContractHost

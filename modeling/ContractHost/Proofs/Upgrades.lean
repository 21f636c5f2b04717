/-
  ContractHost.Proofs.Upgrades — protected keys and code tell of the same upgrades.

  Guest code writes neither reserved nor protected keys. The one protected key that is ever
  written is that of a contract's metadata, and the upgrade that writes it puts code with
  the same metadata into the output. The write is staged, with full copies for the open
  calls, the code is recorded in a frame of the output, some of which start empty and are
  folded; yet the two agree for every account and after every step (`Recorded`), since both
  are kept or undone together and the later one wins in both. So they agree in the output
  of every success (`Setting.transact_upgrades`).
-/

import ContractHost.Proofs.Alignment
import ContractHost.Proofs.Copies

namespace ContractHost

variable {ε σ : Type}

/-! ## Records with the same code -/

/-- Two records of an account that may differ in balance and call data alone. -/
structure OutputAccount.SameCode (o o' : OutputAccount) : Prop where
  updates : o'.updates = o.updates
  code : o'.code = o.code
  metadata : o'.metadata = o.metadata

theorem OutputAccount.SameCode.refl (o : OutputAccount) : o.SameCode o := ⟨rfl, rfl, rfl⟩

theorem OutputAccount.SameCode.trans {o o' o'' : OutputAccount} (h : o.SameCode o') (h' : o'.SameCode o'') :
    o.SameCode o'' :=
  ⟨h'.updates.trans h.updates, h'.code.trans h.code, h'.metadata.trans h.metadata⟩

theorem OutputAccount.SameCode.merge {o o' : OutputAccount} (h : o.SameCode o') (earlier : OutputAccount) :
    (earlier.merge o).SameCode (earlier.merge o') := by
  unfold OutputAccount.merge
  rw [h.updates, h.code, h.metadata]
  exact ⟨rfl, rfl, rfl⟩

namespace Accumulator

/-- The record of an account as the running call sees it, through all frames. -/
def record (s : Accumulator) (a : Address) : OutputAccount := s.folded.account a

/-- The records of all accounts have the same code. -/
def SameCode (s t : Accumulator) : Prop := ∀ a, (s.record a).SameCode (t.record a)

theorem SameCode.trans {s t u : Accumulator} (h : s.SameCode t) (h' : t.SameCode u) : s.SameCode u :=
  fun a => (h a).trans (h' a)

theorem SameCode.of_folded {s t : Accumulator} (h : t.folded = s.folded) : s.SameCode t := by
  intro a
  unfold record
  rw [h]
  exact .refl _

/-- Live frames with the same code have it through the whole chain. -/
theorem sameCode_foldedFrom {f g : OutputFrame} (h : ∀ a, (f.account a).SameCode (g.account a)) (o : FrameOrigin)
    (ps : List ParkedFrame) (a : Address) :
    ((foldedFrom f o ps).account a).SameCode ((foldedFrom g o ps).account a) := by
  induction ps generalizing f g o with
  | nil => exact h a
  | cons p ps ih =>
    cases o with
    | shared => exact ih h p.origin
    | isolated =>
      refine ih (fun b => ?_) p.origin
      rw [OutputFrame.account_merge, OutputFrame.account_merge]
      exact (h b).merge _

theorem sameCode_frame {s : Accumulator} {f : OutputFrame} (h : ∀ a, (s.frame.account a).SameCode (f.account a)) :
    s.SameCode { s with frame := f } :=
  sameCode_foldedFrom h s.origin s.parked

theorem sameCode_update {s : Accumulator} {a : Address} {change : OutputAccount → OutputAccount}
    (hchange : ∀ o : OutputAccount, o.SameCode (change o)) : s.SameCode { s with frame := s.frame.update a change } := by
  refine sameCode_frame fun b => ?_
  rw [OutputFrame.account_update]
  split
  · exact hchange _
  · exact .refl _

theorem sameCode_finish (s : Accumulator) (data : Bytes) : s.SameCode (s.finish data) :=
  sameCode_frame (f := { s.frame with finishData := s.frame.finishData ++ [data] }) fun a => .refl (s.frame.account a)

theorem sameCode_log (s : Accumulator) (entry : LogEntry) : s.SameCode (s.log entry) :=
  sameCode_frame (f := { s.frame with logs := s.frame.logs ++ [entry] }) fun a => .refl (s.frame.account a)

theorem sameCode_mark (s : Accumulator) (receiver : Address) (data : Bytes) : s.SameCode (s.mark receiver data) := by
  unfold mark
  split
  · exact .of_folded rfl
  · exact sameCode_update fun _ => ⟨rfl, rfl, rfl⟩

theorem sameCode_addToBalance (s : Accumulator) (a : Address) (d : Delta) : s.SameCode (s.addToBalance a d) :=
  sameCode_update fun _ => ⟨rfl, rfl, rfl⟩

theorem sameCode_transfer {L : Ledger} {s t : Accumulator} {sender receiver : Address} {value : U256} {data : Bytes}
    (ht : s.transfer L sender receiver value data = .ok t) : s.SameCode t := by
  rcases transfer_cases ht with rfl | ⟨-, rfl⟩
  · exact ((sameCode_addToBalance s _ _).trans (sameCode_addToBalance _ _ _)).trans (sameCode_mark _ _ _)
  · exact .of_folded rfl

theorem folded_isolate (s : Accumulator) : s.isolate.folded = s.folded := by
  show foldedFrom (s.frame.merge .empty) s.origin s.parked = s.folded
  rw [OutputFrame.merge_empty]
  rfl

/-- A frame that is closed the way it was opened leaves what the running call sees. -/
theorem folded_discard {s : Accumulator} (horigin : s.origin = .shared) : s.discard.folded = s.folded := by
  obtain ⟨frame, origin, parked⟩ := s
  cases horigin
  cases parked <;> rfl

theorem folded_fold {s : Accumulator} (horigin : s.origin = .isolated) : s.fold.folded = s.folded := by
  obtain ⟨frame, origin, parked⟩ := s
  cases horigin
  cases parked <;> rfl

/-- Code that is deployed is at once what every frame above shows. -/
theorem record_deploy (s : Accumulator) (a b : Address) (code : Bytes) (metadata : CodeMetadata) :
    (s.deploy a code metadata).record b =
      if a = b then { s.record b with code := some code, metadata := some metadata } else s.record b := by
  unfold record
  rw [folded, deploy, foldedFrom_update (fun _ _ => rfl), OutputFrame.account_update]
  rfl

end Accumulator

/-! ## Writes and code of an account -/

/-- A write is the new one or an old one under another key. -/
theorem AccountStorage.insert_cases {writes : AccountStorage} {key value key' : Bytes} {update : StorageUpdate}
    (h : (writes.insert key ⟨key, value⟩)[key']? = some update) :
    key' = key ∧ update = ⟨key, value⟩ ∨ key' ≠ key ∧ writes[key']? = some update := by
  simp only [Std.ExtTreeMap.getElem?_insert, Std.LawfulEqCmp.compare_eq_iff_eq] at h
  split at h
  · rename_i heq
    exact .inl ⟨heq.symm, (Option.some.inj h).symm⟩
  · rename_i hne
    exact .inr ⟨fun heq => hne heq.symm, h⟩

/-- The writes to an account and its record agree: no reserved key is written, of the protected keys only that
    of the metadata, with the metadata that the record has; code is recorded only along with that write, and
    where the committed code may be replaced, or where it was `placed` by a deployment. -/
structure Agreed (c : HostConfig) (placed upgradeable : Prop) (writes : AccountStorage) (o : OutputAccount) : Prop where
  key : ∀ (key : Bytes) (update : StorageUpdate), writes[key]? = some update → update.key = key
  unreserved : ∀ (key : Bytes) (update : StorageUpdate), writes[key]? = some update → c.isReserved key = false
  upgraded : ∀ (key : Bytes) (update : StorageUpdate), writes[key]? = some update → c.isProtected key = true →
    key = c.protectedKey Host.metadataKey ∧ ∃ code metadata, o.code = some code ∧ o.metadata = some metadata ∧
      update.value = metadata.bytes
  written : ∀ code, o.code = some code →
    placed ∨ (∃ update, writes[c.protectedKey Host.metadataKey]? = some update) ∧ upgradeable

namespace Agreed

variable {c : HostConfig} {placed upgradeable : Prop} {writes : AccountStorage} {o o' : OutputAccount}

theorem sameCode (h : Agreed c placed upgradeable writes o) (hsame : o.SameCode o') :
    Agreed c placed upgradeable writes o' := by
  obtain ⟨address, delta, updates, code, metadata, callData⟩ := o'
  obtain ⟨rfl, rfl, rfl⟩ := hsame
  exact ⟨h.key, h.unreserved, h.upgraded, h.written⟩

/-- Nothing is written, and code at most deployed. -/
theorem of_empty (hcode : ∀ code, o.code = some code → placed) : Agreed c placed upgradeable ∅ o where
  key key update hwrite := by simp at hwrite
  unreserved key update hwrite := by simp at hwrite
  upgraded key update hwrite := by simp at hwrite
  written code hc := .inl (hcode code hc)

/-- A write under a free key, or under that of the metadata where the record then has the metadata written. -/
theorem put (h : Agreed c placed upgradeable writes o) {key value : Bytes} (hreserved : c.isReserved key = false)
    (hkey : c.isProtected key = false ∧ o' = o ∨ key = c.protectedKey Host.metadataKey ∧ upgradeable ∧
      ∃ code metadata, o'.code = some code ∧ o'.metadata = some metadata ∧ value = metadata.bytes) :
    Agreed c placed upgradeable (writes.insert key ⟨key, value⟩) o' where
  key key' update hwrite := by
    rcases AccountStorage.insert_cases hwrite with ⟨rfl, rfl⟩ | ⟨-, hold⟩
    · rfl
    · exact h.key key' update hold
  unreserved key' update hwrite := by
    rcases AccountStorage.insert_cases hwrite with ⟨rfl, rfl⟩ | ⟨-, hold⟩
    · exact hreserved
    · exact h.unreserved key' update hold
  upgraded key' update hwrite hprotected := by
    rcases AccountStorage.insert_cases hwrite with ⟨rfl, rfl⟩ | ⟨hne, hold⟩
    · rcases hkey with ⟨hfree, -⟩ | ⟨hmetadata, -, hrecord⟩
      · cases hfree.symm.trans hprotected
      · exact ⟨hmetadata, hrecord⟩
    · have hupgraded := h.upgraded key' update hold hprotected
      rcases hkey with ⟨-, rfl⟩ | ⟨rfl, -⟩
      · exact hupgraded
      · exact absurd hupgraded.1 hne
  written code hcode := by
    rcases hkey with ⟨-, rfl⟩ | ⟨rfl, hupgradeable, -⟩
    · rcases h.written code hcode with hplaced | ⟨⟨update, hold⟩, hupgradeable⟩
      · exact .inl hplaced
      · refine .inr ⟨?_, hupgradeable⟩
        rw [Std.ExtTreeMap.getElem?_insert]
        split
        · exact ⟨_, rfl⟩
        · exact ⟨update, hold⟩
    · exact .inr ⟨⟨_, Std.ExtTreeMap.getElem?_insert_self⟩, hupgradeable⟩

end Agreed

/-! ## Writes and code at every step -/

/-- Protected keys are guarded, frames hold no writes, and for every account the staged writes agree with the
    record that the running call sees. -/
structure Recorded (c : HostConfig) (placed upgradeable : Address → Prop) (h : Host) : Prop where
  guarded : h.staging.frame.guarded = true
  unwritten : ∀ a, (h.output.record a).updates = ∅
  agreed : ∀ a, Agreed c (placed a) (upgradeable a) (h.staging.updates a) (h.output.record a)

section Recorded

variable {S : Setting ε σ} {c : HostConfig} {placed upgradeable : Address → Prop} {h h' : Host}

/-- Nothing was written, and no code recorded. -/
theorem Recorded.same (hr : Recorded c placed upgradeable h) (hguarded : h'.staging.frame.guarded = true)
    (haccounts : h'.staging.accounts = h.staging.accounts) (hsame : h.output.SameCode h'.output) :
    Recorded c placed upgradeable h' where
  guarded := hguarded
  unwritten a := (hsame a).updates.trans (hr.unwritten a)
  agreed a := by
    have hupdates : h'.staging.updates a = h.staging.updates a := by
      unfold Staging.updates
      rw [haccounts]
    rw [hupdates]
    exact (hr.agreed a).sameCode (hsame a)

theorem Effect.recorded {L : Ledger} {r : Request} {reply : Except CallError r.Answer} (he : Effect c L h r reply h')
    (hr : Recorded c placed upgradeable h) (hcommitted : ∀ a, L.Upgradeable a → upgradeable a) :
    Recorded c placed upgradeable h' := by
  have hkept : ∀ {output : Accumulator} (meter : Meter), h.output.SameCode output →
      Recorded c placed upgradeable { h with meter, output } := fun meter hsame => hr.same hr.guarded rfl hsame
  cases he with
  | refused hm => exact hkept _ (.of_folded rfl)
  | observed hm => exact hkept _ (.of_folded rfl)
  | finished hm => exact hkept _ (Accumulator.sameCode_finish _ _)
  | transferred hm ht => exact hkept _ (Accumulator.sameCode_transfer ht)
  | logged hm => exact hkept _ (Accumulator.sameCode_log _ _)
  | @stored key value status meter hm hreserved hprotected =>
    refine ⟨hr.guarded, hr.unwritten, fun a => ?_⟩
    rw [Staging.updates_put]
    split
    · exact (hr.agreed a).put hreserved (.inl ⟨hprotected hr.guarded, rfl⟩)
    · exact hr.agreed a
  | @upgraded code metadata meter hm hreserved hupgradeable =>
    refine ⟨hr.guarded, fun a => ?_, fun a => ?_⟩
    · rw [Accumulator.record_deploy]
      split
      · exact hr.unwritten a
      · exact hr.unwritten a
    · rw [Staging.updates_put, Accumulator.record_deploy]
      by_cases ha : h.staging.frame.address = a
      · rw [if_pos ha, if_pos (show h.address = a from ha)]
        have hup : upgradeable a := hcommitted a (ha ▸ hupgradeable)
        exact (hr.agreed a).put hreserved (.inr ⟨rfl, hup, code, metadata, rfl, rfl, rfl⟩)
      · rw [if_neg ha, if_neg (show ¬ h.address = a from ha)]
        exact hr.agreed a

theorem Recorded.enter (hr : Recorded c placed upgradeable h) (mode : CallMode) (callee : Address) (gas : U64) :
    Recorded c placed upgradeable (h.enter mode callee gas) := by
  cases mode with
  | sameContext => exact hr.same hr.guarded rfl (.of_folded rfl)
  | destinationContext => exact hr.same hr.guarded rfl (.of_folded (Accumulator.folded_isolate _))

theorem Recorded.begun {mode : CallMode} {call : NestedCall} {s : σ} {input : CallInput}
    (hr : Recorded c placed upgradeable h) (hbegun : S.begun mode call h s = (.ok input, h')) :
    Recorded c placed upgradeable h' := by
  have hentered := hr.enter mode call.callee (h.grant call)
  obtain ⟨-, output, meter, -, ht, -, -, rfl⟩ := begun_ok hbegun
  exact hentered.same hentered.guarded rfl (Accumulator.sameCode_transfer ht)

/-- A call that failed has left nothing but a marker. -/
theorem Recorded.afterFailure (hr : Recorded c placed upgradeable h) (charged : U64) :
    Recorded c placed upgradeable (h.afterFailure charged) :=
  hr.same hr.guarded rfl (Accumulator.sameCode_finish _ _)

/-- A call that succeeded has left what its code saw at the end. -/
theorem Recorded.afterSuccess {inner : Host} (hr : Recorded c placed upgradeable inner)
    (hguarded : h.staging.frame.guarded = true) {mode : CallMode} {callee : Address} {gas : U64}
    (hsame : SameCall (h.enter mode callee gas) inner) : Recorded c placed upgradeable (h.afterSuccess mode inner) := by
  refine hr.same hguarded rfl ?_
  cases mode with
  | sameContext =>
    have hkept := Accumulator.folded_discard (s := inner.output) hsame.origin
    exact (Accumulator.SameCode.of_folded hkept).trans (Accumulator.sameCode_finish _ _)
  | destinationContext =>
    have hkept := Accumulator.folded_fold (s := inner.output) hsame.origin
    exact (Accumulator.SameCode.of_folded hkept).trans (Accumulator.sameCode_finish _ _)

end Recorded

/-- A write under a key that is not free is refused and costs gas at most. -/
theorem Host.store_refused {c : HostConfig} {L : Ledger} {h : Host} {key : Bytes}
    (hkey : c.isReserved key = true ∨ h.staging.frame.guarded = true ∧ c.isProtected key = true) (value : Bytes) :
    ∃ e meter, store c L key value h = (.error e, { h with meter }) := by
  unfold store
  rw [Action.bind_apply]
  rcases useGas_cases (c.schedule.cost .storageStore) h with hx | ⟨meter, -, hx⟩ <;> rw [hx]
  · exact ⟨_, h.meter, rfl⟩
  have hwrite : ∃ e, h.staging.write c L meter key value = ⟨.error e, h.staging, meter⟩ := by
    have hfree : ¬ (c.isReserved key = false ∧ ¬ (h.staging.frame.guarded = true ∧ c.isProtected key = true)) := by
      rintro ⟨hreserved, hprotects⟩
      rcases hkey with hkey | hkey
      · cases hkey.symm.trans hreserved
      · exact hprotects hkey
    rcases h.staging.write_rules c L meter key value with
      ⟨-, hw⟩ | ⟨-, -, hw⟩ | ⟨hreserved, hprotects, -⟩ | ⟨hreserved, hprotects, -⟩ | ⟨-, hreserved, hprotects, -⟩
    · exact ⟨_, hw⟩
    · exact ⟨_, hw⟩
    all_goals exact absurd ⟨hreserved, hprotects⟩ hfree
  obtain ⟨e, hw⟩ := hwrite
  refine ⟨.storage e, meter, ?_⟩
  unfold writeStorage
  dsimp only
  rw [hw]
  rfl

/-! ## Runs -/

/-- The ledger lets the code of an account be replaced, before, after or between the events. -/
def Setting.UpgradeableIn (S : Setting ε σ) (s : σ) (events : List ε) (a : Address) : Prop :=
  ∃ seen, seen <+: events ∧ (S.ledger (S.after s seen)).Upgradeable a

section Runs

variable {S : Setting ε σ} {placed : Address → Prop} {levels : Nat} {mode : CallMode} {call : NestedCall} {h : Host}
  {s : σ}

/-- Writes and code that agree before the deeds agree after them. The deeds belong to a run that started in `start`
    and signalled `events`; their own follow those in `done`. -/
def RecordsFrom (S : Setting ε σ) (placed : Address → Prop) (start : σ) (events : List ε) (h : Host) (s : σ)
    (ds : List (Deed ε)) (h' : Host) : Prop :=
  ∀ done, s = S.after start done → done ++ eventsOf ds <+: events →
    Recorded S.config placed (S.UpgradeableIn start events) h →
      Recorded S.config placed (S.UpgradeableIn start events) h'

theorem Called.records {start : σ} {events : List ε}
    (hinside : ∀ R, S.inside levels = some R → ∀ h s t, R h s t → RecordsFrom S placed start events h s t.deeds t.host)
    {u : Turn ε σ (Except CallError CallOutcome)} (hcall : Called S (S.inside levels) mode call h s u) :
    RecordsFrom S placed start events h s u.deeds u.host := by
  intro done hdone hevents hr
  have hpaid : ∀ (meter : Meter) (fatal : Option CallError),
      Recorded S.config placed (S.UpgradeableIn start events) { h with meter, fatal } :=
    fun meter fatal => hr.same hr.guarded rfl (.of_folded rfl)
  cases hcall with
  | doomed hfatal => exact hr
  | tooDeep hfree hlevel he => exact hpaid h.meter _
  | unpaid hfree hlevel hmeter => exact hr
  | @unbegun R meter e inner cost hfree hlevel hmeter hbegun hcost => exact (hpaid meter h.fatal).afterFailure cost
  | @died R meter input inner t e hfree hlevel hmeter hbegun hrun hfatal => exact hpaid meter _
  | @failed R meter input inner t e cost hfree hlevel hmeter hbegun hrun hfatal hreply hcost =>
    exact (hpaid meter h.fatal).afterFailure cost
  | @succeeded R meter input inner t hfree hlevel hmeter hbegun hrun hfatal hreply =>
    have hbegins := (hpaid meter h.fatal).begun hbegun
    have hinner : done ++ eventsOf t.deeds <+: events := by
      simpa [eventsOf, Deed.events] using hevents
    have hend := hinside R hlevel inner s t hrun done hdone hinner hbegins
    have hsame := (sameCall_begun hbegun).trans (sameCall_inside hlevel hrun)
    exact hend.afterSuccess (h := { h with meter }) hr.guarded hsame

theorem Runs.records {t : Turn ε σ (Except CallError Unit)} (hrun : Runs S levels h s t) (start : σ) (events : List ε) :
    RecordsFrom S placed start events h s t.deeds t.host := by
  refine hrun.of_connected (Q := RecordsFrom S placed start events) ?_ ?_ ?_ ?_ ?_
  · intro h s result done _ _ hr
    exact hr
  · intro h s r reply h' hperform done hdone hevents hr
    refine (Effect.of_perform hperform).recorded hr fun a hup => ?_
    have hseen : done <+: events := (List.prefix_append done _).trans hevents
    exact ⟨done, hseen, hdone ▸ hup⟩
  · intro levels mode call h s u hinside hcall
    exact hcall.records hinside
  · intro h s event done _ _ hr
    exact hr
  · intro h s ds h' ds' h'' hsame hfirst hrest done hdone hevents hr
    rw [eventsOf_append, ← List.append_assoc] at hevents
    have hr' := hfirst done hdone ((List.prefix_append _ _).trans hevents) hr
    exact hrest (done ++ eventsOf ds) (by rw [Setting.after_append, hdone]) hevents hr'

end Runs

/-! ## Transactions -/

/-- The host in which the code of a transaction runs has nothing written, and code at most at the new address. -/
theorem recorded_prepared {c : HostConfig} {L : Ledger} {upgradeable : Address → Prop} {tx : Transaction} {gas : U64}
    {callee : Address} {h : Host} (hcallee : L.callee tx = .ok callee)
    (ht : ((Host.start gas).output.placed tx callee).transfer L tx.sender callee tx.carried [] = .ok h.output)
    (hguarded : h.staging.frame.guarded = true) (haccounts : h.staging.accounts = ∅) :
    Recorded c (tx.Deploys L) upgradeable h := by
  have hempty : ∀ a, (Host.start gas).output.record a = .empty a := fun a => OutputFrame.account_empty a
  have hplaced : ∀ a, (((Host.start gas).output.placed tx callee).record a).updates = ∅ ∧
      ∀ code, (((Host.start gas).output.placed tx callee).record a).code = some code → tx.Deploys L a := by
    intro a
    unfold Accumulator.placed
    split
    · rename_i hdeploy
      rw [Accumulator.record_deploy, hempty]
      split
      · rename_i ha
        subst ha
        rw [Ledger.callee, if_pos hdeploy] at hcallee
        exact ⟨rfl, fun code _ => ⟨hdeploy, hcallee⟩⟩
      · exact ⟨rfl, fun code hcode => by cases hcode⟩
    · rw [hempty]
      exact ⟨rfl, fun code hcode => by cases hcode⟩
  have hmoved := Accumulator.sameCode_transfer ht
  refine ⟨hguarded, fun a => (hmoved a).updates.trans (hplaced a).1, fun a => ?_⟩
  have hupdates : h.staging.updates a = ∅ := by
    unfold Staging.updates
    rw [haccounts]
    exact Std.ExtTreeMap.getD_empty
  rw [hupdates]
  exact (Agreed.of_empty (hplaced a).2).sameCode (hmoved a)

/-- Writes and code agree where the processing of a transaction ended well. -/
theorem Processed.recorded {S : Setting ε σ} {tx : Transaction} {gas : U64} {s : σ}
    {t : Turn ε σ (Except CallError Unit)} (hp : Processed S tx (.start gas) s t) (hreply : t.reply = .ok ()) :
    Recorded S.config (tx.Deploys (S.ledger s)) (S.UpgradeableIn s (eventsOf t.deeds)) t.host := by
  cases hp with
  | rejected e h' => cases hreply
  | paid hkind hcallee ht => exact recorded_prepared hcallee ht rfl rfl
  | ran hkind hcallee ht hmeter hrun =>
    exact hrun.records s (eventsOf t.deeds) [] rfl (List.prefix_refl _) (recorded_prepared hcallee ht rfl rfl)

/-- What a success shows of an account: the staged writes, and the record of the final host. -/
theorem Recorded.finalized {c : HostConfig} {placed upgradeable : Address → Prop} {h : Host}
    (hr : Recorded c placed upgradeable h) (hparked : h.output.parked = []) {gasRemaining gasRefund : U64} {a : Address}
    {o : OutputAccount} (ho : (h.output.finalize h.staging.accounts gasRemaining gasRefund).accounts[a]? = some o) :
    Agreed c (placed a) (upgradeable a) o.updates o := by
  have hrecord : h.output.record a = h.output.frame.account a := by
    unfold Accumulator.record Accumulator.folded
    rw [hparked]
    rfl
  have hagreed := hr.agreed a
  have hunwritten := hr.unwritten a
  rw [hrecord] at hagreed hunwritten
  rw [Accumulator.getElem?_finalize] at ho
  split at ho
  · rename_i hempty
    have hupdates : h.staging.updates a = ∅ := Std.ExtTreeMap.isEmpty_iff.1 hempty
    have haccount : h.output.frame.account a = o := by
      rw [OutputFrame.account, Std.ExtTreeMap.getD_eq_getD_getElem?, ho]
      rfl
    rw [hupdates] at hagreed
    rw [haccount] at hagreed hunwritten
    rwa [hunwritten]
  · cases ho
    exact ⟨hagreed.key, hagreed.unreserved, hagreed.upgraded, hagreed.written⟩

/-- No request of guest code writes a reserved or a protected key. In a successful output the one protected key
    that is written is that of the metadata, with the metadata that comes with new code; and new code, that of a
    deployment apart, comes with that write, to an account whose committed code may be replaced. -/
theorem Setting.transact_upgrades (S : Setting ε σ) (tx : Transaction) (gas : U64) (s : σ) :
    let L := S.ledger s
    let t := S.transact tx (.start gas) s
    let metadataKey := S.config.protectedKey Host.metadataKey
    (∀ calls before key value reply after rest,
      Point t.deeds calls (.asked before (.store key value) reply :: after :: rest) →
      S.config.isReserved key = true ∨ S.config.isProtected key = true →
      (∃ e, reply = .error e) ∧ after.before.staging = before.staging) ∧
    (t.reply.isSuccess = true → ∀ a o, t.reply.accounts[a]? = some o →
      (∀ key update, o.updates[key]? = some update →
        update.key = key ∧ S.config.isReserved key = false ∧
        (S.config.isProtected key = true → key = metadataKey ∧ ∃ code metadata,
          o.code = some code ∧ o.metadata = some metadata ∧ update.value = metadata.bytes)) ∧
      (∀ code, o.code = some code → ¬ tx.Deploys L a →
        (∃ update, o.updates[metadataKey]? = some update) ∧ S.UpgradeableIn s (eventsOf t.deeds) a ∧
        ((∀ event s, S.ledger (S.react event s) = S.ledger s) → L.Upgradeable a))) := by
  intro L t metadataKey
  refine ⟨fun calls before key value reply after rest hpoint hkey => ?_, fun hsuccess a o ho => ?_⟩
  · obtain ⟨top, inner, -, -, ha, -⟩ := aligned_of_point hpoint
    obtain ⟨lv, s', s'', -, hstep⟩ := step_of_point hpoint
    generalize after.before = h' at hstep ⊢
    cases hstep with
    | asked hperform =>
      have hrefused := hkey.imp_right fun hprotected => And.intro ha.guarded hprotected
      obtain ⟨e, meter, hx⟩ := Host.store_refused (L := S.ledger s') hrefused value
      cases hx.symm.trans hperform
      exact ⟨⟨e, rfl⟩, rfl⟩
  · obtain ⟨-, hreply, hfinal⟩ := Host.conclude_success hsuccess
    have hout : t.reply = _ := hfinal
    rw [hout] at ho
    have hrecorded := (S.process_processed tx (.start gas) s).recorded hreply
    have hagreed := hrecorded.finalized (S.sameStacks_process tx (.start gas) s).parked ho
    refine ⟨fun key update hwrite => ⟨hagreed.key key update hwrite, hagreed.unreserved key update hwrite, ?_⟩, ?_⟩
    · exact hagreed.upgraded key update hwrite
    · intro code hcode hnot
      obtain ⟨hwritten, seen, hseen, hupgradeable⟩ := (hagreed.written code hcode).resolve_left hnot
      refine ⟨hwritten, ⟨seen, hseen, hupgradeable⟩, fun hfixed => ?_⟩
      rwa [ledger_after hfixed] at hupgradeable

/-- Code that replaces itself, once more in a call of its own, and then in one that fails. -/
def replacingGuest (input : CallInput) : Guest Unit :=
  match input.function with
  | "keep" => .ask (.upgrade [8] ⟨true, true, false⟩) fun _ => .done (.ok ())
  | "fail" => .ask (.upgrade [6] .none) fun _ => .done (.error .outOfFunds)
  | _ =>
    .ask (.upgrade [9] .none) fun _ =>
      .call .destinationContext ⟨input.callee, 0, "keep", [], 50000⟩ fun _ =>
        .call .sameContext ⟨input.callee, 0, "fail", [], 50000⟩ fun _ => .done (.ok ())

def replacingSetting : Setting Unit World := ⟨.standard, replacingGuest, World.ledger, fun _ w => w⟩

def replacingWorld : World :=
  .ofSteps [.putAccount (.named "bob") ⟨40, 0, [7], { CodeMetadata.none with upgradeable := true }⟩]

def replacingCall : Transaction := .call (.named "alice") (.named "bob") "f" 1000000

theorem Setting.transact_upgrades_replacing :
    let t := replacingSetting.transact replacingCall (.start 1000000) replacingWorld
    t.reply.isSuccess = true ∧ ∃ o update, t.reply.accounts[Address.named "bob"]? = some o ∧ o.code = some [8] ∧
      o.updates[replacingSetting.config.protectedKey Host.metadataKey]? = some update ∧ update.value = [5, 0] ∧
      replacingWorld.ledger.Upgradeable (.named "bob") := by
  intro t
  have hsuccess : t.reply.isSuccess = true := by decide +kernel
  have hbob : (t.reply.accounts[Address.named "bob"]?).map (fun o => (o.code, o.metadata)) =
      some (some [8], some ⟨true, true, false⟩) := by decide +kernel
  obtain ⟨o, ho, hrecord⟩ := Option.map_eq_some_iff.1 hbob
  obtain ⟨hcode, hmetadata⟩ := Prod.mk.inj hrecord
  have hupgrades := (replacingSetting.transact_upgrades replacingCall 1000000 replacingWorld).2 hsuccess _ o ho
  have hnot : ¬ replacingCall.Deploys replacingWorld.ledger (.named "bob") := fun hdeploys => by cases hdeploys.1
  obtain ⟨⟨update, hupdate⟩, -, hupgradeable⟩ := hupgrades.2 [8] hcode hnot
  obtain ⟨-, code, metadata, -, hmetadata', hvalue⟩ := (hupgrades.1 _ update hupdate).2.2 (by decide +kernel)
  cases hmetadata.symm.trans hmetadata'
  exact ⟨hsuccess, o, update, ho, hcode, hupdate, hvalue, hupgradeable fun _ _ => rfl⟩

end ContractHost

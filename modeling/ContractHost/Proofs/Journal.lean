/-
  ContractHost.Proofs.Journal — the staged storage is the journal of the writes that survive.

  A journal lists what has happened to a staging, the latest first: writes that were
  accepted, each with its account, and what was done to the stack of saved states. From
  the journal alone it is read off which writes survive: all but those that a rollback has
  undone, and a rollback undoes what was written since the state it goes back to was saved
  (`surviving`). Every key then reads as the value of its last surviving write, or as the
  committed one, and there is one update for every key with such a write, in the staging
  as in the output of a success (`Staging.reads_journal`).

  Writes are those of the host with any prices and any meter, and those with any other gas
  accounting (`Staging.writeBy`), of which the meter is a case (`Staging.write_eq_writeBy`).
  The proof keeps, beside what is staged now, what every saved state holds: the surviving
  writes older than it (`Journaled`).
-/

import ContractHost.Proofs.Copies
import ContractHost.Proofs.Prices
import ContractHost.Proofs.Transactions

namespace ContractHost

/-! ## Operations on a staging -/

/-- What a write sees of the gas accounting: prices, and whether an amount can be taken. -/
structure Metering where
  schedule : GasSchedule
  accepts : U64 → Bool

inductive StagingStep where
  | write (schedule : GasSchedule) (meter : Meter) (key value : Bytes)
  /-- A write with any other gas accounting. -/
  | writeBy (metering : Metering) (key value : Bytes)
  | setAddress (address : Address)
  | setReadOnly (on : Bool)
  | restoreFrame (frame : CallFrame)
  | push
  | rollback
  | commit
  | clearSaved

structure Write where
  address : Address
  key : Bytes
  value : Bytes
  deriving DecidableEq, Repr

/-- What an operation has done, as far as the journal goes. -/
inductive JournalEntry where
  | wrote (write : Write)
  | saved
  | undone
  | kept
  | cleared
  /-- Nothing that is staged or saved has changed. -/
  | other
  deriving DecidableEq, Repr

namespace Staging

variable (c : HostConfig) (L : Ledger)

def writeBy (s : Staging) (m : Metering) (key value : Bytes) : Except StorageError StorageStatus × Staging :=
  if c.isReserved key then (.error .reservedKey, s)
  else if s.frame.guarded ∧ c.isProtected key then (.error .protectedKey, s)
  else if s.frame.readOnly then (.ok .unchanged, s)
  else
    let old := s.get L key
    let status := StorageStatus.classify old value
    if m.accepts (m.schedule.write old.length value.length (status != .unchanged)).charge then
      (.ok status, s.put key value)
    else (.error .outOfGas, s)

def step (s : Staging) : StagingStep → Staging
  | .write schedule meter key value => (s.write { c with schedule } L meter key value).staging
  | .writeBy m key value => (s.writeBy c L m key value).2
  | .setAddress a => s.setAddress a
  | .setReadOnly on => s.setReadOnly on
  | .restoreFrame frame => { s with frame }
  | .push => s.push
  | .rollback => s.rollback
  | .commit => s.commit
  | .clearSaved => s.clearSaved

/-- A write is accepted where it is not refused and the call is not read-only. -/
def written (s : Staging) (key value : Bytes) (result : Except StorageError StorageStatus) : JournalEntry :=
  if result.isOk ∧ !s.frame.readOnly then .wrote ⟨s.frame.address, key, value⟩ else .other

def entry (s : Staging) : StagingStep → JournalEntry
  | .write schedule meter key value => s.written key value (s.write { c with schedule } L meter key value).result
  | .writeBy m key value => s.written key value (s.writeBy c L m key value).1
  | .setAddress _ | .setReadOnly _ | .restoreFrame _ => .other
  | .push => .saved
  | .rollback => .undone
  | .commit => .kept
  | .clearSaved => .cleared

def run (s : Staging) (ops : List StagingStep) : Staging := ops.foldl (step c L) s

/-- The journal of a run, the latest first, after the entries of `past`. -/
def journal : Staging → List StagingStep → List JournalEntry → List JournalEntry
  | _, [], past => past
  | s, op :: ops, past => journal (s.step c L op) ops (s.entry c L op :: past)

end Staging

/-! ## The journal -/

/-- When the states were saved that are not closed yet, the latest first. An entry is as old as the entries before it
    are many. -/
def openSaves : List JournalEntry → List Nat
  | [] => []
  | .saved :: past => past.length :: openSaves past
  | .undone :: past | .kept :: past => (openSaves past).tail
  | .cleared :: _ => []
  | .wrote _ :: past | .other :: past => openSaves past

/-- The writes made before a time. -/
def older (writes : List (Nat × Write)) (time : Nat) : List (Nat × Write) := writes.filter (·.1 < time)

/-- The writes that nothing has undone, the latest first, each with its time. -/
def surviving : List JournalEntry → List (Nat × Write)
  | [] => []
  | .wrote w :: past => (past.length, w) :: surviving past
  | .undone :: past =>
    match openSaves past with
    | [] => surviving past
    | taken :: _ => older (surviving past) taken
  | .saved :: past | .kept :: past | .cleared :: past | .other :: past => surviving past

/-- The value of the latest of some writes to a key. -/
def latest (writes : List (Nat × Write)) (a : Address) (key : Bytes) : Option Bytes :=
  (writes.find? fun p => p.2.address = a ∧ p.2.key = key).map (·.2.value)

theorem openSaves_sublist (e : JournalEntry) (past : List JournalEntry) :
    (openSaves (e :: past)).Sublist (past.length :: openSaves past) := by
  cases e with
  | saved => exact .refl _
  | undone | kept => exact (List.tail_sublist _).cons _
  | cleared => exact List.nil_sublist _
  | wrote w => exact (List.Sublist.refl _).cons _
  | other => exact (List.Sublist.refl _).cons _

/-- A state was saved before everything after it, and after those below it. -/
theorem pairwise_openSaves (past : List JournalEntry) :
    (past.length :: openSaves past).Pairwise fun later earlier => earlier ≤ later := by
  induction past with
  | nil => exact List.pairwise_singleton _ _
  | cons e past ih =>
    have hsub := openSaves_sublist e past
    refine List.pairwise_cons.2 ⟨fun time htime => ?_, ih.sublist hsub⟩
    rcases List.mem_cons.1 (hsub.subset htime) with rfl | hopen
    · exact Nat.le_succ _
    · exact Nat.le_succ_of_le ((List.pairwise_cons.1 ih).1 time hopen)

theorem older_older {time taken : Nat} (hle : time ≤ taken) (writes : List (Nat × Write)) :
    older (older writes taken) time = older writes time := by
  unfold older
  rw [List.filter_filter]
  refine List.filter_congr fun p _ => ?_
  by_cases hlt : p.1 < time
  · simp [hlt, Nat.lt_of_lt_of_le hlt hle]
  · simp [hlt]

theorem older_cons {time taken : Nat} (hle : taken ≤ time) (w : Write) (writes : List (Nat × Write)) :
    older ((time, w) :: writes) taken = older writes taken :=
  List.filter_cons_of_neg (by simpa using hle)

theorem older_surviving (past : List JournalEntry) : older (surviving past) past.length = surviving past := by
  refine List.filter_eq_self.2 fun p hp => decide_eq_true ?_
  induction past with
  | nil => cases hp
  | cons e past ih =>
    have hrest : p ∈ surviving past ∨ p.1 = past.length := by
      cases e with
      | wrote w =>
        rcases List.mem_cons.1 hp with rfl | hp
        · exact .inr rfl
        · exact .inl hp
      | undone =>
        unfold surviving at hp
        split at hp
        · exact .inl hp
        · exact .inl (List.mem_of_mem_filter hp)
      | saved | kept | cleared | other => exact .inl hp
    rcases hrest with hp | hp
    · exact Nat.lt_succ_of_lt (ih hp)
    · exact hp ▸ Nat.lt_succ_self _

theorem latest_cons (time : Nat) (w : Write) (writes : List (Nat × Write)) (a : Address) (key : Bytes) :
    latest ((time, w) :: writes) a key = if (a, key) = (w.address, w.key) then some w.value else latest writes a key := by
  unfold latest
  rw [List.find?_cons]
  by_cases hw : w.address = a ∧ w.key = key
  · obtain ⟨rfl, rfl⟩ := hw
    simp
  · rw [if_neg fun heq => hw ⟨(Prod.mk.inj heq).1.symm, (Prod.mk.inj heq).2.symm⟩, decide_eq_false hw]

/-! ## What is staged and saved -/

/-- There is one update for every key that some writes have a value for. -/
def Shows (accounts : AddressMap AccountStorage) (writes : List (Nat × Write)) : Prop :=
  ∀ a key, (accounts.getD a ∅)[key]? = (latest writes a key).map fun value => ⟨key, value⟩

/-- What is staged are the surviving writes, and every saved state has those made before it was saved. -/
structure Journaled (s : Staging) (past : List JournalEntry) : Prop where
  live : Shows s.accounts (surviving past)
  saved : List.Forall₂ (fun snapshot taken => Shows snapshot.accounts (older (surviving past) taken)) s.saved
    (openSaves past)

variable {c : HostConfig} {L : Ledger}

namespace Staging

/-- The meter of the host is a gas accounting. -/
theorem write_eq_writeBy (s : Staging) (m : Meter) (key value : Bytes) :
    ((s.write c L m key value).result, (s.write c L m key value).staging) =
      s.writeBy c L ⟨c.schedule, fun amount => (m.use? amount).isSome⟩ key value := by
  unfold write writeBy
  split
  · rfl
  split
  · rfl
  split
  · rfl
  dsimp only
  split
  · rename_i hm
    exact (if_neg (by simp [hm])).symm
  · rename_i meter hm
    exact (if_pos (by simp [hm])).symm

/-- A write is refused, or skipped in a read-only call, or put. -/
theorem writeBy_cases (s : Staging) (m : Metering) (key value : Bytes) :
    (∃ e, s.writeBy c L m key value = (.error e, s)) ∨
      s.frame.readOnly = true ∧ s.writeBy c L m key value = (.ok .unchanged, s) ∨
      ∃ status, s.frame.readOnly = false ∧ s.writeBy c L m key value = (.ok status, s.put key value) := by
  unfold writeBy
  split
  · exact .inl ⟨_, rfl⟩
  split
  · exact .inl ⟨_, rfl⟩
  split
  · rename_i hro
    exact .inr (.inl ⟨hro, rfl⟩)
  rename_i hrw
  dsimp only
  split
  · exact .inr (.inr ⟨_, Bool.eq_false_iff.2 hrw, rfl⟩)
  · exact .inl ⟨_, rfl⟩

end Staging

theorem journaled_empty : Journaled .empty [] where
  live a key := by simp [Staging.empty, latest, surviving]
  saved := .nil

/-- What is put shows in what is staged, and in no state that was saved before. -/
theorem Journaled.put {s : Staging} {past : List JournalEntry} (hj : Journaled s past) (key value : Bytes) :
    Journaled (s.put key value) (.wrote ⟨s.frame.address, key, value⟩ :: past) where
  live a k := by
    have hget := s.getElem?_updates_put key value a k
    rw [surviving, latest_cons]
    rw [show (s.updates a)[k]? = _ from hj.live a k] at hget
    refine Eq.trans hget ?_
    split
    · rename_i heq
      rw [(Prod.mk.inj heq).2]
      rfl
    · rfl
  saved := by
    obtain ⟨hlength, hsaved⟩ := List.forall₂_iff_zip.1 hj.saved
    refine List.forall₂_iff_zip.2 ⟨hlength, fun hmem => ?_⟩
    have hle := (List.pairwise_cons.1 (pairwise_openSaves past)).1 _ (List.of_mem_zip hmem).2
    rw [surviving, older_cons hle]
    exact hsaved hmem

/-- A saved state has what is staged now. -/
theorem Journaled.push {s : Staging} {past : List JournalEntry} (hj : Journaled s past) :
    Journaled s.push (.saved :: past) where
  live := hj.live
  saved := by
    have hnow : Shows s.accounts (older (surviving past) past.length) := (older_surviving past).symm ▸ hj.live
    exact .cons hnow hj.saved

/-- A rollback goes back to the writes from before the state was saved, and states saved earlier keep theirs. -/
theorem Journaled.rollback {s : Staging} {past : List JournalEntry} (hj : Journaled s past) :
    Journaled s.rollback (.undone :: past) := by
  obtain ⟨hlive, hsaved⟩ := hj
  have hpairwise := pairwise_openSaves past
  obtain ⟨accounts, frame, saved⟩ := s
  dsimp only at hlive hsaved
  cases hopen : openSaves past with
  | nil =>
    rw [hopen] at hsaved
    cases hsaved
    exact ⟨by rw [surviving, hopen]; exact hlive, by rw [openSaves, hopen]; exact .nil⟩
  | cons taken times =>
    rw [hopen] at hsaved hpairwise
    cases hsaved with
    | @cons last _ below _ hlast hbelow =>
      refine ⟨by rw [surviving, hopen]; exact hlast, ?_⟩
      obtain ⟨hlength, hbelow⟩ := List.forall₂_iff_zip.1 hbelow
      rw [openSaves, surviving, hopen]
      refine List.forall₂_iff_zip.2 ⟨hlength, fun {snapshot time} hmem => ?_⟩
      have hle := (List.pairwise_cons.1 (List.pairwise_cons.1 hpairwise).2).1 _ (List.of_mem_zip hmem).2
      rw [older_older hle]
      exact hbelow hmem

theorem Journaled.commit {s : Staging} {past : List JournalEntry} (hj : Journaled s past) :
    Journaled s.commit (.kept :: past) := by
  have hbelow := List.forall₂_drop 1 hj.saved
  rw [List.drop_one, List.drop_one] at hbelow
  rw [s.commit_eq]
  exact ⟨hj.live, hbelow⟩

theorem Journaled.writeBy {s : Staging} {past : List JournalEntry} (hj : Journaled s past) (m : Metering)
    (key value : Bytes) :
    Journaled (s.writeBy c L m key value).2 (s.written key value (s.writeBy c L m key value).1 :: past) := by
  have hother : Journaled s (.other :: past) := ⟨hj.live, hj.saved⟩
  unfold Staging.written
  rcases s.writeBy_cases (c := c) (L := L) m key value with ⟨e, hx⟩ | ⟨hro, hx⟩ | ⟨status, hrw, hx⟩ <;> rw [hx]
  · exact hother
  · rw [if_neg (by simp [hro])]
    exact hother
  · rw [if_pos ⟨rfl, by simp [hrw]⟩]
    exact hj.put key value

theorem Journaled.step {s : Staging} {past : List JournalEntry} (hj : Journaled s past) (op : StagingStep) :
    Journaled (s.step c L op) (s.entry c L op :: past) := by
  have hother : ∀ frame, Journaled { s with frame } (.other :: past) := fun _ => ⟨hj.live, hj.saved⟩
  cases op with
  | write schedule m key value =>
    have hwrite := hj.writeBy (c := { c with schedule }) (L := L) ⟨schedule, fun g => (m.use? g).isSome⟩ key value
    rw [← s.write_eq_writeBy (c := { c with schedule })] at hwrite
    exact hwrite
  | writeBy m key value => exact hj.writeBy m key value
  | setAddress a => exact hother _
  | setReadOnly on => exact hother _
  | restoreFrame frame => exact hother frame
  | push => exact hj.push
  | rollback => exact hj.rollback
  | commit => exact hj.commit
  | clearSaved => exact ⟨hj.live, .nil⟩

theorem Journaled.run {s : Staging} {past : List JournalEntry} (hj : Journaled s past) (ops : List StagingStep) :
    Journaled (s.run c L ops) (s.journal c L ops past) := by
  induction ops generalizing s past with
  | nil => exact hj
  | cons op ops ih => exact ih (hj.step op)

/-! ## The output -/

/-- The records of a frame have no storage updates. -/
def OutputFrame.Unwritten (f : OutputFrame) : Prop := ∀ a, (f.account a).updates = ∅

namespace OutputFrame

variable {f g : OutputFrame}

theorem unwritten_empty : Unwritten .empty := fun a => by rw [account_empty]; rfl

theorem Unwritten.update (hf : f.Unwritten) (a : Address) {change : OutputAccount → OutputAccount}
    (hchange : ∀ o, (change o).updates = o.updates) : (f.update a change).Unwritten := by
  intro b
  rw [account_update]
  split
  · rw [hchange]
    exact hf b
  · exact hf b

theorem Unwritten.merge (hf : f.Unwritten) (hg : g.Unwritten) : (f.merge g).Unwritten := by
  intro a
  rw [account_merge, OutputAccount.merge, hf a, hg a]
  exact AccountStorage.union_empty ∅

end OutputFrame

namespace Accumulator

/-- Neither the live frame nor a parked one has storage updates. -/
structure Unwritten (o : Accumulator) : Prop where
  frame : o.frame.Unwritten
  parked : ∀ p ∈ o.parked, p.frame.Unwritten

variable {o o' : Accumulator}

theorem Unwritten.addToBalance (ho : o.Unwritten) (a : Address) (d : Delta) : (o.addToBalance a d).Unwritten := by
  refine ⟨?_, ho.parked⟩
  unfold Accumulator.addToBalance
  exact ho.frame.update a fun _ => rfl

theorem Unwritten.mark (ho : o.Unwritten) (receiver : Address) (data : Bytes) : (o.mark receiver data).Unwritten := by
  refine ⟨?_, parked_mark o receiver data ▸ ho.parked⟩
  unfold Accumulator.mark
  split
  · exact ho.frame
  · exact ho.frame.update receiver fun _ => rfl

theorem Unwritten.deploy (ho : o.Unwritten) (a : Address) (code : Bytes) (metadata : CodeMetadata) :
    (o.deploy a code metadata).Unwritten := by
  refine ⟨?_, ho.parked⟩
  unfold Accumulator.deploy
  exact ho.frame.update a fun _ => rfl

theorem Unwritten.transfer (ho : o.Unwritten) {sender receiver : Address} {value : U256} {data : Bytes}
    (ht : o.transfer L sender receiver value data = .ok o') : o'.Unwritten := by
  rcases transfer_cases ht with rfl | ⟨-, rfl⟩
  · exact ((ho.addToBalance sender _).addToBalance receiver _).mark receiver data
  · exact ho

theorem Unwritten.step (ho : o.Unwritten) (op : OutputStep) : (o.step L op).Unwritten := by
  have htop : ∀ {p ps}, o.parked.pop? = some (p, ps) → p.frame.Unwritten ∧ ∀ q ∈ ps, q.frame.Unwritten :=
    fun hparked => List.forall_mem_cons.1 (Stack.pop?_eq_some_iff.1 hparked ▸ ho.parked)
  cases op with
  | transfer sender receiver value data =>
    show ((o.transfer L sender receiver value data).toOption.getD o).Unwritten
    cases ht : o.transfer L sender receiver value data with
    | error e => exact ho
    | ok o' => exact ho.transfer ht
  | finish data => exact ⟨ho.frame, ho.parked⟩
  | log entry => exact ⟨ho.frame, ho.parked⟩
  | deploy a code metadata => exact ho.deploy a code metadata
  | push => exact ⟨ho.frame, List.forall_mem_cons.2 ⟨ho.frame, ho.parked⟩⟩
  | isolate => exact ⟨OutputFrame.unwritten_empty, List.forall_mem_cons.2 ⟨ho.frame, ho.parked⟩⟩
  | rollback =>
    unfold Accumulator.step rollback
    dsimp only
    split
    · exact ho
    · rename_i hparked
      exact ⟨(htop hparked).1, (htop hparked).2⟩
  | discard =>
    unfold Accumulator.step discard
    dsimp only
    split
    · exact ho
    · rename_i hparked
      exact ⟨ho.frame, (htop hparked).2⟩
  | fold =>
    unfold Accumulator.step fold
    dsimp only
    split
    · exact ho
    · rename_i hparked
      exact ⟨(htop hparked).1.merge ho.frame, (htop hparked).2⟩

theorem Unwritten.run (ho : o.Unwritten) (ops : List OutputStep) : (o.run L ops).Unwritten := by
  induction ops generalizing o with
  | nil => exact ho
  | cons op ops ih => exact ih (ho.step op)

theorem unwritten_empty : Unwritten .empty := ⟨OutputFrame.unwritten_empty, fun _ hp => by cases hp⟩

/-- A success exports what is staged and no other update. -/
theorem Unwritten.updates_finalize (ho : o.Unwritten) (s : Staging) (gasRemaining gasRefund : U64) (a : Address)
    (key : Bytes) :
    ((o.finalize s.accounts gasRemaining gasRefund).accounts[a]?.bind fun account => account.updates[key]?) =
      (s.updates a)[key]? := by
  rw [getElem?_finalize]
  split
  · rename_i hempty
    have hnone : s.updates a = ∅ := Std.ExtTreeMap.isEmpty_iff.1 hempty
    have hrecord := ho.frame a
    unfold OutputFrame.account at hrecord
    rw [Std.ExtTreeMap.getD_eq_getD_getElem?] at hrecord
    rw [hnone, Std.ExtTreeMap.getElem?_empty]
    cases hget : o.frame.accounts[a]? with
    | none => rfl
    | some account =>
      rw [hget] at hrecord
      show account.updates[key]? = none
      rw [show account.updates = ∅ from hrecord, Std.ExtTreeMap.getElem?_empty]
  · rfl

end Accumulator

/-! ## The theorem -/

/-- The committed metadata of an account lets others read its storage. -/
def Ledger.Readable (L : Ledger) (a : Address) : Prop :=
  ∃ metadata, L.metadata a = .ok metadata ∧ metadata.readable = true

theorem Staging.getFrom_readable {s : Staging} {a : Address} (ha : a = s.frame.address ∨ L.Readable a) (key : Bytes) :
    s.getFrom L a key = some (s.valueOf L a key) := by
  unfold getFrom
  split
  · subst_vars
    rfl
  · rename_i hne
    obtain ⟨metadata, hmetadata, hreadable⟩ := ha.resolve_left hne
    rw [hmetadata]
    exact if_pos hreadable

/-- After any operations on a new staging every key reads as its last surviving write, or else as it is committed, and
    the updates of the staging and of the output of a success are the last surviving writes, one for each key. -/
theorem Staging.reads_journal (c : HostConfig) (L : Ledger) (ops : List StagingStep) (a : Address) (key : Bytes) :
    let s := Staging.empty.run c L ops
    let last := latest (surviving (Staging.empty.journal c L ops [])) a key
    (a = s.frame.address → s.get L key = last.getD (L.stored a key)) ∧
      (a = s.frame.address ∨ L.Readable a → s.getFrom L a key = some (last.getD (L.stored a key))) ∧
      (s.updates a)[key]? = last.map (fun value => ⟨key, value⟩) ∧
      ∀ (steps : List OutputStep) (gasRemaining gasRefund : U64),
        (((Accumulator.empty.run L steps).finalize s.accounts gasRemaining gasRefund).accounts[a]?.bind
          fun account => account.updates[key]?) = last.map fun value => ⟨key, value⟩ := by
  intro s last
  have hj : Journaled s (Staging.empty.journal c L ops []) := journaled_empty.run ops
  have hupdates : (s.updates a)[key]? = last.map fun value => ⟨key, value⟩ := hj.live a key
  have hvalue : s.valueOf L a key = last.getD (L.stored a key) := by
    rw [Staging.valueOf_eq, hupdates, Option.map_map]
    cases last <;> rfl
  refine ⟨?_, fun ha => ?_, hupdates, fun steps gasRemaining gasRefund => ?_⟩
  · rintro rfl
    exact hvalue
  · rw [Staging.getFrom_readable ha, hvalue]
  · rw [(Accumulator.unwritten_empty.run steps).updates_finalize, hupdates]

/-- Writes in two accounts, those of the second undone although a state saved among them was dropped, and an empty
    value over a committed one. -/
def detourSteps : List StagingStep :=
  let write := StagingStep.write .standard (.ofGas 1000)
  [.setAddress (.named "bob"), write [1] [5], .push, .setAddress (.named "carol"), write [1] [6], .push, write [2] [7],
    .commit, .rollback, .rollback, write [2] []]

def detourWorld : World := .ofSteps [.setStorage (.named "bob") [2] [8], .setStorage (.named "carol") [1] [9]]

theorem Staging.reads_journal_detour :
    let L := detourWorld.ledger
    let s := Staging.empty.run .standard L detourSteps
    s.frame.address = .named "bob" ∧ s.get L [1] = [5] ∧ s.get L [2] = [] ∧
      (s.updates (.named "carol"))[([1] : Bytes)]? = none ∧
      (s.updates (.named "bob"))[([2] : Bytes)]? = some ⟨[2], []⟩ := by
  have hactive : (Staging.empty.run .standard detourWorld.ledger detourSteps).frame.address = .named "bob" := by
    decide +kernel
  have hreads := Staging.reads_journal .standard detourWorld.ledger detourSteps
  obtain ⟨hkept, -⟩ := hreads (.named "bob") [1]
  obtain ⟨hdeleted, -, hupdate, -⟩ := hreads (.named "bob") [2]
  obtain ⟨-, -, hundone, -⟩ := hreads (.named "carol") [1]
  have hsurviving : surviving (Staging.empty.journal .standard detourWorld.ledger detourSteps []) =
      [(10, ⟨.named "bob", [2], []⟩), (1, ⟨.named "bob", [1], [5]⟩)] := by decide +kernel
  rw [hsurviving] at hkept hdeleted hupdate hundone
  exact ⟨hactive, hkept hactive.symm, hdeleted hactive.symm, hundone, hupdate⟩

end ContractHost

/-
  ContractHost.Proofs.Solvency — the accumulator never loses count of value.

  `exactDelta` is the change of a balance through the chain of frames, summed up in the
  integers. An accumulator is `Solvent` if at every level of the chain these changes only
  move value. With a supply that fits a balance a solvent accumulator adds without being
  stopped anywhere: what it shows is the exact change (`toInt_visibleDelta`), a balance is
  the committed one and that change (`effectiveBalance_eq`), and a transfer moves exactly
  its value (`Solvent.transfer`).

  Solvency holds of the empty accumulator and is kept by every operation that closes a
  frame the way it was opened.
-/

import ContractHost.Proofs.Frame
import ContractHost.Proofs.Supply

namespace ContractHost.Accumulator

variable {L : Ledger}

/-- The change of a balance in the parked frames that a live frame of this origin does not contain. -/
def exactBelow (a : Address) : FrameOrigin → List ParkedFrame → Int
  | _, [] => 0
  | .shared, p :: ps => exactBelow a p.origin ps
  | .isolated, p :: ps => (p.frame.deltaOf a).toInt + exactBelow a p.origin ps

@[simp] theorem exactBelow_isolated (a : Address) (p : ParkedFrame) (ps : List ParkedFrame) :
    exactBelow a .isolated (p :: ps) = (p.frame.deltaOf a).toInt + exactBelow a p.origin ps := rfl

def exactDelta (s : Accumulator) (a : Address) : Int := (s.frame.deltaOf a).toInt + exactBelow a s.origin s.parked

/-- At every parked level the changes only move value. -/
def SolventFrames (L : Ledger) : List ParkedFrame → Prop
  | [] => True
  | p :: ps => L.Covers (exactDelta ⟨p.frame, p.origin, ps⟩) ∧ SolventFrames L ps

structure Solvent (L : Ledger) (s : Accumulator) : Prop where
  covers : L.Covers s.exactDelta
  parked : SolventFrames L s.parked

theorem solvent_empty : Solvent L empty := by
  refine ⟨?_, trivial⟩
  have hzero : exactDelta empty = fun _ => 0 := by
    funext a
    simp [exactDelta, exactBelow, empty]
  rw [hzero]
  exact Ledger.covers_zero

/-! ## Exact sums -/

/-- What is parked below a level is what some level below shows, or nothing. -/
theorem holds_exactBelow (hL : L.Bounded) {ps : List ParkedFrame} (hps : SolventFrames L ps) (a : Address)
    (o : FrameOrigin) : L.Holds a (exactBelow a o ps) := by
  induction ps generalizing o with
  | nil => exact Ledger.holds_zero hL a
  | cons p ps ih =>
    cases o with
    | shared => exact ih hps.2 p.origin
    | isolated => exact hps.1.holds hL a

/-- Each partial sum is the difference of two levels, so none is stopped. -/
theorem toInt_visibleFrom (hL : L.Bounded) {ps : List ParkedFrame} (hps : SolventFrames L ps) {a : Address}
    {o : FrameOrigin} {d : Delta} (h : L.Holds a (d.toInt + exactBelow a o ps)) :
    (visibleFrom a o ps d).toInt = d.toInt + exactBelow a o ps := by
  induction ps generalizing o d with
  | nil =>
    unfold visibleFrom exactBelow
    omega
  | cons p ps ih =>
    cases o with
    | shared => exact ih hps.2 h
    | isolated =>
      have hsum : (d + p.frame.deltaOf a).toInt = d.toInt + (p.frame.deltaOf a).toInt := by
        apply Delta.toInt_add_of_mem
        have hdiff := h.sub_inRange (holds_exactBelow hL hps.2 a p.origin)
        rwa [exactBelow_isolated, ← Int.add_assoc, Int.add_sub_cancel] at hdiff
      rw [exactBelow_isolated] at h ⊢
      rw [visibleFrom, ih hps.2 (by rwa [hsum, Int.add_assoc]), hsum, Int.add_assoc]

theorem toInt_visibleDelta (hL : L.Bounded) {s : Accumulator} (hs : s.Solvent L) (a : Address) :
    (s.visibleDelta a).toInt = s.exactDelta a :=
  toInt_visibleFrom hL hs.parked (hs.covers.holds hL a)

/-- A balance is the committed one and the exact change; it is neither capped nor made up. -/
theorem effectiveBalance_eq (hL : L.Bounded) {s : Accumulator} (hs : s.Solvent L) {a : Address} {committed : U256}
    (ha : L.balance a = .ok committed) :
    ∃ b : U256, s.effectiveBalance L a = .ok b ∧ (s.visibleDelta a).applyTo committed = some b ∧
      (b.val : Int) = committed.val + s.exactDelta a := by
  obtain ⟨hlow, hhigh⟩ := hs.covers.holds hL a
  rw [Ledger.committed_of_balance ha] at hlow hhigh
  have htop : (committed.val + s.exactDelta a).toNat ≤ 2 ^ 256 - 1 := by
    unfold Delta.limit at hhigh
    omega
  have happly : (s.visibleDelta a).applyTo committed = some ⟨_, htop⟩ := by
    rw [Delta.applyTo_eq_some_iff, toInt_visibleDelta hL hs]
    show ((committed.val + s.exactDelta a).toNat : Int) = _
    omega
  refine ⟨_, ?_, happly, ?_⟩
  · rw [effectiveBalance, ha]
    dsimp only
    rw [happly]
    rfl
  · show ((committed.val + s.exactDelta a).toNat : Int) = _
    omega

/-! ## Opening and closing frames -/

@[simp] theorem exactDelta_push (s : Accumulator) : s.push.exactDelta = s.exactDelta := rfl

@[simp] theorem exactDelta_isolate (s : Accumulator) : s.isolate.exactDelta = s.exactDelta := by
  funext a
  simp [exactDelta, isolate]

theorem Solvent.push {s : Accumulator} (hs : s.Solvent L) : s.push.Solvent L := ⟨hs.covers, hs.covers, hs.parked⟩

theorem Solvent.isolate {s : Accumulator} (hs : s.Solvent L) : s.isolate.Solvent L :=
  ⟨by rw [exactDelta_isolate]; exact hs.covers, hs.covers, hs.parked⟩

theorem Solvent.rollback {s : Accumulator} (hs : s.Solvent L) : s.rollback.Solvent L := by
  obtain ⟨frame, origin, parked⟩ := s
  cases parked with
  | nil => exact hs
  | cons p ps => exact ⟨hs.parked.1, hs.parked.2⟩

theorem exactDelta_discard {s : Accumulator} (ho : s.origin = .shared) : s.discard.exactDelta = s.exactDelta := by
  obtain ⟨frame, origin, parked⟩ := s
  cases parked with
  | nil => rfl
  | cons p ps => cases ho; rfl

theorem parked_discard (s : Accumulator) : s.discard.parked = s.parked.tail := by
  obtain ⟨frame, origin, parked⟩ := s
  cases parked <;> rfl

theorem parked_fold (s : Accumulator) : s.fold.parked = s.parked.tail := by
  obtain ⟨frame, origin, parked⟩ := s
  cases parked <;> rfl

theorem SolventFrames.tail {ps : List ParkedFrame} (h : SolventFrames L ps) : SolventFrames L ps.tail := by
  cases ps with
  | nil => exact h
  | cons p ps => exact h.2

theorem Solvent.discard {s : Accumulator} (hs : s.Solvent L) (ho : s.origin = .shared) : s.discard.Solvent L :=
  ⟨by rw [exactDelta_discard ho]; exact hs.covers, by rw [parked_discard]; exact hs.parked.tail⟩

/-- The sum of two frames is the difference of two levels again. -/
theorem exactDelta_fold (hL : L.Bounded) {s : Accumulator} (hs : s.Solvent L) (ho : s.origin = .isolated) :
    s.fold.exactDelta = s.exactDelta := by
  obtain ⟨frame, origin, parked⟩ := s
  cases parked with
  | nil => rfl
  | cons p ps =>
    cases ho
    funext a
    have hdiff := (hs.covers.holds hL a).sub_inRange (holds_exactBelow hL hs.parked.2 a p.origin)
    simp only [exactDelta, exactBelow] at hdiff
    have hsum : (p.frame.deltaOf a + frame.deltaOf a).toInt = (p.frame.deltaOf a).toInt + (frame.deltaOf a).toInt := by
      apply Delta.toInt_add_of_mem
      rwa [← Int.add_assoc, Int.add_sub_cancel, Int.add_comm] at hdiff
    simp only [exactDelta, exactBelow, fold, Stack.pop?_cons, OutputFrame.deltaOf_merge, hsum]
    omega

theorem Solvent.fold (hL : L.Bounded) {s : Accumulator} (hs : s.Solvent L) (ho : s.origin = .isolated) :
    s.fold.Solvent L :=
  ⟨by rw [exactDelta_fold hL hs ho]; exact hs.covers, by rw [parked_fold]; exact hs.parked.tail⟩

/-! ## Recording effects -/

/-- An operation on the live frame that leaves the changes as they are. -/
theorem Solvent.of_frame {s t : Accumulator} (hs : s.Solvent L) (hdelta : t.exactDelta = s.exactDelta)
    (hparked : t.parked = s.parked) : t.Solvent L :=
  ⟨hdelta ▸ hs.covers, hparked ▸ hs.parked⟩

theorem exactDelta_finish (s : Accumulator) (data : Bytes) : (s.finish data).exactDelta = s.exactDelta := rfl

theorem exactDelta_log (s : Accumulator) (entry : LogEntry) : (s.log entry).exactDelta = s.exactDelta := rfl

theorem exactDelta_deploy (s : Accumulator) (a : Address) (code : Bytes) (metadata : CodeMetadata) :
    (s.deploy a code metadata).exactDelta = s.exactDelta := by
  funext b
  simp only [exactDelta, deploy, OutputFrame.deltaOf_update]
  split <;> rfl

theorem exactDelta_addToBalance (hL : L.Bounded) {s : Accumulator} (hparked : SolventFrames L s.parked) {a : Address}
    {d : Delta} (h : L.Holds a (s.exactDelta a + d.toInt)) (b : Address) :
    (s.addToBalance a d).exactDelta b = s.exactDelta b + if a = b then d.toInt else 0 := by
  simp only [exactDelta, addToBalance, OutputFrame.deltaOf_update]
  split
  · subst b
    have hdiff := h.sub_inRange (holds_exactBelow hL hparked a s.origin)
    have hsum : (s.frame.deltaOf a + d).toInt = (s.frame.deltaOf a).toInt + d.toInt := by
      apply Delta.toInt_add_of_mem
      unfold exactDelta at hdiff
      rwa [show ∀ x y z : Int, x + y + z - y = x + z by omega] at hdiff
    show (s.frame.deltaOf a + d).toInt + _ = _
    rw [hsum]
    omega
  · omega

/-! ## Transfers -/

/-- The data that comes with a transfer stays with its receiver. -/
def mark (s : Accumulator) (receiver : Address) (data : Bytes) : Accumulator :=
  if data.isEmpty then s else { s with frame := s.frame.update receiver fun o => { o with callData := data } }

/-- What a transfer that is granted records. -/
def moved (s : Accumulator) (sender receiver : Address) (value : U256) (data : Bytes) : Accumulator :=
  ((s.addToBalance sender (.debit value)).addToBalance receiver (.credit value)).mark receiver data

theorem transfer_eq (s : Accumulator) (sender receiver : Address) (value : U256) (data : Bytes) :
    s.transfer L sender receiver value data =
      if value = 0 ∧ data.isEmpty then .ok s
      else if value = 0 then .ok (s.moved sender receiver value data)
      else match s.effectiveBalance L sender with
        | .error e => .error e
        | .ok balance => if balance < value then .error .outOfFunds else .ok (s.moved sender receiver value data) := rfl

theorem transfer_cases {s t : Accumulator} {sender receiver : Address} {value : U256} {data : Bytes}
    (h : s.transfer L sender receiver value data = .ok t) :
    t = s.moved sender receiver value data ∨ value = 0 ∧ t = s := by
  rw [transfer_eq] at h
  split at h
  · rename_i hempty
    exact .inr ⟨hempty.1, (Except.ok.inj h).symm⟩
  split at h
  · exact .inl (Except.ok.inj h).symm
  cases heff : s.effectiveBalance L sender with
  | error e => simp [heff] at h
  | ok balance =>
    rw [heff] at h
    dsimp only at h
    split at h
    · cases h
    · exact .inl (Except.ok.inj h).symm

theorem parked_mark (s : Accumulator) (receiver : Address) (data : Bytes) : (s.mark receiver data).parked = s.parked := by
  unfold mark
  split <;> rfl

theorem origin_mark (s : Accumulator) (receiver : Address) (data : Bytes) : (s.mark receiver data).origin = s.origin := by
  unfold mark
  split <;> rfl

theorem parked_transfer {s t : Accumulator} {sender receiver : Address} {value : U256} {data : Bytes}
    (h : s.transfer L sender receiver value data = .ok t) : t.parked = s.parked := by
  rcases transfer_cases h with rfl | ⟨-, rfl⟩
  · rw [moved, parked_mark]
    rfl
  · rfl

theorem origin_transfer {s t : Accumulator} {sender receiver : Address} {value : U256} {data : Bytes}
    (h : s.transfer L sender receiver value data = .ok t) : t.origin = s.origin := by
  rcases transfer_cases h with rfl | ⟨-, rfl⟩
  · rw [moved, origin_mark]
    rfl
  · rfl

theorem exactDelta_mark (s : Accumulator) (receiver : Address) (data : Bytes) :
    (s.mark receiver data).exactDelta = s.exactDelta := by
  unfold mark
  split
  · rfl
  · funext a
    simp only [exactDelta, OutputFrame.deltaOf_update]
    split <;> rfl

section Moved

variable {s : Accumulator} {sender receiver : Address} {value : U256}

theorem holds_debit (hL : L.Bounded) (hs : s.Solvent L)
    (hpays : (value.val : Int) ≤ L.committed sender + s.exactDelta sender) :
    L.Holds sender (s.exactDelta sender + (Delta.debit value).toInt) := by
  obtain ⟨hlow, hhigh⟩ := hs.covers.holds hL sender
  rw [Delta.toInt_debit]
  unfold Ledger.Holds
  omega

theorem exactDelta_debit (hL : L.Bounded) (hs : s.Solvent L)
    (hpays : (value.val : Int) ≤ L.committed sender + s.exactDelta sender) (a : Address) :
    (s.addToBalance sender (.debit value)).exactDelta a = s.exactDelta a - if sender = a then (value.val : Int) else 0 := by
  rw [exactDelta_addToBalance hL hs.parked (holds_debit hL hs hpays), Delta.toInt_debit]
  split <;> omega

/-- Between the debit and the credit the receiver has no more than after both. -/
theorem holds_between (hL : L.Bounded) (hs : s.Solvent L)
    (hpays : (value.val : Int) ≤ L.committed sender + s.exactDelta sender) :
    L.Holds receiver ((s.addToBalance sender (.debit value)).exactDelta receiver) := by
  obtain ⟨hlow, hhigh⟩ := hs.covers.holds hL receiver
  rw [exactDelta_debit hL hs hpays]
  unfold Ledger.Holds
  split
  · subst receiver
    omega
  · omega

theorem holds_credit (hL : L.Bounded) (hs : s.Solvent L)
    (hpays : (value.val : Int) ≤ L.committed sender + s.exactDelta sender) :
    L.Holds receiver ((s.addToBalance sender (.debit value)).exactDelta receiver + (Delta.credit value).toInt) := by
  have hafter := (hs.covers.flow ⟨sender, receiver, value⟩ hpays).holds hL receiver
  rw [exactDelta_debit hL hs hpays, Delta.toInt_credit]
  simp only [Flow.on, if_true] at hafter
  rwa [show ∀ x y z : Int, x - y + z = x + (z - y) by omega]

/-- The debit and the credit are both exact, also where sender and receiver are the same account. -/
theorem exactDelta_moved (hL : L.Bounded) (hs : s.Solvent L) (data : Bytes)
    (hpays : (value.val : Int) ≤ L.committed sender + s.exactDelta sender) :
    (s.moved sender receiver value data).exactDelta = fun a => s.exactDelta a + Flow.on ⟨sender, receiver, value⟩ a := by
  funext a
  rw [moved, exactDelta_mark, exactDelta_addToBalance hL (s := s.addToBalance sender _) hs.parked
    (holds_credit hL hs hpays), exactDelta_debit hL hs hpays, Delta.toInt_credit]
  unfold Flow.on
  dsimp only
  omega

end Moved

/-- A transfer that is granted is one the sender can pay. -/
theorem transfer_pays (hL : L.Bounded) {s t : Accumulator} (hs : s.Solvent L) {sender receiver : Address}
    {value : U256} {data : Bytes} (h : s.transfer L sender receiver value data = .ok t) :
    (value.val : Int) ≤ L.committed sender + s.exactDelta sender := by
  have hnone := hs.covers.solvent sender
  by_cases hvalue : value = 0
  · have hzero := Capped.eq_zero_iff.1 hvalue
    omega
  rw [transfer_eq, if_neg fun hempty => hvalue hempty.1, if_neg hvalue] at h
  cases hb : L.balance sender with
  | error e => simp [effectiveBalance, hb] at h
  | ok committed =>
    obtain ⟨b, heff, -, hval⟩ := effectiveBalance_eq hL hs hb
    rw [heff] at h
    dsimp only at h
    split at h
    · cases h
    · rename_i hlt
      rw [Capped.lt_iff] at hlt
      rw [Ledger.committed_of_balance hb]
      omega

theorem exactDelta_transfer (hL : L.Bounded) {s t : Accumulator} (hs : s.Solvent L) {sender receiver : Address}
    {value : U256} {data : Bytes} (h : s.transfer L sender receiver value data = .ok t) :
    t.exactDelta = fun a => s.exactDelta a + Flow.on ⟨sender, receiver, value⟩ a := by
  have hpays := transfer_pays hL hs h
  rcases transfer_cases h with rfl | ⟨hzero, rfl⟩
  · exact exactDelta_moved hL hs data hpays
  · funext a
    simp [Flow.on, Capped.eq_zero_iff.1 hzero]

theorem Solvent.transfer (hL : L.Bounded) {s t : Accumulator} (hs : s.Solvent L) {sender receiver : Address}
    {value : U256} {data : Bytes} (h : s.transfer L sender receiver value data = .ok t) : t.Solvent L := by
  refine ⟨?_, ?_⟩
  · rw [exactDelta_transfer hL hs h]
    exact hs.covers.flow _ (transfer_pays hL hs h)
  · rw [parked_transfer h]
    exact hs.parked

end ContractHost.Accumulator

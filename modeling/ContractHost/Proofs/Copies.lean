/-
  ContractHost.Proofs.Copies — the chain of frames does what one frame with full copies does.

  `Copies` is the plain way to undo effects: one live frame that holds everything, a full
  copy of it for every open call, dropped when the call commits and put back when it is
  rolled back. The accumulator opens some calls in an empty frame instead and folds it at
  the end. As long as every frame is closed the way it was opened (`pending`), both answer
  alike at every point, and the whole chain merged is the one frame
  (`agrees_of_pending`); and a closed stretch of operations gives the same accumulator
  whether it runs in a copy or in an empty frame (`isolated_eq_shared`).

  The proof flattens the upper part of a chain (`Flattens`): frame by frame the merge of
  what the frame does not contain, all origins shared but the lowest. Every operation
  commutes with flattening, and flattened operations are the reference's.
-/

import ContractHost.Proofs.Solvency

namespace ContractHost

/-! ## The reference -/

/-- One live frame with all effects, and a copy of it for every open call. -/
structure Copies where
  frame : OutputFrame
  saved : Stack OutputFrame
  deriving DecidableEq, Repr

/-- What a transfer that is granted records in a frame. -/
def OutputFrame.move (f : OutputFrame) (sender receiver : Address) (value : U256) (data : Bytes) : OutputFrame :=
  let paid := (f.update sender fun o => { o with delta := o.delta + .debit value }).update receiver
    fun o => { o with delta := o.delta + .credit value }
  if data.isEmpty then paid else paid.update receiver fun o => { o with callData := data }

inductive OutputStep where
  | transfer (sender receiver : Address) (value : U256) (data : Bytes)
  | finish (data : Bytes)
  | log (entry : LogEntry)
  | deploy (address : Address) (code : Bytes) (metadata : CodeMetadata)
  | push
  | isolate
  | rollback
  | discard
  | fold
  deriving DecidableEq, Repr

namespace Copies

def empty : Copies := ⟨.empty, []⟩

def visibleDelta (r : Copies) (a : Address) : Delta := r.frame.deltaOf a

def effectiveBalance (L : Ledger) (r : Copies) (a : Address) : Except CallError U256 :=
  match L.balance a with
  | .ok committed => .ok (((r.visibleDelta a).applyTo committed).getD 0)
  | .error e => .error (.lookup e)

def transfer (L : Ledger) (r : Copies) (sender receiver : Address) (value : U256) (data : Bytes) :
    Except CallError Copies :=
  if value = 0 ∧ data.isEmpty then .ok r
  else if value = 0 then .ok { r with frame := r.frame.move sender receiver value data }
  else
    match r.effectiveBalance L sender with
    | .error e => .error e
    | .ok balance =>
      if balance < value then .error .outOfFunds else .ok { r with frame := r.frame.move sender receiver value data }

/-- Opening copies the frame, committing drops the copy, rolling back restores it. -/
def step (L : Ledger) (r : Copies) : OutputStep → Copies
  | .transfer sender receiver value data => (r.transfer L sender receiver value data).toOption.getD r
  | .finish data => { r with frame := { r.frame with finishData := r.frame.finishData ++ [data] } }
  | .log entry => { r with frame := { r.frame with logs := r.frame.logs ++ [entry] } }
  | .deploy a code metadata =>
    { r with frame := r.frame.update a fun o => { o with code := some code, metadata := some metadata } }
  | .push | .isolate => { r with saved := r.frame :: r.saved }
  | .discard | .fold => { r with saved := r.saved.tail }
  | .rollback => ⟨r.saved.headD r.frame, r.saved.tail⟩

def run (L : Ledger) (r : Copies) (ops : List OutputStep) : Copies := ops.foldl (step L) r

end Copies

/-! ## The accumulator, operation by operation -/

namespace OutputStep

/-- The frames open after an operation, the latest first; none where it closes what it may not close. -/
def opens : OutputStep → List FrameOrigin → Option (List FrameOrigin)
  | .push, kinds => some (.shared :: kinds)
  | .isolate, kinds => some (.isolated :: kinds)
  | .discard, .shared :: kinds => some kinds
  | .fold, .isolated :: kinds => some kinds
  | .rollback, _ :: kinds => some kinds
  | .discard, _ | .fold, _ | .rollback, _ => none
  | _, kinds => some kinds

/-- The frames open after operations that all close their frames the way they were opened. -/
def pending (ops : List OutputStep) (kinds : List FrameOrigin) : Option (List FrameOrigin) :=
  ops.foldlM (fun kinds op => op.opens kinds) kinds

theorem pending_append {before after : List OutputStep} {kinds kinds' : List FrameOrigin} :
    pending (before ++ after) kinds = some kinds' ↔
      ∃ mid, pending before kinds = some mid ∧ pending after mid = some kinds' := by
  unfold pending
  rw [List.foldlM_append]
  exact Option.bind_eq_some_iff

theorem pending_cons {op : OutputStep} {ops : List OutputStep} {kinds kinds' : List FrameOrigin} :
    pending (op :: ops) kinds = some kinds' ↔ ∃ mid, op.opens kinds = some mid ∧ pending ops mid = some kinds' :=
  Option.bind_eq_some_iff

/-- What is open below is none of an operation's concern. -/
theorem opens_append {op : OutputStep} {kinds kinds' : List FrameOrigin} (h : op.opens kinds = some kinds')
    (outer : List FrameOrigin) : op.opens (kinds ++ outer) = some (kinds' ++ outer) := by
  cases op with
  | rollback => cases kinds <;> cases h; rfl
  | discard => rcases kinds with - | ⟨- | -, kinds⟩ <;> cases h; rfl
  | fold => rcases kinds with - | ⟨- | -, kinds⟩ <;> cases h; rfl
  | _ => cases h; rfl

theorem pending_outer {ops : List OutputStep} {kinds kinds' : List FrameOrigin} (h : pending ops kinds = some kinds')
    (outer : List FrameOrigin) : pending ops (kinds ++ outer) = some (kinds' ++ outer) := by
  induction ops generalizing kinds with
  | nil => cases h; rfl
  | cons op ops ih =>
    obtain ⟨next, hop, hrest⟩ := pending_cons.1 h
    exact pending_cons.2 ⟨_, opens_append hop outer, ih hrest⟩

/-- A closed stretch of operations between an opening and the close that belongs to it. -/
theorem pending_enclosed {child : List OutputStep} (hchild : pending child [] = some []) {first last : OutputStep}
    {kind : FrameOrigin} (hfirst : first.opens [] = some [kind]) (hlast : last.opens [kind] = some []) :
    pending (first :: child ++ [last]) [] = some [] := by
  have hinside : pending child [kind] = some [kind] := pending_outer hchild [kind]
  have hend : pending [last] [kind] = some [] := pending_cons.2 ⟨[], hlast, rfl⟩
  exact pending_append.2 ⟨[kind], pending_cons.2 ⟨[kind], hfirst, hinside⟩, hend⟩

/-- The same operation without empty frames. -/
def shared : OutputStep → OutputStep
  | .isolate => .push
  | .fold => .discard
  | op => op

end OutputStep

namespace Accumulator

def step (L : Ledger) (s : Accumulator) : OutputStep → Accumulator
  | .transfer sender receiver value data => (s.transfer L sender receiver value data).toOption.getD s
  | .finish data => s.finish data
  | .log entry => s.log entry
  | .deploy a code metadata => s.deploy a code metadata
  | .push => s.push
  | .isolate => s.isolate
  | .rollback => s.rollback
  | .discard => s.discard
  | .fold => s.fold

def run (L : Ledger) (s : Accumulator) (ops : List OutputStep) : Accumulator := ops.foldl (step L) s

/-- A frame put over the parked frames that it does not contain. -/
def foldedFrom : OutputFrame → FrameOrigin → List ParkedFrame → OutputFrame
  | f, _, [] => f
  | f, .shared, p :: ps => foldedFrom f p.origin ps
  | f, .isolated, p :: ps => foldedFrom (p.frame.merge f) p.origin ps

/-- All effects that the running call sees, in one frame. -/
def folded (s : Accumulator) : OutputFrame := foldedFrom s.frame s.origin s.parked

/-- An accumulator and a reference that nobody can tell apart. -/
structure Agrees (L : Ledger) (s : Accumulator) (r : Copies) : Prop where
  transfer : ∀ sender receiver value data, (s.transfer L sender receiver value data).map (fun _ => ()) =
    (r.transfer L sender receiver value data).map fun _ => ()
  effectiveBalance : ∀ a, s.effectiveBalance L a = r.effectiveBalance L a
  visibleDelta : ∀ a, s.visibleDelta a = r.visibleDelta a
  folded : s.folded = r.frame

/-! ## Folding a chain of frames -/

theorem deltaOf_foldedFrom (a : Address) (f : OutputFrame) (o : FrameOrigin) (ps : List ParkedFrame) :
    (foldedFrom f o ps).deltaOf a = visibleFrom a o ps (f.deltaOf a) := by
  induction ps generalizing f o with
  | nil => rfl
  | cons p ps ih =>
    cases o with
    | shared => exact ih f p.origin
    | isolated => rw [foldedFrom, ih, OutputFrame.deltaOf_merge, Delta.add_comm]; rfl

theorem foldedFrom_finish (f : OutputFrame) (o : FrameOrigin) (ps : List ParkedFrame) (data : Bytes) :
    foldedFrom { f with finishData := f.finishData ++ [data] } o ps =
      { foldedFrom f o ps with finishData := (foldedFrom f o ps).finishData ++ [data] } := by
  induction ps generalizing f o with
  | nil => rfl
  | cons p ps ih =>
    cases o with
    | shared => exact ih f p.origin
    | isolated =>
      rw [foldedFrom, foldedFrom, ← ih]
      simp only [OutputFrame.merge, List.append_assoc]

theorem foldedFrom_log (f : OutputFrame) (o : FrameOrigin) (ps : List ParkedFrame) (entry : LogEntry) :
    foldedFrom { f with logs := f.logs ++ [entry] } o ps =
      { foldedFrom f o ps with logs := (foldedFrom f o ps).logs ++ [entry] } := by
  induction ps generalizing f o with
  | nil => rfl
  | cons p ps ih =>
    cases o with
    | shared => exact ih f p.origin
    | isolated =>
      rw [foldedFrom, foldedFrom, ← ih]
      simp only [OutputFrame.merge, List.append_assoc]

/-- A change that passes through the merge of any two records of an account passes through the whole chain. -/
theorem foldedFrom_update {a : Address} {change : OutputAccount → OutputAccount}
    (h : ∀ earlier later : OutputAccount, earlier.merge (change later) = change (earlier.merge later))
    (f : OutputFrame) (o : FrameOrigin) (ps : List ParkedFrame) :
    foldedFrom (f.update a change) o ps = (foldedFrom f o ps).update a change := by
  induction ps generalizing f o with
  | nil => rfl
  | cons p ps ih =>
    cases o with
    | shared => exact ih f p.origin
    | isolated => rw [foldedFrom, foldedFrom, OutputFrame.merge_update (h _ _), ih]

/-- A change of a balance passes through as long as no sum on the way is stopped: each is the
    difference of two levels. -/
theorem foldedFrom_addDelta {L : Ledger} (hL : L.Bounded) {a : Address} {d : Delta} {low : List ParkedFrame}
    {f : OutputFrame} {o : FrameOrigin} {up : List ParkedFrame} (hps : SolventFrames L (up ++ low))
    (hbefore : L.Holds a ((f.deltaOf a).toInt + exactBelow a o (up ++ low)))
    (hafter : L.Holds a ((f.deltaOf a).toInt + exactBelow a o (up ++ low) + d.toInt)) :
    foldedFrom (f.update a fun r => { r with delta := r.delta + d }) o up =
      (foldedFrom f o up).update a fun r => { r with delta := r.delta + d } := by
  induction up generalizing f o with
  | nil => rfl
  | cons p ps ih =>
    cases o with
    | shared => exact ih hps.2 hbefore hafter
    | isolated =>
      have htail : SolventFrames L (ps ++ low) := hps.2
      have hbase := holds_exactBelow hL htail a p.origin
      have hlevel := holds_exactBelow hL hps a .isolated
      rw [List.cons_append, exactBelow_isolated] at hbefore hafter hlevel
      have hsum : Delta.InRange ((p.frame.deltaOf a).toInt + (f.deltaOf a).toInt) := by
        have := hbefore.sub_inRange hbase
        rwa [show ∀ x y z : Int, x + (y + z) - z = y + x by omega] at this
      have hnew : Delta.InRange ((f.deltaOf a).toInt + d.toInt) := by
        have := hafter.sub_inRange hlevel
        rwa [show ∀ x y w : Int, x + y + w - y = x + w by omega] at this
      have hall : Delta.InRange ((p.frame.deltaOf a).toInt + (f.deltaOf a).toInt + d.toInt) := by
        have := hafter.sub_inRange hbase
        rwa [show ∀ x y z w : Int, x + (y + z) + w - z = y + x + w by omega] at this
      have hassoc := Delta.add_assoc_of_mem hsum hnew hall
      have hmerged : ((p.frame.merge f).deltaOf a).toInt = (p.frame.deltaOf a).toInt + (f.deltaOf a).toInt := by
        rw [OutputFrame.deltaOf_merge, Delta.toInt_add_of_mem hsum]
      have hpass : p.frame.merge (f.update a fun r => { r with delta := r.delta + d }) =
          (p.frame.merge f).update a fun r => { r with delta := r.delta + d } := by
        apply OutputFrame.merge_update
        simp only [OutputAccount.merge]
        exact congrArg (fun delta => { (p.frame.account a).merge (f.account a) with delta }) hassoc.symm
      have hshift : ((p.frame.merge f).deltaOf a).toInt + exactBelow a p.origin (ps ++ low) =
          (f.deltaOf a).toInt + ((p.frame.deltaOf a).toInt + exactBelow a p.origin (ps ++ low)) := by omega
      rw [foldedFrom, foldedFrom, hpass]
      exact ih htail (hshift ▸ hbefore) (hshift ▸ hafter)

/-! ## Flattening -/

/-- The chain up to a frame of origin `o₀`: it was opened by `kinds`, the latest first. -/
def Opened (o₀ : FrameOrigin) : List FrameOrigin → FrameOrigin → List ParkedFrame → Prop
  | [], o, [] => o = o₀
  | kind :: kinds, o, p :: ps => kind = o ∧ Opened o₀ kinds p.origin ps
  | _, _, _ => False

theorem Opened.cons {o₀ o kind : FrameOrigin} {kinds : List FrameOrigin} {up : List ParkedFrame}
    (h : Opened o₀ kinds o up) (f : OutputFrame) : Opened o₀ (kind :: kinds) kind (⟨f, o⟩ :: up) := ⟨rfl, h⟩

theorem Opened.top {o₀ o kind : FrameOrigin} {kinds : List FrameOrigin} {up : List ParkedFrame}
    (h : Opened o₀ (kind :: kinds) o up) : ∃ p ps, up = p :: ps ∧ o = kind ∧ Opened o₀ kinds p.origin ps := by
  cases up with
  | nil => cases h
  | cons p ps => exact ⟨p, ps, rfl, h.1.symm, h.2⟩

/-- The origin of a flattened frame; the lowest one keeps its own. -/
def flatOrigin (o₀ : FrameOrigin) : List ParkedFrame → FrameOrigin
  | [] => o₀
  | _ :: _ => .shared

/-- Parked frames, each with what it does not contain. -/
def flatParked (o₀ : FrameOrigin) : List ParkedFrame → List ParkedFrame
  | [] => []
  | p :: ps => ⟨foldedFrom p.frame p.origin ps, flatOrigin o₀ ps⟩ :: flatParked o₀ ps

/-- The second accumulator is the first with the frames above `low` flattened; `kinds` opened them. -/
inductive Flattens (o₀ : FrameOrigin) (low : List ParkedFrame) : List FrameOrigin → Accumulator → Accumulator → Prop
  | intro {kinds : List FrameOrigin} {o : FrameOrigin} {up : List ParkedFrame} (f : OutputFrame)
      (h : Opened o₀ kinds o up) :
      Flattens o₀ low kinds ⟨f, o, up ++ low⟩ ⟨foldedFrom f o up, flatOrigin o₀ up, flatParked o₀ up ++ low⟩

variable {L : Ledger} {o₀ : FrameOrigin} {low : List ParkedFrame} {kinds : List FrameOrigin} {s t : Accumulator}

/-- Where nothing was opened, nothing is flattened. -/
theorem Flattens.start (s : Accumulator) : Flattens s.origin s.parked [] s s := @intro _ _ [] _ [] s.frame rfl

theorem visibleFrom_append {o : FrameOrigin} {up : List ParkedFrame} (h : Opened o₀ kinds o up) (a : Address)
    (d : Delta) : visibleFrom a o (up ++ low) d = visibleFrom a o₀ low (visibleFrom a o up d) := by
  induction up generalizing kinds o d with
  | nil =>
    cases kinds with
    | nil => cases h; rfl
    | cons kind kinds => cases h
  | cons p ps ih =>
    cases kinds with
    | nil => cases h
    | cons kind kinds => cases o <;> exact ih h.2 _

theorem visibleFrom_flatParked (up : List ParkedFrame) (a : Address) (d : Delta) :
    visibleFrom a (flatOrigin o₀ up) (flatParked o₀ up ++ low) d = visibleFrom a o₀ low d := by
  induction up with
  | nil => rfl
  | cons p ps ih => exact ih

theorem Flattens.visibleDelta (h : Flattens o₀ low kinds s t) (a : Address) : s.visibleDelta a = t.visibleDelta a := by
  cases h with
  | intro f h =>
    unfold Accumulator.visibleDelta
    rw [visibleFrom_append h, visibleFrom_flatParked, deltaOf_foldedFrom]

theorem Flattens.effectiveBalance (h : Flattens o₀ low kinds s t) (a : Address) :
    s.effectiveBalance L a = t.effectiveBalance L a := by
  unfold Accumulator.effectiveBalance
  rw [h.visibleDelta a]

/-! ## Every operation commutes with flattening -/

theorem Flattens.addToBalance (hL : L.Bounded) (h : Flattens o₀ low kinds s t) (hparked : SolventFrames L s.parked)
    {a : Address} {d : Delta} (hbefore : L.Holds a (s.exactDelta a)) (hafter : L.Holds a (s.exactDelta a + d.toInt)) :
    Flattens o₀ low kinds (s.addToBalance a d) (t.addToBalance a d) := by
  cases h with
  | intro f h =>
    have hpass := foldedFrom_addDelta hL hparked hbefore hafter
    unfold Accumulator.addToBalance
    dsimp only
    rw [← hpass]
    exact .intro _ h

theorem Flattens.update {a : Address} {change : OutputAccount → OutputAccount}
    (hpass : ∀ earlier later : OutputAccount, earlier.merge (change later) = change (earlier.merge later))
    (h : Flattens o₀ low kinds s t) :
    Flattens o₀ low kinds { s with frame := s.frame.update a change } { t with frame := t.frame.update a change } := by
  cases h with
  | intro f h =>
    dsimp only
    rw [← foldedFrom_update hpass]
    exact .intro _ h

theorem Flattens.mark (h : Flattens o₀ low kinds s t) (receiver : Address) (data : Bytes) :
    Flattens o₀ low kinds (s.mark receiver data) (t.mark receiver data) := by
  unfold Accumulator.mark
  split
  · exact h
  · rename_i hdata
    exact h.update fun earlier later => by simp only [OutputAccount.merge, hdata]; rfl

theorem Flattens.moved (hL : L.Bounded) (hs : s.Solvent L) (h : Flattens o₀ low kinds s t) {sender : Address}
    (receiver : Address) {value : U256} (data : Bytes)
    (hpays : (value.val : Int) ≤ L.committed sender + s.exactDelta sender) :
    Flattens o₀ low kinds (s.moved sender receiver value data) (t.moved sender receiver value data) := by
  have hpaid := h.addToBalance hL hs.parked (hs.covers.holds hL sender) (holds_debit hL hs hpays)
  exact (hpaid.addToBalance hL hs.parked (holds_between hL hs hpays) (holds_credit hL hs hpays)).mark receiver data

/-- A transfer is refused in both for the same reason or granted in both. -/
theorem Flattens.transfer (hL : L.Bounded) (hs : s.Solvent L) (h : Flattens o₀ low kinds s t) (sender receiver : Address)
    (value : U256) (data : Bytes) :
    (∃ e, s.transfer L sender receiver value data = .error e ∧ t.transfer L sender receiver value data = .error e) ∨
      ∃ s' t', s.transfer L sender receiver value data = .ok s' ∧ t.transfer L sender receiver value data = .ok t' ∧
        Flattens o₀ low kinds s' t' := by
  have hmoved : s.transfer L sender receiver value data = .ok (s.moved sender receiver value data) →
      Flattens o₀ low kinds (s.moved sender receiver value data) (t.moved sender receiver value data) := fun hok =>
    h.moved hL hs receiver data (transfer_pays hL hs hok)
  have heq := transfer_eq (L := L) s sender receiver value data
  have heq' := transfer_eq (L := L) t sender receiver value data
  rw [← h.effectiveBalance] at heq'
  by_cases hempty : value = 0 ∧ data.isEmpty
  · rw [if_pos hempty] at heq heq'
    exact .inr ⟨s, t, heq, heq', h⟩
  rw [if_neg hempty] at heq heq'
  by_cases hvalue : value = 0
  · rw [if_pos hvalue] at heq heq'
    exact .inr ⟨_, _, heq, heq', hmoved heq⟩
  rw [if_neg hvalue] at heq heq'
  cases heff : s.effectiveBalance L sender with
  | error e =>
    rw [heff] at heq heq'
    exact .inl ⟨e, heq, heq'⟩
  | ok balance =>
    rw [heff] at heq heq'
    dsimp only at heq heq'
    by_cases hlt : balance < value
    · rw [if_pos hlt] at heq heq'
      exact .inl ⟨.outOfFunds, heq, heq'⟩
    · rw [if_neg hlt] at heq heq'
      exact .inr ⟨_, _, heq, heq', hmoved heq⟩

/-- One operation: both stay solvent, and flattening turns empty frames into copies. -/
theorem Flattens.step (hL : L.Bounded) (hs : s.Solvent L) (h : Flattens o₀ low kinds s t) {op : OutputStep}
    {kinds' : List FrameOrigin} (hop : op.opens kinds = some kinds') :
    (s.step L op).Solvent L ∧ Flattens o₀ low kinds' (s.step L op) (t.step L op.shared) := by
  cases op with
  | transfer sender receiver value data =>
    cases hop
    unfold Accumulator.step OutputStep.shared
    rcases h.transfer hL hs sender receiver value data with ⟨e, hse, hte⟩ | ⟨s', t', hso, hto, h'⟩
    · simp only [hse, hte]
      exact ⟨hs, h⟩
    · simp only [hso, hto]
      exact ⟨hs.transfer hL hso, h'⟩
  | finish data =>
    cases hop
    refine ⟨hs.of_frame (exactDelta_finish s data) rfl, ?_⟩
    cases h with
    | intro f h =>
      have h' : Flattens o₀ low kinds _ _ := .intro { f with finishData := f.finishData ++ [data] } h
      rwa [foldedFrom_finish] at h'
  | log entry =>
    cases hop
    refine ⟨hs.of_frame (exactDelta_log s entry) rfl, ?_⟩
    cases h with
    | intro f h =>
      have h' : Flattens o₀ low kinds _ _ := .intro { f with logs := f.logs ++ [entry] } h
      rwa [foldedFrom_log] at h'
  | deploy a code metadata =>
    cases hop
    exact ⟨hs.of_frame (exactDelta_deploy s a code metadata) rfl, h.update fun _ _ => rfl⟩
  | push =>
    cases hop
    refine ⟨hs.push, ?_⟩
    cases h with
    | intro f h => exact .intro f (h.cons f)
  | isolate =>
    cases hop
    refine ⟨hs.isolate, ?_⟩
    cases h with
    | @intro o up f h =>
      have hempty : foldedFrom .empty .isolated (⟨f, o⟩ :: up) = foldedFrom f o up := by
        rw [foldedFrom, OutputFrame.merge_empty]
      have h' : Flattens o₀ low (.isolated :: kinds) _ _ := .intro .empty (h.cons f)
      rwa [hempty] at h'
  | rollback =>
    refine ⟨hs.rollback, ?_⟩
    cases kinds with
    | nil => cases hop
    | cons kind kinds =>
      cases hop
      cases h with
      | intro f h =>
        obtain ⟨p, ps, rfl, -, h'⟩ := h.top
        exact .intro p.frame h'
  | discard =>
    rcases kinds with - | ⟨- | -, kinds⟩ <;> cases hop
    cases h with
    | intro f h =>
      obtain ⟨p, ps, rfl, rfl, h'⟩ := h.top
      exact ⟨hs.discard rfl, .intro f h'⟩
  | fold =>
    rcases kinds with - | ⟨- | -, kinds⟩ <;> cases hop
    cases h with
    | intro f h =>
      obtain ⟨p, ps, rfl, rfl, h'⟩ := h.top
      exact ⟨hs.fold hL rfl, .intro (p.frame.merge f) h'⟩

theorem Flattens.run (hL : L.Bounded) (hs : s.Solvent L) (h : Flattens o₀ low kinds s t) {ops : List OutputStep}
    {kinds' : List FrameOrigin} (hops : OutputStep.pending ops kinds = some kinds') :
    (s.run L ops).Solvent L ∧ Flattens o₀ low kinds' (s.run L ops) (t.run L (ops.map OutputStep.shared)) := by
  induction ops generalizing kinds s t with
  | nil =>
    cases hops
    exact ⟨hs, h⟩
  | cons op ops ih =>
    obtain ⟨next, hop, hrest⟩ := OutputStep.pending_cons.1 hops
    obtain ⟨hs', h'⟩ := h.step hL hs hop
    exact ih hs' h' hrest

/-- Operations that close all their frames do the same with copies alone. -/
theorem run_shared (hL : L.Bounded) (hs : s.Solvent L) {ops : List OutputStep}
    (hops : OutputStep.pending ops [] = some []) : s.run L ops = s.run L (ops.map OutputStep.shared) := by
  obtain ⟨-, hend⟩ := (Flattens.start s).run hL hs hops
  generalize s.run L ops = s', s.run L (ops.map OutputStep.shared) = t' at hend
  cases hend with
  | @intro o up f h =>
    cases up with
    | nil => cases h; rfl
    | cons p ps => cases h

end Accumulator

/-! ## The reference is the flattened accumulator -/

/-- The reference as an accumulator in which every frame is a copy. -/
def Copies.stacked (r : Copies) : Accumulator := ⟨r.frame, .shared, r.saved.map (⟨·, .shared⟩)⟩

namespace Copies

variable {L : Ledger}

theorem visibleDelta_stacked (r : Copies) (a : Address) : r.stacked.visibleDelta a = r.visibleDelta a := by
  have hshared : ∀ saved : List OutputFrame, ∀ d,
      Accumulator.visibleFrom a .shared (saved.map (⟨·, .shared⟩)) d = d := by
    intro saved
    induction saved with
    | nil => exact fun _ => rfl
    | cons f saved ih => exact ih
  exact hshared r.saved _

theorem effectiveBalance_stacked (r : Copies) (a : Address) :
    r.stacked.effectiveBalance L a = r.effectiveBalance L a := by
  have hdelta := visibleDelta_stacked r a
  unfold Accumulator.effectiveBalance Copies.effectiveBalance
  cases L.balance a with
  | error e => rfl
  | ok committed =>
    show Except.ok _ = Except.ok _
    rw [hdelta]

theorem moved_stacked (r : Copies) (sender receiver : Address) (value : U256) (data : Bytes) :
    r.stacked.moved sender receiver value data = stacked { r with frame := r.frame.move sender receiver value data } := by
  unfold Accumulator.moved Accumulator.mark OutputFrame.move
  dsimp only
  split <;> rfl

theorem transfer_stacked (r : Copies) (sender receiver : Address) (value : U256) (data : Bytes) :
    r.stacked.transfer L sender receiver value data = (r.transfer L sender receiver value data).map stacked := by
  rw [Accumulator.transfer_eq, moved_stacked, effectiveBalance_stacked, Copies.transfer]
  split
  · rfl
  split
  · rfl
  cases r.effectiveBalance L sender with
  | error e => rfl
  | ok balance =>
    dsimp only
    split <;> rfl

theorem step_stacked (r : Copies) (op : OutputStep) : r.stacked.step L op.shared = (r.step L op).stacked := by
  cases op with
  | transfer sender receiver value data =>
    show (r.stacked.transfer L sender receiver value data).toOption.getD r.stacked = _
    rw [transfer_stacked, Copies.step]
    cases r.transfer L sender receiver value data <;> rfl
  | rollback =>
    obtain ⟨frame, saved⟩ := r
    cases saved <;> rfl
  | discard =>
    obtain ⟨frame, saved⟩ := r
    cases saved <;> rfl
  | fold =>
    obtain ⟨frame, saved⟩ := r
    cases saved <;> rfl
  | _ => rfl

theorem run_stacked (r : Copies) (ops : List OutputStep) :
    r.stacked.run L (ops.map OutputStep.shared) = (r.run L ops).stacked := by
  induction ops generalizing r with
  | nil => rfl
  | cons op ops ih =>
    show (r.stacked.step L op.shared).run L (ops.map OutputStep.shared) = ((r.step L op).run L ops).stacked
    rw [step_stacked, ih]

end Copies

namespace Accumulator

variable {L : Ledger} {s : Accumulator}

theorem Flattens.agrees (hL : L.Bounded) (hs : s.Solvent L) {kinds : List FrameOrigin} {r : Copies}
    (h : Flattens .shared [] kinds s r.stacked) : Agrees L s r where
  transfer sender receiver value data := by
    have hr := Copies.transfer_stacked (L := L) r sender receiver value data
    rcases h.transfer hL hs sender receiver value data with ⟨e, hse, hte⟩ | ⟨s', t', hso, hto, -⟩
    · rw [hte] at hr
      rw [hse]
      cases hrt : r.transfer L sender receiver value data <;> rw [hrt] at hr <;> cases hr
      rfl
    · rw [hto] at hr
      rw [hso]
      cases hrt : r.transfer L sender receiver value data <;> rw [hrt] at hr <;> cases hr
      rfl
  effectiveBalance a := by rw [h.effectiveBalance, Copies.effectiveBalance_stacked]
  visibleDelta a := by rw [h.visibleDelta, Copies.visibleDelta_stacked]
  folded := by
    have hframe : r.frame = r.stacked.frame := rfl
    rw [hframe]
    generalize r.stacked = t at h
    cases h with
    | @intro o up f h => rw [folded, List.append_nil]

end Accumulator

/-! ## Any run -/

namespace Accumulator

variable {L : Ledger} {s : Accumulator}

theorem run_append (before after : List OutputStep) : s.run L (before ++ after) = (s.run L before).run L after :=
  List.foldl_append

/-- A closed child does the same in an empty frame that is folded as in a copy that is kept. -/
theorem isolated_eq_shared (hL : L.Bounded) (hs : s.Solvent L) {child : List OutputStep}
    (hchild : OutputStep.pending child [] = some []) :
    s.run L (.isolate :: child ++ [.fold]) = s.run L (.push :: child ++ [.discard]) := by
  rw [run_shared hL hs (OutputStep.pending_enclosed hchild rfl rfl),
    run_shared hL hs (OutputStep.pending_enclosed hchild rfl rfl)]
  simp only [List.map_append, List.map_cons, List.map_nil, OutputStep.shared]

/-- At every point of operations that close frames only as they were opened, accumulator and
    reference agree, and from there a closed child may as well run in a copy. -/
theorem agrees_of_pending (hL : L.Bounded) {before after : List OutputStep}
    (h : (OutputStep.pending (before ++ after) []).isSome) :
    Agrees L (empty.run L before) (Copies.empty.run L before) ∧
      ∀ child, OutputStep.pending child [] = some [] →
        empty.run L (before ++ (.isolate :: child ++ [.fold])) = empty.run L (before ++ (.push :: child ++ [.discard])) := by
  obtain ⟨kinds', hpending⟩ := Option.isSome_iff_exists.1 h
  obtain ⟨kinds, hbefore, -⟩ := OutputStep.pending_append.1 hpending
  have hstart : Flattens .shared [] [] empty Copies.empty.stacked := .start empty
  obtain ⟨hsolvent, hflat⟩ := hstart.run hL solvent_empty hbefore
  rw [Copies.run_stacked] at hflat
  refine ⟨hflat.agrees hL hsolvent, fun child hchild => ?_⟩
  rw [run_append before, run_append before, isolated_eq_shared hL hsolvent hchild]

theorem agrees_of_pending_isolated :
    let L := (World.ofSteps [.setBalance (.named "alice") 100]).ledger
    let before := [.transfer (.named "alice") (.named "bob") 30 [], .isolate, .transfer (.named "bob") (.named "carol") 10 []]
    L.Bounded ∧ (OutputStep.pending (before ++ [.fold]) []).isSome ∧
      Agrees L (empty.run L before) (Copies.empty.run L before) :=
  have hL := World.bounded_ledger (by decide) (by decide)
  have hpending := by decide
  ⟨hL, hpending, (agrees_of_pending hL hpending).1⟩

end Accumulator

end ContractHost

/-
  ContractHost.Accumulator — the output of a running transaction.

  The live frame takes the effects. `push` parks a copy of it and goes on in it; `isolate`
  parks it and goes on in an empty one. At the end of a call `discard` keeps the live
  frame as it is, `fold` puts it over the parked one, and `rollback` goes back to the
  parked one. Without a parked frame they do nothing.

  A copy contains what was parked, an empty frame does not: `visibleDelta` therefore adds
  the parked frame below each isolated one, and no other.
-/

import ContractHost.Ledger
import ContractHost.Output
import ContractHost.Stack

namespace ContractHost

/-- Whether a frame began as a copy of the one below it or empty. -/
inductive FrameOrigin where
  | shared
  | isolated
  deriving DecidableEq, Repr

structure OutputFrame where
  accounts : AddressMap OutputAccount
  finishData : List Bytes
  logs : List LogEntry
  deriving DecidableEq, Repr

namespace OutputFrame

def empty : OutputFrame := ⟨∅, [], []⟩

/-- The record of an account, empty where there is none. -/
def account (f : OutputFrame) (a : Address) : OutputAccount := f.accounts.getD a (.empty a)

def update (f : OutputFrame) (a : Address) (change : OutputAccount → OutputAccount) : OutputFrame :=
  { f with accounts := f.accounts.insert a (change (f.account a)) }

def deltaOf (f : OutputFrame) (a : Address) : Delta := (f.account a).delta

def merge (earlier later : OutputFrame) : OutputFrame where
  accounts := earlier.accounts ∪ later.accounts.map fun a o => (earlier.account a).merge o
  finishData := earlier.finishData ++ later.finishData
  logs := earlier.logs ++ later.logs

end OutputFrame

structure ParkedFrame where
  frame : OutputFrame
  origin : FrameOrigin
  deriving DecidableEq, Repr

structure Accumulator where
  frame : OutputFrame
  origin : FrameOrigin
  parked : Stack ParkedFrame
  deriving DecidableEq, Repr

namespace Accumulator

def empty : Accumulator := ⟨.empty, .shared, []⟩

instance : Inhabited Accumulator := ⟨empty⟩

def addToBalance (s : Accumulator) (a : Address) (d : Delta) : Accumulator :=
  { s with frame := s.frame.update a fun o => { o with delta := o.delta + d } }

/-- A change and those of the parked frames that a live frame of this origin does not contain. -/
def visibleFrom (a : Address) : FrameOrigin → List ParkedFrame → Delta → Delta
  | _, [], d => d
  | .shared, p :: ps, d => visibleFrom a p.origin ps d
  | .isolated, p :: ps, d => visibleFrom a p.origin ps (d + p.frame.deltaOf a)

/-- The change of a balance as the running call sees it. -/
def visibleDelta (s : Accumulator) (a : Address) : Delta := visibleFrom a s.origin s.parked (s.frame.deltaOf a)

/-- The committed balance and the visible change; overdrawn reads as zero. -/
def effectiveBalance (L : Ledger) (s : Accumulator) (a : Address) : Except CallError U256 :=
  match L.balance a with
  | .ok committed => .ok (((s.visibleDelta a).applyTo committed).getD 0)
  | .error e => .error (.lookup e)

/-- Moves `value` and leaves `data` with the receiver; nothing at all is recorded for neither. -/
def transfer (L : Ledger) (s : Accumulator) (sender receiver : Address) (value : U256) (data : Bytes) :
    Except CallError Accumulator :=
  if value = 0 ∧ data.isEmpty then .ok s
  else
    let moved := (s.addToBalance sender (.debit value)).addToBalance receiver (.credit value)
    let marked := if data.isEmpty then moved
      else { moved with frame := moved.frame.update receiver fun o => { o with callData := data } }
    if value = 0 then .ok marked
    else
      match s.effectiveBalance L sender with
      | .error e => .error e
      | .ok balance => if balance < value then .error .outOfFunds else .ok marked

def finish (s : Accumulator) (data : Bytes) : Accumulator :=
  { s with frame := { s.frame with finishData := s.frame.finishData ++ [data] } }

def log (s : Accumulator) (entry : LogEntry) : Accumulator :=
  { s with frame := { s.frame with logs := s.frame.logs ++ [entry] } }

def deploy (s : Accumulator) (a : Address) (code : Bytes) (metadata : CodeMetadata) : Accumulator :=
  { s with frame := s.frame.update a fun o => { o with code := some code, metadata := some metadata } }

def push (s : Accumulator) : Accumulator := ⟨s.frame, .shared, s.parked.push ⟨s.frame, s.origin⟩⟩

def isolate (s : Accumulator) : Accumulator := ⟨.empty, .isolated, s.parked.push ⟨s.frame, s.origin⟩⟩

def rollback (s : Accumulator) : Accumulator :=
  match s.parked.pop? with
  | none => s
  | some (p, ps) => ⟨p.frame, p.origin, ps⟩

def discard (s : Accumulator) : Accumulator :=
  match s.parked.pop? with
  | none => s
  | some (p, ps) => ⟨s.frame, p.origin, ps⟩

def fold (s : Accumulator) : Accumulator :=
  match s.parked.pop? with
  | none => s
  | some (p, ps) => ⟨p.frame.merge s.frame, p.origin, ps⟩

/-- The output of a success: the live frame with the staged writes, as far as there are any. -/
def finalize (s : Accumulator) (staged : AddressMap AccountStorage) (gasRemaining gasRefund : U64) :
    TransactionOutput where
  code := .ok
  message := ""
  accounts := s.frame.accounts ∪
    (staged.filter fun _ updates => !updates.isEmpty).map fun a updates => { s.frame.account a with updates }
  finishData := s.frame.finishData
  gasRemaining
  gasRefund
  logs := s.frame.logs

end Accumulator

end ContractHost

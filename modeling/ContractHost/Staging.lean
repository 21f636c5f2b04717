/-
  ContractHost.Staging — the storage writes of a running transaction.

  A write goes to the account of the running call. A reserved key is refused, a protected
  one while the call is guarded; in a read-only call a write is skipped and reported as no
  change. Otherwise it is priced against the value that the key reads as now, which is the
  latest staged value, or the committed one, or empty where the ledger gives no answer.

  `push` saves the writes and the frame; `rollback` goes back to what was saved last,
  `commit` forgets it. Without anything saved they do nothing.
-/

import ContractHost.Call
import ContractHost.Config
import ContractHost.Ledger
import ContractHost.Meter
import ContractHost.Output
import ContractHost.Stack

namespace ContractHost

inductive StorageStatus where
  | unchanged
  | modified
  | added
  | deleted
  deriving DecidableEq, Repr

namespace StorageStatus

def name : StorageStatus → String
  | .unchanged => "Unchanged"
  | .modified => "Modified"
  | .added => "Added"
  | .deleted => "Deleted"

def classify (old new : Bytes) : StorageStatus :=
  if old = new then .unchanged
  else if old.isEmpty then .added
  else if new.isEmpty then .deleted
  else .modified

end StorageStatus

structure Snapshot where
  accounts : AddressMap AccountStorage
  frame : CallFrame
  deriving DecidableEq, Repr

structure Staging where
  accounts : AddressMap AccountStorage
  frame : CallFrame
  saved : Stack Snapshot
  deriving DecidableEq, Repr

namespace Staging

def empty : Staging := ⟨∅, .initial, []⟩

instance : Inhabited Staging := ⟨empty⟩

def setAddress (s : Staging) (a : Address) : Staging := { s with frame := { s.frame with address := a } }

def setReadOnly (s : Staging) (on : Bool) : Staging := { s with frame := { s.frame with readOnly := on } }

def setGuarded (s : Staging) (on : Bool) : Staging := { s with frame := { s.frame with guarded := on } }

def updates (s : Staging) (a : Address) : AccountStorage := s.accounts.getD a ∅

def valueOf (L : Ledger) (s : Staging) (a : Address) (key : Bytes) : Bytes :=
  match (s.updates a)[key]? with
  | some update => update.value
  | none =>
    match L.storage a key with
    | .ok value => value
    | .error _ => []

/-- The value under the account of the running call. -/
def get (L : Ledger) (s : Staging) (key : Bytes) : Bytes := s.valueOf L s.frame.address key

/-- The value under any account, if the running call may read it there. -/
def getFrom (L : Ledger) (s : Staging) (a : Address) (key : Bytes) : Option Bytes :=
  if a = s.frame.address then some (s.get L key)
  else
    match L.metadata a with
    | .ok m => if m.readable then some (s.valueOf L a key) else none
    | .error _ => none

/-- A value put under the account of the running call. -/
def put (s : Staging) (key value : Bytes) : Staging :=
  { s with accounts := s.accounts.insert s.frame.address ((s.updates s.frame.address).insert key ⟨key, value⟩) }

/-- What became of a write. -/
structure Written where
  result : Except StorageError StorageStatus
  staging : Staging
  meter : Meter

def write (c : HostConfig) (L : Ledger) (s : Staging) (m : Meter) (key value : Bytes) : Written :=
  if c.isReserved key then ⟨.error .reservedKey, s, m⟩
  else if s.frame.guarded ∧ c.isProtected key then ⟨.error .protectedKey, s, m⟩
  else if s.frame.readOnly then ⟨.ok .unchanged, s, m⟩
  else
    let old := s.get L key
    let status := StorageStatus.classify old value
    let cost := c.schedule.write old.length value.length (status != .unchanged)
    match m.use? cost.charge with
    | none => ⟨.error .outOfGas, s, m⟩
    | some m => ⟨.ok status, s.put key value, m.free cost.release⟩

def push (s : Staging) : Staging := { s with saved := s.saved.push ⟨s.accounts, s.frame⟩ }

def rollback (s : Staging) : Staging :=
  match s.saved.pop? with
  | none => s
  | some (last, saved) => ⟨last.accounts, last.frame, saved⟩

def commit (s : Staging) : Staging :=
  match s.saved.pop? with
  | none => s
  | some (_, saved) => { s with saved }

theorem commit_eq (s : Staging) : s.commit = { s with saved := s.saved.tail } := by
  obtain ⟨accounts, frame, saved⟩ := s
  cases saved <;> rfl

def clearSaved (s : Staging) : Staging := { s with saved := [] }

end Staging

end ContractHost

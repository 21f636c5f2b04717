/-
  ContractHost.Output — what a transaction leaves to be committed.

  Per account: the change of its balance, the storage it wrote, code it received, data
  sent along with value. Beside the accounts: the data the calls finished with and the
  logs, both in order. `OutputAccount.merge` puts a later record of an account over an
  earlier one: changes add up, a later write of a key wins, new code brings its metadata
  along, and call data gives way only to call data.
-/

import ContractHost.Account
import ContractHost.Address
import ContractHost.Delta
import ContractHost.Error
import ContractHost.Keccak
import ContractHost.Text.Utf8

namespace ContractHost

structure StorageUpdate where
  key : Bytes
  value : Bytes
  deriving DecidableEq, Repr

/-- The writes to one account by key. -/
abbrev AccountStorage := BytesMap StorageUpdate

structure OutputAccount where
  address : Address
  delta : Delta
  updates : AccountStorage
  code : Option Bytes
  metadata : Option CodeMetadata
  callData : Bytes
  deriving DecidableEq, Repr

namespace OutputAccount

def empty (a : Address) : OutputAccount := ⟨a, .zero, ∅, none, none, []⟩

def merge (earlier later : OutputAccount) : OutputAccount where
  address := earlier.address
  delta := earlier.delta + later.delta
  updates := earlier.updates ∪ later.updates
  code := if later.code.isSome then later.code else earlier.code
  metadata := if later.code.isSome then later.metadata else earlier.metadata
  callData := if later.callData.isEmpty then earlier.callData else later.callData

def isEmpty (o : OutputAccount) : Bool :=
  o.delta.isZero && o.updates.isEmpty && o.code.isNone && o.callData.isEmpty

end OutputAccount

structure LogEntry where
  address : Address
  identifier : Bytes
  topics : List Bytes
  data : Bytes
  deriving DecidableEq, Repr

namespace LogEntry

/-- A byte string behind its length. -/
def counted (b : Bytes) : Bytes := Bytes.bigEndian64 b.length ++ b

/-- The address, the identifier, the number of topics, each topic, the data. -/
def stream (e : LogEntry) : Bytes :=
  e.address.bytes ++ counted e.identifier ++ Bytes.bigEndian64 e.topics.length ++ e.topics.flatMap counted ++
    counted e.data

/-- The bytes that stand for a list of logs. -/
def streamAll (logs : List LogEntry) : Bytes := logs.flatMap stream

end LogEntry

structure TransactionOutput where
  code : ReturnCode
  message : String
  accounts : AddressMap OutputAccount
  finishData : List Bytes
  gasRemaining : U64
  gasRefund : U64
  logs : List LogEntry
  deriving DecidableEq, Repr

namespace TransactionOutput

/-- Success without any effect. -/
def empty : TransactionOutput := ⟨.ok, "", ∅, [], 0, 0, []⟩

instance : Inhabited TransactionOutput := ⟨empty⟩

/-- A transaction that failed as a whole: no effects, no gas left. -/
def failure (code : ReturnCode) (message : String) : TransactionOutput := { empty with code, message }

def isSuccess (o : TransactionOutput) : Bool := o.code = .ok

/-- The finish data read as texts. -/
def finishTexts (o : TransactionOutput) : List String := o.finishData.map Text.utf8

def logsDigest (o : TransactionOutput) : Bytes := Keccak.digest (LogEntry.streamAll o.logs)

end TransactionOutput

end ContractHost

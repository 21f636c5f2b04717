/-
  ContractHost.Host — the state of a running transaction and the host functions.

  An `Action` changes the state and gives an answer or the error that ends the call; the
  state after an error is the one that the error leaves. The host functions are the
  actions that guest code may ask for. Each is paid before it takes effect, with a base
  price and a price for its bytes.
-/

import ContractHost.Accumulator
import ContractHost.Staging
import ContractHost.Transaction

namespace ContractHost

structure Host where
  staging : Staging
  output : Accumulator
  meter : Meter
  /-- How deep the running call is nested; the top-level call has depth 0. -/
  depth : Nat
  /-- The first refusal of a call for its depth; it dooms the transaction. -/
  fatal : Option CallError
  deriving DecidableEq, Repr

def Host.start (gasLimit : U64) : Host := ⟨.empty, .empty, .ofGas gasLimit, 0, none⟩

def Action (α : Type) : Type := Host → Except CallError α × Host

namespace Action

variable {α β : Type}

/-- An error skips what follows. -/
def andThen (x : Action α) (f : α → Action β) : Action β := fun h =>
  match x h with
  | (.ok a, h) => f a h
  | (.error e, h) => (.error e, h)

instance : Monad Action where
  pure a := fun h => (.ok a, h)
  bind := andThen

def refuse (e : CallError) : Action α := fun h => (.error e, h)

def require (condition : Bool) (e : CallError) : Action Unit := if condition then pure () else refuse e

def read (f : Host → α) : Action α := fun h => (.ok (f h), h)

def modify (f : Host → Host) : Action Unit := fun h => (.ok (), f h)

/-- An answer of the ledger. -/
def lookup (answer : Except LookupError α) : Action α := fun h => (answer.mapError .lookup, h)

theorem pure_apply (a : α) (h : Host) : (pure a : Action α) h = (.ok a, h) := rfl

theorem bind_apply (x : Action α) (f : α → Action β) (h : Host) :
    (x >>= f) h = match x h with
      | (.ok a, h) => f a h
      | (.error e, h) => (.error e, h) := rfl

end Action

namespace Host

open ContractHost.Action

variable (c : HostConfig) (L : Ledger)

/-- The name, under the protected prefix, of the key that holds a contract's metadata. -/
def metadataKey : Bytes := Bytes.ofText "codeMetadata"

/-- What a nested call that succeeded leaves in the finish data of its caller. -/
def successMarker : Bytes := Bytes.ofText "succ"

/-- What a nested call that failed leaves there. -/
def failureMarker : Bytes := Bytes.ofText "fail"

/-- The account of the running call. -/
def address (h : Host) : Address := h.staging.frame.address

def readOnly (h : Host) : Bool := h.staging.frame.readOnly

def changeOutput (f : Accumulator → Accumulator) : Action Unit := modify fun h => { h with output := f h.output }

def changeStaging (f : Staging → Staging) : Action Unit := modify fun h => { h with staging := f h.staging }

def useGas (amount : U64) : Action Unit := fun h =>
  match h.meter.use? amount with
  | some meter => (.ok (), { h with meter })
  | none => (.error .outOfGas, h)

def charge (base perByte : Operation) (length : Nat) : Action Unit := useGas (c.schedule.charge base perByte length)

def writeStorage (key value : Bytes) : Action StorageStatus := fun h =>
  let w := h.staging.write c L h.meter key value
  (w.result.mapError .storage, { h with staging := w.staging, meter := w.meter })

/-- Value moves and data stays with the receiver, the sender's balance permitting. -/
def recordTransfer (sender receiver : Address) (value : U256) (data : Bytes) : Action Unit := fun h =>
  match h.output.transfer L sender receiver value data with
  | .ok output => (.ok (), { h with output })
  | .error e => (.error e, h)

/-- A contract that is not payable takes no value from others. -/
def moveValue (sender receiver : Address) (value : U256) (data : Bytes) : Action Unit := do
  if value ≠ 0 ∧ sender ≠ receiver then
    let account ← lookup (L.account receiver)
    require (!account.isContract || account.metadata.payable) (.userError "receiver is not payable")
  recordTransfer L sender receiver value data

/-- `x` with the protected keys open to it. -/
def unguarded {α : Type} (x : Action α) : Action α := fun h =>
  let (result, after) := x { h with staging := h.staging.setGuarded false }
  (result, if h.staging.frame.guarded then { after with staging := after.staging.setGuarded true } else after)

/-! ## The host functions -/

def store (key value : Bytes) : Action StorageStatus := do
  useGas (c.schedule.cost .storageStore)
  writeStorage c L key value

def load (key : Bytes) : Action Bytes := do
  let value ← read fun h => h.staging.get L key
  charge c .storageLoad .dataCopyPerByte value.length
  return value

def loadFrom (a : Address) (key : Bytes) : Action (Option Bytes) := do
  let value ← read fun h => h.staging.getFrom L a key
  charge c .getStorageFromAddress .dataCopyPerByte (value.getD []).length
  return value

def finish (data : Bytes) : Action Unit := do
  charge c .finish .storePerByte data.length
  changeOutput (·.finish data)

def transfer (receiver : Address) (value : U256) (data : Bytes) : Action Unit := do
  require (!(← read readOnly)) .writeInReadOnly
  charge c .transferValue .storePerByte data.length
  moveValue L (← read address) receiver value data

def log (identifier : Bytes) (topics : List Bytes) (data : Bytes) : Action Unit := do
  charge c .log .storePerByte (topics.length * topicLength + data.length)
  let a ← read address
  changeOutput (·.log ⟨a, identifier, topics, data⟩)

/-- New code and metadata for the account of the running call. -/
def upgrade (code : Bytes) (metadata : CodeMetadata) : Action Unit := do
  require (!(← read readOnly)) .writeInReadOnly
  let a ← read address
  let current ← lookup (L.metadata a)
  require current.upgradeable (.userError "contract is not upgradeable")
  charge c .upgradeContract .compilePerByte code.length
  let _ ← unguarded (writeStorage c L (c.protectedKey metadataKey) metadata.bytes)
  changeOutput (·.deploy a code metadata)

def balance (a : Address) : Action U256 := fun h => (h.output.effectiveBalance L a, h)

end Host

end ContractHost

/-
  ContractHost.Call — calls, their frames and their phases.

  A nested call runs in the account of its caller (same context) or in that of its callee
  (destination context). It is entered, executes, succeeds or fails, and returns; one that
  cannot start fails without executing.
-/

import ContractHost.Address
import ContractHost.Capped
import ContractHost.Error

namespace ContractHost

/-- The account that a running call works on, and what it may write there. -/
structure CallFrame where
  address : Address
  /-- Keys under the protected prefix are refused. -/
  guarded : Bool
  /-- Writes are skipped. -/
  readOnly : Bool
  deriving DecidableEq, Repr

def CallFrame.initial : CallFrame := ⟨.zero, true, false⟩

inductive CallMode where
  | sameContext
  | destinationContext
  deriving DecidableEq, Repr

def CallMode.text : CallMode → String
  | .sameContext => "same_context"
  | .destinationContext => "dest_context"

inductive CallPhase where
  | entered
  | executing
  | succeeded
  | failed
  | outOfGas
  | returned
  deriving DecidableEq, Repr

namespace CallPhase

def precedes : CallPhase → CallPhase → Bool
  | .entered, .executing | .entered, .failed | .entered, .outOfGas => true
  | .executing, .succeeded | .executing, .failed | .executing, .outOfGas => true
  | .succeeded, .returned | .failed, .returned | .outOfGas, .returned => true
  | _, _ => false

/-- The phase in which an error leaves a call. -/
def ofError (e : CallError) : CallPhase := if e.returnCode = .outOfGas then .outOfGas else .failed

end CallPhase

/-- What a contract is called with. -/
structure CallInput where
  caller : Address
  callee : Address
  value : U256
  function : String
  arguments : List Bytes
  gasProvided : U64
  code : Bytes
  depth : Nat
  deriving DecidableEq, Repr

/-- A call that a contract asks for. -/
structure NestedCall where
  callee : Address
  value : U256
  function : String
  arguments : List Bytes
  gasLimit : U64
  deriving DecidableEq, Repr

inductive CallOutcome where
  | succeeded (gasUsed : U64)
  | failed (code : ReturnCode) (message : String) (gasCharged : U64)
  deriving DecidableEq, Repr

end ContractHost

/-
  ContractHost.Error — why a call, a lookup, a write or a configuration is refused.

  A cause is a constructor; its wording is `message`. A cause that ends a call has the
  return code that its transaction reports, and only exceeding the call depth ends the
  whole transaction.
-/

namespace ContractHost

inductive ReturnCode where
  | ok
  | functionNotFound
  | contractNotFound
  | userError
  | outOfGas
  | outOfFunds
  | callStackOverflow
  | executionFailed
  deriving DecidableEq, Repr, Inhabited

def ReturnCode.text : ReturnCode → String
  | .ok => "ok"
  | .functionNotFound => "function not found"
  | .contractNotFound => "contract not found"
  | .userError => "user error"
  | .outOfGas => "out of gas"
  | .outOfFunds => "out of funds"
  | .callStackOverflow => "call stack overflow"
  | .executionFailed => "execution failed"

/-- Why a storage write is refused. -/
inductive StorageError where
  | reservedKey
  | protectedKey
  | outOfGas
  deriving DecidableEq, Repr

def StorageError.message : StorageError → String
  | .reservedKey => "cannot write to reserved key"
  | .protectedKey => "cannot write to protected key"
  | .outOfGas => "not enough gas to store"

/-- Why the committed state gives no answer. -/
inductive LookupError where
  | accountNotFound
  | unavailable
  | other (reason : String)
  deriving DecidableEq, Repr

def LookupError.message : LookupError → String
  | .accountNotFound => "account not found"
  | .unavailable => "blockchain data unavailable"
  | .other reason => "lookup error: " ++ reason

/-- Why a call ends early. -/
inductive CallError where
  | outOfGas
  | functionNotFound (name : String)
  | contractNotFound
  | userError (reason : String)
  | outOfFunds
  | writeInReadOnly
  | storage (cause : StorageError)
  | lookup (cause : LookupError)
  | callDepthExceeded (depth max : Nat)
  | internal (reason : String)
  deriving DecidableEq, Repr

namespace CallError

def message : CallError → String
  | .outOfGas => "out of gas"
  | .functionNotFound name => "function not found: " ++ name
  | .contractNotFound => "contract not found"
  | .userError reason => "user error: " ++ reason
  | .outOfFunds => "insufficient funds"
  | .writeInReadOnly => "write operation in read-only call"
  | .storage cause => "storage error: " ++ cause.message
  | .lookup cause => "lookup error: " ++ cause.message
  | .callDepthExceeded depth max => s!"call depth exceeded: {depth} > {max}"
  | .internal reason => "internal error: " ++ reason

/-- Ends the transaction, not the call alone. -/
def isFatal : CallError → Bool
  | .callDepthExceeded _ _ => true
  | _ => false

def returnCode : CallError → ReturnCode
  | .outOfGas | .storage .outOfGas => .outOfGas
  | .functionNotFound _ => .functionNotFound
  | .contractNotFound => .contractNotFound
  | .userError _ | .writeInReadOnly | .storage _ => .userError
  | .outOfFunds => .outOfFunds
  | .callDepthExceeded _ _ => .callStackOverflow
  | .lookup _ | .internal _ => .executionFailed

end CallError

/-- The two classes of storage keys that are not free for contracts to write. -/
inductive KeyClass where
  | reservedKeys
  | protectedKeys
  deriving DecidableEq, Repr

/-- Why a host configuration is refused. -/
inductive ConfigError where
  | emptyPrefix (keys : KeyClass)
  | overlappingPrefixes
  | zeroCallDepth
  | unreadable
  deriving DecidableEq, Repr

def ConfigError.message : ConfigError → String
  | .emptyPrefix .reservedKeys => "reserved key prefix must not be empty"
  | .emptyPrefix .protectedKeys => "protected key prefix must not be empty"
  | .overlappingPrefixes => "reserved and protected key prefixes overlap"
  | .zeroCallDepth => "max_call_depth must be greater than zero"
  | .unreadable => "invalid config document"

end ContractHost

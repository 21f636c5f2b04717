/-
  ContractHost.Config — what the operator of a host decides.

  Keys under the reserved prefix are never written, keys under the protected prefix only
  by the host itself; neither prefix may be empty or begin the other, so that no key is
  in both classes and a protected key can be written at all. Calls nest to a greatest
  depth, and a failed nested call costs its caller at least a penalty, as far as the gas
  given to it goes.
-/

import ContractHost.Error
import ContractHost.Gas

namespace ContractHost

structure HostConfig where
  reservedKeys : Bytes
  protectedKeys : Bytes
  maxCallDepth : U64
  /-- What a failed call in the caller's own account costs. -/
  samePenalty : U64
  /-- What a failed call in the callee's account costs. -/
  destPenalty : U64
  schedule : GasSchedule
  deriving DecidableEq, Repr

namespace HostConfig

def standard : HostConfig where
  reservedKeys := Bytes.ofText "RESERVED"
  protectedKeys := Bytes.ofText "PROTECTED"
  maxCallDepth := 64
  samePenalty := Capped.greatest
  destPenalty := Capped.greatest
  schedule := .standard

instance : Inhabited HostConfig := ⟨standard⟩

def isReserved (c : HostConfig) (key : Bytes) : Bool := c.reservedKeys.isPrefixOf key

def isProtected (c : HostConfig) (key : Bytes) : Bool := c.protectedKeys.isPrefixOf key

/-- The protected key named `name`. -/
def protectedKey (c : HostConfig) (name : Bytes) : Bytes := c.protectedKeys ++ name

def validate (c : HostConfig) : Except ConfigError Unit :=
  if c.reservedKeys.isEmpty then .error (.emptyPrefix .reservedKeys)
  else if c.protectedKeys.isEmpty then .error (.emptyPrefix .protectedKeys)
  else if c.protectedKeys.isPrefixOf c.reservedKeys ∨ c.reservedKeys.isPrefixOf c.protectedKeys then
    .error .overlappingPrefixes
  else if c.maxCallDepth = 0 then .error .zeroCallDepth
  else .ok ()

end HostConfig

end ContractHost

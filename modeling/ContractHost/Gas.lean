/-
  ContractHost.Gas — what operations cost.

  A schedule prices every operation. Prices are multiplied and added in capped numbers,
  so an unpayable price stays unpayable.

  A write that leaves the value as it was is free. One that grows it pays for the new
  bytes and for keeping the old ones; one that does not grow it pays for keeping the
  bytes that stay and releases gas for those that go.
-/

import ContractHost.Bytes
import ContractHost.Capped

namespace ContractHost

inductive Operation where
  | storePerByte
  | persistPerByte
  | releasePerByte
  | compilePerByte
  | dataCopyPerByte
  | storageStore
  | storageLoad
  | getStorageFromAddress
  | finish
  | transferValue
  | log
  | executeOnSameContext
  | executeOnDestContext
  | upgradeContract
  deriving DecidableEq, Repr

structure GasSchedule where
  storePerByte : U64
  persistPerByte : U64
  releasePerByte : U64
  compilePerByte : U64
  dataCopyPerByte : U64
  storageStore : U64
  storageLoad : U64
  getStorageFromAddress : U64
  finish : U64
  transferValue : U64
  log : U64
  executeOnSameContext : U64
  executeOnDestContext : U64
  upgradeContract : U64
  deriving DecidableEq, Repr

/-- What a write takes and what it gives back. -/
structure WriteCost where
  charge : U64
  release : U64
  deriving DecidableEq, Repr

namespace GasSchedule

def standard : GasSchedule where
  storePerByte := 50
  persistPerByte := 10
  releasePerByte := 5
  compilePerByte := 1
  dataCopyPerByte := 1
  storageStore := 100
  storageLoad := 100
  getStorageFromAddress := 100
  finish := 10
  transferValue := 100
  log := 100
  executeOnSameContext := 1000
  executeOnDestContext := 1000
  upgradeContract := 1000

instance : Inhabited GasSchedule := ⟨standard⟩

/-- Every operation at one price. -/
def uniform (n : U64) : GasSchedule := ⟨n, n, n, n, n, n, n, n, n, n, n, n, n, n⟩

/-- Only stored bytes have a price. -/
def storageOnly (store persist release : U64) : GasSchedule :=
  { uniform 0 with storePerByte := store, persistPerByte := persist, releasePerByte := release }

def cost (s : GasSchedule) : Operation → U64
  | .storePerByte => s.storePerByte
  | .persistPerByte => s.persistPerByte
  | .releasePerByte => s.releasePerByte
  | .compilePerByte => s.compilePerByte
  | .dataCopyPerByte => s.dataCopyPerByte
  | .storageStore => s.storageStore
  | .storageLoad => s.storageLoad
  | .getStorageFromAddress => s.getStorageFromAddress
  | .finish => s.finish
  | .transferValue => s.transferValue
  | .log => s.log
  | .executeOnSameContext => s.executeOnSameContext
  | .executeOnDestContext => s.executeOnDestContext
  | .upgradeContract => s.upgradeContract

/-- A base price and a price for each of `length` bytes. -/
def charge (s : GasSchedule) (base perByte : Operation) (length : Nat) : U64 :=
  s.cost base + s.cost perByte * Capped.clamp length

def compile (s : GasSchedule) (length : Nat) : U64 := s.compilePerByte * Capped.clamp length

/-- Putting `new` bytes in the place of `old` ones, `changed` unless they are the same. -/
def write (s : GasSchedule) (old new : Nat) (changed : Bool) : WriteCost :=
  if !changed then ⟨0, 0⟩
  else if old < new then
    ⟨s.storePerByte * Capped.clamp (new - old) + s.persistPerByte * Capped.clamp old, 0⟩
  else ⟨s.persistPerByte * Capped.clamp new, s.releasePerByte * Capped.clamp (old - new)⟩

end GasSchedule

/-- A log topic is charged as this many bytes, whatever its length. -/
def topicLength : Nat := 32

end ContractHost

/-
  ContractHost.Record.Config — the JSON forms of configurations.

  Every field may be missing and then has its standard value. A host configuration that is
  read from a document is also validated.
-/

import ContractHost.Json.Reader
import ContractHost.Record.Scalar
import ContractHost.Service

namespace ContractHost

def GasSchedule.toJson (s : GasSchedule) : Json :=
  .record [("store_per_byte", U64.toJson s.storePerByte), ("persist_per_byte", U64.toJson s.persistPerByte),
    ("release_per_byte", U64.toJson s.releasePerByte), ("compile_per_byte", U64.toJson s.compilePerByte),
    ("data_copy_per_byte", U64.toJson s.dataCopyPerByte), ("storage_store", U64.toJson s.storageStore),
    ("storage_load", U64.toJson s.storageLoad),
    ("get_storage_from_address", U64.toJson s.getStorageFromAddress), ("finish", U64.toJson s.finish),
    ("transfer_value", U64.toJson s.transferValue), ("log", U64.toJson s.log),
    ("execute_on_same_context", U64.toJson s.executeOnSameContext),
    ("execute_on_dest_context", U64.toJson s.executeOnDestContext),
    ("upgrade_contract", U64.toJson s.upgradeContract)]

/-- The schedule of a record whose missing fields are those of `base`. -/
def GasSchedule.ofJson? (base : GasSchedule) (j : Json) : Option GasSchedule := do
  let price (default : U64) (slot : Option Json) := Json.slotOr default U64.ofJson? slot
  match ← j.slots ["store_per_byte", "persist_per_byte", "release_per_byte", "compile_per_byte", "data_copy_per_byte",
    "storage_store", "storage_load", "get_storage_from_address", "finish", "transfer_value", "log",
    "execute_on_same_context", "execute_on_dest_context", "upgrade_contract"] with
  | [store, persist, release, compile, copy, set, get, getFrom, finish, transfer, log, same, dest, upgrade] =>
    return ⟨← price base.storePerByte store, ← price base.persistPerByte persist, ← price base.releasePerByte release,
      ← price base.compilePerByte compile, ← price base.dataCopyPerByte copy, ← price base.storageStore set,
      ← price base.storageLoad get, ← price base.getStorageFromAddress getFrom, ← price base.finish finish,
      ← price base.transferValue transfer, ← price base.log log, ← price base.executeOnSameContext same,
      ← price base.executeOnDestContext dest, ← price base.upgradeContract upgrade⟩
  | _ => none

def HostConfig.toJson (c : HostConfig) : Json :=
  .record [("reserved_key_prefix", Bytes.toJson c.reservedKeys), ("protected_key_prefix", Bytes.toJson c.protectedKeys),
    ("max_call_depth", U64.toJson c.maxCallDepth), ("same_context_failure_penalty", U64.toJson c.samePenalty),
    ("dest_context_failure_penalty", U64.toJson c.destPenalty), ("gas_schedule", c.schedule.toJson)]

def HostConfig.ofJson? (j : Json) : Option HostConfig := do
  let base := HostConfig.standard
  match ← j.slots ["reserved_key_prefix", "protected_key_prefix", "max_call_depth", "same_context_failure_penalty",
    "dest_context_failure_penalty", "gas_schedule"] with
  | [reserved, guarded, depth, same, dest, schedule] =>
    return ⟨← Json.slotOr base.reservedKeys Bytes.ofJson? reserved, ← Json.slotOr base.protectedKeys Bytes.ofJson? guarded,
      ← Json.slotOr base.maxCallDepth U64.ofJson? depth, ← Json.slotOr base.samePenalty U64.ofJson? same,
      ← Json.slotOr base.destPenalty U64.ofJson? dest, ← Json.slotOr base.schedule (GasSchedule.ofJson? .standard) schedule⟩
  | _ => none

/-- The configuration in a document. -/
def HostConfig.ofDocument (text : String) : Except ConfigError HostConfig :=
  match (Json.parse? text).bind HostConfig.ofJson? with
  | none => .error .unreadable
  | some c => c.validate.map fun _ => c

def ServiceConfig.toJson (c : ServiceConfig) : Json :=
  .record [("host", c.host.toJson), ("max_gas_limit", U64.toJson c.maxGasLimit),
    ("check_invariants", .bool c.checkInvariants)]

def ServiceConfig.ofJson? (j : Json) : Option ServiceConfig := do
  let base := ServiceConfig.standard
  match ← j.slots ["host", "max_gas_limit", "check_invariants"] with
  | [host, maxGasLimit, checkInvariants] =>
    return ⟨← Json.slotOr base.host HostConfig.ofJson? host, ← Json.slotOr base.maxGasLimit U64.ofJson? maxGasLimit,
      ← Json.slotOr base.checkInvariants Json.bool? checkInvariants⟩
  | _ => none

end ContractHost

/-
  ContractHost.Account — committed accounts.

  An account with code is a contract. What others may do with it stands in its code
  metadata, which is stored as two bytes: bit 0 of the first says that the code may be
  replaced, bit 2 that others may read the storage, bit 1 of the second that value may be
  sent to it. Missing bytes count as zero, other bits and bytes are ignored.
-/

import ContractHost.Bytes
import ContractHost.Capped

namespace ContractHost

structure CodeMetadata where
  upgradeable : Bool
  readable : Bool
  payable : Bool
  deriving DecidableEq, Repr

namespace CodeMetadata

/-- No capability at all. -/
def none : CodeMetadata := ⟨false, false, false⟩

instance : Inhabited CodeMetadata := ⟨none⟩

def ofBytes (b : Bytes) : CodeMetadata :=
  let first := b.getD 0 0
  let second := b.getD 1 0
  ⟨first &&& 0x01 != 0, first &&& 0x04 != 0, second &&& 0x02 != 0⟩

def bytes (m : CodeMetadata) : Bytes :=
  [(if m.upgradeable then 0x01 else 0) ||| (if m.readable then 0x04 else 0), if m.payable then 0x02 else 0]

def text (m : CodeMetadata) : String := "CodeMetadata(" ++ String.ofList (Hex.encode m.bytes) ++ ")"

end CodeMetadata

structure Account where
  balance : U256
  nonce : U64
  code : Bytes
  metadata : CodeMetadata
  deriving DecidableEq, Repr

namespace Account

def empty : Account := ⟨0, 0, [], .none⟩

instance : Inhabited Account := ⟨empty⟩

def isContract (a : Account) : Bool := !a.code.isEmpty

end Account

end ContractHost

/-
  ContractHost.Ledger — the committed state that a transaction runs on.

  A ledger answers three questions, and each answer may be that it cannot be given: the
  value of a storage key (empty where nothing was written), the account at an address,
  and the address of the next contract of a creator. Balance, code and metadata are those
  of the account, and those of the empty account where there is none.

  A `World` is a ledger held in tables, which `World.Step`s change.
-/

import ContractHost.Account
import ContractHost.Address
import ContractHost.Error
import ContractHost.Keccak

namespace ContractHost

structure Ledger where
  storage : Address → Bytes → Except LookupError Bytes
  account? : Address → Except LookupError (Option Account)
  newAddress : Address → U64 → Except LookupError Address

namespace Ledger

variable (L : Ledger)

def account (a : Address) : Except LookupError Account := (L.account? a).map (·.getD .empty)

def balance (a : Address) : Except LookupError U256 := (L.account a).map (·.balance)

def code (a : Address) : Except LookupError Bytes := (L.account a).map (·.code)

def metadata (a : Address) : Except LookupError CodeMetadata := (L.account a).map (·.metadata)

end Ledger

/-- The address of a contract: the digest of its creator and the nonce in eight bytes. -/
def Address.ofCreation (creator : Address) (nonce : U64) : Address :=
  ⟨Keccak.digest (creator.bytes ++ Bytes.bigEndian64 nonce.val), Keccak.length_digest _⟩

structure World where
  accounts : AddressMap Account
  storage : AddressMap (BytesMap Bytes)
  available : Bool

namespace World

def empty : World := ⟨∅, ∅, true⟩

instance : Inhabited World := ⟨empty⟩

inductive Step where
  | putAccount (address : Address) (account : Account)
  /-- Creates the account where there is none. -/
  | setBalance (address : Address) (balance : U256)
  | setStorage (address : Address) (key value : Bytes)
  /-- Whether questions are answered from now on. -/
  | setAvailable (on : Bool)

def apply (w : World) : Step → World
  | .putAccount a account => { w with accounts := w.accounts.insert a account }
  | .setBalance a balance =>
    { w with accounts := w.accounts.insert a { (w.accounts.getD a .empty) with balance } }
  | .setStorage a key value =>
    { w with storage := w.storage.insert a ((w.storage.getD a ∅).insert key value) }
  | .setAvailable on => { w with available := on }

def ofSteps (steps : List Step) : World := steps.foldl apply empty

def answer {α : Type} (w : World) (a : α) : Except LookupError α :=
  if w.available then .ok a else .error .unavailable

def ledger (w : World) : Ledger where
  storage a key := w.answer ((w.storage.getD a ∅).getD key [])
  account? a := w.answer w.accounts[a]?
  newAddress creator nonce := w.answer (Address.ofCreation creator nonce)

end World

end ContractHost

/-
  ContractHost.Record.Scalar — the JSON forms of bytes, numbers and names.

  Bytes and addresses are their text forms. Numbers up to 2^64 - 1 are JSON integers.
  Balances are strings of hexadecimal digits behind `0x`, written without leading zeros;
  read, the mark may be missing, and of one to 64 characters some may be blanks. Named
  choices are their names.
-/

import ContractHost.Delta
import ContractHost.Json.Record
import ContractHost.Staging
import ContractHost.Transaction

namespace ContractHost

/-- The choice whose name it is. -/
def Json.choice? {α : Type} (all : List α) (name : α → String) (j : Json) : Option α :=
  j.variant?.bind fun s => all.find? (name · = s)

def Bytes.toJson (b : Bytes) : Json := .text b.text

def Bytes.ofJson? (j : Json) : Option Bytes := j.text?.bind fun s => (Bytes.ofText? s).toOption

def Bytes.ofKey? (s : String) : Option Bytes := (Bytes.ofText? s).toOption

def Address.toJson (a : Address) : Json := .text a.text

def Address.ofJson? (j : Json) : Option Address := j.text?.bind fun s => (Address.ofText? s).toOption

def Address.ofKey? (s : String) : Option Address := (Address.ofText? s).toOption

def U64.toJson (n : U64) : Json := .natural n.val

def U64.ofJson? (j : Json) : Option U64 := j.natural?.bind Capped.ofNat?

def U256.hex (n : U256) : String := String.ofList ('0' :: 'x' :: Nat.toDigits 16 n.val)

/-- Digits two by two, with a zero in front where the characters are odd in number. Blanks count as
    characters only, and a digit that is left without a partner is dropped. -/
def U256.ofHex? (s : String) : Option U256 :=
  let cs := match s.toList with
    | '0' :: 'x' :: rest => rest
    | cs => cs
  if cs.isEmpty ∨ 64 < cs.length then none
  else ((cs.filter (!·.isWhitespace)).mapM Hex.value?).bind fun digits =>
    let padded := if cs.length % 2 = 1 then 0 :: digits else digits
    let paired := padded.take (2 * (padded.length / 2))
    Capped.ofNat? (paired.foldl (fun n d => 16 * n + d) 0)

def U256.toJson (n : U256) : Json := .text (U256.hex n)

def U256.ofJson? (j : Json) : Option U256 := j.text?.bind U256.ofHex?

def StorageStatus.toJson (s : StorageStatus) : Json := .text s.name

def StorageStatus.ofJson? : Json → Option StorageStatus :=
  Json.choice? [.unchanged, .modified, .added, .deleted] StorageStatus.name

def CallMode.name : CallMode → String
  | .sameContext => "SameContext"
  | .destinationContext => "DestinationContext"

def CallMode.toJson (m : CallMode) : Json := .text m.name

def CallMode.ofJson? : Json → Option CallMode := Json.choice? [.sameContext, .destinationContext] CallMode.name

def TransactionKind.toJson (k : TransactionKind) : Json := .text k.name

def TransactionKind.ofJson? : Json → Option TransactionKind :=
  Json.choice? [.deploy, .call, .query, .transfer] TransactionKind.name

def ReturnCode.name : ReturnCode → String
  | .ok => "Ok"
  | .functionNotFound => "FunctionNotFound"
  | .contractNotFound => "ContractNotFound"
  | .userError => "UserError"
  | .outOfGas => "OutOfGas"
  | .outOfFunds => "OutOfFunds"
  | .callStackOverflow => "CallStackOverflow"
  | .executionFailed => "ExecutionFailed"

def ReturnCode.toJson (c : ReturnCode) : Json := .text c.name

def ReturnCode.ofJson? : Json → Option ReturnCode :=
  Json.choice? [.ok, .functionNotFound, .contractNotFound, .userError, .outOfGas, .outOfFunds, .callStackOverflow,
    .executionFailed] ReturnCode.name

end ContractHost

/-
  ContractHost.Record.Output — the JSON forms of accounts, transactions and outputs.

  Every field has to be there, except the code and the metadata of an output account,
  which are `null` where they are missing. Maps are objects keyed by the text form of the
  key; where two keys read the same the later entry wins.
-/

import ContractHost.Record.Scalar

namespace ContractHost

def Delta.toJson (d : Delta) : Json :=
  .record [("negative", .bool d.negative), ("magnitude", U256.toJson d.magnitude)]

def Delta.ofJson? (j : Json) : Option Delta := do
  match ← j.fields? ["negative", "magnitude"] with
  | [negative, magnitude] => return .ofSide (← negative.bool?) (← U256.ofJson? magnitude)
  | _ => none

def CodeMetadata.toJson (m : CodeMetadata) : Json :=
  .record [("upgradeable", .bool m.upgradeable), ("readable", .bool m.readable), ("payable", .bool m.payable)]

def CodeMetadata.ofJson? (j : Json) : Option CodeMetadata := do
  match ← j.fields? ["upgradeable", "readable", "payable"] with
  | [upgradeable, readable, payable] => return ⟨← upgradeable.bool?, ← readable.bool?, ← payable.bool?⟩
  | _ => none

def Account.toJson (a : Account) : Json :=
  .record [("balance", U256.toJson a.balance), ("nonce", U64.toJson a.nonce), ("code", Bytes.toJson a.code),
    ("code_metadata", a.metadata.toJson)]

def Account.ofJson? (j : Json) : Option Account := do
  match ← j.fields? ["balance", "nonce", "code", "code_metadata"] with
  | [balance, nonce, code, metadata] =>
    return ⟨← U256.ofJson? balance, ← U64.ofJson? nonce, ← Bytes.ofJson? code, ← CodeMetadata.ofJson? metadata⟩
  | _ => none

def Transaction.toJson (tx : Transaction) : Json :=
  .record [("kind", tx.kind.toJson), ("sender", tx.sender.toJson), ("recipient", tx.recipient.toJson),
    ("nonce", U64.toJson tx.nonce), ("value", U256.toJson tx.value), ("function", .text tx.function),
    ("arguments", .array (tx.arguments.map Bytes.toJson)), ("code", Bytes.toJson tx.code),
    ("code_metadata", tx.metadata.toJson), ("gas_limit", U64.toJson tx.gasLimit)]

def Transaction.ofJson? (j : Json) : Option Transaction := do
  match ← j.fields? ["kind", "sender", "recipient", "nonce", "value", "function", "arguments", "code", "code_metadata",
    "gas_limit"] with
  | [kind, sender, recipient, nonce, value, function, arguments, code, metadata, gasLimit] =>
    return ⟨← TransactionKind.ofJson? kind, ← Address.ofJson? sender, ← Address.ofJson? recipient, ← U64.ofJson? nonce,
      ← U256.ofJson? value, ← function.text?, ← arguments.list? Bytes.ofJson?, ← Bytes.ofJson? code,
      ← CodeMetadata.ofJson? metadata, ← U64.ofJson? gasLimit⟩
  | _ => none

def LogEntry.toJson (e : LogEntry) : Json :=
  .record [("address", e.address.toJson), ("identifier", Bytes.toJson e.identifier),
    ("topics", .array (e.topics.map Bytes.toJson)), ("data", Bytes.toJson e.data)]

def LogEntry.ofJson? (j : Json) : Option LogEntry := do
  match ← j.fields? ["address", "identifier", "topics", "data"] with
  | [address, identifier, topics, data] =>
    return ⟨← Address.ofJson? address, ← Bytes.ofJson? identifier, ← topics.list? Bytes.ofJson?, ← Bytes.ofJson? data⟩
  | _ => none

def StorageUpdate.toJson (u : StorageUpdate) : Json :=
  .record [("key", Bytes.toJson u.key), ("value", Bytes.toJson u.value)]

def StorageUpdate.ofJson? (j : Json) : Option StorageUpdate := do
  match ← j.fields? ["key", "value"] with
  | [key, value] => return ⟨← Bytes.ofJson? key, ← Bytes.ofJson? value⟩
  | _ => none

def AddressMap.toJson {β : Type} (write : β → Json) (m : AddressMap β) : Json :=
  .record (m.toList.map fun (a, b) => (a.text, write b))

def AddressMap.ofJson? {β : Type} (read : Json → Option β) (j : Json) : Option (AddressMap β) :=
  (j.entries? Address.ofKey? read).map fun entries => .ofList entries compare

def BytesMap.toJson {β : Type} (write : β → Json) (m : BytesMap β) : Json :=
  .record (m.toList.map fun (key, b) => (Bytes.text key, write b))

def BytesMap.ofJson? {β : Type} (read : Json → Option β) (j : Json) : Option (BytesMap β) :=
  (j.entries? Bytes.ofKey? read).map fun entries => .ofList entries compare

def AccountStorage.toJson (s : AccountStorage) : Json := BytesMap.toJson StorageUpdate.toJson s

def AccountStorage.ofJson? : Json → Option AccountStorage := BytesMap.ofJson? StorageUpdate.ofJson?

def OutputAccount.toJson (o : OutputAccount) : Json :=
  .record [("address", o.address.toJson), ("balance_delta", o.delta.toJson),
    ("storage_updates", AccountStorage.toJson o.updates), ("code", .ofNullable Bytes.toJson o.code),
    ("code_metadata", .ofNullable CodeMetadata.toJson o.metadata), ("call_data", Bytes.toJson o.callData)]

def OutputAccount.ofJson? (j : Json) : Option OutputAccount := do
  match ← j.slots ["address", "balance_delta", "storage_updates", "code", "code_metadata", "call_data"] with
  | [some address, some delta, some updates, code, metadata, some callData] =>
    return ⟨← Address.ofJson? address, ← Delta.ofJson? delta, ← AccountStorage.ofJson? updates,
      ← Json.slotOr none (Json.nullable? Bytes.ofJson?) code,
      ← Json.slotOr none (Json.nullable? CodeMetadata.ofJson?) metadata, ← Bytes.ofJson? callData⟩
  | _ => none

def TransactionOutput.toJson (o : TransactionOutput) : Json :=
  .record [("return_code", o.code.toJson), ("return_message", .text o.message),
    ("output_accounts", AddressMap.toJson OutputAccount.toJson o.accounts),
    ("finish_data", .array (o.finishData.map Bytes.toJson)), ("gas_remaining", U64.toJson o.gasRemaining),
    ("gas_refund", U64.toJson o.gasRefund), ("logs", .array (o.logs.map LogEntry.toJson))]

def TransactionOutput.ofJson? (j : Json) : Option TransactionOutput := do
  match ← j.fields? ["return_code", "return_message", "output_accounts", "finish_data", "gas_remaining", "gas_refund",
    "logs"] with
  | [code, message, accounts, finishData, gasRemaining, gasRefund, logs] =>
    return ⟨← ReturnCode.ofJson? code, ← message.text?, ← AddressMap.ofJson? OutputAccount.ofJson? accounts,
      ← finishData.list? Bytes.ofJson?, ← U64.ofJson? gasRemaining, ← U64.ofJson? gasRefund,
      ← logs.list? LogEntry.ofJson?⟩
  | _ => none

/-- The compact text of an output. -/
def TransactionOutput.text (o : TransactionOutput) : String := o.toJson.render

end ContractHost

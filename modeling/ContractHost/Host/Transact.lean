/-
  ContractHost.Host.Transact — transactions from end to end.

  A transfer moves its value. The other kinds find the code and the account that it runs
  on, which for a deployment is a new address that takes the code at once, move the value,
  pay for the compilation and run the function. The output is a full success or a failure
  without effects: of a call refused for its depth even where guest code went on.
-/

import ContractHost.Host.Nested

namespace ContractHost

namespace Host

open ContractHost.Action

/-- The account and the code that a transaction runs. -/
def target (L : Ledger) (tx : Transaction) : Action (Address × Bytes) :=
  if tx.kind = .deploy then do
    let a ← lookup (L.newAddress tx.sender tx.nonce)
    changeOutput (·.deploy a tx.code tx.metadata)
    return (a, tx.code)
  else do
    let code ← lookup (L.code tx.recipient)
    return (tx.recipient, code)

/-- Everything before the code of a transaction runs. -/
def prepare (c : HostConfig) (L : Ledger) (tx : Transaction) : Action CallInput := do
  let value := if tx.kind.hasValue then tx.value else 0
  let (callee, code) ← target L tx
  require (!code.isEmpty) .contractNotFound
  changeStaging fun s => (s.setAddress callee).setReadOnly (tx.kind = .query)
  if tx.kind = .deploy then recordTransfer L tx.sender callee value [] else moveValue L tx.sender callee value []
  useGas (c.schedule.compile code.length)
  let gas ← read (·.meter.frame.provided)
  return ⟨tx.sender, callee, value, tx.function, tx.arguments, gas, code, 0⟩

/-- The output of a transaction whose processing ended with `result`. -/
def conclude (h : Host) (result : Except CallError Unit) : TransactionOutput :=
  match h.fatal, result with
  | some e, _ | none, .error e => .failure e.returnCode e.message
  | none, .ok () => h.output.finalize h.staging.accounts h.meter.left h.meter.frame.freed

end Host

namespace Setting

variable {ε σ : Type} (S : Setting ε σ)

/-- The levels of calls that a host has left. -/
def levels (h : Host) : Nat := S.config.maxCallDepth.val - h.depth

/-- The processing of a transaction on a host. -/
def process (tx : Transaction) (h : Host) (s : σ) : Turn ε σ (Except CallError Unit) :=
  if tx.kind = .transfer then
    let (result, h) := Host.moveValue (S.ledger s) tx.sender tx.recipient tx.value [] h
    ⟨result, h, s, []⟩
  else
    match Host.prepare S.config (S.ledger s) tx h with
    | (.error e, h) => ⟨.error e, h, s, []⟩
    | (.ok input, h) => S.run (S.levels h) (S.executor input) h s

def transact (tx : Transaction) (h : Host) (s : σ) : Turn ε σ TransactionOutput :=
  let t := S.process tx h s
  ⟨t.host.conclude t.reply, t.host, t.around, t.deeds⟩

end Setting

end ContractHost

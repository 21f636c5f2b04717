/-
  ContractHost.Audit — what every output must satisfy before it is committed.

  It returns no more gas than was given; a failure carries no effects and no gas; a query
  changes neither storage nor balances nor code; the balance changes add up to nothing;
  no reserved key is written. `violations` names the rules that an output breaks, in this
  order.
-/

import ContractHost.Config
import ContractHost.Output
import ContractHost.Transaction

namespace ContractHost

inductive Violation where
  | gasLimitExceeded (remaining limit : U64)
  | failureNotClean (accounts logs : Nat)
  | queryModifiedState
  | balanceNotConserved
  | reservedKeyWritten (count : Nat)
  deriving DecidableEq, Repr

def Violation.message : Violation → String
  | .gasLimitExceeded remaining limit => "gas remaining " ++ remaining.decimal ++ " exceeds limit " ++ limit.decimal
  | .failureNotClean accounts logs => s!"failed output not clean: {accounts} accounts, {logs} logs"
  | .queryModifiedState => "query modified state"
  | .balanceNotConserved => "balance deltas do not sum to zero"
  | .reservedKeyWritten count => s!"{count} storage updates under the reserved prefix"

namespace Audit

def withinGasLimit (tx : Transaction) (o : TransactionOutput) : Bool := o.gasRemaining ≤ tx.gasLimit

def cleanFailure (o : TransactionOutput) : Bool :=
  o.isSuccess ||
    (o.accounts.isEmpty && o.finishData.isEmpty && o.logs.isEmpty && o.gasRemaining == 0 && o.gasRefund == 0)

def pureQuery (tx : Transaction) (o : TransactionOutput) : Bool :=
  tx.kind != .query ||
    o.accounts.toList.all fun (_, a) => a.updates.isEmpty && a.delta.isZero && a.code.isNone

/-- The changes in the order of the addresses, as one change. -/
def netChange (o : TransactionOutput) : Delta := o.accounts.foldl (fun sum _ a => sum + a.delta) .zero

def conserved (o : TransactionOutput) : Bool := (netChange o).isZero

def reservedWrites (c : HostConfig) (o : TransactionOutput) : Nat :=
  (o.accounts.toList.flatMap fun (_, a) => a.updates.keys).countP c.isReserved

def violations (c : HostConfig) (tx : Transaction) (o : TransactionOutput) : List Violation :=
  (if withinGasLimit tx o then [] else [.gasLimitExceeded o.gasRemaining tx.gasLimit]) ++
  (if cleanFailure o then [] else [.failureNotClean o.accounts.size o.logs.length]) ++
  (if pureQuery tx o then [] else [.queryModifiedState]) ++
  (if conserved o then [] else [.balanceNotConserved]) ++
  (if reservedWrites c o = 0 then [] else [.reservedKeyWritten (reservedWrites c o)])

end Audit

end ContractHost

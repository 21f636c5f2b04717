/-
  ContractHost.Service — transactions one after another, with a count of what became of them.

  A service opens on a valid configuration. A transaction that is malformed is rejected
  and never runs; any other runs on a fresh host. Outputs are reported, not committed.
-/

import ContractHost.Audit
import ContractHost.Host.Transact

namespace ContractHost

structure ServiceConfig where
  host : HostConfig
  /-- The most gas that a transaction may ask for. -/
  maxGasLimit : U64
  checkInvariants : Bool
  deriving DecidableEq, Repr

def ServiceConfig.standard : ServiceConfig := ⟨.standard, 1500000000, true⟩

instance : Inhabited ServiceConfig := ⟨.standard⟩

/-- Why a transaction never runs. -/
inductive Rejection where
  | gasLimit (asked most : U64)
  | valueCarried (kind : TransactionKind)
  | functionMissing
  | codeMissing
  deriving DecidableEq, Repr

def Rejection.message : Rejection → String
  | .gasLimit asked most => "gas limit " ++ asked.decimal ++ " above maximum " ++ most.decimal
  | .valueCarried kind => kind.name ++ " transaction cannot carry value"
  | .functionMissing => "missing function name"
  | .codeMissing => "deploy without code"

inductive ServiceError where
  | invalidTransaction (cause : Rejection)
  | config (cause : ConfigError)
  deriving DecidableEq, Repr

def ServiceError.message : ServiceError → String
  | .invalidTransaction cause => "invalid transaction: " ++ cause.message
  | .config cause => "invalid configuration: " ++ cause.message

structure Report where
  output : TransactionOutput
  gasUsed : U64
  violations : List Violation
  deriving DecidableEq, Repr

def Report.isSuccess (r : Report) : Bool := r.output.isSuccess && r.violations.isEmpty

structure Statistics where
  executed : Nat
  successful : Nat
  failed : Nat
  totalGasUsed : U64
  rejected : Nat
  /-- Reports with a violation. -/
  violated : Nat
  deriving DecidableEq, Repr

namespace Statistics

def zero : Statistics := ⟨0, 0, 0, 0, 0, 0⟩

/-- Counts what became of one more transaction. -/
def count (s : Statistics) : Except ServiceError Report → Statistics
  | .error _ => { s with rejected := s.rejected + 1 }
  | .ok r =>
    { s with
      executed := s.executed + 1
      successful := s.successful + if r.output.isSuccess then 1 else 0
      failed := s.failed + if r.output.isSuccess then 0 else 1
      totalGasUsed := s.totalGasUsed + r.gasUsed
      violated := s.violated + if r.violations.isEmpty then 0 else 1 }

end Statistics

structure Service (ε σ : Type) where
  setting : Setting ε σ
  maxGasLimit : U64
  checkInvariants : Bool
  statistics : Statistics

namespace Service

variable {ε σ : Type}

def create (config : ServiceConfig) (executor : CallInput → Guest ε) (ledger : σ → Ledger) (react : ε → σ → σ) :
    Except ServiceError (Service ε σ) :=
  match config.host.validate with
  | .error e => .error (.config e)
  | .ok () => .ok ⟨⟨config.host, executor, ledger, react⟩, config.maxGasLimit, config.checkInvariants, .zero⟩

def check (v : Service ε σ) (tx : Transaction) : Except Rejection Unit :=
  if v.maxGasLimit < tx.gasLimit then .error (.gasLimit tx.gasLimit v.maxGasLimit)
  else if !tx.kind.hasValue ∧ tx.value ≠ 0 then .error (.valueCarried tx.kind)
  else if tx.kind.hasFunction ∧ tx.function = "" then .error .functionMissing
  else if tx.kind = .deploy ∧ tx.code.isEmpty then .error .codeMissing
  else .ok ()

def report (v : Service ε σ) (tx : Transaction) (o : TransactionOutput) : Report :=
  ⟨o, tx.gasLimit - o.gasRemaining, if v.checkInvariants then Audit.violations v.setting.config tx o else []⟩

/-- What one transaction answers, and what its code did on the way. -/
def answer (v : Service ε σ) (tx : Transaction) (s : σ) : Except ServiceError Report × σ × List (Deed ε) :=
  match v.check tx with
  | .error cause => (.error (.invalidTransaction cause), s, [])
  | .ok () =>
    let t := v.setting.transact tx (.start tx.gasLimit) s
    (.ok (v.report tx t.reply), t.around, t.deeds)

/-- An answer, the service and the surroundings after it, and what code did on the way. -/
structure Answered (ε σ α : Type) where
  reply : α
  service : Service ε σ
  around : σ
  deeds : List (Deed ε)

/-- One transaction answered and counted. -/
def execute (v : Service ε σ) (tx : Transaction) (s : σ) : Answered ε σ (Except ServiceError Report) :=
  let (reply, s, deeds) := v.answer tx s
  ⟨reply, { v with statistics := v.statistics.count reply }, s, deeds⟩

/-- Transactions one after another. -/
def executeBatch (v : Service ε σ) : List Transaction → σ → Answered ε σ (List (Except ServiceError Report))
  | [], s => ⟨[], v, s, []⟩
  | tx :: txs, s =>
    let first := v.execute tx s
    let rest := executeBatch first.service txs first.around
    ⟨first.reply :: rest.reply, rest.service, rest.around, first.deeds ++ rest.deeds⟩

end Service

end ContractHost

/-
  ContractHost.Transaction — what a sender asks the host to do.

  A call and a query run a function of the recipient's contract; a query has no sender and
  moves no value. A deployment runs the constructor of new code at a new address. A
  transfer moves value and runs nothing.
-/

import ContractHost.Account
import ContractHost.Address

namespace ContractHost

inductive TransactionKind where
  | deploy
  | call
  | query
  | transfer
  deriving DecidableEq, Repr

namespace TransactionKind

def name : TransactionKind → String
  | .deploy => "Deploy"
  | .call => "Call"
  | .query => "Query"
  | .transfer => "Transfer"

def hasSender (k : TransactionKind) : Bool := k != .query

def hasReceiver (k : TransactionKind) : Bool := k != .deploy

def hasFunction (k : TransactionKind) : Bool := k == .call || k == .query

def hasValue (k : TransactionKind) : Bool := k != .query

def runsContract (k : TransactionKind) : Bool := k != .transfer

end TransactionKind

structure Transaction where
  kind : TransactionKind
  sender : Address
  recipient : Address
  nonce : U64
  value : U256
  function : String
  arguments : List Bytes
  code : Bytes
  metadata : CodeMetadata
  gasLimit : U64
  deriving DecidableEq, Repr

namespace Transaction

/-- The constructor of a contract. -/
def constructor : String := "init"

def call (sender recipient : Address) (function : String) (gas : U64) : Transaction where
  kind := .call
  sender
  recipient
  nonce := 0
  value := 0
  function
  arguments := []
  code := []
  metadata := .none
  gasLimit := gas

def query (recipient : Address) (function : String) (gas : U64) : Transaction :=
  { call .zero recipient function gas with kind := .query }

def deploy (sender : Address) (nonce : U64) (code : Bytes) (metadata : CodeMetadata) (gas : U64) : Transaction :=
  { call sender .zero constructor gas with kind := .deploy, nonce, code, metadata }

def transfer (sender recipient : Address) (value : U256) : Transaction :=
  { call sender recipient "" 0 with kind := .transfer, value }

end Transaction

end ContractHost

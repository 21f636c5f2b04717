/-
  ContractHost.Script — contracts written as lists of commands.

  A contract has named functions, each a list of instructions, and is found by its code.
  A function first signals that it was entered; a command signals what became of it, with
  the depth and the gas left after it. A command that fails ends its function with the
  error unless the instruction catches it. A branch goes by the counter, which is the
  first byte of the first argument.

  A contract without a constructor deploys as it is.
-/

import ContractHost.Host.Nested
import ContractHost.Ledger
import ContractHost.Text.Quoted
import ContractHost.Transaction

namespace ContractHost.Script

inductive Arguments where
  | given (arguments : List Bytes)
  /-- One argument of one byte, the counter less one. -/
  | countdown
  deriving DecidableEq, Repr

inductive Command where
  | store (key value : Bytes)
  /-- Stores the depth of the call in decimal digits. -/
  | storeDepth (key : Bytes)
  | load (key : Bytes)
  | loadFrom (address : Address) (key : Bytes)
  | finish (data : Bytes)
  /-- Finishes with the counter in decimal digits behind `label`. -/
  | finishCounter (label : Bytes)
  | finishArgument (place : Nat)
  | transfer (receiver : Address) (value : U256) (data : Bytes)
  | log (identifier : Bytes) (topics : List Bytes) (data : Bytes)
  | upgrade (code : Bytes) (metadata : CodeMetadata)
  | call (mode : CallMode) (callee : Address) (function : String) (value : U256) (gas : U64) (arguments : Arguments)
  | useGas (amount : U64)
  /-- Uses all the gas that is left. -/
  | burn
  | fail (error : CallError)
  | balance (address : Address)
  | delta (address : Address)
  | account (address : Address)
  | updates (address : Address)
  /-- The whole state of the host. -/
  | state
  /-- The committed state changes under the running transaction. -/
  | world (step : World.Step)

inductive Instruction where
  | run (command : Command) (catches : Bool)
  | branch (positive otherwise : List Instruction)

/-- What a command that succeeds gives. -/
inductive Value where
  | nothing
  | done
  | status (status : StorageStatus)
  | bytes (bytes : Bytes)
  | readable (bytes : Option Bytes)
  | outcome (outcome : CallOutcome)
  | amount (amount : U256)
  | delta (delta : Delta)
  | account (account : Option OutputAccount)
  | updates (updates : AccountStorage)
  | host (host : Host)

inductive Event where
  | entered (input : CallInput)
  | ran (command : Command) (depth : Nat) (gasLeft : U64) (result : Except CallError Value)

inductive Signal where
  | event (event : Event)
  | world (step : World.Step)

/-- The committed state after a signal. -/
def react : Signal → World → World
  | .event _, w => w
  | .world step, w => w.apply step

/-- The events of a run in their order. -/
def events (deeds : List (Deed Signal)) : List Event :=
  (eventsOf deeds).filterMap fun
    | .event e => some e
    | .world _ => none

def counter (input : CallInput) : Nat := ((input.arguments.headD []).headD 0).toNat

def decimal (n : Nat) : Bytes := Bytes.ofText n.repr

def Arguments.values (input : CallInput) : Arguments → List Bytes
  | .given arguments => arguments
  | .countdown => [[UInt8.ofNat (counter input - 1)]]

/-- A command, and the code that goes on by its result. -/
def Command.guest (input : CallInput) (command : Command) (next : Except CallError Value → Guest Signal) :
    Guest Signal :=
  match command with
  | .store key value => .ask (.store key value) fun r => next (r.map Value.status)
  | .storeDepth key => .look fun h => .ask (.store key (decimal h.depth)) fun r => next (r.map Value.status)
  | .load key => .ask (.load key) fun r => next (r.map Value.bytes)
  | .loadFrom a key => .ask (.loadFrom a key) fun r => next (r.map Value.readable)
  | .finish data => .ask (.finish data) fun r => next (r.map fun _ => .nothing)
  | .finishCounter label => .ask (.finish (label ++ decimal (counter input))) fun r => next (r.map fun _ => .nothing)
  | .finishArgument place => .ask (.finish (input.arguments.getD place [])) fun r => next (r.map fun _ => .nothing)
  | .transfer receiver value data => .ask (.transfer receiver value data) fun r => next (r.map fun _ => .nothing)
  | .log identifier topics data => .ask (.log identifier topics data) fun r => next (r.map fun _ => .nothing)
  | .upgrade code metadata => .ask (.upgrade code metadata) fun r => next (r.map fun _ => .nothing)
  | .call mode callee function value gas arguments =>
    .call mode ⟨callee, value, function, arguments.values input, gas⟩ fun r => next (r.map .outcome)
  | .useGas amount => .ask (.useGas amount) fun r => next (r.map fun _ => .nothing)
  | .burn => .look fun h => .ask (.useGas h.meter.left) fun r => next (r.map fun _ => .nothing)
  | .fail e => next (.error e)
  | .balance a => .ask (.balance a) fun r => next (r.map Value.amount)
  | .delta a => .look fun h => next (.ok (.delta (h.output.visibleDelta a)))
  | .account a => .look fun h => next (.ok (.account h.output.frame.accounts[a]?))
  | .updates a => .look fun h => next (.ok (.updates (h.staging.updates a)))
  | .state => .look fun h => next (.ok (.host h))
  | .world step => .signal (.world step) (next (.ok .done))

mutual

def Instruction.guest (input : CallInput) : Instruction → Guest Signal → Guest Signal
  | .run command catches, rest =>
    command.guest input fun result => .look fun h =>
      .signal (.event (.ran command h.depth h.meter.left result)) <|
        match result with
        | .ok _ => rest
        | .error e => if catches then rest else .done (.error e)
  | .branch positive otherwise, rest =>
    if counter input > 0 then guestOf input positive rest else guestOf input otherwise rest
termination_by structural i => i

/-- Instructions in order, and then `rest`. -/
def guestOf (input : CallInput) : List Instruction → Guest Signal → Guest Signal
  | [], rest => rest
  | i :: is, rest => i.guest input (guestOf input is rest)
termination_by structural is => is

end

/-- A script as guest code. -/
def guest (script : List Instruction) (input : CallInput) : Guest Signal := guestOf input script (.done (.ok ()))

/-- The functions of a contract by name. -/
abbrev Contract := Std.ExtTreeMap String (List Instruction) compare

/-- The names of the functions, as a message shows them. -/
def Contract.text (c : Contract) : String :=
  "ScriptedContract \x7b functions: [" ++ ", ".intercalate (c.keys.map (Text.quoted '"')) ++ "] \x7d"

/-- Contracts by their code. -/
abbrev Contracts := BytesMap Contract

def executor (contracts : Contracts) (input : CallInput) : Guest Signal :=
  match contracts[input.code]? with
  | none => .done (.error .contractNotFound)
  | some contract =>
    match contract[input.function]? with
    | some script => .signal (.event (.entered input)) (guest script input)
    | none =>
      if input.function = Transaction.constructor then .done (.ok ())
      else .done (.error (.functionNotFound input.function))

/-- Scripted contracts under a configuration. -/
def setting (config : HostConfig) (contracts : Contracts) : Setting Signal World where
  config
  executor := executor contracts
  ledger := World.ledger
  react

end ContractHost.Script

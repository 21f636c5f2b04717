/-
  ContractHost.Host.Guest — guest code, as what it asks of the host.

  Guest code is a tree: it ends with a result, or asks for a host function or a nested
  call and goes on by the answer, or looks at the state of the host and goes on by that.
  Besides, it may signal an event to whatever surrounds the host; nothing comes back.
  Every branch is finite, so every run of guest code ends.

  A run leaves deeds behind: what was asked, called and signalled, in order, each with
  the host as it was before, and inside a call what its own code did.
-/

import ContractHost.Host

namespace ContractHost

inductive Request where
  | useGas (amount : U64)
  | store (key value : Bytes)
  | load (key : Bytes)
  | loadFrom (address : Address) (key : Bytes)
  | finish (data : Bytes)
  | transfer (receiver : Address) (value : U256) (data : Bytes)
  | log (identifier : Bytes) (topics : List Bytes) (data : Bytes)
  | upgrade (code : Bytes) (metadata : CodeMetadata)
  /-- The balance of an account as the running call sees it. -/
  | balance (address : Address)
  deriving DecidableEq, Repr

/-- What a request that is granted answers. -/
def Request.Answer : Request → Type
  | .store _ _ => StorageStatus
  | .load _ => Bytes
  | .loadFrom _ _ => Option Bytes
  | .balance _ => U256
  | _ => Unit

def Request.perform (c : HostConfig) (L : Ledger) : (r : Request) → Action r.Answer
  | .useGas amount => Host.useGas amount
  | .store key value => Host.store c L key value
  | .load key => Host.load c L key
  | .loadFrom a key => Host.loadFrom c L a key
  | .finish data => Host.finish c data
  | .transfer receiver value data => Host.transfer c L receiver value data
  | .log identifier topics data => Host.log c identifier topics data
  | .upgrade code metadata => Host.upgrade c L code metadata
  | .balance a => Host.balance L a

inductive Guest (ε : Type) where
  | done (result : Except CallError Unit)
  | ask (request : Request) (next : Except CallError request.Answer → Guest ε)
  | call (mode : CallMode) (call : NestedCall) (next : Except CallError CallOutcome → Guest ε)
  | look (next : Host → Guest ε)
  | signal (event : ε) (next : Guest ε)

inductive Deed (ε : Type) where
  | asked (before : Host) (request : Request) (reply : Except CallError request.Answer)
  /-- A nested call: what its code was called with, if that ran at all, and what the code did. -/
  | called (before : Host) (mode : CallMode) (call : NestedCall) (input : Option CallInput) (inside : List (Deed ε))
      (phases : List CallPhase) (reply : Except CallError CallOutcome)
  | signalled (before : Host) (event : ε)
  /-- The end of the code of one call. -/
  | ended (host : Host) (result : Except CallError Unit)

mutual

/-- The events signalled, those inside of calls in their places. -/
def Deed.events {ε : Type} : Deed ε → List ε
  | .called _ _ _ _ inside _ _ => eventsOf inside
  | .signalled _ event => [event]
  | _ => []
termination_by structural d => d

def eventsOf {ε : Type} : List (Deed ε) → List ε
  | [] => []
  | d :: ds => d.events ++ eventsOf ds
termination_by structural ds => ds

end

/-- An answer, the host and the surroundings after it, and the deeds that led to it. -/
structure Turn (ε σ α : Type) where
  reply : α
  host : Host
  around : σ
  deeds : List (Deed ε)

/-- The same with deeds that came before. -/
def Turn.following {ε σ α : Type} (t : Turn ε σ α) (deeds : List (Deed ε)) : Turn ε σ α :=
  { t with deeds := deeds ++ t.deeds }

/-- Guest code run to its end: `ask` grants requests, `call` runs nested calls, `react` takes signals. -/
def Guest.run {ε σ : Type} (ask : σ → (r : Request) → Action r.Answer)
    (call : CallMode → NestedCall → Host → σ → Turn ε σ (Except CallError CallOutcome)) (react : ε → σ → σ) :
    Guest ε → Host → σ → Turn ε σ (Except CallError Unit)
  | .done result, h, s => ⟨result, h, s, [.ended h result]⟩
  | .ask r next, h, s =>
    let (reply, after) := ask s r h
    (run ask call react (next reply) after s).following [.asked h r reply]
  | .call mode c next, h, s =>
    let t := call mode c h s
    (run ask call react (next t.reply) t.host t.around).following t.deeds
  | .look next, h, s => run ask call react (next h) h s
  | .signal e next, h, s => (run ask call react next h (react e s)).following [.signalled h e]

end ContractHost

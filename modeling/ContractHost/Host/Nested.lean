/-
  ContractHost.Host.Nested — nested calls.

  A call is refused for good once one was refused for its depth; then every call fails
  with that first error. Otherwise its base price is taken, and it is entered: gas, staged
  writes and output are parked, and in a destination context the account becomes the
  callee's. Inside, the call's value is moved, the callee's code is found and compiled,
  and the code runs. On its end everything parked comes back, with the call's effects if
  it succeeded, without them if not; the caller pays what the call used, or for a failure
  the penalty where that is more, and a marker goes into its finish data.

  Depth is counted by the levels that are left: at none, calls are refused.
-/

import ContractHost.Host.Guest

namespace ContractHost

/-- Where transactions run. The ledger is a view of the surroundings, which signals change. -/
structure Setting (ε σ : Type) where
  config : HostConfig
  /-- What a contract does with what it is called with. -/
  executor : CallInput → Guest ε
  ledger : σ → Ledger
  react : ε → σ → σ

/-- How a callee's code runs once it is called. -/
abbrev Callee (ε σ : Type) := CallInput → Host → σ → Turn ε σ (Except CallError Unit)

namespace Host

open ContractHost.Action

/-- The base price of a call. -/
def baseCost (c : HostConfig) : CallMode → U64
  | .sameContext => c.schedule.executeOnSameContext
  | .destinationContext => c.schedule.executeOnDestContext

def penalty (c : HostConfig) : CallMode → U64
  | .sameContext => c.samePenalty
  | .destinationContext => c.destPenalty

def enter (h : Host) (mode : CallMode) (callee : Address) (gas : U64) : Host :=
  { h with
    meter := h.meter.push gas
    staging := match mode with
      | .sameContext => h.staging.push
      | .destinationContext => h.staging.push.setAddress callee
    output := match mode with
      | .sameContext => h.output.push
      | .destinationContext => h.output.isolate
    depth := h.depth + 1 }

/-- What happens in the frame of a call before its code runs. -/
def begin (c : HostConfig) (L : Ledger) (caller : Address) (call : NestedCall) (gas : U64) : Action CallInput := do
  require (call.value = 0 || !(← read readOnly)) .writeInReadOnly
  moveValue L caller call.callee call.value []
  let code ← lookup (L.code call.callee)
  require (!code.isEmpty) .contractNotFound
  useGas (c.schedule.compile code.length)
  let depth ← read (·.depth)
  return ⟨caller, call.callee, call.value, call.function, call.arguments, gas, code, depth⟩

/-- A call's end, its answer to the caller and the phases it went through after its code. -/
structure Settled where
  reply : Except CallError CallOutcome
  host : Host
  phases : List CallPhase

/-- The caller goes on: `parent` is the host as the call was entered, `h` as it ended. -/
def settle (c : HostConfig) (mode : CallMode) (parent : Host) (result : Except CallError Unit) (h : Host) : Settled :=
  let (frame, meter) := h.meter.pop?.getD (.ofGas 0, h.meter)
  let back := { h with depth := parent.depth, meter }
  let undone := { back with staging := back.staging.rollback, output := back.output.rollback }
  match h.fatal with
  | some e => ⟨.error e, undone, []⟩
  | none =>
    match result with
    | .ok () =>
      let kept := { back with
        staging := { back.staging.commit with frame := parent.staging.frame }
        output := match mode with
          | .sameContext => back.output.discard
          | .destinationContext => back.output.fold }
      match kept.meter.use? frame.used with
      | none => ⟨.error .outOfGas, kept, [.succeeded]⟩
      | some meter =>
        ⟨.ok (.succeeded frame.used),
          { kept with meter := meter.free frame.freed, output := kept.output.finish successMarker },
          [.succeeded, .returned]⟩
    | .error e =>
      let charged := max frame.used (min (penalty c mode) frame.provided)
      match undone.meter.use? charged with
      | none => ⟨.error .outOfGas, undone, [.ofError e]⟩
      | some meter =>
        ⟨.ok (.failed e.returnCode e.message charged),
          { undone with meter, output := undone.output.finish failureMarker }, [.ofError e, .returned]⟩

end Host

namespace Setting

variable {ε σ : Type} (S : Setting ε σ)

/-- A nested call whose code runs by `callee`; none where no level is left. -/
def nested (callee : Option (Callee ε σ)) (mode : CallMode) (call : NestedCall) (h : Host) (s : σ) :
    Turn ε σ (Except CallError CallOutcome) :=
  match h.fatal, callee with
  | some e, _ => ⟨.error e, h, s, [.called h mode call none [] [] (.error e)]⟩
  | none, none =>
    let e := .callDepthExceeded (h.depth + 1) S.config.maxCallDepth.val
    ⟨.error e, { h with fatal := some e }, s, [.called h mode call none [] [] (.error e)]⟩
  | none, some callee =>
    match h.meter.use? (Host.baseCost S.config mode) with
    | none => ⟨.error .outOfGas, h, s, [.called h mode call none [] [] (.error .outOfGas)]⟩
    | some meter =>
      let parent := { h with meter }
      let gas := min call.gasLimit meter.left
      match Host.begin S.config (S.ledger s) parent.address call gas (parent.enter mode call.callee gas) with
      | (.error e, inner) =>
        let settled := Host.settle S.config mode parent (.error e) inner
        ⟨settled.reply, settled.host, s, [.called h mode call none [] (.entered :: settled.phases) settled.reply]⟩
      | (.ok input, inner) =>
        let t := callee input inner s
        let settled := Host.settle S.config mode parent t.reply t.host
        ⟨settled.reply, settled.host, t.around,
          [.called h mode call (some input) t.deeds (.entered :: .executing :: settled.phases) settled.reply]⟩

/-- Guest code with `levels` levels of calls left below it. -/
def run : Nat → Guest ε → Host → σ → Turn ε σ (Except CallError Unit)
  | 0 => Guest.run (fun s r => r.perform S.config (S.ledger s)) (S.nested none) S.react
  | levels + 1 =>
    Guest.run (fun s r => r.perform S.config (S.ledger s))
      (S.nested (some fun input => run levels (S.executor input))) S.react

end Setting

end ContractHost

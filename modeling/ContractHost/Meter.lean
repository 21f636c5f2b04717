/-
  ContractHost.Meter — the gas of a call and of the calls waiting for it.

  Every call has a frame: the gas it was given, what it used, what storage writes freed.
  A nested call opens a frame of its own and parks the caller's; at its end the caller's
  frame is back and decides what it pays.
-/

import ContractHost.Capped
import ContractHost.Stack

namespace ContractHost

structure GasFrame where
  provided : U64
  used : U64
  freed : U64
  deriving DecidableEq, Repr

namespace GasFrame

def ofGas (provided : U64) : GasFrame := ⟨provided, 0, 0⟩

def left (f : GasFrame) : U64 := f.provided - f.used

end GasFrame

structure Meter where
  frame : GasFrame
  /-- The frames of the waiting calls. -/
  parked : Stack GasFrame
  deriving DecidableEq, Repr

namespace Meter

def ofGas (limit : U64) : Meter := ⟨.ofGas limit, []⟩

def left (m : Meter) : U64 := m.frame.left

def depth (m : Meter) : Nat := m.parked.length

/-- Takes gas from the running call, which has to have it. -/
def use? (m : Meter) (amount : U64) : Option Meter :=
  if amount ≤ m.left then some { m with frame := { m.frame with used := m.frame.used + amount } } else none

def free (m : Meter) (amount : U64) : Meter :=
  { m with frame := { m.frame with freed := m.frame.freed + amount } }

def push (m : Meter) (gas : U64) : Meter := ⟨.ofGas gas, m.parked.push m.frame⟩

/-- The frame of the call that ends, and the meter of its caller. -/
def pop? (m : Meter) : Option (GasFrame × Meter) :=
  match m.parked.pop? with
  | none => none
  | some (frame, parked) => some (m.frame, ⟨frame, parked⟩)

def useAll (m : Meter) : Meter := { m with frame := { m.frame with used := m.frame.provided } }

end Meter

end ContractHost

/-
  ContractHost.Stack — what a running call left behind, the latest on top.

  A stack is the list of its items from the top. Staged writes, the output and the meter
  each keep one; `push` and `pop?` are all that they do to it.
  - `pop?_eq_some_iff`: what is popped off a stack is what was pushed onto the rest.
-/

namespace ContractHost

abbrev Stack (α : Type) := List α

namespace Stack

variable {α : Type}

def push (s : Stack α) (a : α) : Stack α := a :: s

/-- The top and what is under it. -/
def pop? : Stack α → Option (α × Stack α)
  | [] => none
  | a :: s => some (a, s)

def peek? (s : Stack α) : Option α := s.pop?.map (·.1)

/-- Another item in the place of the top. -/
def setTop? (s : Stack α) (a : α) : Option (Stack α) := s.pop?.map (·.2.push a)

variable {s rest : Stack α} {a : α}

@[simp] theorem push_eq_cons (s : Stack α) (a : α) : s.push a = a :: s := rfl

@[simp] theorem pop?_cons (s : Stack α) (a : α) : pop? (a :: s) = some (a, s) := rfl

theorem pop?_eq_some_iff : s.pop? = some (a, rest) ↔ s = a :: rest := by
  cases s <;> simp [pop?]

end Stack

end ContractHost

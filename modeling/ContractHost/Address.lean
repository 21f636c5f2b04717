/-
  ContractHost.Address — account addresses of 32 bytes.

  Addresses are ordered by their bytes. A name becomes an address by its UTF-8 bytes, cut
  at 32 and filled up with dots.
-/

import ContractHost.Bytes
import Std.Data.ExtTreeMap

namespace ContractHost

structure Address where
  bytes : Bytes
  length_eq : bytes.length = 32
  deriving DecidableEq, Repr

namespace Address

@[ext] theorem ext {a b : Address} (h : a.bytes = b.bytes) : a = b := by
  cases a; cases b; cases h; rfl

def zero : Address := ⟨List.replicate 32 0, by decide⟩

instance : Inhabited Address := ⟨zero⟩

def ofBytes? (b : Bytes) : Option Address := if h : b.length = 32 then some ⟨b, h⟩ else none

def named (name : String) : Address :=
  ⟨((Bytes.ofText name) ++ List.replicate 32 0x2e).take 32, by simp⟩

/-- The full digits. -/
def text (a : Address) : String := Bytes.text a.bytes

/-- The first four and the last two bytes. -/
def brief (a : Address) : String :=
  Bytes.text (a.bytes.take 4) ++ "..." ++ String.ofList (Hex.encode (a.bytes.drop 30))

inductive ReadError where
  | hex (cause : Hex.Error)
  | wrongLength (length : Nat)
  deriving DecidableEq, Repr

def ReadError.message : ReadError → String
  | .hex cause => cause.message
  | .wrongLength length => s!"expected 32 bytes, got {length}"

def ofText? (s : String) : Except ReadError Address :=
  match Bytes.ofText? s with
  | .error e => .error (.hex e)
  | .ok b => if h : b.length = 32 then .ok ⟨b, h⟩ else .error (.wrongLength b.length)

theorem ofText?_text (a : Address) : ofText? a.text = .ok a := by
  simp [ofText?, text, Bytes.ofText?_text, a.length_eq]

instance : Ord Address := ⟨fun a b => compare a.bytes b.bytes⟩

theorem compare_eq (a b : Address) : compare a b = compare a.bytes b.bytes := rfl

instance : Std.TransOrd Address where
  eq_swap {a b} := by simpa only [compare_eq] using Std.OrientedCmp.eq_swap
  isLE_trans {a b c} h h' := by
    simp only [compare_eq] at h h' ⊢
    exact Std.TransCmp.isLE_trans h h'

instance : Std.LawfulEqOrd Address where
  compare_self {a} := by simp
  eq_of_compare {a b} h := by
    rw [compare_eq] at h
    exact ext (Std.LawfulEqCmp.eq_of_compare h)

end Address

/-- Values by address, in the order of the addresses. -/
abbrev AddressMap (β : Type) := Std.ExtTreeMap Address β compare

/-- Values by byte string, in the order of the bytes. -/
abbrev BytesMap (β : Type) := Std.ExtTreeMap Bytes β compare

end ContractHost

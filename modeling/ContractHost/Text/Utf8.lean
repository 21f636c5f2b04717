/-
  ContractHost.Text.Utf8 — reading bytes as UTF-8 where they may be broken.

  Each character that is well formed reads as itself; each longest run of bytes that
  begins a character and cannot go on is one replacement character, and so is each byte
  that begins none. A reader is between characters or inside one, where it knows how many
  bytes are owed and between which bounds the next one has to lie.
-/

import ContractHost.Bytes

namespace ContractHost.Text

/-- A character begun: the bytes owed after the next one, the bounds of the next one, the bits so far. -/
structure Begun where
  owed : Nat
  low : UInt8
  high : UInt8
  bits : Nat
  deriving DecidableEq, Repr

def replacement : Char := '\ufffd'

/-- A first byte: a character of its own, the beginning of one, or neither. -/
def opening (b : UInt8) : List Char × Option Begun :=
  if b < 0x80 then ([Char.ofNat b.toNat], none)
  else if b < 0xC2 then ([replacement], none)
  else if b < 0xE0 then ([], some ⟨0, 0x80, 0xBF, b.toNat - 0xC0⟩)
  else if b < 0xF0 then
    ([], some ⟨1, if b = 0xE0 then 0xA0 else 0x80, if b = 0xED then 0x9F else 0xBF, b.toNat - 0xE0⟩)
  else if b < 0xF5 then
    ([], some ⟨2, if b = 0xF0 then 0x90 else 0x80, if b = 0xF4 then 0x8F else 0xBF, b.toNat - 0xF0⟩)
  else ([replacement], none)

/-- The characters that a byte completes and what it leaves begun. -/
def readByte : Option Begun → UInt8 → List Char × Option Begun
  | none, b => opening b
  | some p, b =>
    if p.low ≤ b ∧ b ≤ p.high then
      let bits := 64 * p.bits + (b.toNat - 0x80)
      match p.owed with
      | 0 => ([Char.ofNat bits], none)
      | n + 1 => ([], some ⟨n, 0x80, 0xBF, bits⟩)
    else
      let (read, next) := opening b
      (replacement :: read, next)

def readFrom : Option Begun → Bytes → List Char
  | none, [] => []
  | some _, [] => [replacement]
  | state, b :: bs =>
    let (read, next) := readByte state b
    read ++ readFrom next bs

def utf8 (bs : Bytes) : String := String.ofList (readFrom none bs)

end ContractHost.Text

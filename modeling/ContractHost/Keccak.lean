/-
  ContractHost.Keccak — the Keccak-256 digest.

  The sponge with blocks of 136 bytes over the permutation of 1600 bits. A message is
  filled up with one bit 1 (a byte `0x01`), zeros, and the top bit of the last byte of a
  block. Lane `(x, y)` of the state is at place `x + 5 * y`; a lane holds eight bytes, the
  lowest first.
-/

import ContractHost.Bytes

namespace ContractHost.Keccak

abbrev Lanes := Vector UInt64 25

def blockLength : Nat := 136

/-- The place of a lane, the coordinates taken modulo five. -/
def place (x y : Nat) : Fin 25 := ⟨x % 5 + 5 * (y % 5), by omega⟩

def rotateLeft (w : UInt64) (n : Nat) : UInt64 :=
  if n = 0 then w else (w <<< UInt64.ofNat n) ||| (w >>> UInt64.ofNat (64 - n))

/-- How far each lane turns, by its place. -/
def turns : Vector Nat 25 := #v[
  0, 1, 62, 28, 27,
  36, 44, 6, 55, 20,
  3, 10, 43, 25, 39,
  41, 45, 15, 21, 8,
  18, 2, 61, 56, 14]

def roundConstants : List UInt64 := [
  0x0000000000000001, 0x0000000000008082, 0x800000000000808A, 0x8000000080008000,
  0x000000000000808B, 0x0000000080000001, 0x8000000080008081, 0x8000000000008009,
  0x000000000000008A, 0x0000000000000088, 0x0000000080008009, 0x000000008000000A,
  0x000000008000808B, 0x800000000000008B, 0x8000000000008089, 0x8000000000008003,
  0x8000000000008002, 0x8000000000000080, 0x000000000000800A, 0x800000008000000A,
  0x8000000080008081, 0x8000000000008080, 0x0000000080000001, 0x8000000080008008]

/-- Each lane takes in the parities of two columns. -/
def theta (a : Lanes) : Lanes :=
  let column : Vector UInt64 5 := Vector.ofFn fun x =>
    a[place x 0] ^^^ a[place x 1] ^^^ a[place x 2] ^^^ a[place x 3] ^^^ a[place x 4]
  let spread : Vector UInt64 5 := Vector.ofFn fun x => column[Fin.ofNat 5 (x + 4)] ^^^ rotateLeft column[Fin.ofNat 5 (x + 1)] 1
  Vector.ofFn fun i => a[i] ^^^ spread[Fin.ofNat 5 i]

/-- Lanes turn and change places. -/
def rhoPi (a : Lanes) : Lanes :=
  Vector.ofFn fun i =>
    let x := i.val % 5
    let y := i.val / 5
    let source := place (x + 3 * y) x
    rotateLeft a[source] turns[source]

/-- Each lane takes in the next two of its row. -/
def chi (a : Lanes) : Lanes :=
  Vector.ofFn fun i =>
    let x := i.val % 5
    let y := i.val / 5
    a[i] ^^^ (~~~ a[place (x + 1) y] &&& a[place (x + 2) y])

def round (a : Lanes) (constant : UInt64) : Lanes :=
  let b := chi (rhoPi (theta a))
  b.set 0 (b[0] ^^^ constant)

def permute (a : Lanes) : Lanes := roundConstants.foldl round a

/-- The lane of the first eight bytes. -/
def laneOf (bs : Bytes) : UInt64 := (bs.take 8).foldr (fun b w => (w <<< 8) ||| b.toUInt64) 0

def bytesOf (w : UInt64) : Bytes := (List.range 8).map fun i => (w >>> UInt64.ofNat (8 * i)).toUInt8

/-- A block goes into the first seventeen lanes. -/
def absorb (a : Lanes) (block : Bytes) : Lanes :=
  permute (Vector.ofFn fun i => a[i] ^^^ laneOf ((block.take blockLength).drop (8 * i.val)))

/-- The message filled up to whole blocks. -/
def padded (message : Bytes) : Bytes :=
  let free := blockLength - message.length % blockLength
  if free = 1 then message ++ [0x81] else message ++ 0x01 :: List.replicate (free - 2) 0 ++ [0x80]

def absorbAll (a : Lanes) (bs : Bytes) : Lanes :=
  if bs = [] then a else absorbAll (absorb a bs) (bs.drop blockLength)
termination_by bs.length
decreasing_by
  rename_i h
  have := List.length_pos_iff.2 h
  simp only [List.length_drop, blockLength]
  omega

/-- The 32 bytes of the digest. -/
def digest (message : Bytes) : Bytes :=
  ((absorbAll (Vector.replicate 25 0) (padded message)).toList.take 4).flatMap bytesOf

theorem length_digest (message : Bytes) : (digest message).length = 32 := by
  have lane : ∀ w, (bytesOf w).length = 8 := fun w => by simp [bytesOf]
  simp [digest, List.length_flatMap, lane, List.map_const']

end ContractHost.Keccak

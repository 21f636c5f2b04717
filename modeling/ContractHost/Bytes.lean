/-
  ContractHost.Bytes — byte strings and their text forms.

  A byte string is written as `0x` and two lowercase digits a byte. It is read from any
  number of leading `0x` marks and an even number of digits of either case; what cannot be
  read is named by its place, counted in the bytes of the text after the marks.
  - `Hex.decode_encode`: reading the digits of a byte string gives it back.
-/

import ContractHost.Text.Quoted

namespace ContractHost

/-- Storage keys and values, code, call data: any bytes. -/
abbrev Bytes := List UInt8

/-- The UTF-8 bytes of a text. -/
def Bytes.ofText (s : String) : Bytes := s.toList.flatMap String.utf8EncodeChar

/-- The low eight bytes of `n`, the highest first. -/
def Bytes.bigEndian64 (n : Nat) : Bytes := (List.range 8).reverse.map fun i => UInt8.ofNat (n >>> (8 * i))

namespace Hex

def digit (n : Nat) : Char := if n < 10 then Char.ofNat (48 + n) else Char.ofNat (87 + n)

def value? (c : Char) : Option Nat :=
  if '0' ≤ c ∧ c ≤ '9' then some (c.toNat - 48)
  else if 'a' ≤ c ∧ c ≤ 'f' then some (c.toNat - 87)
  else if 'A' ≤ c ∧ c ≤ 'F' then some (c.toNat - 55)
  else none

def encode : Bytes → List Char
  | [] => []
  | b :: bs => digit (b.toNat / 16) :: digit (b.toNat % 16) :: encode bs

inductive Error where
  | oddLength
  /-- The byte of the text that is no digit, and its place. -/
  | badDigit (byte : UInt8) (place : Nat)
  deriving DecidableEq, Repr

def Error.message : Error → String
  | .oddLength => "Odd number of digits"
  | .badDigit byte place =>
    "Invalid character " ++ Text.quoted '\'' (String.ofList [Char.ofNat byte.toNat]) ++ s!" at position {place}"

/-- Two digits a byte; a character outside ASCII counts with all its bytes and is refused at the first. -/
def pairs (place : Nat) : List Char → Except Error Bytes
  | [] => .ok []
  | [c] => .error (.badDigit ((String.utf8EncodeChar c).headD 0) place)
  | hi :: lo :: rest =>
    match value? hi, value? lo with
    | none, _ => .error (.badDigit ((String.utf8EncodeChar hi).headD 0) place)
    | some _, none => .error (.badDigit ((String.utf8EncodeChar lo).headD 0) (place + 1))
    | some h, some l => (pairs (place + 2) rest).map (UInt8.ofNat (16 * h + l) :: ·)

def stripMarks : List Char → List Char
  | '0' :: 'x' :: rest => stripMarks rest
  | cs => cs

/-- The number of bytes of a text. -/
def byteLength : List Char → Nat
  | [] => 0
  | c :: cs => c.utf8Size + byteLength cs

def decode (cs : List Char) : Except Error Bytes :=
  let digits := stripMarks cs
  if byteLength digits % 2 = 1 then .error .oddLength else pairs 0 digits

theorem value?_digit {n : Nat} (h : n < 16) : value? (digit n) = some n := by
  have all : ∀ k : Fin 16, value? (digit k.val) = some k.val := by decide
  exact all ⟨n, h⟩

theorem utf8Size_digit {n : Nat} (h : n < 16) : (digit n).utf8Size = 1 := by
  have all : ∀ k : Fin 16, (digit k.val).utf8Size = 1 := by decide
  exact all ⟨n, h⟩

theorem digit_ne_x {n : Nat} (h : n < 16) : digit n ≠ 'x' := by
  have all : ∀ k : Fin 16, digit k.val ≠ 'x' := by decide
  exact all ⟨n, h⟩

theorem high_lt (b : UInt8) : b.toNat / 16 < 16 := by have := b.toNat_lt; omega

theorem low_lt (b : UInt8) : b.toNat % 16 < 16 := Nat.mod_lt _ (by decide)

theorem pairs_encode (bs : Bytes) (place : Nat) : pairs place (encode bs) = .ok bs := by
  induction bs generalizing place with
  | nil => rfl
  | cons b bs ih =>
    simp only [encode, pairs, value?_digit (high_lt b), value?_digit (low_lt b), ih, Except.map]
    rw [show 16 * (b.toNat / 16) + b.toNat % 16 = b.toNat by omega, UInt8.ofNat_toNat]

theorem byteLength_encode (bs : Bytes) : byteLength (encode bs) = 2 * bs.length := by
  induction bs with
  | nil => rfl
  | cons b bs ih =>
    simp only [encode, byteLength, utf8Size_digit (high_lt b), utf8Size_digit (low_lt b), ih, List.length_cons]
    omega

theorem stripMarks_encode (bs : Bytes) : stripMarks (encode bs) = encode bs := by
  cases bs with
  | nil => rfl
  | cons b bs =>
    unfold stripMarks
    split
    · rename_i h
      simp only [encode, List.cons.injEq] at h
      exact absurd h.2.1 (digit_ne_x (low_lt b))
    · rfl

theorem decode_encode (bs : Bytes) : decode (encode bs) = .ok bs := by
  simp only [decode, stripMarks_encode, byteLength_encode, pairs_encode]
  rw [if_neg (by omega)]

end Hex

/-- The one text form of a byte string. -/
def Bytes.text (b : Bytes) : String := String.ofList ('0' :: 'x' :: Hex.encode b)

/-- Up to eight bytes in full; of a longer string the first four and the length. -/
def Bytes.brief (b : Bytes) : String :=
  if b.length ≤ 8 then b.text else Bytes.text (b.take 4) ++ s!"..({b.length} bytes)"

def Bytes.ofText? (s : String) : Except Hex.Error Bytes := Hex.decode s.toList

theorem Bytes.ofText?_text (b : Bytes) : Bytes.ofText? b.text = .ok b := by
  have h := Hex.decode_encode b
  simp only [Hex.decode, Hex.stripMarks_encode] at h
  simpa [Bytes.ofText?, Bytes.text, Hex.decode, Hex.stripMarks, Hex.stripMarks_encode] using h

end ContractHost

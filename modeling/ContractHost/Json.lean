/-
  ContractHost.Json — JSON values and their compact text.

  A number keeps its sign, its whole part and whatever stands behind it as written, so an
  integer of any size is exact and any number is written back as it was read. A string is
  a text, or nothing where it holds half of a surrogate pair: that is well-formed JSON,
  but no text.

  Written text has no blanks; strings escape the quote, the backslash and the control
  characters, and leave everything else as it is. `write v k` is the text of `v` before `k`.
-/

namespace ContractHost

/-- A number: its sign, its whole part, and a fraction and exponent as written. -/
structure Numeral where
  negative : Bool
  whole : Nat
  tail : List Char
  deriving DecidableEq, Repr

inductive Json where
  | null
  | bool (b : Bool)
  | number (n : Numeral)
  | string (text : Option String)
  | array (items : List Json)
  | object (fields : List (Option String × Json))
  deriving Inhabited

def Numeral.write (n : Numeral) (k : List Char) : List Char :=
  let digits := Nat.toDigits 10 n.whole ++ (n.tail ++ k)
  if n.negative then '-' :: digits else digits

namespace Json

def text (s : String) : Json := .string (some s)

def natural (n : Nat) : Json := .number ⟨false, n, []⟩

/-- An object of named values in the given order. -/
def record (fields : List (String × Json)) : Json := .object (fields.map fun f => (some f.1, f.2))

/-- A character inside a string. -/
def escape (c : Char) : List Char :=
  if c = '"' then ['\\', '"']
  else if c = '\\' then ['\\', '\\']
  else if c = '\n' then ['\\', 'n']
  else if c = '\r' then ['\\', 'r']
  else if c = '\t' then ['\\', 't']
  else if c.toNat = 8 then ['\\', 'b']
  else if c.toNat = 12 then ['\\', 'f']
  else if c.toNat < 32 then
    ['\\', 'u', '0', '0', Nat.digitChar (c.toNat / 16), Nat.digitChar (c.toNat % 16)]
  else [c]

def writeChars : List Char → List Char → List Char
  | [], k => '"' :: k
  | c :: cs, k => escape c ++ writeChars cs k

/-- A string that is no text is written as the replacement character. -/
def writeText (s : Option String) (k : List Char) : List Char := '"' :: writeChars (s.getD "\ufffd").toList k

mutual

def write : Json → List Char → List Char
  | .null, k => 'n' :: 'u' :: 'l' :: 'l' :: k
  | .bool true, k => 't' :: 'r' :: 'u' :: 'e' :: k
  | .bool false, k => 'f' :: 'a' :: 'l' :: 's' :: 'e' :: k
  | .number n, k => n.write k
  | .string s, k => writeText s k
  | .array items, k => '[' :: writeItems items (']' :: k)
  | .object fields, k => '{' :: writeFields fields ('}' :: k)
termination_by structural j => j

def writeItems : List Json → List Char → List Char
  | [], k => k
  | [v], k => v.write k
  | v :: w :: vs, k => v.write (',' :: writeItems (w :: vs) k)
termination_by structural vs => vs

def writeFields : List (Option String × Json) → List Char → List Char
  | [], k => k
  | [(key, v)], k => writeText key (':' :: v.write k)
  | (key, v) :: f :: fs, k => writeText key (':' :: v.write (',' :: writeFields (f :: fs) k))
termination_by structural fs => fs

end

/-- The compact text. -/
def render (j : Json) : String := String.ofList (j.write [])

end Json

end ContractHost

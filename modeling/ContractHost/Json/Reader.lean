/-
  ContractHost.Json.Reader — reading JSON text, one character at a time.

  The text is one value with blanks around it: space, tab, line feed, carriage return. A
  reader stands between lexemes or inside one, knows what is due next, and keeps the
  containers that are still open, the innermost first. It refuses a character that cannot
  stand where it stands; numbers and words are judged when they end. Nothing limits how
  deep containers nest.
-/

import ContractHost.Bytes
import ContractHost.Json

namespace ContractHost

/-- `digits` without a leading zero, or a lone zero, then a fraction and an exponent. -/
def Numeral.ofChars? (cs : List Char) : Option Numeral :=
  let negative := cs.head? = some '-'
  let unsigned := if negative then cs.drop 1 else cs
  let digits := unsigned.takeWhile Char.isDigit
  let tail := unsigned.dropWhile Char.isDigit
  let afterFraction : Option (List Char) :=
    match tail with
    | '.' :: rest => if (rest.takeWhile Char.isDigit).isEmpty then none else some (rest.dropWhile Char.isDigit)
    | rest => some rest
  let ended : Bool :=
    match afterFraction with
    | none => false
    | some [] => true
    | some (e :: rest) =>
      let exponent := match rest with
        | '+' :: r => r
        | '-' :: r => r
        | r => r
      (e = 'e' ∨ e = 'E') ∧ !exponent.isEmpty ∧ exponent.all Char.isDigit
  if digits.isEmpty ∨ (digits.head? = some '0' ∧ digits ≠ ['0']) ∨ !ended then none
  else some ⟨negative, digits.foldl (fun n c => 10 * n + (c.toNat - 48)) 0, tail⟩

namespace Json

/-- Characters and escaped 16-bit units in order; two surrogates of a pair are one character. -/
def textOfUnits : List Nat → Option (List Char)
  | [] => some []
  | [u] => if 0xD800 ≤ u ∧ u < 0xE000 then none else some [Char.ofNat u]
  | u :: v :: rest =>
    if 0xD800 ≤ u ∧ u < 0xDC00 then
      if 0xDC00 ≤ v ∧ v < 0xE000 then
        (textOfUnits rest).map (Char.ofNat (0x10000 + (u - 0xD800) * 0x400 + (v - 0xDC00)) :: ·)
      else none
    else if 0xDC00 ≤ u ∧ u < 0xE000 then none
    else (textOfUnits (v :: rest)).map (Char.ofNat u :: ·)

/-- What has been read of the lexeme at hand, the latest first. -/
inductive Lexeme where
  | blank
  | word (read : List Char)
  | numeral (read : List Char)
  | text (units : List Nat)
  | escape (units : List Nat)
  /-- A `\u` escape with `left` digits to come. -/
  | code (units : List Nat) (left : Nat) (unit : Nat)

inductive Due where
  | value
  | valueOrClose
  | key
  | keyOrClose
  | colon
  | commaOrClose
  | nothing (read : Json)

/-- A container that is still open, its contents the latest first. -/
inductive Opened where
  | array (items : List Json)
  | object (fields : List (Option String × Json))
  /-- A key whose value is to come. -/
  | field (fields : List (Option String × Json)) (key : Option String)

structure Reader where
  lexeme : Lexeme
  due : Due
  opened : List Opened

namespace Reader

def start : Reader := ⟨.blank, .value, []⟩

/-- A whole value goes into the innermost container. -/
def put (v : Json) : List Opened → Option Reader
  | [] => some ⟨.blank, .nothing v, []⟩
  | .array items :: outer => some ⟨.blank, .commaOrClose, .array (v :: items) :: outer⟩
  | .field fields key :: outer => some ⟨.blank, .commaOrClose, .object ((key, v) :: fields) :: outer⟩
  | .object _ :: _ => none

def value (r : Reader) (v : Json) : Option Reader :=
  match r.due with
  | .value | .valueOrClose => put v r.opened
  | _ => none

def string (r : Reader) (s : Option String) : Option Reader :=
  match r.due, r.opened with
  | .key, .object fields :: outer | .keyOrClose, .object fields :: outer =>
    some ⟨.blank, .colon, .field fields s :: outer⟩
  | _, _ => r.value (.string s)

def mark (r : Reader) (c : Char) : Option Reader :=
  match c, r.due, r.opened with
  | '[', .value, opened | '[', .valueOrClose, opened => some ⟨.blank, .valueOrClose, .array [] :: opened⟩
  | '{', .value, opened | '{', .valueOrClose, opened => some ⟨.blank, .keyOrClose, .object [] :: opened⟩
  | ']', .valueOrClose, .array items :: outer | ']', .commaOrClose, .array items :: outer =>
    put (.array items.reverse) outer
  | '}', .keyOrClose, .object fields :: outer | '}', .commaOrClose, .object fields :: outer =>
    put (.object fields.reverse) outer
  | ',', .commaOrClose, .array items :: outer => some ⟨.blank, .value, .array items :: outer⟩
  | ',', .commaOrClose, .object fields :: outer => some ⟨.blank, .key, .object fields :: outer⟩
  | ':', .colon, opened => some ⟨.blank, .value, opened⟩
  | _, _, _ => none

def isBlank (c : Char) : Bool := c = ' ' ∨ c = '\t' ∨ c = '\n' ∨ c = '\r'

def inWord (c : Char) : Bool := 'a' ≤ c ∧ c ≤ 'z'

def inNumeral (c : Char) : Bool := c.isDigit ∨ c = '-' ∨ c = '+' ∨ c = '.' ∨ c = 'e' ∨ c = 'E'

/-- A character between lexemes. -/
def first (r : Reader) (c : Char) : Option Reader :=
  if isBlank c then some r
  else if c = '"' then some { r with lexeme := .text [] }
  else if c = '-' ∨ c.isDigit then some { r with lexeme := .numeral [c] }
  else if inWord c then some { r with lexeme := .word [c] }
  else r.mark c

/-- The end of a number or word. -/
def settle (r : Reader) : Option Reader :=
  match r.lexeme with
  | .blank => some r
  | .word read =>
    match read.reverse with
    | ['n', 'u', 'l', 'l'] => r.value .null
    | ['t', 'r', 'u', 'e'] => r.value (.bool true)
    | ['f', 'a', 'l', 's', 'e'] => r.value (.bool false)
    | _ => none
  | .numeral read => (Numeral.ofChars? read.reverse).bind fun n => r.value (.number n)
  | _ => none

def escaped? : Char → Option Nat
  | '"' => some 0x22
  | '\\' => some 0x5C
  | '/' => some 0x2F
  | 'b' => some 0x08
  | 'f' => some 0x0C
  | 'n' => some 0x0A
  | 'r' => some 0x0D
  | 't' => some 0x09
  | _ => none

def feed (r : Reader) (c : Char) : Option Reader :=
  match r.lexeme with
  | .blank => r.first c
  | .word read => if inWord c then some { r with lexeme := .word (c :: read) } else r.settle.bind (·.first c)
  | .numeral read =>
    if inNumeral c then some { r with lexeme := .numeral (c :: read) } else r.settle.bind (·.first c)
  | .text units =>
    if c = '"' then r.string ((textOfUnits units.reverse).map String.ofList)
    else if c = '\\' then some { r with lexeme := .escape units }
    else if c.toNat < 32 then none
    else some { r with lexeme := .text (c.toNat :: units) }
  | .escape units =>
    if c = 'u' then some { r with lexeme := .code units 3 0 }
    else (escaped? c).map fun u => { r with lexeme := .text (u :: units) }
  | .code units left unit =>
    (Hex.value? c).map fun d =>
      match left with
      | 0 => { r with lexeme := .text ((16 * unit + d) :: units) }
      | n + 1 => { r with lexeme := .code units n (16 * unit + d) }

def feedAll (r : Reader) : List Char → Option Reader
  | [] => some r
  | c :: cs =>
    match r.feed c with
    | some r' => feedAll r' cs
    | none => none

def finished? (r : Reader) : Option Json :=
  match r.due with
  | .nothing v => some v
  | _ => none

end Reader

/-- The value that the text is, if it is one. -/
def parse? (s : String) : Option Json :=
  ((Reader.start.feedAll s.toList).bind Reader.settle).bind Reader.finished?

end Json

end ContractHost

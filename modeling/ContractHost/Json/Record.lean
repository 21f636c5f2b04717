/-
  ContractHost.Json.Record — records, lists and maps in JSON values.

  A record is an object with its named fields, or an array of the fields in their declared
  order. Other fields of an object are ignored; a named one may stand once only, and every
  key has to be a text. `slots` finds the fields, or that there are none; what a missing
  field means is for the record to say.
-/

import ContractHost.Address
import ContractHost.Capped
import ContractHost.Json

namespace ContractHost.Json

def text? : Json → Option String
  | .string s => s
  | _ => none

def bool? : Json → Option Bool
  | .bool b => some b
  | _ => none

/-- A number written as an integer without a sign. -/
def natural? : Json → Option Nat
  | .number ⟨false, n, []⟩ => some n
  | _ => none

def items? : Json → Option (List Json)
  | .array items => some items
  | _ => none

/-- A list of `α`, every item readable. -/
def list? {α : Type} (read : Json → Option α) (j : Json) : Option (List α) := j.items?.bind (·.mapM read)

/-- `null` or an `α`. -/
def nullable? {α : Type} (read : Json → Option α) : Json → Option (Option α)
  | .null => some none
  | j => (read j).map some

def ofNullable {α : Type} (write : α → Json) : Option α → Json
  | none => .null
  | some a => write a

/-- One name out of a fixed choice: a string, or an object of that name and `null`. -/
def variant? : Json → Option String
  | .string s => s
  | .object [(key, .null)] => key
  | _ => none

/-- The one value of a field, none where the field is missing. -/
def field? (fields : List (Option String × Json)) (name : String) : Option (Option Json) :=
  match fields.filter (fun f => f.1 = some name) with
  | [] => some none
  | [(_, v)] => some (some v)
  | _ => none

def slots (names : List String) : Json → Option (List (Option Json))
  | .object fields => if fields.all (·.1.isSome) then names.mapM (field? fields) else none
  | .array items =>
    if items.length ≤ names.length then
      some (items.map some ++ List.replicate (names.length - items.length) none)
    else none
  | _ => none

/-- The fields of a record that needs all of them. -/
def fields? (names : List String) (j : Json) : Option (List Json) := (j.slots names).bind (·.mapM id)

/-- A slot whose field may be missing and then is `default`. -/
def slotOr {α : Type} (default : α) (read : Json → Option α) : Option Json → Option α
  | none => some default
  | some j => read j

/-- The entries of a map in the order of the text, keys and values read. -/
def entries? {κ α : Type} (key? : String → Option κ) (read : Json → Option α) : Json → Option (List (κ × α))
  | .object fields => fields.mapM fun f => do
    let name ← f.1
    let key ← key? name
    let v ← read f.2
    return (key, v)
  | _ => none

end ContractHost.Json

/-
  ContractHost.Text.Quoted — characters and names between quotes, for messages.

  The quote itself, the backslash and the characters that show nothing by themselves are
  escaped, the latter by their short name where they have one and as `\u` with the code in
  braces otherwise. Everything else stands as it is.
-/

import ContractHost.Text.Invisible

namespace ContractHost.Text

/-- The escape of a character by its code. -/
def coded (c : Char) : List Char :=
  ['\\', 'u', '\x7b'] ++ Nat.toDigits 16 c.toNat ++ ['\x7d']

def escaped (quote c : Char) : List Char :=
  if c = quote ∨ c = '\\' then ['\\', c]
  else if c = '\n' then ['\\', 'n']
  else if c = '\r' then ['\\', 'r']
  else if c = '\t' then ['\\', 't']
  else if c.toNat = 0 then ['\\', '0']
  else if isInvisible c then coded c
  else [c]

def quoted (quote : Char) (s : String) : String :=
  String.ofList (quote :: s.toList.flatMap (escaped quote) ++ [quote])

end ContractHost.Text

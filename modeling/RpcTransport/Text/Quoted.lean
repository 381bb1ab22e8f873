import RpcTransport.Text.Extender
import RpcTransport.Text.Invisible

/-!
# Quoted text

Diagnostic texts show a name between double quotes. A quote, a backslash and the five characters
with a short escape are written as such; any other character that would not show, or would attach
itself to its neighbour, is written as its code point in braces.
-/

namespace RpcTransport.Quoted

/-- Characters that do not show by themselves. -/
def isHidden (c : Char) : Bool :=
  Invisible.ranges.contains c.toNat || Extender.ranges.contains c.toNat

def hexDigits (n : Nat) : List Char := Nat.toDigits 16 n

def escape (c : Char) : List Char :=
  if c = '"' then ['\\', '"']
  else if c = '\\' then ['\\', '\\']
  else if c = '\n' then ['\\', 'n']
  else if c = '\r' then ['\\', 'r']
  else if c = '\t' then ['\\', 't']
  else if c.toNat = 0 then ['\\', '0']
  else if isHidden c then ['\\', 'u', '{'] ++ hexDigits c.toNat ++ ['}']
  else [c]

def quote (s : String) : String :=
  String.ofList ('"' :: s.toList.flatMap escape ++ ['"'])

end RpcTransport.Quoted

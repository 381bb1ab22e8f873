import RpcTransport.Binary64
import RpcTransport.TextMap

/-!
# Generic values

The value a request argument or a result carries: null, booleans, numbers, text, lists and objects.
A number is whole when it fits a signed or an unsigned 64-bit word, and otherwise a finite
floating-point number; the bounds are part of the type, so no backend has to handle a number it
cannot write. Objects keep their members sorted by key (`Value.Canonical`); every reader builds them
with `insertEntry`.
-/

namespace RpcTransport

inductive Number where
  | whole (n : Int) (lower : -0x8000000000000000 ≤ n) (upper : n < 0x10000000000000000)
  | float (x : Binary64) (finite : x.isFinite = true)
deriving DecidableEq

inductive Value where
  | null
  | bool (b : Bool)
  | number (n : Number)
  | string (s : String)
  | array (items : List Value)
  | object (members : List (String × Value))
deriving Inhabited

namespace Number

/-- A whole number, if it is within bounds. -/
def ofInt? (n : Int) : Option Number :=
  if h : -0x8000000000000000 ≤ n ∧ n < 0x10000000000000000 then some (.whole n h.1 h.2) else none

def ofUInt64 (n : UInt64) : Number :=
  .whole n.toNat (by omega) (by have := n.toNat_lt; omega)

def ofInt64 (n : Int64) : Number :=
  .whole n.toInt (by have := Int64.le_toInt n; omega) (by have := Int64.toInt_lt n; omega)

def ofFloat? (x : Binary64) : Option Number :=
  if h : x.isFinite = true then some (.float x h) else none

end Number

namespace Value

def isNull : Value → Bool
  | .null => true
  | _ => false

/-- A number that is not finite has no generic value and becomes null. -/
def ofFloat (x : Binary64) : Value :=
  match Number.ofFloat? x with
  | some n => .number n
  | none => .null

/-- The value of a member; nothing for other values and missing keys. -/
def member? (key : String) : Value → Option Value
  | .object members => members.lookup key
  | _ => none

def text? : Value → Option String
  | .string s => some s
  | _ => none

def whole? : Value → Option Int
  | .number (.whole n _ _) => some n
  | _ => none

mutual

/-- The number of containers around the innermost value. -/
def depth : Value → Nat
  | .array items => depthItems items + 1
  | .object members => depthMembers members + 1
  | _ => 0

def depthItems : List Value → Nat
  | [] => 0
  | v :: vs => max v.depth (depthItems vs)

def depthMembers : List (String × Value) → Nat
  | [] => 0
  | (_, v) :: vs => max v.depth (depthMembers vs)

end

mutual

/-- Every object inside has its members sorted by key, each key once. -/
def Canonical : Value → Prop
  | .array items => CanonicalItems items
  | .object members => SortedKeys members ∧ CanonicalMembers members
  | _ => True

def CanonicalItems : List Value → Prop
  | [] => True
  | v :: vs => v.Canonical ∧ CanonicalItems vs

def CanonicalMembers : List (String × Value) → Prop
  | [] => True
  | (_, v) :: vs => v.Canonical ∧ CanonicalMembers vs

end

mutual

/-- Every number inside is whole. -/
def Whole : Value → Prop
  | .number (.float _ _) => False
  | .array items => WholeItems items
  | .object members => WholeMembers members
  | _ => True

def WholeItems : List Value → Prop
  | [] => True
  | v :: vs => v.Whole ∧ WholeItems vs

def WholeMembers : List (String × Value) → Prop
  | [] => True
  | (_, v) :: vs => v.Whole ∧ WholeMembers vs

end

end Value

end RpcTransport

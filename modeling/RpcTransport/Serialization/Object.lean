import RpcTransport.Serialization.Format

/-!
# Typed objects

A caller's own type crosses as a generic value. Writing converts first and then writes the value;
reading takes the value and converts it, and a value of another shape has then been read.
-/

namespace RpcTransport

namespace Value

/-- A list of numbers, one for each octet. -/
def ofOctets (bs : Bytes) : Value := .array (bs.map fun b ↦ .number (.ofUInt64 b.toUInt64))

def wholeWithin? (lower upper : Int) (v : Value) : Option Int :=
  v.whole?.filter fun n ↦ lower ≤ n ∧ n ≤ upper

def int32? (v : Value) : Option Int := v.wholeWithin? (-0x80000000) (0x80000000 - 1)

def int64? (v : Value) : Option Int := v.wholeWithin? (-0x8000000000000000) (0x8000000000000000 - 1)

def listOf? {α : Type} (item : Value → Option α) : Value → Option (List α)
  | .array items => items.mapM item
  | _ => none

/-- A record of two fields: an object that has both members, or the list of just the two. -/
def pairOf? {α : Type} (first second : String) (item : Value → Option α) :
    Value → Option (α × α)
  | .object members => do
    let x ← item (← members.lookup first)
    let y ← item (← members.lookup second)
    return (x, y)
  | .array [x, y] => do return (← item x, ← item y)
  | _ => none

end Value

/-- The next value, converted. -/
def Format.readObject {α : Type} (f : Format) (convert : Value → Option α) : Reader α := do
  let v ← f.readValue
  match convert v with
  | some x => return x
  | none => throw (.typeMismatch "value of another shape")

end RpcTransport

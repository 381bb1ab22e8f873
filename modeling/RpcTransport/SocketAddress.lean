import RpcTransport.Bytes

/-!
# Socket addresses

The two textual forms of an address with a port: four decimal octets and a port, or eight groups of
hexadecimal digits in brackets and a port, where one run of zero groups may be left out, the last
two groups may be written as four octets and a scope may follow a percent sign.

An address is shown with its longest run of two or more zero groups left out, the first of the
longest, and with the octets of an embedded address written as octets.
-/

namespace RpcTransport

inductive SocketAddress where
  | v4 (octets : List Nat) (port : Nat)
  | v6 (groups : List Nat) (scope port : Nat)
deriving DecidableEq, Repr

namespace SocketAddress

/-! ## Reading -/

/-- A reader of the front of a text. -/
abbrev Scan (α : Type) := List Char → Option (α × List Char)

def digitValue? (base : Nat) (c : Char) : Option Nat :=
  let n := c.toNat
  let digit :=
    if 48 ≤ n ∧ n ≤ 57 then n - 48
    else if 97 ≤ n ∧ n ≤ 102 then n - 87
    else if 65 ≤ n ∧ n ≤ 70 then n - 55
    else base
  if digit < base then some digit else none

def isDigit (base : Nat) (c : Char) : Bool := (digitValue? base c).isSome

/-- A number of digits of a base, at most `bound`; `width` limits their count if it is given, and
leading zeros may be forbidden. -/
def numeral (base bound : Nat) (width : Option Nat) (zeros : Bool) : Scan Nat := fun cs ↦
  let digits := cs.takeWhile (isDigit base)
  let value := digits.foldl (fun acc c ↦ base * acc + (digitValue? base c).getD 0) 0
  if digits.isEmpty then none
  else if (width.map fun w ↦ decide (w < digits.length)).getD false then none
  else if !zeros && digits.head? == some '0' && 1 < digits.length then none
  else if bound < value then none
  else some (value, cs.drop digits.length)

def given (c : Char) : Scan Unit
  | d :: cs => if d = c then some ((), cs) else none
  | [] => none

def octet : Scan Nat := numeral 10 255 (some 3) false

/-- Four octets between dots. -/
def fourOctets : Scan (List Nat) := fun cs ↦ do
  let (a, cs) ← octet cs
  let (_, cs) ← given '.' cs
  let (b, cs) ← octet cs
  let (_, cs) ← given '.' cs
  let (c, cs) ← octet cs
  let (_, cs) ← given '.' cs
  let (d, cs) ← octet cs
  return ([a, b, c, d], cs)

/-- A group after its colon, which the first of a run does not have. -/
def separated {α : Type} (first : Bool) (p : Scan α) : Scan α := fun cs ↦
  if first then p cs else (given ':' cs).bind fun (_, cs) ↦ p cs

/-- The two groups of four octets. -/
def groupsOfOctets (octets : List Nat) : List Nat :=
  match octets with
  | [a, b, c, d] => [256 * a + b, 256 * c + d]
  | _ => []

/-- At most `limit` groups, the last two perhaps written as octets: the groups, whether they end in
octets, and the rest. -/
def groups (first : Bool) : (limit : Nat) → List Char → List Nat × Bool × List Char
  | 0, cs => ([], false, cs)
  | limit + 1, cs =>
    let embedded := if 1 ≤ limit then separated first fourOctets cs else none
    match embedded with
    | some (octets, cs) => (groupsOfOctets octets, true, cs)
    | none =>
      match separated first (numeral 16 65535 (some 4) true) cs with
      | none => ([], false, cs)
      | some (g, cs) =>
        let (gs, ended, cs) := groups false limit cs
        (g :: gs, ended, cs)

/-- Eight groups, a run of zeros perhaps left out. -/
def eightGroups : Scan (List Nat) := fun cs ↦
  let (front, ended, cs) := groups true 8 cs
  if front.length = 8 then some (front, cs)
  else if ended then none
  else do
    let (_, cs) ← given ':' cs
    let (_, cs) ← given ':' cs
    let (back, _, cs) := groups true (7 - front.length) cs
    return (front ++ List.replicate (8 - front.length - back.length) 0 ++ back, cs)

def portAfter : Scan Nat := fun cs ↦ do
  let (_, cs) ← given ':' cs
  numeral 10 65535 none true cs

def scopeAfter : Scan Nat := fun cs ↦ do
  let (_, cs) ← given '%' cs
  numeral 10 (0x100000000 - 1) none true cs

def v4Address : Scan SocketAddress := fun cs ↦ do
  let (octets, cs) ← fourOctets cs
  let (port, cs) ← portAfter cs
  return (.v4 octets port, cs)

def v6Address : Scan SocketAddress := fun cs ↦ do
  let (_, cs) ← given '[' cs
  let (gs, cs) ← eightGroups cs
  let (scope, cs) := (scopeAfter cs).getD (0, cs)
  let (_, cs) ← given ']' cs
  let (port, cs) ← portAfter cs
  return (.v6 gs scope port, cs)

def parse? (cs : List Char) : Option SocketAddress :=
  match (v4Address cs).orElse fun _ ↦ v6Address cs with
  | some (a, []) => some a
  | _ => none

/-! ## Showing -/

def hexText (n : Nat) : String := String.ofList (Nat.toDigits 16 n)

def octetsText (octets : List Nat) : String := ".".intercalate (octets.map toString)

def groupsText (gs : List Nat) : String := ":".intercalate (gs.map hexText)

/-- The first of the longest runs of zeros, as start and length. -/
def longestZeros (gs : List Nat) : Nat × Nat :=
  let runs := (List.range gs.length).map fun i ↦ (i, ((gs.drop i).takeWhile (· = 0)).length)
  runs.foldl (fun best run ↦ if best.2 < run.2 then run else best) (0, 0)

def v6Text (gs : List Nat) : String :=
  match gs with
  | [0, 0, 0, 0, 0, 65535, a, b] =>
    "::ffff:" ++ octetsText [a / 256, a % 256, b / 256, b % 256]
  | gs =>
    let (start, size) := longestZeros gs
    if 1 < size then groupsText (gs.take start) ++ "::" ++ groupsText (gs.drop (start + size))
    else groupsText gs

def display : SocketAddress → String
  | .v4 octets port => s!"{octetsText octets}:{port}"
  | .v6 gs scope port =>
    let scopeText := if scope = 0 then "" else s!"%{scope}"
    s!"[{v6Text gs}{scopeText}]:{port}"

end SocketAddress

end RpcTransport

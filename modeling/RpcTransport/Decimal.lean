import RpcTransport.Binary64

/-!
# Decimal text of floating-point numbers

## Writing

A finite number is written with the fewest significant digits that read back as the same pattern,
and of those the nearest to the number. The reals that round to a pattern form an interval around
it, closed exactly when the mantissa is even; on the grid of `k`-digit decimals only the two
neighbours of the number itself need be tried, since any grid point of the interval has one of them
between itself and the number.

How the digits are then laid out is a `Layout`: the exponents written positionally, and the forms
of the rest.

## Reading

`ofParts?` turns a decimal significand and a power of ten into a pattern: the significand is rounded
first, then multiplied or divided by the rounded power of ten. This is not always the nearest
pattern to the decimal, and it is the arithmetic that the JSON backend promises.
-/

namespace RpcTransport.Decimal

/-! ## Shortest digits -/

/-- An interval of positive rationals over a common denominator, around a value. -/
structure Interval where
  low : Nat
  value : Nat
  high : Nat
  den : Nat
  closed : Bool

/-- The reals that round to a finite, nonzero pattern. -/
def Interval.ofBinary64 (x : Binary64) : Interval :=
  let m := x.mantissa
  let atPower := x.fractionField == 0 && x.exponentField > 1
  let (s, den) :=
    if 0 ≤ x.exponent then (Nat.pow 2 x.exponent.toNat, 4)
    else (1, 4 * Nat.pow 2 (-x.exponent).toNat)
  { low := (4 * m - if atPower then 1 else 2) * s
    value := 4 * m * s
    high := (4 * m + 2) * s
    den := den
    closed := m % 2 == 0 }

def Interval.contains (i : Interval) (num den : Nat) : Bool :=
  if i.closed then i.low * den ≤ num * i.den && num * i.den ≤ i.high * den
  else i.low * den < num * i.den && num * i.den < i.high * den

/-- The exponent of the leading decimal digit of `num / den`. -/
def leadingExponent (num den : Nat) : Int :=
  let estimate : Int := ((num.log2 : Int) - den.log2) * 30103 / 100000 - 1
  let atLeast (e : Int) : Bool :=
    if 0 ≤ e then den * Nat.pow 10 e.toNat ≤ num
    else den ≤ num * Nat.pow 10 (-e).toNat
  let e := if atLeast (estimate + 1) then estimate + 1 else estimate
  let e := if atLeast (e + 1) then e + 1 else e
  if atLeast (e + 1) then e + 1 else e

/-- The better of the two neighbours of the value on the grid of step `10 ^ unit`. -/
def onGrid? (i : Interval) (unit : Int) : Option Nat :=
  let (n, d) := if 0 ≤ unit then (1, Nat.pow 10 unit.toNat) else (Nat.pow 10 (-unit).toNat, 1)
  let below := i.value * n / (i.den * d)
  let inside (k : Nat) : Bool := i.contains (k * d) n
  match inside below, inside (below + 1) with
  | false, false => none
  | true, false => some below
  | false, true => some (below + 1)
  | true, true =>
    let twice := 2 * (i.value * n % (i.den * d))
    if twice < i.den * d ∨ (twice = i.den * d ∧ below % 2 = 0) then some below else some (below + 1)

/-- Digits without trailing zeros, and the exponent of the last one. -/
def stripZeros : (fuel digits : Nat) → (unit : Int) → Nat × Int
  | 0, digits, unit => (digits, unit)
  | fuel + 1, digits, unit =>
    if digits ≠ 0 ∧ digits % 10 = 0 then stripZeros fuel (digits / 10) (unit + 1)
    else (digits, unit)

/-- Try `count` digits, then one more, and so on; seventeen always suffice. -/
def shortestFrom (i : Interval) (lead : Int) : (tries count : Nat) → Nat × Int
  | 0, _ => (0, 0)
  | tries + 1, count =>
    let unit := lead - count + 1
    match onGrid? i unit with
    | some digits => stripZeros 20 digits unit
    | none => shortestFrom i lead tries (count + 1)

/-- The shortest decimal `digits * 10 ^ unit` of a finite, nonzero pattern. -/
def shortest (x : Binary64) : Nat × Int :=
  let i := Interval.ofBinary64 x
  shortestFrom i (leadingExponent i.value i.den) 20 1

/-! ## Layout -/

/-- How digits and an exponent become text. -/
structure Layout where
  /-- The least exponent of the leading digit that is written positionally. -/
  positionalFrom : Int
  /-- The greatest one. -/
  positionalTo : Int
  /-- The text of a positive exponent's sign. -/
  plus : String

/-- Numbers from `0.00001` up to sixteen integer digits are written positionally and always with a
fraction; the others as one digit, a fraction if there is one, and a signed exponent. -/
def Layout.standard : Layout := ⟨-5, 15, "+"⟩

def zeros (n : Nat) : List Char := List.replicate n '0'

/-- Lay out `digits * 10 ^ unit`, where `digits` is not zero. -/
def Layout.render (l : Layout) (digits : Nat) (unit : Int) : List Char :=
  let ds := Nat.toDigits 10 digits
  let lead : Int := unit + ds.length - 1
  if l.positionalFrom ≤ lead ∧ lead ≤ l.positionalTo then
    if lead < 0 then ['0', '.'] ++ zeros (-lead - 1).toNat ++ ds
    else if 0 ≤ unit then ds ++ zeros unit.toNat ++ ['.', '0']
    else ds.take (lead + 1).toNat ++ ['.'] ++ ds.drop (lead + 1).toNat
  else
    let fraction := if ds.length = 1 then [] else '.' :: ds.drop 1
    let sign := if lead < 0 then ['-'] else l.plus.toList
    ds.take 1 ++ fraction ++ ['e'] ++ sign ++ Nat.toDigits 10 lead.natAbs

/-- The text of a finite pattern. -/
def text (x : Binary64) : List Char :=
  let sign := if x.isNegative then ['-'] else []
  if x.isZero then sign ++ ['0', '.', '0']
  else
    let (digits, unit) := shortest x
    sign ++ Layout.standard.render digits unit

/-! ## Reading -/

def powerOfTen (n : Nat) : Binary64 := Binary64.ofNat (Nat.pow 10 n)

/-- Divide by `10 ^ 308` until the exponent is within reach. The quotient is zero after a few
steps, which bounds the loop. -/
def shrink : (fuel : Nat) → Binary64 → (exponent : Nat) → Binary64
  | 0, _, _ => ⟨0⟩
  | fuel + 1, f, exponent =>
    if exponent ≤ 308 then f.div (powerOfTen exponent)
    else if f.isZero then f
    else shrink fuel (f.div (powerOfTen 308)) (exponent - 308)

/-- The magnitude of `significand * 10 ^ exponent`, unless it is too large for a finite pattern. -/
def ofParts? (significand : UInt64) (exponent : Int) : Option Binary64 :=
  let f := Binary64.ofNat significand.toNat
  if 0 ≤ exponent then
    if exponent ≤ 308 then some (f.mul (powerOfTen exponent.toNat)) |>.filter Binary64.isFinite
    else if f.isZero then some f
    else none
  else some (shrink 8 f (-exponent).toNat)

end RpcTransport.Decimal

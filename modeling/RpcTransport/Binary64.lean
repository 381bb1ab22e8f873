/-!
# Binary floating-point numbers

A number with a fraction is kept as its 64-bit pattern: one sign bit, eleven exponent bits, 52
fraction bits. All arithmetic on patterns is exact arithmetic on natural numbers followed by one
rounding, so it can be reasoned about, and equality of numbers is equality of patterns (`0.0` and
`-0.0` differ, which is what a format that keeps the sign of zero needs).

## Rounding

`ofRatio num den` is the pattern nearest to `num / den`, a tie going to the even fraction, and
infinity when the ratio is too large. The scale is chosen so that the rounded quotient has 53 bits,
or as many as the smallest exponent leaves.
-/

namespace RpcTransport

structure Binary64 where
  bits : UInt64
deriving DecidableEq, Repr, Inhabited

namespace Binary64

def isNegative (x : Binary64) : Bool := x.bits >>> 63 == 1

def exponentField (x : Binary64) : Nat := ((x.bits >>> 52) &&& 0x7ff).toNat

def fractionField (x : Binary64) : Nat := (x.bits &&& 0xfffffffffffff).toNat

/-- Neither infinite nor not-a-number. -/
def isFinite (x : Binary64) : Bool := x.exponentField != 0x7ff

def isZero (x : Binary64) : Bool := x.exponentField == 0 && x.fractionField == 0

/-- The magnitude of a finite pattern is `mantissa * 2 ^ exponent`. -/
def mantissa (x : Binary64) : Nat :=
  if x.exponentField = 0 then x.fractionField else x.fractionField + 0x10000000000000

def exponent (x : Binary64) : Int :=
  if x.exponentField = 0 then -1074 else (x.exponentField : Int) - 1075

def negate (x : Binary64) : Binary64 := ⟨x.bits ^^^ 0x8000000000000000⟩

def infinity : Binary64 := ⟨0x7ff0000000000000⟩

/-! ## Rounding -/

/-- `num / den` to the nearest integer, a tie going to the even one. -/
def roundDiv (num den : Nat) : Nat :=
  let q := num / den
  let twice := 2 * (num % den)
  if twice > den ∨ (twice = den ∧ q % 2 = 1) then q + 1 else q

/-- `num / den` divided by `2 ^ e`, as a ratio of natural numbers. -/
def scaleDown (num den : Nat) (e : Int) : Nat × Nat :=
  if 0 ≤ e then (num, den * Nat.pow 2 e.toNat) else (num * Nat.pow 2 (-e).toNat, den)

/-- Whether the ratio needs a larger exponent than `e` to fit in 53 bits. -/
def overflows (num den : Nat) (e : Int) : Bool :=
  let (n, d) := scaleDown num den e
  n / d ≥ 0x20000000000000

/-- The exponent at which the quotient has 53 bits, and at least the smallest. -/
def exponentOf (num den : Nat) : Int :=
  let guess : Int := (num.log2 : Int) - den.log2 - 53
  max (if overflows num den guess then guess + 1 else guess) (-1074)

/-- Put a rounded mantissa of at most `2 ^ 53` and its exponent into a pattern. -/
def assemble (m : Nat) (e : Int) : Binary64 :=
  let (m, e) := if m = 0x20000000000000 then (0x10000000000000, e + 1) else (m, e)
  if m < 0x10000000000000 then ⟨UInt64.ofNat m⟩
  else if e + 1075 ≥ 0x7ff then infinity
  else ⟨UInt64.ofNat ((e + 1075).toNat * 0x10000000000000 + (m - 0x10000000000000))⟩

/-- The nearest pattern to `num / den`; `den` is positive. -/
def ofRatio (num den : Nat) : Binary64 :=
  if num = 0 then ⟨0⟩
  else
    let e := exponentOf num den
    let (n, d) := scaleDown num den e
    assemble (roundDiv n d) e

def ofNat (n : Nat) : Binary64 := ofRatio n 1

/-- The nearest pattern to `m * 2 ^ e`. -/
def ofScaled (m : Nat) (e : Int) : Binary64 :=
  let (n, d) := scaleDown m 1 (-e)
  ofRatio n d

/-- The product of two magnitudes, rounded. -/
def mul (x y : Binary64) : Binary64 :=
  ofScaled (x.mantissa * y.mantissa) (x.exponent + y.exponent)

/-- The quotient of two magnitudes, rounded; the divisor is not zero. -/
def div (x y : Binary64) : Binary64 :=
  let (n, d) := scaleDown x.mantissa y.mantissa (y.exponent - x.exponent)
  ofRatio n d

/-! ## Narrower patterns -/

/-- Every 32-bit pattern has an equal 64-bit one: finite numbers keep their value, infinities and
not-a-numbers stay what they are. -/
def ofBinary32 (bits : UInt32) : Binary64 :=
  let sign : UInt64 := if bits >>> 31 == 1 then 0x8000000000000000 else 0
  let e := ((bits >>> 23) &&& 0xff).toNat
  let f := (bits &&& 0x7fffff).toNat
  let magnitude : Binary64 :=
    if e = 0xff then ⟨UInt64.ofNat (0x7ff * 0x10000000000000 + f * 0x20000000)⟩
    else if e = 0 then ofScaled f (-149)
    else ofScaled (f + 0x800000) ((e : Int) - 150)
  ⟨sign ||| magnitude.bits⟩

end Binary64

end RpcTransport

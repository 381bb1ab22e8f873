import RpcTransport.Decimal
import RpcTransport.Json.Fault
import RpcTransport.Text.Utf8
import RpcTransport.Value

/-!
# Reading JSON words, numbers and text

Each reader here starts after the octet that announced what follows, except `number`, which starts
at the first digit.

## Numbers

Digits are gathered into a significand as long as it fits 64 bits. A literal of digits alone is a
whole number if it fits a signed or an unsigned word; a fraction, an exponent, more digits or `-0`
make it a floating-point number, in which the digits that no longer fit count only through their
number.

## Text

Escapes are replaced while the octets are gathered, and the result is checked to be UTF-8 at the
closing quote. A four-digit escape of a leading surrogate must be followed by one of a trailing
surrogate.
-/

namespace RpcTransport.Json

def isSpace (b : UInt8) : Bool := b == 0x20 || b == 0x09 || b == 0x0a || b == 0x0d

def skipSpace (bs : Bytes) : Bytes := bs.dropWhile isSpace

def isDigit (b : UInt8) : Bool := 0x30 ≤ b && b ≤ 0x39

def startsWithDigit : Bytes → Bool
  | b :: _ => isDigit b
  | [] => false

/-- The rest of a word such as `true`. -/
def word : (expected : Bytes) → Bytes → Except Fault Bytes
  | [], rest => .ok rest
  | _ :: _, [] => .error .endOfInput
  | e :: expected, b :: rest =>
    if b = e then word expected rest else .error (.here .expectedIdent rest)

/-! ## Numbers -/

def significandBound : Nat := 0x10000000000000000 - 1

/-- Gather digits while the significand fits; also counts them. -/
def gather (significand : Nat) (count : Nat) : Bytes → Nat × Nat × Bytes
  | [] => (significand, count, [])
  | b :: rest =>
    let next := 10 * significand + (b.toNat - 48)
    if isDigit b ∧ next ≤ significandBound then gather next (count + 1) rest
    else (significand, count, b :: rest)

/-- Drop digits, counting them. -/
def dropDigits (count : Nat) : Bytes → Nat × Bytes
  | [] => (count, [])
  | b :: rest => if isDigit b then dropDigits (count + 1) rest else (count, b :: rest)

def signed (negative : Bool) (x : Binary64) : Binary64 := if negative then x.negate else x

/-- The number `± significand * 10 ^ exponent`, as floating point. -/
def scaled (negative : Bool) (significand : Nat) (exponent : Int) (rest : Bytes) :
    Except Fault (Number × Bytes) :=
  match (Decimal.ofParts? (UInt64.ofNat significand) exponent).bind fun x ↦
      Number.ofFloat? (signed negative x) with
  | some n => .ok (n, rest)
  | none => .error (.here .numberOutOfRange rest)

def exponentBound : Nat := 0x80000000 - 1

/-- Gather the digits of an exponent; `none` once it no longer fits, after the digit that broke
the bound. -/
def gatherExponent (exponent : Nat) : Bytes → Option Nat × Bytes
  | [] => (some exponent, [])
  | b :: rest =>
    if isDigit b then
      let next := 10 * exponent + (b.toNat - 48)
      if next ≤ exponentBound then gatherExponent next rest else (none, rest)
    else (some exponent, b :: rest)

/-- The digits of an exponent, its sign being known. -/
def exponentDigits (negative : Bool) (significand : Nat) (start : Int) (down : Bool) :
    Parser Number
  | [] => .error .endOfInput
  | b :: rest =>
    if isDigit b then
      match gatherExponent (b.toNat - 48) rest with
      | (some e, rest) => scaled negative significand (if down then start - e else start + e) rest
      | (none, rest) =>
        if significand ≠ 0 ∧ ¬ down then .error (.here .numberOutOfRange rest)
        else scaled negative 0 0 (dropDigits 0 rest).2
    else .error (.here .invalidNumber rest)

/-- What follows the letter of an exponent. -/
def exponentPart (negative : Bool) (significand : Nat) (start : Int) : Parser Number
  | 0x2b :: rest => exponentDigits negative significand start false rest
  | 0x2d :: rest => exponentDigits negative significand start true rest
  | rest => exponentDigits negative significand start false rest

def isExponentLetter (b : UInt8) : Bool := b == 0x65 || b == 0x45

/-- An exponent, if one comes next, or the end of the number. -/
def exponentOrEnd (negative : Bool) (significand : Nat) (exponent : Int) : Parser Number
  | [] => scaled negative significand exponent []
  | b :: rest =>
    if isExponentLetter b then exponentPart negative significand exponent rest
    else scaled negative significand exponent (b :: rest)

/-- What follows the point of a fraction. -/
def fractionPart (negative : Bool) (significand : Nat) (exponent : Int) : Parser Number := fun bs ↦
  let (significand, count, rest) := gather significand 0 bs
  if startsWithDigit rest then
    exponentOrEnd negative significand (exponent - count) (dropDigits 0 rest).2
  else if count = 0 then
    if rest.isEmpty then .error .endOfInput else .error (.next .invalidNumber rest)
  else exponentOrEnd negative significand (exponent - count) rest

/-- A number of digits alone. -/
def ofDigits (negative : Bool) (significand : Nat) : Option Number :=
  if negative ∧ significand = 0 then Number.ofFloat? (Binary64.negate ⟨0⟩)
  else
    match Number.ofInt? (if negative then -(significand : Int) else significand) with
    | some n => some n
    | none => Number.ofFloat? (signed negative (Binary64.ofNat significand))

/-- What follows the integer digits. -/
def afterDigits (negative : Bool) (significand : Nat) : Parser Number
  | 0x2e :: rest => fractionPart negative significand 0 rest
  | rest =>
    match rest with
    | b :: more =>
      if isExponentLetter b then exponentPart negative significand 0 more
      else wholeEnd (b :: more)
    | [] => wholeEnd []
where
  wholeEnd (rest : Bytes) : Except Fault (Number × Bytes) :=
    match ofDigits negative significand with
    | some n => .ok (n, rest)
    | none => .error (.here .numberOutOfRange rest)

/-- The digits of an integer part too long for the significand. -/
def longInteger (negative : Bool) (significand : Nat) : Parser Number := fun bs ↦
  match dropDigits 0 bs with
  | (count, 0x2e :: rest) => fractionPart negative significand count rest
  | (count, rest) => exponentOrEnd negative significand count rest

/-- A number, its sign already read. -/
def number (negative : Bool) : Parser Number
  | [] => .error .endOfInput
  | b :: rest =>
    if b = 0x30 then
      if startsWithDigit rest then .error (.next .invalidNumber rest)
      else afterDigits negative 0 rest
    else if isDigit b then
      let (significand, _, rest) := gather (b.toNat - 48) 1 rest
      if startsWithDigit rest then longInteger negative significand rest
      else afterDigits negative significand rest
    else .error (.here .invalidNumber rest)

/-! ## Text -/

def hexValue? (b : UInt8) : Option Nat :=
  let n := b.toNat
  if 48 ≤ n ∧ n ≤ 57 then some (n - 48)
  else if 97 ≤ n ∧ n ≤ 102 then some (n - 87)
  else if 65 ≤ n ∧ n ≤ 70 then some (n - 55)
  else none

/-- Four hexadecimal digits. Fewer than four octets are an early end, whatever they are. -/
def fourDigits : Parser Nat
  | a :: b :: c :: d :: rest =>
    match hexValue? a, hexValue? b, hexValue? c, hexValue? d with
    | some a, some b, some c, some d => .ok (((a * 16 + b) * 16 + c) * 16 + d, rest)
    | _, _, _, _ => .error (.here .invalidEscape rest)
  | _ => .error .endOfInput

def codePoint (n : Nat) : Bytes := utf8 (String.singleton (Char.ofNat n))

def isLeading (n : Nat) : Bool := 0xd800 ≤ n && n ≤ 0xdbff

def isTrailing (n : Nat) : Bool := 0xdc00 ≤ n && n ≤ 0xdfff

/-- The octet `expected` must come next. -/
def demand (expected : UInt8) : Bytes → Except Fault Bytes
  | [] => .error .endOfInput
  | b :: rest => if b = expected then .ok rest else .error (.here .endOfEscape rest)

def unicodeEscape : Parser Bytes := fun bs ↦ do
  let (n, rest) ← fourDigits bs
  if isTrailing n then throw (.here .loneSurrogate rest)
  else if isLeading n then
    let rest ← demand 0x5c rest
    let rest ← demand 0x75 rest
    let (m, rest) ← fourDigits rest
    if isTrailing m then
      return (codePoint ((n - 0xd800) * 0x400 + (m - 0xdc00) + 0x10000), rest)
    else throw (.here .loneSurrogate rest)
  else return (codePoint n, rest)

/-- The octet a one-letter escape stands for. -/
def shortEscape? (b : UInt8) : Option UInt8 :=
  if b = 0x22 ∨ b = 0x5c ∨ b = 0x2f then some b
  else if b = 0x62 then some 0x08
  else if b = 0x66 then some 0x0c
  else if b = 0x6e then some 0x0a
  else if b = 0x72 then some 0x0d
  else if b = 0x74 then some 0x09
  else none

/-- What follows a backslash. -/
def unescape : Parser Bytes
  | [] => .error .endOfInput
  | b :: rest =>
    if b = 0x75 then unicodeEscape rest
    else
      match shortEscape? b with
      | some c => .ok ([c], rest)
      | none => .error (.here .invalidEscape rest)

/-- The octets up to the closing quote, escapes replaced. The fuel is a bound on the octets left;
each step takes at least one. -/
def quotedOctets : (fuel : Nat) → (done : Bytes) → Parser Bytes
  | 0, _, _ => .error .endOfInput
  | _ + 1, _, [] => .error .endOfInput
  | fuel + 1, done, b :: rest =>
    if b = 0x22 then .ok (done.reverse, rest)
    else if b = 0x5c then
      match unescape rest with
      | .error e => .error e
      | .ok (octets, rest) => quotedOctets fuel (octets.reverse ++ done) rest
    else if b < 0x20 then .error (.here .controlCharacter rest)
    else quotedOctets fuel (b :: done) rest

/-- A text, its opening quote already read. -/
def quotedText (fuel : Nat) : Parser String := fun bs ↦
  match quotedOctets fuel [] bs with
  | .error e => .error e
  | .ok (octets, rest) =>
    match ofUtf8? octets with
    | some s => .ok (s, rest)
    | none => .error (.here .invalidCodePoint rest)

end RpcTransport.Json

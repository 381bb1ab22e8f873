import RpcTransport.Json.Scalar

/-!
# Passing over a JSON value

A member nobody asked for is passed over without building its value. The open brackets are kept on
an explicit stack, so nesting is not limited; numbers and escapes are checked for their form only,
text is not checked to be UTF-8, and a number that stops too early counts as malformed, since
nothing is left to be read of it.
-/

namespace RpcTransport.Json

/-! ## Scalars -/

def skipDigits (bs : Bytes) : Bytes := bs.dropWhile isDigit

/-- What follows the letter of an exponent: a sign if there is one, and digits. -/
def skipExponent (bs : Bytes) : Except Fault Bytes :=
  let digits :=
    match bs with
    | 0x2b :: rest => rest
    | 0x2d :: rest => rest
    | rest => rest
  if startsWithDigit digits then .ok (skipDigits digits)
  else .error (.next .invalidNumber digits)

def skipExponentOrEnd : Bytes → Except Fault Bytes
  | [] => .ok []
  | b :: rest => if isExponentLetter b then skipExponent rest else .ok (b :: rest)

/-- A fraction or an exponent, if one comes next. -/
def skipFraction : Bytes → Except Fault Bytes
  | 0x2e :: rest =>
    if startsWithDigit rest then skipExponentOrEnd (skipDigits rest)
    else .error (.next .invalidNumber rest)
  | rest => skipExponentOrEnd rest

/-- A number after its sign. -/
def skipNumber : Bytes → Except Fault Bytes
  | [] => .error (.next .invalidNumber [])
  | b :: rest =>
    if b = 0x30 then
      if startsWithDigit rest then .error (.next .invalidNumber rest) else skipFraction rest
    else if isDigit b then skipFraction (skipDigits rest)
    else .error (.here .invalidNumber rest)

/-- What follows a backslash. -/
def skipEscape : Bytes → Except Fault Bytes
  | [] => .error .endOfInput
  | b :: rest =>
    if b = 0x75 then (fourDigits rest).map Prod.snd
    else if (shortEscape? b).isSome then .ok rest
    else .error (.here .invalidEscape rest)

/-- The rest of a text, through its closing quote. -/
def skipText : (fuel : Nat) → Bytes → Except Fault Bytes
  | 0, _ => .error .endOfInput
  | _ + 1, [] => .error .endOfInput
  | fuel + 1, b :: rest =>
    if b = 0x22 then .ok rest
    else if b = 0x5c then
      match skipEscape rest with
      | .error e => .error e
      | .ok rest => skipText fuel rest
    else if b < 0x20 then .error (.here .controlCharacter rest)
    else skipText fuel rest

/-- A value that is no container, its first octet given apart. -/
def skipScalar (fuel : Nat) (b : UInt8) (rest : Bytes) : Except Fault Bytes :=
  if b = 0x6e then word (Bytes.ofAscii "ull") rest
  else if b = 0x74 then word (Bytes.ofAscii "rue") rest
  else if b = 0x66 then word (Bytes.ofAscii "alse") rest
  else if b = 0x2d then skipNumber rest
  else if isDigit b then skipNumber (b :: rest)
  else if b = 0x22 then skipText fuel rest
  else .error (.next .expectedValue (b :: rest))

/-! ## Containers -/

inductive Bracket where
  | list
  | object
deriving DecidableEq, Repr

def Bracket.closing : Bracket → UInt8
  | .list => 0x5d
  | .object => 0x7d

def Bracket.unended : Bracket → Malformed
  | .list => .expectedListEnd
  | .object => .expectedObjectEnd

/-- The key of a member and the colon after it. -/
def skipKey (fuel : Nat) (bs : Bytes) : Except Fault Bytes :=
  match skipSpace bs with
  | [] => .error .endOfInput
  | b :: rest =>
    if b = 0x22 then
      match skipText fuel rest with
      | .error e => .error e
      | .ok rest =>
        match skipSpace rest with
        | [] => .error .endOfInput
        | c :: rest =>
          if c = 0x3a then .ok rest else .error (.next .expectedColon (c :: rest))
    else .error (.next .keyMustBeString (b :: rest))

/-- What may come next while a value is passed over. -/
inductive Passing where
  /-- A value must come. -/
  | value
  /-- A bracket was just opened: an item or its closing bracket. -/
  | opened
  /-- An item of the innermost bracket has ended: a comma or the closing bracket. -/
  | ended
deriving DecidableEq, Repr

/-- Pass over octets until every bracket of `enclosing` is closed. The fuel bounds the steps; two
steps take at least one octet. -/
def passOver (textFuel : Nat) : (fuel : Nat) → Passing → (enclosing : List Bracket) → Bytes →
    Except Fault Bytes
  | 0, _, _, _ => .error .endOfInput
  | fuel + 1, state, enclosing, bs =>
    match state, enclosing with
    | .value, enclosing =>
      match skipSpace bs with
      | [] => .error .endOfInput
      | b :: rest =>
        if b = 0x5b then passOver textFuel fuel .opened (.list :: enclosing) rest
        else if b = 0x7b then passOver textFuel fuel .opened (.object :: enclosing) rest
        else
          match skipScalar textFuel b rest with
          | .error e => .error e
          | .ok rest => passOver textFuel fuel .ended enclosing rest
    | _, [] => .ok bs
    | state, bracket :: outer =>
      match skipSpace bs with
      | [] => .error .endOfInput
      | b :: rest =>
        if b = bracket.closing then passOver textFuel fuel .ended outer rest
        else if state = .ended ∧ b ≠ 0x2c then .error (.next bracket.unended (b :: rest))
        else
          let item := if state = .ended then rest else b :: rest
          match bracket with
          | .list => passOver textFuel fuel .value (.list :: outer) item
          | .object =>
            match skipKey textFuel item with
            | .error e => .error e
            | .ok rest => passOver textFuel fuel .value (.object :: outer) rest

/-- Pass over one value. -/
def skipValue (bs : Bytes) : Except Fault Bytes :=
  passOver (bs.length + 1) (2 * bs.length + 2) .value [] bs

end RpcTransport.Json

import RpcTransport.Json.Skip
import RpcTransport.Serialization.Error

/-!
# Reading JSON documents

A reader of a type decides as soon as an octet shows that the document is of another type. Members
and elements are read by two loops that take the reader of one item, so that nesting is the only
recursion: `value fuel depth` reads a value with at most `depth` brackets open around its innermost
item, and refuses a bracket beyond that where it stands.

The fuel of the loops is the length of the input. It is passed down unchanged, since each round of a
loop takes at least one octet.
-/

namespace RpcTransport.Json

/-! ## Loops over items -/

/-- What comes next inside a bracket, with the input behind it. -/
inductive Next where
  | item (rest : Bytes)
  | closed (rest : Bytes)
deriving DecidableEq, Repr

/-- What comes after the opening bracket of a list, or after an element. -/
def nextElement (first : Bool) (bs : Bytes) : Except Fault Next :=
  match skipSpace bs with
  | [] => .error .endOfInput
  | b :: rest =>
    if b = 0x5d then .ok (.closed rest)
    else if first then .ok (.item (b :: rest))
    else if b = 0x2c then
      match skipSpace rest with
      | [] => .error .endOfInput
      | c :: more =>
        if c = 0x5d then .error (.next .trailingComma (c :: more))
        else .ok (.item (c :: more))
    else .error (.next .expectedListEnd (b :: rest))

/-- The same for an object. A member starts with the quote of its key, which is taken. -/
def nextMember (first : Bool) (bs : Bytes) : Except Fault Next :=
  match skipSpace bs with
  | [] => .error .endOfInput
  | b :: rest =>
    if b = 0x7d then .ok (.closed rest)
    else if first then
      if b = 0x22 then .ok (.item rest) else .error (.next .keyMustBeString (b :: rest))
    else if b = 0x2c then
      match skipSpace rest with
      | [] => .error .endOfInput
      | c :: more =>
        if c = 0x22 then .ok (.item more)
        else if c = 0x7d then .error (.next .trailingComma (c :: more))
        else .error (.next .keyMustBeString (c :: more))
    else .error (.next .expectedObjectEnd (b :: rest))

def colon (bs : Bytes) : Except Fault Bytes :=
  match skipSpace bs with
  | [] => .error .endOfInput
  | b :: rest => if b = 0x3a then .ok rest else .error (.next .expectedColon (b :: rest))

/-- The elements of a list, collected in reverse. -/
def elements {α : Type} (item : Parser α) : (fuel : Nat) → (first : Bool) → (done : List α) →
    Parser (List α)
  | 0, _, _, _ => .error .endOfInput
  | fuel + 1, first, done, bs =>
    match nextElement first bs with
    | .error e => .error e
    | .ok (.closed rest) => .ok (done.reverse, rest)
    | .ok (.item rest) =>
      match item rest with
      | .error e => .error e
      | .ok (x, rest) => elements item fuel false (x :: done) rest

/-- The members of an object: `step` gets a key and what is known so far and starts at the colon. -/
def members {γ : Type} (textFuel : Nat) (step : String → γ → Parser γ) :
    (fuel : Nat) → (first : Bool) → γ → Parser γ
  | 0, _, _, _ => .error .endOfInput
  | fuel + 1, first, known, bs =>
    match nextMember first bs with
    | .error e => .error e
    | .ok (.closed rest) => .ok (known, rest)
    | .ok (.item rest) =>
      match quotedText textFuel rest with
      | .error e => .error e
      | .ok (key, rest) =>
        match step key known rest with
        | .error e => .error e
        | .ok (known, rest) => members textFuel step fuel false known rest

/-! ## Generic values -/

def addMember (item : Parser Value) (key : String) (known : List (String × Value)) :
    Parser (List (String × Value)) := fun bs ↦ do
  let (v, rest) ← item (← colon bs)
  return (insertEntry key v known, rest)

/-- A container, if the reader of its items is given. -/
def container (fuel : Nat) (nested : Option (Parser Value)) (object : Bool) :
    Parser Value := fun bs ↦
  match nested with
  | none => .error (.next .tooDeep bs)
  | some item =>
    if object then
      (members fuel (addMember item) fuel true [] bs.tail).map fun (ms, rest) ↦ (.object ms, rest)
    else
      (elements item fuel true [] bs.tail).map fun (vs, rest) ↦ (.array vs, rest)

/-- A value whose items, if it is a container, are read by `nested`. -/
def valueWith (fuel : Nat) (nested : Option (Parser Value)) : Parser Value := fun bs ↦
  match skipSpace bs with
  | [] => .error .endOfInput
  | b :: rest =>
    if b = 0x6e then (word (Bytes.ofAscii "ull") rest).map fun rest ↦ (.null, rest)
    else if b = 0x74 then (word (Bytes.ofAscii "rue") rest).map fun rest ↦ (.bool true, rest)
    else if b = 0x66 then (word (Bytes.ofAscii "alse") rest).map fun rest ↦ (.bool false, rest)
    else if b = 0x2d then (number true rest).map fun (n, rest) ↦ (.number n, rest)
    else if isDigit b then (number false (b :: rest)).map fun (n, rest) ↦ (.number n, rest)
    else if b = 0x22 then (quotedText fuel rest).map fun (s, rest) ↦ (.string s, rest)
    else if b = 0x5b then container fuel nested false (b :: rest)
    else if b = 0x7b then container fuel nested true (b :: rest)
    else .error (.next .expectedValue (b :: rest))

/-- A value with at most `depth` containers around its innermost item. -/
def value (fuel : Nat) : (depth : Nat) → Parser Value
  | 0 => valueWith fuel none
  | depth + 1 => valueWith fuel (some (value fuel depth))

/-- How deep a document may nest. -/
def depthLimit : Nat := 127

/-! ## Documents of a known type -/

/-- The fault of a document that is of another type than the wanted one. Scalars are read to their
end first, and a fault found there comes before the mismatch. -/
def wrongType {α : Type} (fuel : Nat) (wanted : String) (b : UInt8) (rest : Bytes) :
    Except Fault α :=
  let mismatch (found : String) : Except Fault α :=
    .error (.mismatch s!"invalid type: {found}, expected {wanted}")
  if b = 0x5b then mismatch "sequence"
  else if b = 0x7b then mismatch "map"
  else
    match valueWith fuel none (b :: rest) with
    | .error e => .error e
    | .ok (.null, _) => mismatch "null"
    | .ok (.bool _, _) => mismatch "boolean"
    | .ok (.number _, _) => mismatch "number"
    | .ok (_, _) => mismatch "string"

/-- A whole number within bounds. -/
def wholeWithin (fuel : Nat) (wanted : String) (lower upper : Int) : Parser Int := fun bs ↦
  match skipSpace bs with
  | [] => .error .endOfInput
  | b :: rest =>
    if b = 0x2d ∨ isDigit b then
      match valueWith fuel none (b :: rest) with
      | .error e => .error e
      | .ok (v, rest) =>
        match v.whole? with
        | some n =>
          if lower ≤ n ∧ n ≤ upper then .ok (n, rest)
          else .error (.mismatch s!"invalid value: integer, expected {wanted}")
        | none => .error (.mismatch s!"invalid type: floating point, expected {wanted}")
    else wrongType fuel wanted b rest

def textDocument (fuel : Nat) : Parser String := fun bs ↦
  match skipSpace bs with
  | [] => .error .endOfInput
  | b :: rest =>
    if b = 0x22 then quotedText fuel rest else wrongType fuel "a string" b rest

def addTextEntry (fuel : Nat) (key : String) (known : TextMap) : Parser TextMap := fun bs ↦ do
  let (s, rest) ← textDocument fuel (← colon bs)
  return (known.insert key s, rest)

/-- An object whose members are all texts. -/
def textMapDocument (fuel : Nat) : Parser TextMap := fun bs ↦
  match skipSpace bs with
  | [] => .error .endOfInput
  | b :: rest =>
    if b = 0x7b then members fuel (addTextEntry fuel) fuel true TextMap.empty rest
    else wrongType fuel "a map" b rest

/-! ## Remote errors -/

/-- A field may come once; members of other names are passed over. -/
def addErrorField (fuel : Nat) (key : String) (known : ErrorFields) : Parser ErrorFields :=
  fun bs ↦
    if key = "kind" then
      if known.kind.isSome then .error (.mismatch "duplicate field `kind`")
      else do
        let (s, rest) ← textDocument fuel (← colon bs)
        return ({ known with kind := some s }, rest)
    else if key = "message" then
      if known.message.isSome then .error (.mismatch "duplicate field `message`")
      else do
        let (s, rest) ← textDocument fuel (← colon bs)
        return ({ known with message := some s }, rest)
    else do
      let rest ← skipValue (← colon bs)
      return (known, rest)

/-- The next element of a list that must have more elements. -/
def requiredText (fuel : Nat) (first : Bool) : Parser String := fun bs ↦
  match nextElement first bs with
  | .error e => .error e
  | .ok (.closed _) =>
    .error (.mismatch "invalid length, expected struct RemoteError with 2 elements")
  | .ok (.item rest) => textDocument fuel rest

/-- The end of a list that has all its elements. -/
def listEnd (bs : Bytes) : Except Fault Bytes :=
  match skipSpace bs with
  | [] => .error .endOfInput
  | b :: rest =>
    if b = 0x5d then .ok rest
    else if b = 0x2c then
      match skipSpace rest with
      | c :: more =>
        .error (.next (if c = 0x5d then .trailingComma else .trailingCharacters) (c :: more))
      | [] => .error (.next .trailingCharacters [])
    else .error (.next .trailingCharacters (b :: rest))

/-- An error as an object or as the list of its two fields. -/
def remoteErrorDocument (fuel : Nat) : Parser RemoteError := fun bs ↦
  match skipSpace bs with
  | [] => .error .endOfInput
  | b :: rest =>
    if b = 0x7b then do
      let (fields, rest) ← members fuel (addErrorField fuel) fuel true .none rest
      return (← fields.complete.mapError .mismatch, rest)
    else if b = 0x5b then do
      let (kind, rest) ← requiredText fuel true rest
      let (message, rest) ← requiredText fuel false rest
      return (⟨kind, message⟩, ← listEnd rest)
    else wrongType fuel "struct RemoteError" b rest

/-! ## Documents in a row -/

/-- Whether a document that starts so shows its own end. -/
def isDelimited (b : UInt8) : Bool := b == 0x5b || b == 0x22 || b == 0x7b

/-- Octets that may follow a document without an end of its own. -/
def endsDocument (b : UInt8) : Bool :=
  isSpace b || b == 0x22 || b == 0x5b || b == 0x5d || b == 0x7b || b == 0x7d || b == 0x2c ||
    b == 0x3a

/-- The next document; what follows it must not run on from it. -/
def nextDocument {α : Type} (p : Parser α) : Parser α := fun bs ↦
  match skipSpace bs with
  | [] => .error .endOfInput
  | b :: more =>
    match p (b :: more) with
    | .error e => .error e
    | .ok (x, []) => .ok (x, [])
    | .ok (x, c :: rest) =>
      if isDelimited b ∨ endsDocument c then .ok (x, c :: rest)
      else .error (.next .trailingCharacters (c :: rest))

end RpcTransport.Json

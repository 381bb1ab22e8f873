import RpcTransport.Decimal
import RpcTransport.MessagePack.Marker
import RpcTransport.Serialization.Error
import RpcTransport.Text.Utf8
import RpcTransport.Value

/-!
# Reading MessagePack

Reading is in two steps: `head` takes a marker with the number or the size that belongs to it, and
the readers of the types go on from there. Input that stops early is the end of the stream wherever
it stops; a head of another class is a type mismatch, mostly found after the head was read whole.

Arrays and maps carry their sizes, so their loops count down; the depth of nesting bounds the
recursion of `value`.
-/

namespace RpcTransport.MessagePack

/-- A reader consumes octets from the front and returns the rest. -/
abbrev Parser (α : Type) := Bytes → Except SerializationError (α × Bytes)

/-! ## Heads -/

/-- What a marker announces, with its operand. -/
inductive Head where
  | null
  | reserved
  | bool (b : Bool)
  | unsigned (n : UInt64)
  | signed (n : Int64)
  | float (x : Binary64)
  | text (size : Nat)
  | octets (size : Nat)
  | array (size : Nat)
  | map (size : Nat)
  | extension (size : Nat)
deriving DecidableEq

/-- The next `n` octets. -/
def take (n : Nat) : Parser Bytes := fun bs ↦
  match Bytes.splitAt? n bs with
  | some (front, rest) => .ok (front, rest)
  | none => .error .endOfStream

/-- A word of `width` octets. -/
def word (width : Nat) : Parser Nat := fun bs ↦
  match take width bs with
  | .ok (front, rest) => .ok (Bytes.ofBigEndian front, rest)
  | .error e => .error e

/-- The number a word stands for when its highest bit counts negatively. -/
def complement (width n : Nat) : Int :=
  if n < Nat.pow 2 (8 * width - 1) then n else (n : Int) - Nat.pow 2 (8 * width)

def floatOfWord (width n : Nat) : Binary64 :=
  if width = 4 then Binary64.ofBinary32 (UInt32.ofNat n) else ⟨UInt64.ofNat n⟩

def size : Extent → Parser Nat
  | .inline n => fun bs ↦ .ok (n, bs)
  | .counted width => word width

/-- The operand of a marker. -/
def operand : Marker → Parser Head
  | .null => fun bs ↦ .ok (.null, bs)
  | .reserved => fun bs ↦ .ok (.reserved, bs)
  | .bool b => fun bs ↦ .ok (.bool b, bs)
  | .positive n => fun bs ↦ .ok (.unsigned (UInt64.ofNat n), bs)
  | .negative n => fun bs ↦ .ok (.signed (Int64.ofInt (-n)), bs)
  | .unsigned width => fun bs ↦
    (word width bs).map fun (n, rest) ↦ (.unsigned (UInt64.ofNat n), rest)
  | .signed width => fun bs ↦
    (word width bs).map fun (n, rest) ↦ (.signed (Int64.ofInt (complement width n)), rest)
  | .float width => fun bs ↦
    (word width bs).map fun (n, rest) ↦ (.float (floatOfWord width n), rest)
  | .text e => fun bs ↦ (size e bs).map fun (n, rest) ↦ (.text n, rest)
  | .octets e => fun bs ↦ (size e bs).map fun (n, rest) ↦ (.octets n, rest)
  | .array e => fun bs ↦ (size e bs).map fun (n, rest) ↦ (.array n, rest)
  | .map e => fun bs ↦ (size e bs).map fun (n, rest) ↦ (.map n, rest)
  | .extension e => fun bs ↦ (size e bs).map fun (n, rest) ↦ (.extension n, rest)

def head : Parser Head
  | [] => .error .endOfStream
  | b :: rest => operand (.ofOctet b) rest

/-- The whole number a head announces, whether it can be negative or not. -/
def Head.whole? : Head → Option Int
  | .unsigned n => some n.toNat
  | .signed n => some n.toInt
  | _ => none

/-- Whether the value opens one more level of nesting. -/
def Head.nests : Head → Bool
  | .array _ | .map _ | .extension _ => true
  | _ => false

/-! ## Mismatches -/

/-- A floating-point number in positions, however long. -/
def floatText (x : Binary64) : String :=
  if x.isFinite then
    if x.isZero then (if x.isNegative then "-0.0" else "0.0")
    else
      let (digits, unit) := Decimal.shortest x
      String.ofList ((if x.isNegative then ['-'] else []) ++
        Decimal.Layout.render ⟨-400, 400, ""⟩ digits unit)
  else if x.fractionField ≠ 0 then "NaN"
  else if x.isNegative then "-inf" else "inf"

/-- How error texts call what was found. -/
def Head.described : Head → String
  | .null => "unit value"
  | .reserved => "reserved"
  | .bool b => s!"boolean `{b}`"
  | .unsigned n => s!"integer `{n.toNat}`"
  | .signed n => s!"integer `{n.toInt}`"
  | .float x => s!"floating point `{floatText x}`"
  | .text _ => "string"
  | .octets _ => "byte array"
  | .array _ => "sequence"
  | .map _ => "map"
  | .extension _ => "newtype struct"

def mismatch (h : Head) (wanted : String) : SerializationError :=
  if h = .reserved then .typeMismatch "wrong msgpack marker Reserved"
  else .typeMismatch s!"invalid type: {h.described}, expected {wanted}"

/-- The UTF-8 text of `n` octets. -/
def textOf (n : Nat) : Parser String := fun bs ↦
  match take n bs with
  | .error e => .error e
  | .ok (front, rest) =>
    match ofUtf8? front with
    | some s => .ok (s, rest)
    | none =>
      let fault := (Utf8.fault? front).map Utf8.Fault.message
      .error (.decode s!"string found to be invalid utf8: {fault.getD default}")

/-- The error for a head that no reader of `wanted` accepts. Text and octets are taken first. -/
def refuse {α : Type} (h : Head) (wanted : String) (bs : Bytes) : Except SerializationError α :=
  match h with
  | .text n =>
    match textOf n bs with
    | .error e => .error e
    | .ok (s, _) => .error (.typeMismatch s!"invalid type: string {s}, expected {wanted}")
  | .octets n =>
    match take n bs with
    | .error e => .error e
    | .ok _ => .error (mismatch h wanted)
  | h => .error (mismatch h wanted)

/-! ## Numbers, text and octets -/

/-- A whole number within bounds; a head that is no number is refused by its marker alone. -/
def wholeWithin (wanted : String) (lower upper : Int) : Parser Int
  | [] => .error .endOfStream
  | b :: rest =>
    let marker := Marker.ofOctet b
    if marker.isNumeric then
      match operand marker rest with
      | .error e => .error e
      | .ok (h, rest) =>
        match h.whole? with
        | some n => if lower ≤ n ∧ n ≤ upper then .ok (n, rest) else .error (mismatch h wanted)
        | none => .error (mismatch h wanted)
    else .error (.typeMismatch s!"invalid type: {marker.name}, expected {wanted}")

def tooDeep : SerializationError := .decode "depth limit exceeded"

/-- How deep a value may nest. -/
def depthLimit : Nat := 1023

/-- Text where at most `depth` more levels may be opened; octets are accepted if wanted so and if
they are UTF-8. -/
def stringAs (depth : Nat) (octetsToo : Bool) (wanted : String) : Parser String := fun bs ↦
  match head bs with
  | .error e => .error e
  | .ok (.text n, rest) => textOf n rest
  | .ok (.octets n, rest) =>
    match take n rest with
    | .error e => .error e
    | .ok (front, rest) =>
      match octetsToo, ofUtf8? front with
      | true, some s => .ok (s, rest)
      | true, none => .error (.typeMismatch s!"invalid value: byte array, expected {wanted}")
      | false, _ => .error (mismatch (.octets n) wanted)
  | .ok (h, _) => .error (if h.nests ∧ depth = 0 then tooDeep else mismatch h wanted)

def string : Parser String := stringAs depthLimit true "a string"

/-- Octets, and nothing else. -/
def byteString : Parser Bytes
  | [] => .error .endOfStream
  | b :: rest =>
    match Marker.ofOctet b with
    | .octets e =>
      match size e rest with
      | .error err => .error err
      | .ok (n, rest) => take n rest
    | marker => .error (.typeMismatch s!"expected bin, found {marker.name}")

/-! ## Loops over items -/

/-- `count` items, collected in reverse. -/
def elements {α : Type} (item : Parser α) : (count : Nat) → (done : List α) → Parser (List α)
  | 0, done, bs => .ok (done.reverse, bs)
  | count + 1, done, bs =>
    match item bs with
    | .error e => .error e
    | .ok (x, rest) => elements item count (x :: done) rest

/-- `count` members; the reader of one gets what is known so far. -/
def members {γ : Type} (step : γ → Parser γ) : (count : Nat) → γ → Parser γ
  | 0, known, bs => .ok (known, bs)
  | count + 1, known, bs =>
    match step known bs with
    | .error e => .error e
    | .ok (known, rest) => members step count known rest

/-! ## Generic values -/

/-- The key of a member where at most `depth` more levels may be opened. The first key must be
text. -/
def memberKey (depth : Nat) (first : Bool) : Parser String :=
  if first then stringAs depth false "a string key" else stringAs depth true "a string"

def addMember (depth : Nat) (item : Parser Value) (first : Bool) (known : List (String × Value)) :
    Parser (List (String × Value)) := fun bs ↦ do
  let (key, rest) ← memberKey depth first bs
  let (v, rest) ← item rest
  return (insertEntry key v known, rest)

def objectMembers (depth : Nat) (item : Parser Value) :
    (count : Nat) → Parser (List (String × Value))
  | 0, bs => .ok ([], bs)
  | count + 1, bs =>
    match addMember depth item true [] bs with
    | .error e => .error e
    | .ok (known, rest) => members (addMember depth item false) count known rest

def anyValue : String := "any valid JSON value"

/-- A value with at most `depth` levels; those below the first are read by `nested`. -/
def valueWith (depth : Nat) (nested : Parser Value) : Parser Value := fun bs ↦
  match head bs with
  | .error e => .error e
  | .ok (.null, rest) => .ok (.null, rest)
  | .ok (.bool b, rest) => .ok (.bool b, rest)
  | .ok (.unsigned n, rest) => .ok (.number (.ofUInt64 n), rest)
  | .ok (.signed n, rest) => .ok (.number (.ofInt64 n), rest)
  | .ok (.float x, rest) => .ok (.ofFloat x, rest)
  | .ok (.text n, rest) => (textOf n rest).map fun (s, rest) ↦ (.string s, rest)
  | .ok (h, rest) =>
    match depth, h with
    | 0, .array _ | 0, .map _ | 0, .extension _ => .error tooDeep
    | _ + 1, .array n => (elements nested n [] rest).map fun (vs, rest) ↦ (.array vs, rest)
    | depth + 1, .map n =>
      (objectMembers depth nested n rest).map fun (ms, rest) ↦ (.object ms, rest)
    | _, h => refuse h anyValue rest

/-- A value with at most `depth` containers around its innermost item. -/
def value : (depth : Nat) → Parser Value
  | 0 => valueWith 0 fun _ ↦ .error tooDeep
  | depth + 1 => valueWith (depth + 1) (value depth)

/-! ## Passing over a value -/

def skipPair (item : Parser Unit) : Parser Unit := fun bs ↦
  match item bs with
  | .error e => .error e
  | .ok (_, rest) => item rest

/-- Pass over a value of any class, an extension with its type octet included. -/
def skipWith (nested : Option (Parser Unit)) : Parser Unit := fun bs ↦
  match head bs with
  | .error e => .error e
  | .ok (.reserved, _) => .error (mismatch .reserved anyValue)
  | .ok (.text n, rest) | .ok (.octets n, rest) => (take n rest).map fun (_, rest) ↦ ((), rest)
  | .ok (.extension n, rest) =>
    if nested.isNone then .error tooDeep
    else (take (n + 1) rest).map fun (_, rest) ↦ ((), rest)
  | .ok (.array n, rest) =>
    match nested with
    | none => .error tooDeep
    | some item => members (fun _ ↦ item) n () rest
  | .ok (.map n, rest) =>
    match nested with
    | none => .error tooDeep
    | some item => members (fun _ ↦ skipPair item) n () rest
  | .ok (_, rest) => .ok ((), rest)

def skip : (depth : Nat) → Parser Unit
  | 0 => skipWith none
  | depth + 1 => skipWith (some (skip depth))

/-! ## Maps of texts and remote errors -/

def addTextEntry (known : TextMap) : Parser TextMap := fun bs ↦ do
  let (key, rest) ← string bs
  let (s, rest) ← string rest
  return (known.insert key s, rest)

def textMap : Parser TextMap := fun bs ↦
  match head bs with
  | .error e => .error e
  | .ok (.map n, rest) => members addTextEntry n TextMap.empty rest
  | .ok (h, rest) => refuse h "a map" rest

inductive ErrorField where
  | kind
  | message
  | other
deriving DecidableEq, Repr

def ErrorField.ofName (s : String) : ErrorField :=
  if s = "kind" then .kind else if s = "message" then .message else .other

/-- A field may be named by text, by octets or by its place, which is an unsigned number. -/
def errorField : Parser ErrorField := fun bs ↦
  match head bs with
  | .error e => .error e
  | .ok (.text n, rest) | .ok (.octets n, rest) =>
    (take n rest).map fun (name, rest) ↦ (((ofUtf8? name).map .ofName).getD .other, rest)
  | .ok (.unsigned n, rest) =>
    .ok (if n = 0 then .kind else if n = 1 then .message else .other, rest)
  | .ok (h, _) => .error (mismatch h "field identifier")

/-- A field may come once; others are passed over. -/
def addErrorField (known : ErrorFields) : Parser ErrorFields := fun bs ↦
  match errorField bs with
  | .error e => .error e
  | .ok (.kind, rest) =>
    if known.kind.isSome then .error (.typeMismatch "duplicate field `kind`")
    else (string rest).map fun (s, rest) ↦ ({ known with kind := some s }, rest)
  | .ok (.message, rest) =>
    if known.message.isSome then .error (.typeMismatch "duplicate field `message`")
    else (string rest).map fun (s, rest) ↦ ({ known with message := some s }, rest)
  | .ok (.other, rest) => (skip (depthLimit - 1) rest).map fun (_, rest) ↦ (known, rest)

/-- The elements a list of the two fields has, of which `count` were announced. -/
def errorElements (count : Nat) : Parser RemoteError := fun bs ↦
  let short := SerializationError.typeMismatch "invalid length, expected 2 elements"
  match count with
  | 0 => .error short
  | 1 => do
    let _ ← string bs
    .error short
  | n + 2 => do
    let (kind, rest) ← string bs
    let (message, rest) ← string rest
    if n = 0 then .ok (⟨kind, message⟩, rest) else .error (.decode "array had incorrect length")

/-- An error as a map or as the list of its two fields. -/
def remoteError : Parser RemoteError := fun bs ↦
  match head bs with
  | .error e => .error e
  | .ok (.map n, rest) => do
    let (fields, rest) ← members addErrorField n .none rest
    return (← fields.complete.mapError .typeMismatch, rest)
  | .ok (.array n, rest) => errorElements n rest
  | .ok (h, rest) => refuse h "struct RemoteError" rest

end RpcTransport.MessagePack

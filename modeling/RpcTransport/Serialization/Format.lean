import RpcTransport.Base64
import RpcTransport.Json.Printer
import RpcTransport.Json.Reader
import RpcTransport.MessagePack.Printer
import RpcTransport.MessagePack.Reader
import RpcTransport.Text.Blank

/-!
# The two formats

A body is a row of values, written one after the other and read back in the same order. `Format`
names the octets each kind of value is written as; a `Reader` moves through a body, and its state is
what is left to read.

A failing read leaves the state where it was, so the caller may try another type, with one
exception: octets in JSON are a text in base64, and a text that is no base64 has been read.
-/

namespace RpcTransport

inductive Format where
  | json
  | messagePack
deriving DecidableEq, Repr

/-- A reading step: its state is the unread rest of a body. -/
abbrev Reader (α : Type) := ExceptT SerializationError (StateM Bytes) α

namespace Reader

/-- Run on a body, giving the outcome and the unread rest. -/
def runOn {α : Type} (r : Reader α) (body : Bytes) : Except SerializationError α × Bytes :=
  StateT.run (ExceptT.run r) body

/-- A step that moves only if it succeeds. -/
def ofParser {α : Type} (p : Bytes → Except SerializationError (α × Bytes)) : Reader α :=
  ExceptT.mk fun body ↦
    match p body with
    | .ok (x, rest) => (.ok x, rest)
    | .error e => (.error e, body)

end Reader

/-! ## JSON documents as reading steps -/

namespace Json

def Fault.toError (body : Bytes) : Fault → SerializationError
  | .endOfInput => .endOfStream
  | .mismatch detail => .typeMismatch detail
  | .malformed cause after => .decode (cause.describe body after)

/-- Nothing but blanks is left. -/
def isExhausted (body : Bytes) : Bool := body.all isBlankOctet

/-- The next document; the argument of `p` bounds the octets it can take. -/
def read {α : Type} (p : Nat → Parser α) : Reader α :=
  .ofParser fun body ↦
    if isExhausted body then .error .endOfStream
    else (nextDocument (p (body.length + 1)) body).mapError (Fault.toError body)

/-- The octets of a text in base64. -/
def readOctets : Reader Bytes := do
  let s ← read textDocument
  match Base64.decode? (utf8 s) with
  | some bs => return bs
  | none => throw (.decode "invalid base64")

end Json

/-! ## Writing and reading by format -/

namespace Format

def writeOctet : Format → UInt8 → Bytes
  | .json, n => Json.document (Json.ofInteger n.toNat)
  | .messagePack, n => MessagePack.ofInteger n.toNat

def writeInteger : Format → Int32 → Bytes
  | .json, n => Json.document (Json.ofInteger n.toInt)
  | .messagePack, n => MessagePack.ofInteger n.toInt

def writeText : Format → String → Bytes
  | .json, s => Json.document (Json.ofText s)
  | .messagePack, s => MessagePack.ofText s

/-- In JSON, octets are a text in base64. -/
def writeOctets : Format → Bytes → Bytes
  | .json, bs => Json.document (Json.quoted (Base64.encode bs))
  | .messagePack, bs => MessagePack.ofOctets bs

def writeValue : Format → Value → Bytes
  | .json, v => Json.document (Json.ofValue v)
  | .messagePack, v => MessagePack.ofValue v

/-- The entries of a map of texts, in the order given. -/
def writeEntries : Format → List (String × String) → Bytes
  | .json, entries => Json.document (Json.ofEntries entries)
  | .messagePack, entries => MessagePack.ofEntries entries

def writeError : Format → RemoteError → Bytes
  | .json, e => Json.document (Json.ofError e)
  | .messagePack, e => MessagePack.ofError e

def readOctet : Format → Reader UInt8
  | .json => (fun n ↦ UInt8.ofNat n.toNat) <$>
      Json.read fun fuel ↦ Json.wholeWithin fuel "u8" 0 255
  | .messagePack => (fun n ↦ UInt8.ofNat n.toNat) <$>
      .ofParser (MessagePack.wholeWithin "u8" 0 255)

def readInteger : Format → Reader Int32
  | .json => Int32.ofInt <$>
      Json.read fun fuel ↦ Json.wholeWithin fuel "i32" (-0x80000000) (0x80000000 - 1)
  | .messagePack => Int32.ofInt <$>
      .ofParser (MessagePack.wholeWithin "i32" (-0x80000000) (0x80000000 - 1))

def readText : Format → Reader String
  | .json => Json.read Json.textDocument
  | .messagePack => .ofParser MessagePack.string

def readOctets : Format → Reader Bytes
  | .json => Json.readOctets
  | .messagePack => .ofParser MessagePack.byteString

def readValue : Format → Reader Value
  | .json => Json.read fun fuel ↦ Json.value fuel Json.depthLimit
  | .messagePack => .ofParser (MessagePack.value MessagePack.depthLimit)

def readMap : Format → Reader TextMap
  | .json => Json.read Json.textMapDocument
  | .messagePack => .ofParser MessagePack.textMap

def readError : Format → Reader RemoteError
  | .json => Json.read Json.remoteErrorDocument
  | .messagePack => .ofParser MessagePack.remoteError

/-- Whether a body has no more values. -/
def isExhausted : Format → Bytes → Bool
  | .json, body => Json.isExhausted body
  | .messagePack, body => body.isEmpty

end Format

end RpcTransport

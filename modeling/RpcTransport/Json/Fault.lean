import RpcTransport.Bytes

/-!
# Why a JSON document is refused

A reader stops at the first octet that decides the matter, and the class of the fault is part of its
contract: the document may stop too early, it may be well formed so far but not of the wanted type,
or it may be malformed. Only a malformed document has a place, given as the octets that follow it.
-/

namespace RpcTransport.Json

inductive Malformed where
  | expectedValue
  | expectedIdent
  | expectedColon
  | expectedListEnd
  | expectedObjectEnd
  | keyMustBeString
  | invalidNumber
  | numberOutOfRange
  | invalidEscape
  | invalidCodePoint
  | controlCharacter
  | loneSurrogate
  | endOfEscape
  | trailingComma
  | trailingCharacters
  | tooDeep
deriving DecidableEq, Repr

def Malformed.message : Malformed → String
  | .expectedValue => "expected value"
  | .expectedIdent => "expected ident"
  | .expectedColon => "expected `:`"
  | .expectedListEnd => "expected `,` or `]`"
  | .expectedObjectEnd => "expected `,` or `\x7d`"
  | .keyMustBeString => "key must be a string"
  | .invalidNumber => "invalid number"
  | .numberOutOfRange => "number out of range"
  | .invalidEscape => "invalid escape"
  | .invalidCodePoint => "invalid unicode code point"
  | .controlCharacter => "control character (\\u0000-\\u001F) found while parsing a string"
  | .loneSurrogate => "lone leading surrogate in hex escape"
  | .endOfEscape => "unexpected end of hex escape"
  | .trailingComma => "trailing comma"
  | .trailingCharacters => "trailing characters"
  | .tooDeep => "recursion limit exceeded"

inductive Fault where
  | endOfInput
  | mismatch (detail : String)
  | malformed (cause : Malformed) (after : Bytes)
deriving DecidableEq, Repr

/-- A fault at the octet just read, `rest` being what follows it. -/
def Fault.here (cause : Malformed) (rest : Bytes) : Fault := .malformed cause rest

/-- A fault at the octet that comes next in `rest`. -/
def Fault.next (cause : Malformed) (rest : Bytes) : Fault := .malformed cause rest.tail

/-- Line and column, both counted from one, of the last octet before `after`. -/
def position (document after : Bytes) : Nat × Nat :=
  let before := document.take (document.length - after.length)
  (1 + before.count 0x0a, (before.reverse.takeWhile (· != 0x0a)).length)

def Malformed.describe (cause : Malformed) (document after : Bytes) : String :=
  let (line, column) := position document after
  s!"{cause.message} at line {line} column {column}"

/-- A reader consumes octets from the front and returns the rest. -/
abbrev Parser (α : Type) := Bytes → Except Fault (α × Bytes)

end RpcTransport.Json

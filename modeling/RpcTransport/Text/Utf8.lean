import RpcTransport.Bytes

/-!
# Text as octets

Text crosses the wire as UTF-8. A `String` is by definition a valid octet string, so writing is a
projection and reading is a validity check; `ofUtf8?_utf8` is the only law the codecs need.

The second half locates the first fault of an octet string that is not UTF-8, which error texts
report: how many octets before it are well formed, and how many octets the fault itself spans, or
nothing when the string merely stops in the middle of a character.
-/

namespace RpcTransport

/-- The UTF-8 octets of a text. -/
def utf8 (s : String) : Bytes := s.toByteArray.data.toList

/-- The text an octet string encodes, when it is well-formed UTF-8. -/
def ofUtf8? (bs : Bytes) : Option String := String.fromUTF8? ⟨bs.toArray⟩

theorem ofUtf8?_utf8 (s : String) : ofUtf8? (utf8 s) = some s := by
  have h : (⟨(utf8 s).toArray⟩ : ByteArray) = s.toByteArray := by simp [utf8]
  unfold ofUtf8? String.fromUTF8?
  rw [h, dif_pos s.isValidUTF8]
  rfl

namespace Utf8

/-- The number of continuation octets a leading octet announces, with the bounds of the first. -/
def leading (b : UInt8) : Option (Nat × UInt8 × UInt8) :=
  if b < 0x80 then some (0, 0x80, 0xbf)
  else if b < 0xc2 then none
  else if b < 0xe0 then some (1, 0x80, 0xbf)
  else if b = 0xe0 then some (2, 0xa0, 0xbf)
  else if b = 0xed then some (2, 0x80, 0x9f)
  else if b < 0xf0 then some (2, 0x80, 0xbf)
  else if b = 0xf0 then some (3, 0x90, 0xbf)
  else if b < 0xf4 then some (3, 0x80, 0xbf)
  else if b = 0xf4 then some (3, 0x80, 0x8f)
  else none

/-- Where an octet string stops being UTF-8. -/
structure Fault where
  /-- How many octets before the fault form whole characters. -/
  validUpTo : Nat
  /-- The octets of the fault, or `none` when the string ends inside a character. -/
  width : Option Nat
deriving DecidableEq, Repr

/-- How far a run of continuation octets goes: `(read, complete, hit the end)`. -/
def continuation : (count : Nat) → (low high : UInt8) → Bytes → Nat × Bool × Bool
  | 0, _, _, _ => (0, true, false)
  | _ + 1, _, _, [] => (0, false, true)
  | count + 1, low, high, b :: rest =>
    if low ≤ b ∧ b ≤ high then
      let (n, complete, ended) := continuation count 0x80 0xbf rest
      (n + 1, complete, ended)
    else (0, false, false)

/-- The first fault of `bs`, counting whole characters from `seen`. The fuel is the length of the
string, and each character takes at least one octet. -/
def faultFrom : (fuel seen : Nat) → Bytes → Option Fault
  | 0, _, _ => none
  | _, _, [] => none
  | fuel + 1, seen, b :: rest =>
    match leading b with
    | none => some ⟨seen, some 1⟩
    | some (count, low, high) =>
      match continuation count low high rest with
      | (n, true, _) => faultFrom fuel (seen + 1 + n) (rest.drop n)
      | (_, false, true) => some ⟨seen, none⟩
      | (n, false, false) => some ⟨seen, some (n + 1)⟩

def fault? (bs : Bytes) : Option Fault := faultFrom bs.length 0 bs

def Fault.message (f : Fault) : String :=
  match f.width with
  | some n => s!"invalid utf-8 sequence of {n} bytes from index {f.validUpTo}"
  | none => s!"incomplete utf-8 byte sequence from index {f.validUpTo}"

end Utf8

end RpcTransport

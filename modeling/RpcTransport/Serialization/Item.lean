import RpcTransport.Serialization.Format

/-!
# Items of a body

One write and the read that matches it, for bodies whose kinds of values are known only at run time.
-/

namespace RpcTransport

inductive Item where
  | octet (n : UInt8)
  | integer (n : Int32)
  | text (s : String)
  | octets (bs : Bytes)
  | value (v : Value)
  | map (m : TextMap)
  | error (e : RemoteError)

namespace Item

inductive Kind where
  | octet
  | integer
  | text
  | octets
  | value
  | map
  | error
deriving DecidableEq, Repr

def kind : Item → Kind
  | .octet _ => .octet
  | .integer _ => .integer
  | .text _ => .text
  | .octets _ => .octets
  | .value _ => .value
  | .map _ => .map
  | .error _ => .error

end Item

namespace Format

def write (f : Format) : Item → Bytes
  | .octet n => f.writeOctet n
  | .integer n => f.writeInteger n
  | .text s => f.writeText s
  | .octets bs => f.writeOctets bs
  | .value v => f.writeValue v
  | .map m => f.writeEntries m.entries
  | .error e => f.writeError e

def writeAll (f : Format) (items : List Item) : Bytes := items.flatMap f.write

def read (f : Format) : Item.Kind → Reader Item
  | .octet => Item.octet <$> f.readOctet
  | .integer => Item.integer <$> f.readInteger
  | .text => Item.text <$> f.readText
  | .octets => Item.octets <$> f.readOctets
  | .value => Item.value <$> f.readValue
  | .map => Item.map <$> f.readMap
  | .error => Item.error <$> f.readError

end Format

end RpcTransport

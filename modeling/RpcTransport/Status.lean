/-!
# Response status

One octet of the header says how a call went. Eight codes have names; every other octet is kept as
it is, so `Status.unknown 20` is not success although it is written as the same octet.
-/

namespace RpcTransport

inductive Status where
  | ok
  | clientTimeout
  | serverTimeout
  | channelInactive
  /-- The request could not be written or was refused as malformed. -/
  | badRequest
  /-- The answer could not be written or read. -/
  | badResponse
  | serverError
  | clientError
  | unknown (octet : UInt8)
deriving DecidableEq, Repr

namespace Status

def ofOctet (b : UInt8) : Status :=
  if b = 20 then .ok
  else if b = 30 then .clientTimeout
  else if b = 31 then .serverTimeout
  else if b = 35 then .channelInactive
  else if b = 40 then .badRequest
  else if b = 50 then .badResponse
  else if b = 80 then .serverError
  else if b = 90 then .clientError
  else .unknown b

def toOctet : Status → UInt8
  | .ok => 20
  | .clientTimeout => 30
  | .serverTimeout => 31
  | .channelInactive => 35
  | .badRequest => 40
  | .badResponse => 50
  | .serverError => 80
  | .clientError => 90
  | .unknown b => b

def isOk (s : Status) : Bool := s = .ok

def name : Status → String
  | .ok => "Ok"
  | .clientTimeout => "ClientTimeout"
  | .serverTimeout => "ServerTimeout"
  | .channelInactive => "ChannelInactive"
  | .badRequest => "BadRequest"
  | .badResponse => "BadResponse"
  | .serverError => "ServerError"
  | .clientError => "ClientError"
  | .unknown b => s!"Unknown({b.toNat})"

theorem toOctet_ofOctet (b : UInt8) : (ofOctet b).toOctet = b := by
  unfold ofOctet
  repeat' split
  all_goals simp_all [toOctet]

end Status

end RpcTransport

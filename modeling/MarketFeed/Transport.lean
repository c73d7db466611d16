import MarketFeed.Endpoint
import MarketFeed.Feed
import MarketFeed.Frame.Outbound
import MarketFeed.Text

/-!
# Transports

What lies between a client and a server: the frames that will be read, in order, and the fate of
each frame that is written. Both belong to the world outside, so they are given; whatever the client
does, it meets the first reading first and the fault of its n-th write with its n-th write. When all
is read, the stream has ended.
-/
namespace MarketFeed

inductive Reading where
  | text (text : String)
  | binary (octets : List UInt8)
  /-- A ping or pong of the transport itself, which no one above it has to answer. -/
  | keepalive
  | close (reason : Option CloseReason)
  | failed (reason : String)
  /-- No frame for as long as the client is ready to wait, if that is limited. -/
  | silence
  deriving DecidableEq, Repr

inductive Sent where
  | request (frame : Outbound)
  | close (reason : CloseReason)
  deriving DecidableEq, Repr

/-- The frame that ends a session in good order. -/
def Sent.goodbye : Sent := .close ⟨⟨1000, by decide, by decide⟩, ""⟩

structure Write where
  frame : Sent
  /-- Why it failed, if it did. -/
  fault : Option String
  deriving DecidableEq, Repr

structure Transport where
  incoming : List Reading
  /-- Why a write fails, by its number, for those that do. -/
  faults : Nat → Option String
  writes : List Write

namespace Transport

def fresh (incoming : List Reading) (faults : Nat → Option String) : Transport :=
  ⟨incoming, faults, []⟩

def nextFault (t : Transport) : Option String := t.faults t.writes.length

/-- Writes a frame. The attempt is kept whether or not it succeeds. -/
def write (t : Transport) (frame : Sent) : Transport :=
  { t with writes := t.writes ++ [⟨frame, t.nextFault⟩] }

def sent (t : Transport) : List Sent :=
  (t.writes.filter fun w => w.fault.isNone).map Write.frame

def requests (t : Transport) : List Outbound :=
  t.sent.filterMap fun frame => match frame with
    | .request frame => some frame
    | .close _ => none

end Transport

inductive Handshake where
  | accepted (transport : Transport)
  | refused (reason : String)
  /-- The answer comes later than any limit. -/
  | late (answer : Handshake)

/-- The transport that a handshake yields within a limit. -/
def Handshake.outcome (limit : Option Duration) : Handshake → Except StreamError Transport
  | accepted transport => .ok transport
  | refused reason => .error (.connection reason)
  | late answer =>
    match limit with
    | some limit => .error (.timeout limit)
    | none => answer.outcome limit

/-- The transport to an endpoint. No request is sent that cannot be written. -/
def Endpoint.openTransport (e : Endpoint) (url : Url) (handshake : Handshake) :
    Except StreamError Transport := do
  e.checkRequest url
  handshake.outcome e.connectLimit

end MarketFeed

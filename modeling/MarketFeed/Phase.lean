/-!
# Phases of a client

A client connects, is connected, and streams from its first subscription on. A closed client may
connect again.
-/
namespace MarketFeed

inductive Phase where
  | disconnected
  | connecting
  | connected
  /-- At least one subscription was sent. -/
  | streaming
  | closed
  deriving DecidableEq, Repr

namespace Phase

inductive Event where
  | connect
  | opened
  | subscribed
  /-- An attempt to connect failed. -/
  | refused
  | close
  deriving DecidableEq, Repr

/-- A subscription counts only on an open session; everything else happens in any phase. -/
def after : Phase → Event → Phase
  | _, .connect => connecting
  | _, .opened => connected
  | connected, .subscribed => streaming
  | phase, .subscribed => phase
  | _, .refused => disconnected
  | _, .close => closed

def isOpen : Phase → Bool
  | connected | streaming => true
  | _ => false

end Phase
end MarketFeed

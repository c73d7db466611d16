import MarketFeed.Program
import MarketFeed.Proofs.Attempts
import MarketFeed.Proofs.Lifecycle
import MarketFeed.Proofs.RunEnding
import Mathlib.Data.Nat.Find

/-!
# The course of a session

A session can fail in two places: it is not opened, or a request for a channel cannot be written.
Past these it has a run, and whatever ends the run ends the session well. The requests stand on the
transport before the first reading is taken, in the order of the channels and once for each, also
where a channel is repeated.

A closing frame is written where a session is still open when it is over, which is after a request
that failed and after a run that was stopped.
-/
namespace MarketFeed

variable {σ : Type}

namespace Transport

/-- The transport with requests for channels behind what was written. -/
def asked (t : Transport) (channels : List Channel) : Transport :=
  { t with
    writes := t.writes ++ channels.map fun channel => ⟨.request (.subscribe channel), none⟩ }

@[simp] theorem asked_nil (t : Transport) : t.asked [] = t := by
  simp [asked]

end Transport

namespace Client

section
variable {c : Client} {t : Transport} (hheld : c.session = some t)
include hheld

end

end Client

namespace Session

section
variable {endpoint : Endpoint} {handshake : Handshake} {t : Transport} {channels : List Channel}
  (handler : Handler σ) (state : σ) (token : Shutdown)

section
variable (hheld : ((Client.start endpoint).connect handshake).client.session = some t)
include hheld

end

end

end Session

end MarketFeed

import MarketFeed.Phase
import MarketFeed.Subscriptions
import MarketFeed.Transport

/-!
# Clients

A client owns at most one open session. Every call returns the client after it together with its
result and with what there is to report. A call that fails leaves the client as it was, but for the
attempt to write a frame and for an attempt to connect.
-/
namespace MarketFeed

/-- A client with its session, if one is open. -/
structure Client where
  endpoint : Endpoint
  phase : Phase
  session : Option Transport
  /-- The channels requested on the latest session. -/
  subscriptions : Subscriptions
  /-- The sessions that are over, in order. -/
  past : List Transport

structure Call (α : Type) where
  result : α
  client : Client
  notices : List Notice

namespace Client

def start (endpoint : Endpoint) : Client := ⟨endpoint, .disconnected, none, .empty, []⟩

def isConnected (c : Client) : Bool := c.session.isSome && c.phase.isOpen

def enter (c : Client) (event : Phase.Event) : Client := { c with phase := c.phase.after event }

def drop (c : Client) : Client :=
  { c with phase := c.phase.after .close, session := none, past := c.past ++ c.session.toList }

/-- Opens a session, to which the server answers by the handshake. -/
def connect (c : Client) (handshake : Handshake) : Call (Except StreamError Unit) :=
  if c.session.isSome then ⟨.error .alreadyConnected, c, []⟩
  else
    match c.endpoint.url with
    | .error error => ⟨.error error, c, []⟩
    | .ok url =>
      let shown := c.endpoint.displayUrl
      match c.endpoint.openTransport url handshake with
      | .error error =>
        ⟨.error error, (c.enter .connect).enter .refused,
          [.connecting shown, .connectionFailed shown error]⟩
      | .ok transport =>
        ⟨.ok (),
          { (c.enter .connect).enter .opened with
            session := some transport, subscriptions := .empty },
          [.connecting shown, .upgraded, .connected shown]⟩

def send (c : Client) (frame : Outbound) : Call (Except StreamError Unit) :=
  match c.session with
  | none => ⟨.error .notConnected, c, []⟩
  | some transport =>
    let client := { c with session := some (transport.write (.request frame)) }
    match transport.nextFault with
    | none => ⟨.ok (), client, [.sending frame]⟩
    | some reason => ⟨.error (.transportClosed reason), client, [.sending frame]⟩

/-- Asks for a channel. The server does not acknowledge it but by the snapshot that follows. -/
def subscribe (c : Client) (channel : Channel) : Call (Except StreamError Unit) :=
  let call := c.send (.subscribe channel)
  match call.result with
  | .error _ => call
  | .ok () =>
    let repeated := if c.subscriptions.tracks channel then [.repeatedSubscription channel] else []
    { call with
      client :=
        { call.client.enter .subscribed with subscriptions := c.subscriptions.request channel }
      notices := call.notices ++ repeated ++ [.subscribed channel] }

def unsubscribe (c : Client) (channel : Channel) : Call (Except StreamError Unit) :=
  let call := c.send (.unsubscribe channel)
  match call.result with
  | .error _ => call
  | .ok () =>
    let untracked :=
      if c.subscriptions.tracks channel then [] else [.untrackedUnsubscription channel]
    { call with
      client := { call.client with subscriptions := c.subscriptions.remove channel }
      notices := call.notices ++ untracked ++ [.unsubscribed channel] }

/-- Ends the session in good order, if there is one. A failure to say so is reported and no more. -/
def close (c : Client) : Call Unit :=
  match c.session with
  | none => ⟨(), c.enter .close, []⟩
  | some transport =>
    let failed := match transport.nextFault with
      | some reason => [.closeFailed reason]
      | none => []
    ⟨(), { c with session := some (transport.write .goodbye) }.drop,
      failed ++ [.connectionClosed]⟩

end Client
end MarketFeed

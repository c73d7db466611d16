import MarketFeed.Client.Run

/-!
# Whole sessions

A session connects, asks for its channels in order, reads until it is asked to stop or the stream
ends, and closes. What goes wrong before the first read is an error; whatever ends an open session
is how it ended.
-/
namespace MarketFeed

namespace Client

/-- Asks for channels in order, up to the first that fails. -/
def subscribeEach (c : Client) : List Channel → Call (Except StreamError Unit)
  | [] => ⟨.ok (), c, []⟩
  | channel :: rest =>
    let call := c.subscribe channel
    match call.result with
    | .error _ => call
    | .ok () =>
      let more := call.client.subscribeEach rest
      { more with notices := call.notices ++ more.notices }

end Client

/-- How a session ended, by the result of its run. -/
def SessionEnd.ofRun : Except StreamError StopReason → SessionEnd
  | .ok .cancelled => .shutdown
  | .ok .peerClosed => .peerClosed
  | .error error => .lost error

def SessionEnd.notices : SessionEnd → List Notice
  | shutdown => [.shuttingDown]
  | peerClosed => []
  | lost error => [.streamLost error]

/-- A session with its result, and the state of the handler after it. -/
structure Session (σ : Type) extends Call (Except StreamError SessionEnd) where
  state : σ

/-- Holds a session from its first frame to its last. -/
def Session.hold {σ : Type} (endpoint : Endpoint) (handshake : Handshake) (channels : List Channel)
    (handler : Handler σ) (state : σ) (shutdown : Shutdown) : Session σ :=
  let opened := (Client.start endpoint).connect handshake
  match opened.result with
  | .error error =>
    { result := .error error, client := opened.client, notices := opened.notices, state }
  | .ok () =>
    let asked := opened.client.subscribeEach channels
    match asked.result with
    | .error error =>
      let closed := asked.client.close
      { result := .error error, client := closed.client,
        notices := opened.notices ++ asked.notices ++ closed.notices, state }
    | .ok () =>
      let ran := asked.client.run handler state shutdown
      let ending := SessionEnd.ofRun ran.result
      let closed := ran.client.close
      { result := .ok ending, client := closed.client,
        notices :=
          opened.notices ++ asked.notices ++ ran.notices ++ ending.notices ++ closed.notices,
        state := ran.state }

end MarketFeed

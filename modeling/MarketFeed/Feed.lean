import MarketFeed.Book
import MarketFeed.Frame.Outbound
import MarketFeed.StreamError

/-!
# From frames to a handler

A handler receives market data and nothing else. It turns its state and an event into a new state
and may report notices. Control frames are answered or reported before they could reach it.

A notice is everything that is reported about a stream beside the market data itself. It is a value,
so what happened can be told from what is said about it; level and wording are decided here and
nowhere else.
-/
namespace MarketFeed

inductive Level where
  | error | warn | info | debug
  deriving DecidableEq, Repr

def Level.name : Level → String
  | error => "ERROR"
  | warn => "WARN"
  | info => "INFO"
  | debug => "DEBUG"

def Level.detail : Level → Nat
  | error => 0
  | warn => 1
  | info => 2
  | debug => 3

/-- The level that a user asks for by name; the usual one if there is none of that name. -/
def Level.ofName : String → Level
  | "error" => error
  | "warn" => warn
  | "debug" | "trace" => debug
  | _ => info

/-- How a session ended that had been opened. -/
inductive SessionEnd where
  /-- The user asked for it. -/
  | shutdown
  | peerClosed
  | lost (error : StreamError)
  deriving DecidableEq, Repr

/-- How a session ended, in full. -/
def SessionEnd.shape : SessionEnd → String
  | shutdown => "Shutdown"
  | peerClosed => "PeerClosed"
  | lost error => "Lost(" ++ error.shape ++ ")"

structure CloseReason where
  code : Unsigned16
  text : String
  deriving DecidableEq, Repr

inductive Notice where
  | connecting (url : String)
  | upgraded
  | connected (url : String)
  | connectionFailed (url : String) (error : StreamError)
  | sending (frame : Outbound)
  | subscribed (channel : Channel)
  | repeatedSubscription (channel : Channel)
  | subscriptionActive (channel : Channel)
  | unsubscribed (channel : Channel)
  | untrackedUnsubscription (channel : Channel)
  | received (label : String)
  | sessionEstablished
  | pingReceived
  | serverError (error : ServerError)
  | frameWithoutType
  | unknownType (type : String)
  | frameSkipped (error : StreamError)
  | continuing (error : StreamError)
  | binaryDropped (reason : String)
  | answerFailed (error : StreamError)
  | shutdownRequested
  | streamEnded
  | readFailed (error : StreamError)
  | serverClosed (reason : Option CloseReason)
  | closeFailed (error : String)
  | connectionClosed
  | snapshotNotApplied (channel : String) (error : BookError)
  | updateNotApplied (channel : String) (error : BookError)
  | outputFailed (reason : String)
  | shuttingDown
  | streamLost (error : StreamError)
  | startupFailed (error : StreamError)
  | sessionEnded (ending : SessionEnd)
  deriving DecidableEq, Repr

namespace Notice

def level : Notice → Level
  | connectionFailed .. | answerFailed _ | streamEnded | readFailed _ | startupFailed _ => .error
  | serverError _ | frameSkipped _ | binaryDropped _ | snapshotNotApplied .. | updateNotApplied ..
  | streamLost _ => .warn
  | upgraded | sending _ | repeatedSubscription _ | untrackedUnsubscription _ | received _
  | pingReceived | frameWithoutType | continuing _ | closeFailed _ | outputFailed _ => .debug
  | _ => .info

def text : Notice → String
  | connecting url => "Connecting to " ++ url
  | upgraded => "Upgrade complete (status: 101)"
  | connected url => "Connected to " ++ url
  | connectionFailed url error => "Connection to " ++ url ++ " failed: " ++ error.message
  | sending frame => "Sending " ++ frame.text
  | subscribed channel => "Subscribed to " ++ channel.text
  | repeatedSubscription channel => "Repeated subscription to " ++ channel.text
  | subscriptionActive channel => "Subscription active: " ++ channel.text
  | unsubscribed channel => "Unsubscribed from " ++ channel.text
  | untrackedUnsubscription channel => "Unsubscribed from untracked channel " ++ channel.text
  | received label => "Received " ++ label
  | sessionEstablished => "Stream session established"
  | pingReceived => "Ping received, replying with pong"
  | serverError error => error.report
  | frameWithoutType => "Ignoring frame without a type"
  | unknownType type => "Unknown message type: " ++ type
  | frameSkipped error => "Skipping frame: " ++ error.message
  | continuing error => "Continuing after " ++ error.message
  | binaryDropped reason => "Dropping non UTF-8 binary frame: " ++ reason
  | answerFailed error => "Failed to answer server: " ++ error.message
  | shutdownRequested => "Shutdown requested, leaving read loop"
  | streamEnded => "Stream ended without a close frame"
  | readFailed error => "Read failed: " ++ error.message
  | serverClosed none => "Server closed the stream"
  | serverClosed (some reason) =>
    "Server closed the stream: " ++ reason.code.text ++ " " ++ reason.text
  | closeFailed error => "Close handshake failed: " ++ error
  | connectionClosed => "Connection closed"
  | snapshotNotApplied channel error =>
    "Order book snapshot on " ++ channel ++ " not applied: " ++ error.message
  | updateNotApplied channel error =>
    "Order book update on " ++ channel ++ " not applied: " ++ error.message
  | outputFailed reason => "Failed to write output: " ++ reason
  | shuttingDown => "Shutting down..."
  | streamLost error => "Stream ended: " ++ error.message
  | startupFailed error => "Startup failed: " ++ error.message
  | sessionEnded ending => "Session ended: " ++ ending.shape

/-- The notice is shown to a user who asks for a level. -/
def isShownAt (notice : Notice) (asked : Level) : Bool := notice.level.detail ≤ asked.detail

def line (notice : Notice) : String := notice.level.name ++ " " ++ notice.text

end Notice

/-- What is done with market data. -/
abbrev Handler (σ : Type) := σ → FrameKind → MarketEvent → σ × List Notice

def Handler.ignore : Handler Unit := fun s _ _ => (s, [])

/-- What became of a frame. -/
inductive Outcome where
  /-- It has to be answered before the next read. -/
  | reply (frame : Outbound)
  /-- It was market data for the handler. -/
  | delivered (topic : Topic)
  | serverError (error : ServerError)
  | ignored
  deriving DecidableEq, Repr

structure Dispatched (σ : Type) where
  outcome : Outcome
  state : σ
  notices : List Notice

/-- Passes a frame to the handler, or answers or reports it. -/
def dispatch {σ : Type} (handler : Handler σ) (state : σ) : Inbound → Dispatched σ
  | .connected => ⟨.ignored, state, [.sessionEstablished]⟩
  | .ping => ⟨.reply .pong, state, [.pingReceived]⟩
  | .market kind event =>
    let (state, notices) := handler state kind event
    ⟨.delivered event.topic, state, notices⟩
  | .error error => ⟨.serverError error, state, [.serverError error]⟩
  | .unknown type =>
    ⟨.ignored, state, [if type = "" then .frameWithoutType else .unknownType type]⟩

end MarketFeed

import MarketFeed.Client
import MarketFeed.Feed

/-!
# Reading a session

A run reads one frame after the other, answers pings and passes market data to a handler, until it
is asked to stop or the session ends. A malformed frame and an error that the server reports cost
that frame only. A ping is answered before the next read; if the answer cannot be written, the
session is over.

Whether the run is to stop is asked before each read and never in the middle of a frame, so a
stopped run leaves the frames after it unread and can be taken up by another.
-/
namespace MarketFeed

/-- How far a run has come. -/
structure Progress where
  readings : Nat
  /-- The number of events passed to the handler. -/
  deliveries : Nat
  deriving DecidableEq, Repr

/-- Whether a run that has come this far is to stop before it reads on. -/
abbrev Shutdown := Progress → Bool

def Shutdown.never : Shutdown := fun _ => false

/-- Before the reading after the first `n`. -/
def Shutdown.afterReadings (n : Nat) : Shutdown := fun progress => decide (n ≤ progress.readings)

/-- During the delivery of the `n`-th event. -/
def Shutdown.afterDeliveries (n : Nat) : Shutdown :=
  fun progress => decide (n ≤ progress.deliveries)

namespace Reading

def text? : Reading → Option String
  | text s => some s
  | binary octets => (Text.Utf8.decode octets).toOption
  | _ => none

def message? (reading : Reading) : Option Inbound :=
  reading.text?.bind fun s => (Inbound.decode s).toOption

/-- The market data of a frame, if it has any. -/
def event? (reading : Reading) : Option (FrameKind × MarketEvent) :=
  match reading.message? with
  | some (.market kind event) => some (kind, event)
  | _ => none

end Reading

def Progress.next (progress : Progress) (reading : Reading) : Progress :=
  ⟨progress.readings + 1, progress.deliveries + if reading.event?.isSome then 1 else 0⟩

/-- Why a run ended without an error. -/
inductive StopReason where
  /-- It was asked to; the session is still open. -/
  | cancelled
  /-- The server sent a close frame. -/
  | peerClosed
  deriving DecidableEq, Repr

structure Running (σ : Type) where
  transport : Transport
  subscriptions : Subscriptions
  state : σ

/-- What became of one text: whether it was taken, and the run after it. -/
structure Handled (σ : Type) where
  result : Except StreamError Unit
  running : Running σ
  notices : List Notice

/-- What became of one reading. -/
structure Turn (σ : Type) where
  running : Running σ
  /-- The result of the run, if it ends here. -/
  ending : Option (Except StreamError StopReason)
  notices : List Notice

namespace Running

variable {σ : Type}

def goOn (r : Running σ) (notices : List Notice) : Turn σ := ⟨r, none, notices⟩

def reply (r : Running σ) (frame : Outbound) : Handled σ where
  result := match r.transport.nextFault with
    | none => .ok ()
    | some reason => .error (.transportClosed reason)
  running := { r with transport := r.transport.write (.request frame) }
  notices := [.sending frame]

/-- Marks the channels that a snapshot confirms. -/
def confirm (r : Running σ) : Inbound → Running σ × List Notice
  | .market .snapshot event =>
    ({ r with subscriptions := r.subscriptions.confirm event },
      (r.subscriptions.confirmed event).map .subscriptionActive)
  | _ => (r, [])

def handleMessage (handler : Handler σ) (r : Running σ) (message : Inbound) : Handled σ :=
  let (confirmed, active) := r.confirm message
  let dispatched := dispatch handler confirmed.state message
  let running := { confirmed with state := dispatched.state }
  let handled := match dispatched.outcome with
    | .reply frame => running.reply frame
    | .serverError error => ⟨.error (.ofServerError error), running, []⟩
    | .delivered _ | .ignored => ⟨.ok (), running, []⟩
  { handled with
    notices := .received message.label :: active ++ dispatched.notices ++ handled.notices }

/-- Decodes a text and passes its message on. Malformed frames and errors that the server reports
come back as errors which are not fatal. -/
def handleText (handler : Handler σ) (r : Running σ) (s : String) : Handled σ :=
  match Inbound.decode s with
  | .error error => ⟨.error (.ofFrameError error), r, []⟩
  | .ok message => r.handleMessage handler message

/-- Takes a text. Only a fatal error ends the run. -/
def takeText (handler : Handler σ) (r : Running σ) (s : String) : Turn σ :=
  let handled := r.handleText handler s
  match handled.result with
  | .ok () => handled.running.goOn handled.notices
  | .error (.protocol reason) =>
    handled.running.goOn (handled.notices ++ [.frameSkipped (.protocol reason)])
  | .error error =>
    if error.isFatal then
      ⟨handled.running, some (.error error), handled.notices ++ [.answerFailed error]⟩
    else handled.running.goOn (handled.notices ++ [.continuing error])

/-- A text that is no frame is skipped. -/
theorem takeText_of_error {s : String} {error : FrameError} (h : Inbound.decode s = .error error)
    (handler : Handler σ) (r : Running σ) :
    r.takeText handler s = r.goOn [.frameSkipped (.ofFrameError error)] := by
  rw [takeText, handleText, h]
  rfl

/-- The run ends with an error of the transport. -/
def fail (r : Running σ) (error : StreamError) (notice : Notice) : Turn σ :=
  ⟨r, some (.error error), [notice]⟩

/-- Takes one reading, waiting no longer than the limit for it. -/
def take (handler : Handler σ) (limit : Option Duration) (r : Running σ) : Reading → Turn σ
  | .text s => r.takeText handler s
  | .binary octets =>
    match Text.Utf8.decode octets with
    | .ok s => r.takeText handler s
    | .error fault => r.goOn [.binaryDropped fault.message]
  | .keepalive => r.goOn []
  | .close reason => ⟨r, some (.ok .peerClosed), [.serverClosed reason]⟩
  | .failed reason =>
    let error := .transportClosed reason
    r.fail error (.readFailed error)
  | .silence =>
    match limit with
    | some limit => r.fail (.timeout limit) (.readFailed (.timeout limit))
    | none => r.goOn []

end Running

structure Finished (σ : Type) where
  result : Except StreamError StopReason
  running : Running σ
  unread : List Reading
  notices : List Notice

/-- Reads on from a point of a run. -/
def Running.follow {σ : Type} (handler : Handler σ) (limit : Option Duration) (shutdown : Shutdown)
    (progress : Progress) (r : Running σ) : List Reading → Finished σ
  | [] =>
    if shutdown progress then ⟨.ok .cancelled, r, [], [.shutdownRequested]⟩
    else ⟨.error (.transportClosed "stream ended"), r, [], [.streamEnded]⟩
  | reading :: rest =>
    if shutdown progress then ⟨.ok .cancelled, r, reading :: rest, [.shutdownRequested]⟩
    else
      let turn := r.take handler limit reading
      match turn.ending with
      | some result => ⟨result, turn.running, rest, turn.notices⟩
      | none =>
        let finished :=
          turn.running.follow handler limit shutdown (progress.next reading) rest
        { finished with notices := turn.notices ++ finished.notices }

/-- A run of a client with its result, and the state of the handler after it. -/
structure RunCall (σ : Type) extends Call (Except StreamError StopReason) where
  state : σ

/-- Reads and passes on frames until the run is asked to stop or the session ends. Only a run that
was asked to stop leaves the session open. -/
def Client.run {σ : Type} (c : Client) (handler : Handler σ) (state : σ) (shutdown : Shutdown) :
    RunCall σ :=
  match c.session with
  | none => { result := .error .notConnected, client := c, notices := [], state }
  | some transport =>
    let running : Running σ := ⟨transport, c.subscriptions, state⟩
    let finished :=
      running.follow handler c.endpoint.readLimit shutdown ⟨0, 0⟩ transport.incoming
    let client :=
      { c with
        session := some { finished.running.transport with incoming := finished.unread }
        subscriptions := finished.running.subscriptions }
    { result := finished.result
      client := match finished.result with
        | .ok .cancelled => client
        | _ => client.drop
      notices := finished.notices
      state := finished.running.state }

end MarketFeed

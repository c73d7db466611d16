import MarketFeed.Proofs.RequestHistory
import MarketFeed.Proofs.RunSoFar

/-!
# The life of a client

Phase, session and requests are kept in three places and changed by five calls. A call comes to one
of six moves: the client stays as it is, is refused a session, opens one, asks for a channel, gives
one up, or ends its session. Every exit of every call is one of them, and everything that holds
after any row of calls is shown for the moves.

The calls that succeed make a log, and what came after the last success in connecting is the log of
the present session. It tells the phase of an open client and the channels that it lists.
-/
namespace MarketFeed

variable {σ : Type}

theorem Subscriptions.channels_see (s : Subscriptions) (delivery : FrameKind × MarketEvent) :
    (s.see delivery).channels = s.channels := by
  obtain ⟨kind, event⟩ := delivery
  cases kind with
  | snapshot => exact s.channels_confirm event
  | update => rfl

theorem Running.channels_undergo (handler : Handler σ) (r : Running σ) (effect : Effect) :
    (r.undergo handler effect).1.subscriptions.channels = r.subscriptions.channels := by
  cases effect with
  | delivery kind event => exact r.subscriptions.channels_see (kind, event)
  | nothing => rfl
  | ping => rfl
  | ending result => rfl

theorem Running.channels_account (handler : Handler σ) (limit : Option Duration) (token : Shutdown)
    (progress : Progress) (r : Running σ) (readings : List Reading) :
    (r.account handler limit token progress readings).running.subscriptions.channels =
      r.subscriptions.channels := by
  induction readings generalizing progress r with
  | nil =>
    rw [account_nil]
    split <;> rfl
  | cons reading rest ih =>
    have hstep := r.channels_undergo handler (reading.effect limit)
    rw [account_cons]
    split
    · rfl
    · cases hundergo : r.undergo handler (reading.effect limit) with
      | mk next ending =>
        rw [hundergo] at hstep
        cases ending with
        | some result => exact hstep
        | none => exact (ih (progress.next reading) next).trans hstep

namespace Client

/-- A call of a client, with what the world outside does in it. -/
inductive Action : Type 1 where
  | connect (handshake : Handshake)
  | subscribe (channel : Channel)
  | unsubscribe (channel : Channel)
  | run {σ : Type} (handler : Handler σ) (state : σ) (shutdown : Shutdown)
  | close

/-- The call tries to open a session, which it does not when the endpoint has no URL. -/
def Action.dials (endpoint : Endpoint) : Action → Bool
  | connect _ => endpoint.url.isOk
  | _ => false

/-- A call that succeeded and that the session keeps in mind. -/
inductive Success where
  | connected
  | subscribed (channel : Channel)
  | unsubscribed (channel : Channel)
  deriving DecidableEq, Repr

def after (c : Client) : Action → Client
  | .connect handshake => (c.connect handshake).client
  | .subscribe channel => (c.subscribe channel).client
  | .unsubscribe channel => (c.unsubscribe channel).client
  | .run handler state shutdown => (c.run handler state shutdown).client
  | .close => c.close.client

def afterAll (c : Client) (actions : List Action) : Client := actions.foldl after c

def success? (c : Client) : Action → Option Success
  | .connect handshake => if (c.connect handshake).result.isOk then some .connected else none
  | .subscribe channel =>
    if (c.subscribe channel).result.isOk then some (.subscribed channel) else none
  | .unsubscribe channel =>
    if (c.unsubscribe channel).result.isOk then some (.unsubscribed channel) else none
  | .run .. | .close => none

/-- The successes in a row of calls, in order. -/
def successes (c : Client) : List Action → List Success
  | [] => []
  | action :: rest => (c.success? action).toList ++ (c.after action).successes rest

/-- What succeeded since the last time that connecting did. -/
def thisSession (log : List Success) : List Success := log.rtakeWhile (· != .connected)

def Success.request? : Success → Option Subscriptions.Event
  | connected => none
  | subscribed channel => some (.request channel)
  | unsubscribed channel => some (.remove channel)

/-- What was requested and removed in the present session. -/
def requested (log : List Success) : List Subscriptions.Event :=
  (thisSession log).filterMap Success.request?

theorem afterAll_concat (c : Client) (actions : List Action) (action : Action) :
    c.afterAll (actions ++ [action]) = (c.afterAll actions).after action := by
  simp [afterAll]

theorem successes_concat (c : Client) (actions : List Action) (action : Action) :
    c.successes (actions ++ [action]) =
      c.successes actions ++ ((c.afterAll actions).success? action).toList := by
  induction actions generalizing c with
  | nil => simp [successes, afterAll]
  | cons first rest ih =>
    rw [List.cons_append, successes, ih, successes, List.append_assoc]
    rfl

@[simp] theorem thisSession_connected (log : List Success) :
    thisSession (log ++ [.connected]) = [] := by
  simp [thisSession]

theorem thisSession_concat {success : Success} (h : success ≠ .connected) (log : List Success) :
    thisSession (log ++ [success]) = thisSession log ++ [success] := by
  unfold thisSession
  rw [List.rtakeWhile_concat, if_pos (by simpa using h)]

@[simp] theorem requested_connected (log : List Success) :
    requested (log ++ [.connected]) = [] := by
  simp [requested]

theorem requested_concat {success : Success} {event : Subscriptions.Event}
    (h : success.request? = some event) (log : List Success) :
    requested (log ++ [success]) = requested log ++ [event] := by
  have hsuccess : success ≠ .connected := by
    rintro rfl
    simp [Success.request?] at h
  simp [requested, thisSession_concat hsuccess, h]

theorem subscribed_of_lastNaming? {log : List Success} {channel : Channel}
    (h : Subscriptions.lastNaming? channel (requested log) = some (.request channel)) :
    .subscribed channel ∈ thisSession log := by
  have hrequest : .request channel ∈ requested log :=
    List.mem_of_mem_filter (List.mem_of_getLast? h)
  obtain ⟨success, hsuccess, hevent⟩ := List.mem_filterMap.mp hrequest
  cases success with
  | connected => simp [Success.request?] at hevent
  | unsubscribed other => simp [Success.request?] at hevent
  | subscribed other =>
    obtain rfl : other = channel := by simpa [Success.request?] using hevent
    exact hsuccess

/-- What a call makes of a client, with the success that it is. -/
inductive Move (c next : Client) : Option Success → Prop where
  | still (phase : next.phase = c.phase) (session : next.session.isSome = c.session.isSome)
      (channels : next.subscriptions.channels = c.subscriptions.channels) : Move c next none
  | refused (phase : next.phase = .disconnected) (session : next.session = none) :
      Move c next none
  | opened (phase : next.phase = .connected) (session : next.session.isSome = true)
      (subscriptions : next.subscriptions = .empty) : Move c next (some .connected)
  | subscribed (channel : Channel) (before : c.session.isSome = true)
      (phase : next.phase = c.phase.after .subscribed) (session : next.session.isSome = true)
      (subscriptions : next.subscriptions = c.subscriptions.request channel) :
      Move c next (some (.subscribed channel))
  | unsubscribed (channel : Channel) (before : c.session.isSome = true)
      (phase : next.phase = c.phase) (session : next.session.isSome = true)
      (subscriptions : next.subscriptions = c.subscriptions.remove channel) :
      Move c next (some (.unsubscribed channel))
  | ended (phase : next.phase = .closed) (session : next.session = none) : Move c next none

theorem Move.stay (c : Client) : Move c c none := .still rfl rfl rfl

theorem move_connect (c : Client) (handshake : Handshake) :
    Move c (c.connect handshake).client (c.success? (.connect handshake)) := by
  change Move c (c.connect handshake).client
    (if (c.connect handshake).result.isOk then some .connected else none)
  unfold connect
  by_cases hheld : c.session.isSome = true
  · rw [if_pos hheld]
    exact .stay c
  · have hnone : c.session = none := by simpa using hheld
    rw [if_neg hheld]
    cases c.endpoint.url with
    | error error => exact .stay c
    | ok url =>
      cases hanswer : c.endpoint.openTransport url handshake with
      | error error =>
        simp only [hanswer]
        exact .refused rfl hnone
      | ok transport =>
        simp only [hanswer]
        exact .opened rfl rfl rfl

/-- A request goes out on a session that stays open, or fails and changes nothing but what was
written. -/
theorem send_cases (c : Client) (frame : Outbound) :
    ((c.send frame).result = .ok () ∧ c.session.isSome = true ∧
      (c.send frame).client.session.isSome = true ∧ (c.send frame).client.phase = c.phase) ∨
    ∃ error, (c.send frame).result = .error error ∧ Move c (c.send frame).client none := by
  unfold send
  cases hheld : c.session with
  | none => exact .inr ⟨.notConnected, rfl, .stay c⟩
  | some transport =>
    have hbefore : c.session.isSome = true := by rw [hheld]; rfl
    cases hfault : transport.nextFault with
    | none => exact .inl (by simp [hfault])
    | some reason =>
      simp only [hfault]
      exact .inr ⟨.transportClosed reason, rfl, .still rfl hbefore.symm rfl⟩

theorem move_subscribe (c : Client) (channel : Channel) :
    Move c (c.subscribe channel).client (c.success? (.subscribe channel)) := by
  unfold success? subscribe
  obtain ⟨hsent, hbefore, hheld, hphase⟩ | ⟨error, hfailed, hmove⟩ :=
    c.send_cases (.subscribe channel)
  · simp only [hsent]
    exact .subscribed channel hbefore (congrArg (·.after .subscribed) hphase) hheld rfl
  · simp only [hfailed]
    exact hmove

theorem move_unsubscribe (c : Client) (channel : Channel) :
    Move c (c.unsubscribe channel).client (c.success? (.unsubscribe channel)) := by
  unfold success? unsubscribe
  obtain ⟨hsent, hbefore, hheld, hphase⟩ | ⟨error, hfailed, hmove⟩ :=
    c.send_cases (.unsubscribe channel)
  · simp only [hsent]
    exact .unsubscribed channel hbefore hphase hheld rfl
  · simp only [hfailed]
    exact hmove

theorem move_run (c : Client) (handler : Handler σ) (state : σ) (shutdown : Shutdown) :
    Move c (c.run handler state shutdown).client none := by
  cases hheld : c.session with
  | none =>
    unfold run
    rw [hheld]
    exact .stay c
  | some t =>
    have hleave := (run_held hheld handler state shutdown).2.1
    rw [hleave]
    by_cases hcancelled : (c.account t handler state shutdown).result = .ok .cancelled
    · rw [c.leave_of_cancelled hcancelled]
      refine .still rfl ?_ (Running.channels_account _ _ _ _ _ _)
      rw [hheld]
      rfl
    · rw [c.leave_of_ne_cancelled hcancelled]
      exact .ended rfl rfl

theorem move_close (c : Client) : Move c c.close.client none := by
  unfold close
  cases hheld : c.session with
  | none => exact .ended rfl hheld
  | some transport => exact .ended rfl rfl

theorem move_after (c : Client) (action : Action) :
    Move c (c.after action) (c.success? action) := by
  cases action with
  | connect handshake => exact c.move_connect handshake
  | subscribe channel => exact c.move_subscribe channel
  | unsubscribe channel => exact c.move_unsubscribe channel
  | run handler state shutdown => exact c.move_run handler state shutdown
  | close => exact c.move_close

/-- Phase, session and requests fit together and fit the log. -/
structure Consistent (c : Client) (log : List Success) : Prop where
  isSome_eq : c.session.isSome = c.phase.isOpen
  settled : c.phase ≠ .connecting
  streaming_iff : c.phase = .streaming ↔
    c.session.isSome = true ∧ ∃ channel, .subscribed channel ∈ thisSession log
  channels_eq : c.session.isSome = true →
    c.subscriptions.channels = (Subscriptions.ofHistory (requested log)).channels

theorem consistent_start (endpoint : Endpoint) : Consistent (start endpoint) [] where
  isSome_eq := rfl
  settled := by simp [start]
  streaming_iff := by simp [start]
  channels_eq := by simp [start]

theorem consistent_of_not_held {c : Client} {log : List Success} (hsession : c.session = none)
    (hphase : c.phase = .disconnected ∨ c.phase = .closed) : Consistent c log := by
  refine ⟨?_, ?_, ?_, ?_⟩
  · rw [hsession]
    rcases hphase with h | h <;> rw [h] <;> rfl
  · rcases hphase with h | h <;> rw [h] <;> simp
  · rcases hphase with h | h <;> simp [h, hsession]
  · simp [hsession]

theorem Consistent.move {c next : Client} {log : List Success} {success : Option Success}
    (h : Consistent c log) (hmove : Move c next success) :
    Consistent next (log ++ success.toList) := by
  cases hmove with
  | still phase session channels =>
    rw [Option.toList_none, List.append_nil]
    refine ⟨?_, ?_, ?_, ?_⟩
    · rw [session, phase, h.isSome_eq]
    · rw [phase]
      exact h.settled
    · rw [phase, session]
      exact h.streaming_iff
    · rw [session, channels]
      exact h.channels_eq
  | refused phase session => exact consistent_of_not_held session (.inl phase)
  | ended phase session => exact consistent_of_not_held session (.inr phase)
  | opened phase session subscriptions =>
    rw [Option.toList_some]
    refine ⟨?_, ?_, ?_, fun _ => ?_⟩
    · rw [session, phase]
      rfl
    · simp [phase]
    · simp [phase]
    · rw [subscriptions, requested_connected]
      rfl
  | subscribed channel before phase session subscriptions =>
    have hopen : c.phase.isOpen = true := h.isSome_eq.symm.trans before
    have hstreaming : next.phase = .streaming := by
      rw [phase]
      cases hphase : c.phase with
      | connected => rfl
      | streaming => rfl
      | disconnected | connecting | closed =>
        rw [hphase] at hopen
        simp [Phase.isOpen] at hopen
    rw [Option.toList_some]
    refine ⟨?_, ?_, ?_, fun _ => ?_⟩
    · rw [session, hstreaming]
      rfl
    · simp [hstreaming]
    · rw [thisSession_concat (by simp)]
      exact iff_of_true hstreaming ⟨session, channel, by simp⟩
    · rw [subscriptions, requested_concat rfl, Subscriptions.ofHistory_concat,
        Subscriptions.after, Subscriptions.channels_request, Subscriptions.channels_request,
        h.channels_eq before]
  | unsubscribed channel before phase session subscriptions =>
    rw [Option.toList_some]
    refine ⟨?_, ?_, ?_, fun _ => ?_⟩
    · rw [phase, session, ← before]
      exact h.isSome_eq
    · rw [phase]
      exact h.settled
    · rw [phase, session, thisSession_concat (by simp), h.streaming_iff, before]
      simp
    · rw [subscriptions, requested_concat rfl, Subscriptions.ofHistory_concat,
        Subscriptions.after, Subscriptions.channels_remove, Subscriptions.channels_remove,
        h.channels_eq before]

theorem consistent_afterAll (endpoint : Endpoint) (actions : List Action) :
    Consistent ((start endpoint).afterAll actions) ((start endpoint).successes actions) := by
  induction actions using List.reverseRecOn with
  | nil => exact consistent_start endpoint
  | append_singleton actions action ih =>
    rw [afterAll_concat, successes_concat]
    exact ih.move (move_after _ action)

/-- A client without a session stays as it is until it dials, unless it is closed. -/
theorem after_of_not_held {c : Client} {action : Action} (hsession : c.session = none)
    (hdials : action.dials c.endpoint = false) :
    c.after action = c ∨ c.after action = c.enter .close := by
  cases action with
  | connect handshake =>
    left
    simp only [after, connect, hsession]
    cases hurl : c.endpoint.url with
    | error error => rfl
    | ok url => simp [Action.dials, hurl, Except.isOk, Except.toBool] at hdials
  | subscribe channel =>
    left
    simp only [after, subscribe, send, hsession]
  | unsubscribe channel =>
    left
    simp only [after, unsubscribe, send, hsession]
  | run handler state shutdown =>
    left
    simp only [after, run, hsession]
  | close =>
    right
    simp only [after, close, hsession]

theorem closed_afterAll {c : Client} (hphase : c.phase = .closed) (hsession : c.session = none)
    {actions : List Action} (hdials : ∀ action ∈ actions, action.dials c.endpoint = false) :
    (c.afterAll actions).phase = .closed ∧ (c.afterAll actions).session = none := by
  induction actions generalizing c with
  | nil => exact ⟨hphase, hsession⟩
  | cons action rest ih =>
    have hfirst : action.dials c.endpoint = false := hdials action (.head _)
    have hrest : ∀ later ∈ rest, later.dials c.endpoint = false :=
      fun later hlater => hdials later (.tail _ hlater)
    rw [show c.afterAll (action :: rest) = (c.after action).afterAll rest from rfl]
    rcases after_of_not_held hsession hfirst with hsame | hclosed
    · rw [hsame]
      exact ih hphase hsession hrest
    · rw [hclosed]
      exact ih rfl hsession hrest

/-- Dialling opens a session that remembers nothing, or fails and leaves none. -/
theorem connect_of_not_held {c : Client} (hsession : c.session = none) {url : Url}
    (hurl : c.endpoint.url = .ok url) (handshake : Handshake) :
    (∃ transport, c.endpoint.openTransport url handshake = .ok transport ∧
      (c.connect handshake).result = .ok () ∧
      (c.connect handshake).client.phase = .connected ∧
      (c.connect handshake).client.session = some transport ∧
      (c.connect handshake).client.subscriptions = .empty) ∨
    ∃ error, (c.connect handshake).result = .error error ∧
      (c.connect handshake).client.phase = .disconnected ∧
      (c.connect handshake).client.session = none := by
  unfold connect
  rw [hsession, hurl]
  cases hanswer : c.endpoint.openTransport url handshake with
  | ok transport => exact .inl ⟨transport, rfl, by simp [hanswer, enter, Phase.after]⟩
  | error error => exact .inr ⟨error, by simp [hanswer, enter, Phase.after, hsession]⟩

theorem connect_of_ok {c : Client} {handshake : Handshake}
    (h : (c.connect handshake).result = .ok ()) :
    c.session = none ∧ ∃ url, c.endpoint.url = .ok url := by
  unfold connect at h
  by_cases hheld : c.session.isSome = true
  · simp [hheld] at h
  · cases hurl : c.endpoint.url with
    | error error => simp [hheld, hurl] at h
    | ok url => exact ⟨by simpa using hheld, url, rfl⟩

theorem connect_opened {c : Client} {handshake : Handshake}
    (hok : (c.connect handshake).result = .ok ()) :
    (c.connect handshake).client.phase = .connected ∧
      (c.connect handshake).client.subscriptions = .empty ∧
      ∃ url transport, c.endpoint.openTransport url handshake = .ok transport ∧
        (c.connect handshake).client.session = some transport := by
  obtain ⟨hsession, url, hurl⟩ := connect_of_ok hok
  obtain ⟨transport, hanswer, -, hphase, hheld, hempty⟩ | ⟨error, herror, -⟩ :=
    connect_of_not_held hsession hurl handshake
  · exact ⟨hphase, hempty, url, transport, hanswer, hheld⟩
  · rw [hok] at herror
    cases herror

theorem connect_of_dials {c : Client} {handshake : Handshake} (hsession : c.session = none)
    (hdials : (Action.connect handshake).dials c.endpoint) :
    (c.connect handshake).result = .ok () ∧
        (c.connect handshake).client.phase = .connected ∧
        (c.connect handshake).client.session.isSome = true ∨
      (∃ error, (c.connect handshake).result = .error error) ∧
        (c.connect handshake).client.phase = .disconnected ∧
        (c.connect handshake).client.session = none := by
  cases hurl : c.endpoint.url with
  | error error => simp [Action.dials, hurl, Except.isOk, Except.toBool] at hdials
  | ok url =>
    obtain ⟨transport, -, hok, hconnected, hheld, -⟩ | ⟨error, herror, hrefused, hnone⟩ :=
      connect_of_not_held hsession hurl handshake
    · exact .inl ⟨hok, hconnected, by rw [hheld]; rfl⟩
    · exact .inr ⟨⟨error, herror⟩, hrefused, hnone⟩

namespace Consistent
variable {c : Client} {log : List Success} (h : Consistent c log)
include h

theorem held_iff : c.session.isSome = true ↔ c.phase = .connected ∨ c.phase = .streaming := by
  rw [h.isSome_eq]
  cases c.phase <;> simp [Phase.isOpen]

theorem session_of_closed (hphase : c.phase = .closed) : c.session = none := by
  have hnone : c.session.isSome = false := by
    rw [h.isSome_eq, hphase]
    rfl
  simpa using hnone

/-- A listed channel was asked for in this session, and the first to be asked for would have made
the client stream. -/
theorem empty_of_connected (hphase : c.phase = .connected) : c.subscriptions = .empty := by
  have hheld : c.session.isSome = true := h.held_iff.mpr (.inl hphase)
  apply Subscriptions.eq_empty
  rw [List.eq_nil_iff_forall_not_mem]
  intro channel hlisted
  rw [h.channels_eq hheld, Subscriptions.mem_channels_ofHistory] at hlisted
  have hstreaming := h.streaming_iff.mpr ⟨hheld, channel, subscribed_of_lastNaming? hlisted⟩
  rw [hphase] at hstreaming
  cases hstreaming

end Consistent

/-- What holds of a client after calls of which these are the successes. -/
structure Lifecycle (c : Client) (log : List Success) : Prop where
  held_iff : c.session.isSome = true ↔ c.phase = .connected ∨ c.phase = .streaming
  isConnected_eq : c.isConnected = c.phase.isOpen
  settled : c.phase ≠ .connecting
  streaming_iff : c.phase = .streaming ↔
    c.session.isSome = true ∧ ∃ channel, .subscribed channel ∈ thisSession log
  /-- A channel is listed when the last that succeeded for it in this session is a request. -/
  mem_channels_iff : c.session.isSome = true → ∀ channel,
    channel ∈ c.subscriptions.channels ↔
      Subscriptions.lastNaming? channel (requested log) = some (.request channel)
  channels_nodup : c.session.isSome = true → c.subscriptions.channels.Nodup
  /-- The channels stand in the order of the first requests since they were removed last. -/
  channels_ordered : c.session.isSome = true → c.subscriptions.channels.Pairwise fun a b =>
    (Subscriptions.tenure b (requested log)).length <
      (Subscriptions.tenure a (requested log)).length
  connected_empty : c.phase = .connected → c.subscriptions = .empty
  /-- A session that is opened is the one just dialled and remembers nothing. -/
  reopened : ∀ handshake, (c.connect handshake).result = .ok () →
    (c.connect handshake).client.phase = .connected ∧
      (c.connect handshake).client.subscriptions = .empty ∧
      ∃ url transport, c.endpoint.openTransport url handshake = .ok transport ∧
        (c.connect handshake).client.session = some transport
  closed_stays : c.phase = .closed → c.session = none ∧
    ∀ more : List Action, (∀ action ∈ more, action.dials c.endpoint = false) →
      (c.afterAll more).phase = .closed ∧ (c.afterAll more).session = none
  closed_dials : c.phase = .closed → ∀ handshake, (Action.connect handshake).dials c.endpoint →
    (c.connect handshake).result = .ok () ∧
        (c.connect handshake).client.phase = .connected ∧
        (c.connect handshake).client.session.isSome = true ∨
      (∃ error, (c.connect handshake).result = .error error) ∧
        (c.connect handshake).client.phase = .disconnected ∧
        (c.connect handshake).client.session = none

/-- Whatever is called in whatever order, and however handshakes, reads and writes come out, phase,
session and requests of a client agree with the calls that succeeded. -/
theorem lifecycle (endpoint : Endpoint) (actions : List Action) :
    Lifecycle ((start endpoint).afterAll actions) ((start endpoint).successes actions) := by
  have h := consistent_afterAll endpoint actions
  generalize (start endpoint).afterAll actions = c at h ⊢
  generalize (start endpoint).successes actions = log at h ⊢
  refine
    { held_iff := h.held_iff
      isConnected_eq := ?connected
      settled := h.settled
      streaming_iff := h.streaming_iff
      mem_channels_iff := ?listed
      channels_nodup := ?nodup
      channels_ordered := ?ordered
      connected_empty := h.empty_of_connected
      reopened := fun handshake hok => connect_opened hok
      closed_stays := ?stays
      closed_dials := ?dials }
  case connected =>
    unfold isConnected
    rw [h.isSome_eq, Bool.and_self]
  case listed =>
    intro hheld channel
    rw [h.channels_eq hheld]
    exact Subscriptions.mem_channels_ofHistory _ channel
  case nodup =>
    intro hheld
    rw [h.channels_eq hheld]
    exact Subscriptions.channels_nodup_ofHistory _
  case ordered =>
    intro hheld
    rw [h.channels_eq hheld]
    exact Subscriptions.channels_pairwise_ofHistory _
  case stays =>
    intro hphase
    have hsession := h.session_of_closed hphase
    exact ⟨hsession, fun more hmore => closed_afterAll hphase hsession hmore⟩
  case dials =>
    intro hphase handshake hdials
    exact connect_of_dials (h.session_of_closed hphase) hdials

end Client
end MarketFeed

import MarketFeed.Frame.Inbound

/-!
# Requested channels

A request is never acknowledged as such. The channels that were requested are kept in the order of
their requests, each pending until a snapshot that covers it is seen.

A snapshot whose echoed channel names one of its own topic covers that channel alone. Any other
snapshot covers every channel of its topic.
-/
namespace MarketFeed

inductive SubscriptionStatus where
  /-- No snapshot yet. -/
  | pending
  /-- A snapshot was seen. -/
  | active
  deriving DecidableEq, Repr

/-- The channel that an event names by its echo, if that is one of the topic of the event. -/
def MarketEvent.echoed? (event : MarketEvent) : Option Channel :=
  (event.channel.bind fun text => (Channel.parse text).toOption).filter
    fun channel => channel.topic == event.topic

def MarketEvent.covers (event : MarketEvent) (channel : Channel) : Bool :=
  match event.echoed? with
  | some echoed => channel == echoed
  | none => channel.topic == event.topic

/-- Requested channels in the order of their requests. -/
structure Subscriptions where
  entries : List (Channel × SubscriptionStatus)
  deriving DecidableEq, Repr

namespace Subscriptions

def empty : Subscriptions := ⟨[]⟩

def status? (s : Subscriptions) (channel : Channel) : Option SubscriptionStatus :=
  (s.entries.find? fun entry => entry.1 == channel).map Prod.snd

def tracks (s : Subscriptions) (channel : Channel) : Bool := (s.status? channel).isSome

/-- Adds a channel behind the others, unless it is there. -/
def request (s : Subscriptions) (channel : Channel) : Subscriptions :=
  if s.tracks channel then s else ⟨s.entries ++ [(channel, .pending)]⟩

def remove (s : Subscriptions) (channel : Channel) : Subscriptions :=
  ⟨s.entries.filter fun entry => entry.1 != channel⟩

/-- The entry waits for a snapshot and the event is one for it. -/
def isConfirmedBy (event : MarketEvent) (entry : Channel × SubscriptionStatus) : Bool :=
  event.covers entry.1 && entry.2 == .pending

def confirm (s : Subscriptions) (event : MarketEvent) : Subscriptions :=
  ⟨s.entries.map fun entry =>
    if isConfirmedBy event entry then (entry.1, .active) else entry⟩

def confirmed (s : Subscriptions) (event : MarketEvent) : List Channel :=
  (s.entries.filter (isConfirmedBy event)).map Prod.fst

def channels (s : Subscriptions) : List Channel := s.entries.map Prod.fst

def length (s : Subscriptions) : Nat := s.entries.length

def isEmpty (s : Subscriptions) : Bool := s.entries.isEmpty

def pendingCount (s : Subscriptions) : Nat :=
  (s.entries.filter fun entry => entry.2 == .pending).length

inductive Event where
  | request (channel : Channel)
  | remove (channel : Channel)
  | confirm (event : MarketEvent)
  deriving DecidableEq, Repr

def after (s : Subscriptions) : Event → Subscriptions
  | .request channel => s.request channel
  | .remove channel => s.remove channel
  | .confirm event => s.confirm event

inductive Reply where
  | requested (isNew : Bool)
  | removed (wasThere : Bool)
  | confirmed (channels : List Channel)
  deriving DecidableEq, Repr

/-- A removal tells by the length of the list whether it took anything away. -/
def reply (s : Subscriptions) : Event → Reply
  | .request channel => .requested !(s.tracks channel)
  | .remove channel => .removed ((s.remove channel).length != s.length)
  | .confirm event => .confirmed (s.confirmed event)

def ofHistory (events : List Event) : Subscriptions := events.foldl after empty

@[simp] theorem channels_confirm (s : Subscriptions) (event : MarketEvent) :
    (s.confirm event).channels = s.channels := by
  simp only [channels, confirm, List.map_map]
  apply List.map_congr_left
  intro entry _
  simp only [Function.comp]
  split <;> rfl

end Subscriptions
end MarketFeed

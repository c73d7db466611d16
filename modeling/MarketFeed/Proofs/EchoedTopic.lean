import MarketFeed.Proofs.ChannelGrammar
import MarketFeed.Proofs.ConfirmationOrder
import MarketFeed.Proofs.FrameClasses

/-!
# The topic of an echo

The channel that a frame echoes is looked at twice. A frame whose type decides nothing is taken for
a snapshot of the topic whose name begins the echo, and the list of requests reads the echo as a
channel in order to confirm what it names. Both find the same topic: a text that is read as a
channel begins with the name of its topic, and no text begins with two names.

So such a snapshot never confirms a channel of another topic, whatever its echo looks like behind
the name.
-/
namespace MarketFeed

theorem Topic.find?_eq_leading? {order : List Topic} (hall : ∀ topic, topic ∈ order) (s : String) :
    (order.find? fun topic => topic.name.toList.isPrefixOf s.toList) = leading? s := by
  apply Option.ext
  intro topic
  rw [leading?_eq_some]
  constructor
  · intro hfound
    have hprefix := List.find?_some hfound
    exact List.isPrefixOf_iff_prefix.mp hprefix
  · intro hprefix
    cases hfound : order.find? fun topic => topic.name.toList.isPrefixOf s.toList with
    | none =>
      have hnot := List.find?_eq_none.mp hfound topic (hall topic)
      exact absurd (List.isPrefixOf_iff_prefix.mpr hprefix) hnot
    | some other =>
      have hother := List.find?_some hfound
      rw [eq_of_prefixes (List.isPrefixOf_iff_prefix.mp hother) hprefix]

/-- A channel is read under the name that begins its text. -/
theorem Channel.leading?_of_parse {s : String} {c : Channel} (h : parse s = .ok c) :
    Topic.leading? s = some c.topic := by
  rw [Topic.leading?_eq_some]
  cases parse_eq_iff.mp h with
  | channel hcut htarget =>
    obtain ⟨separator, -, htext, -⟩ := hcut
    rw [htext]
    exact List.prefix_append _ _

namespace MarketEvent

variable {event : MarketEvent} {channel : Channel}

theorem covers_of_names (h : event.Names channel) :
    event.covers = fun other => other == channel := by
  funext other
  rw [covers, echoed?_eq_some.mpr h]

theorem covers_of_not_names (h : ∀ channel, ¬event.Names channel) :
    event.covers = fun other => other.topic == event.topic := by
  have hnone : event.echoed? = none := by
    rw [Option.eq_none_iff_forall_ne_some]
    exact fun channel hechoed => h channel (echoed?_eq_some.mp hechoed)
  funext other
  rw [covers, hnone]

end MarketEvent

/-- What a snapshot makes active and reports, told from its echo. -/
structure Subscriptions.FollowsEcho (s : Subscriptions) (event : MarketEvent) (echo : String) :
    Prop where
  of_channel : ∀ channel, Channel.parse echo = .ok channel →
    channel.topic = event.topic ∧
      s.confirm event = s.activate (fun other => other == channel) ∧
      s.confirmed event = s.pending.filter fun other => other == channel
  of_no_channel : (∀ channel, Channel.parse echo ≠ .ok channel) →
    s.confirm event = s.activate (fun other => other.topic == event.topic) ∧
      s.confirmed event = s.pending.filter fun other => other.topic == event.topic
  other_topics : ∀ other : Channel, other.topic ≠ event.topic →
    (s.confirm event).status? other = s.status? other ∧ other ∉ s.confirmed event

theorem Subscriptions.followsEcho_of_leading? (s : Subscriptions) {event : MarketEvent}
    {echo : String} (hechoed : event.channel = some echo)
    (hleading : Topic.leading? echo = some event.topic) : s.FollowsEcho event echo := by
  refine ⟨?channel, ?noChannel, ?others⟩
  case channel =>
    intro channel hparse
    have htopic : channel.topic = event.topic :=
      Option.some.inj ((Channel.leading?_of_parse hparse).symm.trans hleading)
    have hcovers := MarketEvent.covers_of_names ⟨echo, hechoed, hparse, htopic⟩
    rw [confirm_eq_activate, confirmed_eq_filter_pending, hcovers]
    exact ⟨htopic, rfl, rfl⟩
  case noChannel =>
    intro hnone
    have hnames : ∀ channel, ¬event.Names channel := by
      rintro channel ⟨text, htext, hparse, -⟩
      obtain rfl : echo = text := Option.some.inj (hechoed.symm.trans htext)
      exact hnone channel hparse
    rw [confirm_eq_activate, confirmed_eq_filter_pending, MarketEvent.covers_of_not_names hnames]
    exact ⟨rfl, rfl⟩
  case others =>
    intro other hother
    have hcovers : event.covers other = false := by
      rw [← Bool.not_eq_true, MarketEvent.covers_iff]
      exact fun h => hother h.1
    constructor
    · rw [status?_confirm, hcovers]
      simp
    · rw [confirmed_eq_filter_pending, List.mem_filter, hcovers]
      simp

/-- Market data whose type decides nothing is a snapshot of the topic that begins its echo. -/
theorem Envelope.echo_of_not_exact {text : String} {envelope : Envelope} {kind : FrameKind}
    {event : MarketEvent} (hparse : parse text = .ok envelope) (hkind : ¬ExactType envelope.kind)
    (hdecode : Inbound.decode text = .ok (.market kind event)) :
    kind = .snapshot ∧
      ∃ echo, event.channel = some echo ∧ Topic.leading? echo = some event.topic := by
  obtain ⟨-, hnull⟩ := parse_ne_null hparse
  rw [Inbound.decode_of_parse hparse, ofEnvelope_of_not_exact hkind] at hdecode
  cases hleading : envelope.channel.bind Topic.leading? with
  | none =>
    rw [hleading] at hdecode
    cases hdecode
  | some topic =>
    rw [hleading] at hdecode
    obtain ⟨payload, hpayload, hmessage⟩ := Inbound.decodeMarket_eq_ok hdecode
    obtain ⟨rfl, rfl⟩ := Inbound.market.inj hmessage
    obtain ⟨echo, hechoed, htopic⟩ := Option.bind_eq_some_iff.mp hleading
    rw [decodePayload_eq_read hnull] at hpayload
    obtain rfl : payload.topic = topic := topic_of_read hpayload
    exact ⟨rfl, echo, hechoed, htopic⟩

/-- No text begins with the names of two topics, so they may be tried in any order, and a text that
is read as a channel begins with the name of its topic. A frame that is market data for its echo is
therefore a snapshot of the topic under which the echo is read, and confirms the channel that it
names. An echo that cannot be read as a channel confirms all of that topic, and no echo confirms a
channel of another. -/
theorem echo_has_one_topic :
    (∀ (s : String) (topic other : Topic), topic.name.toList <+: s.toList →
      other.name.toList <+: s.toList → topic = other) ∧
    (∀ order : List Topic, (∀ topic, topic ∈ order) → ∀ s : String,
      (order.find? fun topic => topic.name.toList.isPrefixOf s.toList) = Topic.leading? s) ∧
    (∀ (s : String) (c : Channel), Channel.parse s = .ok c → Topic.leading? s = some c.topic) ∧
    ∀ (text : String) (envelope : Envelope) (kind : FrameKind) (event : MarketEvent),
      Envelope.parse text = .ok envelope → ¬ExactType envelope.kind →
      Inbound.decode text = .ok (.market kind event) →
        kind = .snapshot ∧ ∃ echo, event.channel = some echo ∧
          Topic.leading? echo = some event.topic ∧
          ∀ s : Subscriptions, s.FollowsEcho event echo := by
  refine ⟨?names, ?order, ?channel, ?frame⟩
  case names => exact fun s topic other htopic hother => Topic.eq_of_prefixes htopic hother
  case order => exact fun order hall s => Topic.find?_eq_leading? hall s
  case channel => exact fun s c hparse => Channel.leading?_of_parse hparse
  case frame =>
    intro text envelope kind event hparse hkind hdecode
    obtain ⟨hsnapshot, echo, hechoed, hleading⟩ :=
      Envelope.echo_of_not_exact hparse hkind hdecode
    exact ⟨hsnapshot, echo, hechoed, hleading, fun s => s.followsEcho_of_leading? hechoed hleading⟩

/-- Under a type that decides nothing an echo with a blank and a plus sign confirms the one channel
that it spells, and an echo with a letter too many confirms both channels of its topic. -/
theorem echo_has_one_topic_of_trades :
    let frame (echo : String) := "\x7b\"type\":\"update/x\",\"channel\":\"" ++ echo ++ "\"\x7d"
    let first := Channel.ofMarket .trade ⟨1, by decide, by decide⟩
    let second := Channel.ofMarket .trade ⟨7, by decide, by decide⟩
    let book := Channel.ofMarket .orderBook ⟨7, by decide, by decide⟩
    let s := Subscriptions.ofHistory [.request first, .request book, .request second]
    let snapshot (echo : String) : MarketEvent := ⟨some echo, .trades []⟩
    ¬ExactType "update/x" ∧
      Inbound.decode (frame "trade: +7") = .ok (.market .snapshot (snapshot "trade: +7")) ∧
      s.confirmed (snapshot "trade: +7") = [second] ∧
      Inbound.decode (frame "trades:7") = .ok (.market .snapshot (snapshot "trades:7")) ∧
      s.confirmed (snapshot "trades:7") = [first, second] := by
  intro frame first second book s snapshot
  have hexact : ¬ExactType "update/x" := by
    generalize htype : "update/x" = type
    rintro (_ | _ | _ | ⟨kind, topic⟩)
    · exact absurd htype (by decide)
    · exact absurd htype (by decide)
    · exact absurd htype (by decide)
    · cases kind <;> cases topic <;> exact absurd htype (by decide)
  have hfollows : ∀ echo,
      (Envelope.parse (frame echo)).toOption.map Envelope.kind = some "update/x" →
      Inbound.decode (frame echo) = .ok (.market .snapshot (snapshot echo)) →
        s.FollowsEcho (snapshot echo) echo := by
    intro echo hkind hdecode
    obtain ⟨envelope, hparse, hkind⟩ := Option.map_eq_some_iff.mp hkind
    obtain ⟨-, other, hother, -, hall⟩ := echo_has_one_topic.2.2.2 (frame echo) envelope .snapshot
      (snapshot echo) (Attempts.toOption_eq_some.mp hparse) (hkind ▸ hexact) hdecode
    obtain rfl : echo = other := Option.some.inj hother
    exact hall s
  have hnamed := Attempts.toOption_eq_some.mp (by decide +kernel :
    (Inbound.decode (frame "trade: +7")).toOption =
      some (.market .snapshot (snapshot "trade: +7")))
  have hunnamed := Attempts.toOption_eq_some.mp (by decide +kernel :
    (Inbound.decode (frame "trades:7")).toOption = some (.market .snapshot (snapshot "trades:7")))
  have hchannel : Channel.parse "trade: +7" = .ok second :=
    Attempts.toOption_eq_some.mp (by decide +kernel)
  have hnone : ∀ channel, Channel.parse "trades:7" ≠ .ok channel := by
    have hrefused : (Channel.parse "trades:7").toOption = none := by decide +kernel
    intro channel hparse
    rw [hparse] at hrefused
    cases hrefused
  refine ⟨hexact, hnamed, ?_, hunnamed, ?_⟩
  · rw [((hfollows _ (by decide +kernel) hnamed).of_channel second hchannel).2.2]
    decide +kernel
  · rw [((hfollows _ (by decide +kernel) hunnamed).of_no_channel hnone).2]
    decide +kernel

end MarketFeed

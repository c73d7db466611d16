import MarketFeed.Proofs.DecodedRecords
import MarketFeed.Proofs.TypedTopics

/-!
# What a frame is taken for

The type of a frame comes first. A type that is exact says alone what the frame is; any other type
leaves that to the channel, which either begins with the name of a topic or leaves the frame
unknown. These rules give every frame one class, and a frame that is decoded is a message of its
class. The payload is then looked for where the topic puts it, and it is the only thing that can
still be wrong.
-/
namespace MarketFeed

open Json (Decoder Value)

namespace Topic

theorem eq_of_leading_name {t u : Topic} (h : t.name.toList <+: u.name.toList) : t = u := by
  revert h
  cases t <;> cases u <;> decide

theorem eq_of_prefixes {t u : Topic} {cs : List Char} (ht : t.name.toList <+: cs)
    (hu : u.name.toList <+: cs) : t = u := by
  rcases List.prefix_or_prefix_of_prefix ht hu with h | h
  · exact eq_of_leading_name h
  · exact (eq_of_leading_name h).symm

theorem name_prefix_of_leading? {s : String} {t : Topic} (h : leading? s = some t) :
    t.name.toList <+: s.toList := by
  unfold leading? at h
  have hfound := List.find?_some h
  exact List.isPrefixOf_iff_prefix.mp hfound

theorem leading?_eq_some {s : String} {t : Topic} :
    leading? s = some t ↔ t.name.toList <+: s.toList := by
  constructor
  · exact name_prefix_of_leading?
  · intro h
    have hsome : (leading? s).isSome = true :=
      List.find?_isSome.mpr ⟨t, mem_all t, List.isPrefixOf_iff_prefix.mpr h⟩
    obtain ⟨u, hu⟩ := Option.isSome_iff_exists.mp hsome
    rw [hu, eq_of_prefixes (name_prefix_of_leading? hu) h]

end Topic

/-- A type that says alone what its frame is. -/
inductive ExactType : String → Prop
  | connected : ExactType "connected"
  | ping : ExactType "ping"
  | error : ExactType "error"
  | market (kind : FrameKind) (topic : Topic) : ExactType (kind.typeHead ++ topic.name)

inductive Inbound.Class where
  | connected
  | ping
  | market (kind : FrameKind) (topic : Topic)
  | error
  | unknown
  deriving DecidableEq, Repr

namespace Inbound

def toClass : Inbound → Class
  | connected => .connected
  | ping => .ping
  | market kind event => .market kind event.topic
  | error _ => .error
  | unknown _ => .unknown

/-- The message with another channel in the place of the one that was echoed. -/
def echoing (channel : Option String) : Inbound → Inbound
  | market kind event => market kind { event with channel }
  | message => message

end Inbound

/-- How the payload of a topic is read from what stands in its place. -/
def Payload.read (topic : Topic) (v : Option Value) : Except FrameError Payload :=
  match topic with
  | .orderBook => (Inbound.decodeObject OrderBook.decoder .empty v).map .book
  | .trade => (Inbound.decodeMany Trade.decoder v).map .trades
  | .marketStats => (Inbound.decodeMany MarketStats.decoder v).map .stats

namespace Envelope

/-- The channel of a frame whose type is not exact begins with the name of a topic. -/
def FallsBackTo (envelope : Envelope) (topic : Topic) : Prop :=
  ¬ExactType envelope.kind ∧
    ∃ channel, envelope.channel = some channel ∧ topic.name.toList <+: channel.toList

/-- The rules by which a frame has its class. -/
inductive Indicates (envelope : Envelope) : Inbound.Class → Prop
  | connected (h : envelope.kind = "connected") : Indicates envelope .connected
  | ping (h : envelope.kind = "ping") : Indicates envelope .ping
  | error (h : envelope.kind = "error") : Indicates envelope .error
  | typed {kind : FrameKind} {topic : Topic} (h : envelope.kind = kind.typeHead ++ topic.name) :
    Indicates envelope (.market kind topic)
  | fallback {topic : Topic} (h : envelope.FallsBackTo topic) :
    Indicates envelope (.market .snapshot topic)
  | unknown (hkind : ¬ExactType envelope.kind) (hchannel : ∀ topic, ¬envelope.FallsBackTo topic) :
    Indicates envelope .unknown

/-- What stands in the place of a topic's payload. A book has a place of its own, and where that is
empty or holds a null it shares the place of the other payloads. -/
def payloadOf (envelope : Envelope) : Topic → Option Value
  | .orderBook =>
    match envelope.orderBook with
    | none | some .null => envelope.data
    | some v => some v
  | .trade | .marketStats => envelope.data

/-- What a frame of a class is decoded to. -/
def outcome (envelope : Envelope) : Inbound.Class → Except FrameError Inbound
  | .connected => .ok .connected
  | .ping => .ok .ping
  | .error => (Inbound.decodeObject ServerError.decoder .blank envelope.data).map .error
  | .market kind topic => (Payload.read topic (envelope.payloadOf topic)).map fun payload =>
      .market kind ⟨envelope.channel, payload⟩
  | .unknown => .ok (.unknown envelope.kind)

variable {envelope : Envelope} {c : Inbound.Class} {message : Inbound} {topic : Topic}
  {text : String}

/-- In an envelope that was read a place that holds a null is empty. -/
theorem parse_ne_null (h : parse text = .ok envelope) :
    envelope.data ≠ some .null ∧ envelope.orderBook ≠ some .null := by
  have hpart : ∀ v, (Decoder.optional .any).Gives v → v ≠ some .null := by
    rintro v hv rfl
    exact Decoder.optional_any_ne_null hv rfl
  refine Json.Record.decoder_keeps (r := record)
    (P := fun envelope => envelope.data ≠ some .null ∧ envelope.orderBook ≠ some .null) ?_
    ⟨nofun, nofun⟩ (Decoder.gives_of_parseWith h)
  simp only [record, List.forall_mem_cons, List.not_mem_nil, false_implies, implies_true, and_true]
  refine ⟨?type, ?channel, ?data, ?orderBook⟩
  case type => exact Json.Field.of_keeps fun kind _ envelope henvelope => henvelope
  case channel => exact Json.Field.of_keeps fun channel _ envelope henvelope => henvelope
  case data => exact Json.Field.of_keeps fun v hv envelope henvelope => ⟨hpart v hv, henvelope.2⟩
  case orderBook =>
    exact Json.Field.of_keeps fun v hv envelope henvelope => ⟨henvelope.1, hpart v hv⟩

theorem indicates_of_exact {type : String} (h : ExactType type) :
    ∃ c, ∀ envelope : Envelope, envelope.kind = type → envelope.Indicates c := by
  cases h with
  | connected => exact ⟨_, fun _ => .connected⟩
  | ping => exact ⟨_, fun _ => .ping⟩
  | error => exact ⟨_, fun _ => .error⟩
  | market kind topic => exact ⟨_, fun _ => .typed⟩

theorem exists_indicates (envelope : Envelope) : ∃ c, envelope.Indicates c := by
  by_cases hexact : ExactType envelope.kind
  · obtain ⟨c, hc⟩ := indicates_of_exact hexact
    exact ⟨c, hc envelope rfl⟩
  · by_cases hchannel : ∃ topic, envelope.FallsBackTo topic
    · obtain ⟨topic, h⟩ := hchannel
      exact ⟨_, .fallback h⟩
    · exact ⟨_, .unknown hexact (not_exists.mp hchannel)⟩

theorem decodePayload_eq_read (hnull : envelope.orderBook ≠ some .null) (topic : Topic) :
    Inbound.decodePayload topic envelope = Payload.read topic (envelope.payloadOf topic) := by
  cases topic with
  | orderBook =>
    have hplace : envelope.orderBook.or envelope.data = envelope.payloadOf .orderBook := by
      unfold payloadOf
      cases hbook : envelope.orderBook with
      | none => rfl
      | some v =>
        cases v with
        | null => exact absurd hbook hnull
        | _ => rfl
    rw [Inbound.decodePayload, hplace, Payload.read]
  | trade => rfl
  | marketStats => rfl

theorem typedTopic?_of_not_exact (hexact : ¬ExactType envelope.kind) (kind : FrameKind) :
    Inbound.typedTopic? kind envelope.kind = none := by
  unfold Inbound.typedTopic?
  rw [List.find?_eq_none]
  intro topic _ htype
  exact hexact (beq_iff_eq.mp htype ▸ .market kind topic)

/-- A type that is not exact leaves the frame to its channel. -/
theorem ofEnvelope_of_not_exact (hexact : ¬ExactType envelope.kind) :
    Inbound.ofEnvelope envelope =
      match envelope.channel.bind Topic.leading? with
      | some topic => Inbound.decodeMarket .snapshot topic envelope
      | none => .ok (.unknown envelope.kind) := by
  have hconnected : envelope.kind ≠ "connected" := fun h => hexact (h ▸ .connected)
  have hping : envelope.kind ≠ "ping" := fun h => hexact (h ▸ .ping)
  have herror : envelope.kind ≠ "error" := fun h => hexact (h ▸ .error)
  unfold Inbound.ofEnvelope
  rw [if_neg hconnected, if_neg hping, if_neg herror]
  cases envelope.channel.bind Topic.leading? <;> simp [typedTopic?_of_not_exact hexact]

theorem leading?_channel_eq_some :
    envelope.channel.bind Topic.leading? = some topic ↔
      ∃ channel, envelope.channel = some channel ∧ topic.name.toList <+: channel.toList := by
  simp only [Option.bind_eq_some_iff, Topic.leading?_eq_some]

theorem ofEnvelope_of_indicates (hnull : envelope.orderBook ≠ some .null)
    (h : envelope.Indicates c) : Inbound.ofEnvelope envelope = envelope.outcome c := by
  have hmarket : ∀ kind topic, Inbound.decodeMarket kind topic envelope =
      envelope.outcome (.market kind topic) := by
    intro kind topic
    rw [Inbound.decodeMarket, decodePayload_eq_read hnull, outcome]
  cases h with
  | connected h => rw [Inbound.ofEnvelope, if_pos h, outcome]
  | ping h =>
    rw [Inbound.ofEnvelope, h, if_neg (by decide), if_pos rfl, outcome]
  | error h =>
    rw [Inbound.ofEnvelope, h, if_neg (by decide), if_neg (by decide), if_pos rfl, outcome]
  | typed h =>
    rw [Inbound.ofEnvelope_of_typeHead h, Topic.ofName?_name]
    exact hmarket _ _
  | fallback h =>
    rw [ofEnvelope_of_not_exact h.1, leading?_channel_eq_some.mpr h.2]
    exact hmarket _ _
  | unknown hkind hchannel =>
    have hnone : envelope.channel.bind Topic.leading? = none := by
      rw [Option.eq_none_iff_forall_ne_some]
      intro topic htopic
      exact hchannel topic ⟨hkind, leading?_channel_eq_some.mp htopic⟩
    rw [ofEnvelope_of_not_exact hkind, hnone, outcome]

theorem topic_of_read {v : Option Value} {payload : Payload}
    (h : Payload.read topic v = .ok payload) : payload.topic = topic := by
  cases topic <;> obtain ⟨a, -, rfl⟩ := Attempts.map_eq_ok.mp h <;> rfl

theorem outcome_market_eq_ok {kind : FrameKind}
    (h : envelope.outcome (.market kind topic) = .ok message) :
    ∃ event, message = .market kind event ∧ event.topic = topic ∧
      event.channel = envelope.channel ∧
      Payload.read topic (envelope.payloadOf topic) = .ok event.payload := by
  obtain ⟨payload, hpayload, rfl⟩ := Attempts.map_eq_ok.mp h
  exact ⟨⟨envelope.channel, payload⟩, rfl, topic_of_read hpayload, rfl, hpayload⟩

theorem toClass_of_outcome (h : envelope.outcome c = .ok message) : message.toClass = c := by
  cases c with
  | market kind topic =>
    obtain ⟨event, rfl, rfl, -, -⟩ := outcome_market_eq_ok h
    rfl
  | error =>
    obtain ⟨error, -, rfl⟩ := Attempts.map_eq_ok.mp h
    rfl
  | connected | ping | unknown =>
    obtain rfl := Except.ok.inj h
    rfl

/-- What is decoded of a frame, told from the parts of its envelope. -/
structure Decides (envelope : Envelope) (result : Except FrameError Inbound) : Prop where
  /-- A message is of the class that the rules give, and of no other. -/
  class_iff : ∀ message, result = .ok message → ∀ c, message.toClass = c ↔ envelope.Indicates c
  type_kept : ∀ type, result = .ok (.unknown type) → type = envelope.kind
  label_of_type : ∀ message, result = .ok message → (∀ topic, ¬envelope.FallsBackTo topic) →
    message.label = envelope.kind
  label_of_channel : ∀ message topic, result = .ok message → envelope.FallsBackTo topic →
    message.label = "subscribed/" ++ topic.name
  /-- The channel is echoed as it was received. -/
  echoed : ∀ kind event, result = .ok (.market kind event) → event.channel = envelope.channel
  /-- The payload is what is read in its place, and nothing else has a part in it. -/
  payload_read : ∀ kind event, result = .ok (.market kind event) →
    Payload.read event.topic (envelope.payloadOf event.topic) = .ok event.payload
  /-- A book of which there is nothing in either place is empty. -/
  book_of_nothing : ∀ kind, envelope.Indicates (.market kind .orderBook) →
    envelope.orderBook = none ∨ envelope.orderBook = some .null →
    envelope.data = none ∨ envelope.data = some .null →
    result = .ok (.market kind ⟨envelope.channel, .book .empty⟩)
  /-- Nothing but the payload of the class can be wrong. -/
  refused_iff : ∀ error, result = .error error ↔
    envelope.Indicates .error ∧
        Inbound.decodeObject ServerError.decoder .blank envelope.data = .error error ∨
      ∃ kind topic, envelope.Indicates (.market kind topic) ∧
        Payload.read topic (envelope.payloadOf topic) = .error error

theorem label_of_fallsBackTo (h : envelope.FallsBackTo topic)
    (hnull : envelope.orderBook ≠ some .null)
    (hmessage : Inbound.ofEnvelope envelope = .ok message) :
    message.label = "subscribed/" ++ topic.name := by
  rw [ofEnvelope_of_indicates hnull (.fallback h)] at hmessage
  obtain ⟨event, rfl, rfl, -, -⟩ := outcome_market_eq_ok hmessage
  rfl

/-- A message goes by the type of its frame, unless its class came from the channel. -/
theorem label_of_outcome (h : envelope.Indicates c)
    (hchannel : ∀ topic, ¬envelope.FallsBackTo topic)
    (hmessage : envelope.outcome c = .ok message) :
    message.label = envelope.kind := by
  cases h with
  | connected h | ping h =>
    obtain rfl := Except.ok.inj hmessage
    exact h.symm
  | error h =>
    obtain ⟨error, -, rfl⟩ := Attempts.map_eq_ok.mp hmessage
    exact h.symm
  | typed h =>
    obtain ⟨event, rfl, rfl, -, -⟩ := outcome_market_eq_ok hmessage
    exact h.symm
  | fallback h => exact absurd h (hchannel _)
  | unknown =>
    obtain rfl := Except.ok.inj hmessage
    rfl

theorem outcome_eq_error {error : FrameError} :
    envelope.outcome c = .error error ↔
      c = .error ∧ Inbound.decodeObject ServerError.decoder .blank envelope.data = .error error ∨
        ∃ kind topic, c = .market kind topic ∧
          Payload.read topic (envelope.payloadOf topic) = .error error := by
  cases c <;> simp [outcome, Attempts.map_eq_error]

theorem read_nothing {v : Option Value} (h : v = none ∨ v = some .null) :
    Payload.read .orderBook v = .ok (.book .empty) := by
  rcases h with rfl | rfl <;> rfl

theorem payloadOf_of_nothing (hbook : envelope.orderBook = none ∨ envelope.orderBook = some .null) :
    envelope.payloadOf .orderBook = envelope.data := by
  unfold payloadOf
  rcases hbook with h | h <;> rw [h]

theorem decides_ofEnvelope (hnull : envelope.orderBook ≠ some .null) :
    envelope.Decides (Inbound.ofEnvelope envelope) := by
  obtain ⟨c, hc⟩ := envelope.exists_indicates
  have houtcome : ∀ {c}, envelope.Indicates c → Inbound.ofEnvelope envelope = envelope.outcome c :=
    ofEnvelope_of_indicates hnull
  have hclass : ∀ message, Inbound.ofEnvelope envelope = .ok message →
      ∀ c, message.toClass = c ↔ envelope.Indicates c := by
    intro message hmessage c'
    constructor
    · rintro rfl
      rwa [toClass_of_outcome (houtcome hc ▸ hmessage)]
    · intro hc'
      exact toClass_of_outcome (houtcome hc' ▸ hmessage)
  -- what is known of market data: its class decides where it came from
  have hmarket : ∀ kind event, Inbound.ofEnvelope envelope = .ok (.market kind event) →
      event.channel = envelope.channel ∧
        Payload.read event.topic (envelope.payloadOf event.topic) = .ok event.payload := by
    intro kind event hmessage
    have hindicates := (hclass _ hmessage _).mp rfl
    obtain ⟨event', he, -, hchannel, hpayload⟩ :=
      outcome_market_eq_ok (houtcome hindicates ▸ hmessage)
    obtain ⟨-, rfl⟩ := Inbound.market.inj he
    exact ⟨hchannel, hpayload⟩
  refine
    { class_iff := hclass
      type_kept := ?type
      label_of_type := ?label
      label_of_channel := fun message topic hmessage h => label_of_fallsBackTo h hnull hmessage
      echoed := fun kind event hmessage => (hmarket kind event hmessage).1
      payload_read := fun kind event hmessage => (hmarket kind event hmessage).2
      book_of_nothing := ?book
      refused_iff := ?refused }
  case type =>
    intro type hmessage
    have hindicates := (hclass _ hmessage _).mp rfl
    rw [houtcome hindicates] at hmessage
    exact (Inbound.unknown.inj (Except.ok.inj hmessage)).symm
  case label =>
    intro message hmessage hchannel
    exact label_of_outcome hc hchannel (houtcome hc ▸ hmessage)
  case book =>
    intro kind hindicates hbook hdata
    rw [houtcome hindicates, outcome, payloadOf_of_nothing hbook, read_nothing hdata]
    rfl
  case refused =>
    intro error
    constructor
    · intro herror
      rcases outcome_eq_error.mp (houtcome hc ▸ herror) with ⟨rfl, h⟩ | ⟨kind, topic, rfl, h⟩
      · exact .inl ⟨hc, h⟩
      · exact .inr ⟨kind, topic, hc, h⟩
    · rintro (⟨hindicates, h⟩ | ⟨kind, topic, hindicates, h⟩)
      · rw [houtcome hindicates]
        exact outcome_eq_error.mpr (.inl ⟨rfl, h⟩)
      · rw [houtcome hindicates]
        exact outcome_eq_error.mpr (.inr ⟨kind, topic, rfl, h⟩)

theorem outcome_echoing (envelope : Envelope) (c : Inbound.Class) (channel : Option String) :
    outcome { envelope with channel } c = (envelope.outcome c).map (·.echoing channel) := by
  cases c with
  | market kind topic =>
    change (Payload.read topic (envelope.payloadOf topic)).map _ = _
    rw [outcome]
    cases Payload.read topic (envelope.payloadOf topic) <;> rfl
  | error =>
    change (Inbound.decodeObject ServerError.decoder .blank envelope.data).map _ = _
    rw [outcome]
    cases Inbound.decodeObject ServerError.decoder .blank envelope.data <;> rfl
  | connected | ping | unknown => rfl

end Envelope

namespace Inbound

variable {envelope : Envelope} {text : String}

/-- What is decoded of a frame is decided by the parts of its envelope, and where its type is exact
the channel is echoed and has no other part in it. -/
theorem decode_decided (hparse : Envelope.parse text = .ok envelope) :
    envelope.Decides (decode text) ∧
      (ExactType envelope.kind → ∀ other channel,
        Envelope.parse other = .ok { envelope with channel } →
          decode other = (decode text).map (·.echoing channel)) := by
  obtain ⟨-, hnull⟩ := Envelope.parse_ne_null hparse
  rw [decode_of_parse hparse]
  constructor
  · exact Envelope.decides_ofEnvelope hnull
  · intro hexact other channel hother
    obtain ⟨c, hc⟩ := Envelope.indicates_of_exact hexact
    have hhere := Envelope.ofEnvelope_of_indicates hnull (hc envelope rfl)
    have hthere : ofEnvelope { envelope with channel } = _ :=
      Envelope.ofEnvelope_of_indicates hnull (hc { envelope with channel } rfl)
    rw [decode_of_parse hother, hhere, hthere, Envelope.outcome_echoing]

/-- A type that names a topic has the last word over a channel that begins with another one, and an
update of trades it stays on any channel. -/
theorem decode_decided_trades_on_book_channel :
    let text := "\x7b\"type\":\"update/trade\",\"channel\":\"order_book:0\"\x7d"
    ∃ envelope, Envelope.parse text = .ok envelope ∧
      ExactType envelope.kind ∧ envelope.Indicates (.market .update .trade) ∧
      envelope.Decides (decode text) ∧
      (∀ other channel, Envelope.parse other = .ok { envelope with channel } →
        decode other = (decode text).map (·.echoing channel)) ∧
      decode text = .ok (.market .update ⟨some "order_book:0", .trades []⟩) := by
  intro text
  have hkind : (Envelope.parse text).toOption.map Envelope.kind = some "update/trade" := by
    decide +kernel
  have hmessage : (decode text).toOption =
      some (.market .update ⟨some "order_book:0", .trades []⟩) := by decide +kernel
  obtain ⟨envelope, hparse, hkind⟩ := Option.map_eq_some_iff.mp hkind
  have hparsed := Attempts.toOption_eq_some.mp hparse
  have hdecode := Attempts.toOption_eq_some.mp hmessage
  have hexact : ExactType envelope.kind := hkind ▸ .market .update .trade
  obtain ⟨hdecides, hechoing⟩ := decode_decided hparsed
  have hindicates : envelope.Indicates (.market .update .trade) :=
    (hdecides.class_iff _ hdecode _).mp rfl
  exact ⟨envelope, hparsed, hexact, hindicates, hdecides, hechoing hexact, hdecode⟩

end Inbound
end MarketFeed

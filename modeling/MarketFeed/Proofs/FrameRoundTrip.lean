import MarketFeed.Frame.Inbound
import MarketFeed.Proofs.PayloadReading
import MarketFeed.Proofs.TypedTopics

/-!
# Market events read back from their frames

Every market event is decoded from the frame that carries it: whatever its channel and texts are, in
whatever order the members of the frame stand, and in either place that a book may have.
-/
namespace MarketFeed

open Json (Decoder Value Field)
open Json.Record (decoder_reads writes_of)

namespace Payload

/-- A payload that reading produces: the text of a trade's other side stands for no side of its
own. -/
def Normal : Payload → Prop
  | book _ => True
  | trades entries => ∀ trade ∈ entries, ∀ text, trade.side = .other text →
      text ∉ ["", "buy", "sell", "unknown"]
  | stats _ => True

theorem legible_toValue (payload : Payload) (depth : Nat) :
    payload.toValue.Legible (depth + 3) := by
  cases payload with
  | book levels => exact levels.legible_toValue depth
  | trades entries => simp [toValue, Value.Legible, Trade.legible_toValue]
  | stats entries => simp [toValue, Value.Legible, MarketStats.legible_toValue]

end Payload

namespace Envelope

/-- The members of a frame of which only the type has to be there. -/
def members (kind : String) (channel data orderBook : Option Value) : List (String × Value) :=
  ("type", .string kind) :: (channel.map ("channel", ·)).toList ++
    (data.map ("data", ·)).toList ++ (orderBook.map ("order_book", ·)).toList

/-- How a channel stands in a frame; there is a `null` at most when there is none. -/
inductive Echoes : Option String → Option Value → Prop where
  | absent : Echoes none none
  | null : Echoes none (some .null)
  | text (channel : String) : Echoes (some channel) (some (.string channel))

theorem independent : record.Independent := by
  simp only [Json.Record.Independent, record, List.pairwise_cons, List.forall_mem_cons,
    List.not_mem_nil, false_implies, implies_true, List.Pairwise.nil, and_true]
  and_intros <;> exact Field.of_apart (by decide) fun _ _ _ => rfl

theorem Echoes.reads {channel : Option String} {echo : Option Value} (h : Echoes channel echo) :
    ∀ v ∈ echo, (Decoder.optional .string).Reads v channel := by
  intro v hv
  cases h with
  | absent => simp at hv
  | null =>
    obtain rfl : Value.null = v := by simpa using hv
    exact Decoder.optional_reads_null
  | text channel =>
    obtain rfl : Value.string channel = v := by simpa using hv
    exact Decoder.optional_reads (by simp) (Decoder.string_reads channel)

/-- A frame is taken apart into what its members hold, in whatever order they stand. -/
theorem reads_members {ms : List (String × Value)} {kind : String} {channel : Option String}
    {echo data orderBook : Option Value} (hecho : Echoes channel echo)
    (hperm : ms.Perm (members kind echo data orderBook)) :
    record.decoder.Reads (.object ms)
      ⟨kind, channel, data.bind Value.present?, orderBook.bind Value.present?⟩ := by
  have hkind : record.Writes ("type", .string kind) _ := writes_of rfl (Decoder.string_reads kind)
  have hchannel := Json.Record.writes_optional fun v hv =>
    (writes_of rfl (hecho.reads v hv) : record.Writes ("channel", v) _)
  have hdata := Json.Record.writes_optional fun v (_ : v ∈ data) =>
    (writes_of rfl (Decoder.optional_any_reads v) : record.Writes ("data", v) _)
  have hbook := Json.Record.writes_optional fun v (_ : v ∈ orderBook) =>
    (writes_of rfl (Decoder.optional_any_reads v) : record.Writes ("order_book", v) _)
  have hwrites := List.rel_append (List.rel_append (List.Forall₂.cons hkind hchannel) hdata) hbook
  have hreads := decoder_reads independent hwrites
    (by cases echo <;> cases data <;> cases orderBook <;> simp) hperm
  -- what is left out keeps the value of the blank envelope
  cases hecho <;> cases data <;> cases orderBook <;> exact hreads

end Envelope

/-- Where a payload stands in a frame: what is written under `data` and under `order_book`. A book
has a place of its own, and is looked for under `data` when that place is empty. -/
inductive Payload.Placed (payload : Payload) : Option Value → Option Value → Prop where
  | inData : Placed payload (some payload.toValue) none
  | besideNull : Placed payload (some payload.toValue) (some .null)
  | inOwnPlace (h : payload.topic = .orderBook) : Placed payload none (some payload.toValue)

namespace Inbound

section Decoding

variable {payload : Payload} {kind : FrameKind} {event : MarketEvent} {ms : List (String × Value)}
  {echo data orderBook : Option Value}

theorem decodeMany_of_reads {α : Type} {d : Decoder α} {write : α → Value} {as : List α}
    (h : ∀ a ∈ as, d.Reads (write a) a) :
    decodeMany d (some (Value.array (as.map write)).sorted) = .ok as := by
  have hlist : (Decoder.list d).ofValue (Value.array (as.map write)).sorted = .ok as :=
    (Decoder.list_reads h).fromValue
  exact congrArg (Except.mapError FrameError.document) hlist

theorem decodeObject_levels (levels : OrderBook) :
    decodeObject OrderBook.decoder .empty (some levels.toValue.sorted) = .ok levels := by
  have hlevels : OrderBook.decoder.ofValue levels.toValue.sorted = .ok levels :=
    levels.reads_toValue.fromValue
  exact congrArg (Except.mapError FrameError.document) hlevels

theorem decodePayload_of_placed (hnormal : payload.Normal) (hplaced : payload.Placed data orderBook)
    (type : String) (channel : Option String) :
    decodePayload payload.topic
      ⟨type, channel, data.bind Value.present?, orderBook.bind Value.present?⟩ = .ok payload := by
  cases payload with
  | book levels =>
    have hlevels := congrArg (Except.map Payload.book) (decodeObject_levels levels)
    cases hplaced <;> exact hlevels
  | trades entries =>
    have hread := decodeMany_of_reads fun trade htrade =>
      Trade.reads_toValue (TradeSide.normal_of_forall (hnormal trade htrade))
    have hentries := congrArg (Except.map Payload.trades) hread
    cases hplaced with
    | inOwnPlace h => simp [Payload.topic] at h
    | _ => exact hentries
  | stats entries =>
    have hread := decodeMany_of_reads fun stats (_ : stats ∈ entries) => stats.reads_toValue
    have hentries := congrArg (Except.map Payload.stats) hread
    cases hplaced with
    | inOwnPlace h => simp [Payload.topic] at h
    | _ => exact hentries

theorem legible_members {type : String} {channel : Option String}
    (hecho : Envelope.Echoes channel echo) (hplaced : payload.Placed data orderBook) :
    ∀ member ∈ Envelope.members type echo data orderBook, member.2.Legible 126 := by
  have hpayload := payload.legible_toValue 123
  have hnull := Value.legible_null 126
  have hstring := Value.legible_string 126
  cases hecho <;> cases hplaced <;> simp [Envelope.members, hpayload, hnull, hstring]

/-- The type of the frame is a head and a topic, its channel is there or not, its payload stands
where the topic puts it, and the members come in any order. The result is the event that was
written, and it is reported under the type that was written. -/
theorem decode_written_event (hnormal : event.payload.Normal)
    (hecho : Envelope.Echoes event.channel echo) (hplaced : event.payload.Placed data orderBook)
    (hperm : ms.Perm
      (Envelope.members (kind.typeHead ++ event.topic.name) echo data orderBook)) :
    decode (Value.object ms).text = .ok (.market kind event) ∧
      (Inbound.market kind event).label = kind.typeHead ++ event.topic.name := by
  have hlegible : (Value.object ms).Legible Json.nestingLimit := fun member hmember =>
    legible_members hecho hplaced member (hperm.mem_iff.mp hmember)
  have hparse : Envelope.parse (Value.object ms).text = _ :=
    (Envelope.reads_members hecho hperm).parseWith hlegible
  have hpayload := decodePayload_of_placed hnormal hplaced
    (kind.typeHead ++ event.topic.name) event.channel
  refine ⟨?_, rfl⟩
  rw [decode_of_parse hparse, ofEnvelope_of_typeHead rfl, Topic.ofName?_name]
  exact congrArg (Except.map fun payload => Inbound.market kind ⟨event.channel, payload⟩) hpayload

/-- Trades under a channel with characters that have to be escaped, in a frame whose type comes
last. -/
theorem decode_written_event_of_trades :
    let channel := "trade:\"0\"\n\u0001\\"
    let event : MarketEvent :=
      ⟨some channel, .trades [⟨.other "Buy", "1_0", ""⟩, ⟨.sell, "2", "é"⟩]⟩
    let ms := [("data", event.payload.toValue), ("channel", .string channel),
      ("type", .string "update/trade")]
    event.payload.Normal ∧ Envelope.Echoes event.channel (some (.string channel)) ∧
      event.payload.Placed (some event.payload.toValue) none ∧
      ms.Perm (Envelope.members (FrameKind.update.typeHead ++ event.topic.name)
        (some (.string channel)) (some event.payload.toValue) none) ∧
      decode (Value.object ms).text = .ok (.market .update event) ∧
      (Inbound.market .update event).label = "update/trade" := by
  intro channel event ms
  have hnormal : event.payload.Normal := by simp [event, Payload.Normal]
  have hecho := Envelope.Echoes.text channel
  have hperm : ms.Perm (Envelope.members (FrameKind.update.typeHead ++ event.topic.name)
      (some (.string channel)) (some event.payload.toValue) none) := (List.reverse_perm ms).symm
  obtain ⟨hdecode, hlabel⟩ := decode_written_event hnormal hecho .inData hperm
  exact ⟨hnormal, hecho, .inData, hperm, hdecode, hlabel⟩

end Decoding
end Inbound
end MarketFeed

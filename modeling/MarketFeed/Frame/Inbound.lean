import MarketFeed.Json.Decoder
import MarketFeed.Payload

/-!
# Frames from the server

A frame is an envelope with a type, perhaps a channel, and a payload under `data` or `order_book`.
It is decoded once into a closed set of messages.

The exact types win. A frame of any other type whose channel begins with the name of a topic is
taken for a snapshot of that topic. Everything else is kept as unknown under the type it came with,
which is empty when it had none. An error frame may carry a code, a message and the channel that it
concerns, and leaves the session open.
-/
namespace MarketFeed

structure ServerError where
  code : Option Signed64
  message : String
  channel : Option String
  deriving DecidableEq, Repr

namespace ServerError

/-- What an error frame without a payload means. -/
def blank : ServerError := ⟨none, "Unknown error", none⟩

def record : Json.Record ServerError where
  name := "ServerError"
  blank := blank
  fields := [
    .of "code" (.optional .signed64) (fun code error => { error with code }) [],
    .of "message" .string (fun message error => { error with message }) [],
    .of "channel" (.optional .string) (fun channel error => { error with channel }) []]

def decoder : Json.Decoder ServerError := record.decoder

def report (error : ServerError) : String :=
  "Server error" ++
    (match error.code with
      | some code => " " ++ code.text
      | none => "") ++
    (match error.channel with
      | some channel => " on " ++ channel
      | none => "") ++
    ": " ++ error.message

end ServerError

/-- The parts of a frame before its payload is looked at. -/
structure Envelope where
  kind : String
  channel : Option String
  data : Option Json.Value
  orderBook : Option Json.Value

namespace Envelope

def record : Json.Record Envelope where
  name := "Envelope"
  blank := ⟨"", none, none, none⟩
  fields := [
    .of "type" .string (fun kind envelope => { envelope with kind }) [],
    .of "channel" (.optional .string) (fun channel envelope => { envelope with channel }) [],
    .of "data" (.optional .any) (fun data envelope => { envelope with data }) [],
    .of "order_book" (.optional .any) (fun orderBook envelope => { envelope with orderBook }) []]

def parse (text : String) : Except Json.Fault Envelope :=
  Json.parseWith (record.decoder.read Json.nestingLimit) text

end Envelope

/-- Whether market data stands for the whole state or changes it. -/
inductive FrameKind where
  | snapshot | update
  deriving DecidableEq, Repr

/-- What stands before the topic in the type of a frame. -/
def FrameKind.typeHead : FrameKind → String
  | snapshot => "subscribed/"
  | update => "update/"

inductive Payload where
  | book (levels : OrderBook)
  | trades (entries : List Trade)
  | stats (entries : List MarketStats)
  deriving DecidableEq, Repr

namespace Payload

def topic : Payload → Topic
  | book _ => .orderBook
  | trades _ => .trade
  | stats _ => .marketStats

def toValue : Payload → Json.Value
  | book levels => levels.toValue
  | trades entries => .array (entries.map Trade.toValue)
  | stats entries => .array (entries.map MarketStats.toValue)

end Payload

/-- Market data with the channel that the server echoed. -/
structure MarketEvent where
  channel : Option String
  payload : Payload
  deriving DecidableEq, Repr

def MarketEvent.topic (event : MarketEvent) : Topic := event.payload.topic

inductive FrameError where
  | document (fault : Json.Fault)
  /-- A payload that should be a list or an object is neither. -/
  | notListOrObject (value : Json.Value)

def FrameError.message : FrameError → String
  | document fault => fault.message
  | notListOrObject value => "expected object or array payload, got " ++ value.text

inductive Inbound where
  | connected
  | ping
  | market (kind : FrameKind) (event : MarketEvent)
  | error (error : ServerError)
  | unknown (type : String)
  deriving DecidableEq, Repr

namespace Inbound

/-- A payload of which an absent one is a default. -/
def decodeObject {α : Type} (d : Json.Decoder α) (default : α) :
    Option Json.Value → Except FrameError α
  | none | some .null => .ok default
  | some v => (d.ofValue v).mapError .document

/-- A payload that lists values, or is a single one. -/
def decodeMany {α : Type} (d : Json.Decoder α) : Option Json.Value → Except FrameError (List α)
  | none | some .null => .ok []
  | some (.array vs) => (vs.mapM d.ofValue).mapError .document
  | some (.object ms) => ((d.ofValue (.object ms)).map ([·])).mapError .document
  | some v => .error (.notListOrObject v)

/-- The payload of a topic. A book may stand in a place of its own. -/
def decodePayload (topic : Topic) (envelope : Envelope) : Except FrameError Payload :=
  match topic with
  | .orderBook =>
    (decodeObject OrderBook.decoder .empty (envelope.orderBook.or envelope.data)).map .book
  | .trade => (decodeMany Trade.decoder envelope.data).map .trades
  | .marketStats => (decodeMany MarketStats.decoder envelope.data).map .stats

def decodeMarket (kind : FrameKind) (topic : Topic) (envelope : Envelope) :
    Except FrameError Inbound :=
  (decodePayload topic envelope).map fun payload => .market kind ⟨envelope.channel, payload⟩

/-- The topic that a type names after the head of a kind of frame. -/
def typedTopic? (kind : FrameKind) (type : String) : Option Topic :=
  Topic.all.find? fun topic => type == kind.typeHead ++ topic.name

/-- What a frame is, going by its envelope. -/
def ofEnvelope (envelope : Envelope) : Except FrameError Inbound :=
  if envelope.kind = "connected" then .ok connected
  else if envelope.kind = "ping" then .ok ping
  else if envelope.kind = "error" then
    (decodeObject ServerError.decoder .blank envelope.data).map error
  else match typedTopic? .snapshot envelope.kind with
  | some topic => decodeMarket .snapshot topic envelope
  | none => match typedTopic? .update envelope.kind with
    | some topic => decodeMarket .update topic envelope
    | none => match envelope.channel.bind Topic.leading? with
      | some topic => decodeMarket .snapshot topic envelope
      | none => .ok (unknown envelope.kind)

def decode (text : String) : Except FrameError Inbound :=
  match Envelope.parse text with
  | .ok envelope => ofEnvelope envelope
  | .error fault => .error (.document fault)

/-- What the frame is called in reports. -/
def label : Inbound → String
  | connected => "connected"
  | ping => "ping"
  | market kind event => kind.typeHead ++ event.topic.name
  | error _ => "error"
  | unknown type => type

end Inbound
end MarketFeed

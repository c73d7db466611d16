import MarketFeed.Channel
import MarketFeed.Json.Value

/-!
# Frames to the server

A client asks for a channel, gives it up, or answers a ping. Each request is one JSON object.
-/
namespace MarketFeed

inductive Outbound where
  | subscribe (channel : Channel)
  | unsubscribe (channel : Channel)
  | pong
  deriving DecidableEq, Repr

namespace Outbound

def request (kind : String) (channel : Channel) : Json.Value :=
  .object [("type", .string kind), ("channel", .string channel.text)]

def toValue : Outbound → Json.Value
  | subscribe channel => request "subscribe" channel
  | unsubscribe channel => request "unsubscribe" channel
  | pong => .object [("type", .string "pong")]

def text (message : Outbound) : String := message.toValue.text

end Outbound
end MarketFeed

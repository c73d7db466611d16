import MarketFeed.Channel
import MarketFeed.Json.Decoder

/-!
# Topics and markets as documents

A topic is written as the string of its wire name. An object with that name as its only key and
`null` as its value is read as well. A market is written as its number.
-/
namespace MarketFeed

namespace Topic

def ofDocument (name : String) : Except Json.Fault Topic :=
  match ofName? name with
  | some topic => .ok topic
  | none => .error (.unknownName name (all.map Topic.name))

/-- The name in front of the colon of an object. -/
def readKey : Json.Reader Topic := fun s =>
  match Json.skipSpace s with
  | [] => .error .endInValue
  | '"' :: rest => do
    let (name, rest) ← Json.stringBody rest
    return (← ofDocument name, rest)
  | s => .error (Json.wrongKindAt "variant identifier" s)

/-- The `null` behind the colon of an object. -/
def readUnit (s : List Char) : Except Json.Fault (List Char) :=
  match Json.skipSpace s with
  | [] => .error .endInValue
  | 'n' :: rest => Json.word "ull".toList rest
  | s => .error (Json.wrongKindAt "unit" s)

def reader : Json.Reader Topic := fun s =>
  match Json.skipSpace s with
  | [] => .error .endInValue
  | '"' :: rest => do
    let (name, rest) ← Json.stringBody rest
    return (← ofDocument name, rest)
  | '{' :: rest => do
    let (topic, rest) ← readKey rest
    let rest ← readUnit (← Json.colon rest)
    match Json.skipSpace rest with
    | [] => .error .endInObject
    | '}' :: rest => return (topic, rest)
    | _ :: _ => .error .expectedValue
  | _ :: _ => .error .expectedValue

def toValue (topic : Topic) : Json.Value := .string topic.name

end Topic

namespace MarketIndex

def decoder : Json.Decoder MarketIndex := .unsigned16

def toValue (market : MarketIndex) : Json.Value := .int market.value

end MarketIndex
end MarketFeed

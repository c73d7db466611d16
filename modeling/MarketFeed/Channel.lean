import MarketFeed.Numeral
import MarketFeed.Text

/-!
# Topics, markets and channels

A topic is one of three kinds of public market data. It is known by its wire name, which stands in
channel names and in the types of frames. No wire name begins with another, so the order in which
they are tried does not matter.

A channel is a topic together with the market it covers, or with every market at once. Requests
write it with a slash, `trade/0`, and the server echoes it with a colon, `trade:0`; both are read.
The topic name is taken as it stands. The target after the separator may be surrounded by blanks and
is either `all` or the number of a market.
-/
namespace MarketFeed

inductive Topic where
  | orderBook | trade | marketStats
  deriving DecidableEq, Repr

namespace Topic

/-- Every topic, in the order in which names are tried. -/
def all : List Topic := [orderBook, trade, marketStats]

def name : Topic → String
  | orderBook => "order_book"
  | trade => "trade"
  | marketStats => "market_stats"

def ofName? (s : String) : Option Topic := all.find? fun t => t.name == s

/-- The topic whose wire name begins the text, such as `trade` for `trade:0`. -/
def leading? (s : String) : Option Topic :=
  all.find? fun t => t.name.toList.isPrefixOf s.toList

@[simp] theorem mem_all (t : Topic) : t ∈ all := by cases t <;> decide

@[simp] theorem ofName?_name (t : Topic) : ofName? t.name = some t := by cases t <;> rfl

theorem ofName?_eq_some {s : String} {t : Topic} : ofName? s = some t ↔ s = t.name := by
  constructor
  · intro h
    have := List.find?_some h
    simp_all
  · rintro rfl
    exact ofName?_name t

end Topic

/-- The number of a tradable instrument. -/
abbrev MarketIndex := Unsigned16

inductive ChannelError where
  | unknownTopic (name : String)
  | invalidMarket (text : String)
  | missingSeparator (text : String)
  deriving DecidableEq, Repr

def ChannelError.message : ChannelError → String
  | unknownTopic name => "unknown topic: " ++ name
  | invalidMarket text => "invalid market index: " ++ text
  | missingSeparator text => "channel has no topic/market separator: " ++ text

def Topic.parse (s : String) : Except ChannelError Topic :=
  match ofName? s with
  | some topic => .ok topic
  | none => .error (.unknownTopic s)

/-- The market whose number is this text, blanks around it apart. -/
def MarketIndex.parse (s : String) : Except ChannelError MarketIndex :=
  match Numeral.unsignedBounded? 0 65535 (Text.trim s) with
  | some market => .ok market
  | none => .error (.invalidMarket s)

inductive Target where
  | market (index : MarketIndex)
  | all
  deriving DecidableEq, Repr

namespace Target

def text : Target → String
  | market index => index.text
  | all => "all"

def market? : Target → Option MarketIndex
  | market index => some index
  | all => none

def parse (s : String) : Except ChannelError Target :=
  if Text.trim s = "all" then .ok all else (MarketIndex.parse s).map market

end Target

structure Channel where
  topic : Topic
  target : Target
  deriving DecidableEq, Repr

namespace Channel

def ofMarket (topic : Topic) (index : MarketIndex) : Channel := ⟨topic, .market index⟩

def ofAll (topic : Topic) : Channel := ⟨topic, .all⟩

/-- The form in which requests name the channel. -/
def text (c : Channel) : String := c.topic.name ++ "/" ++ c.target.text

def isSeparator (c : Char) : Bool := c == '/' || c == ':'

/-- A channel is read up to its first separator and from there on. -/
def parse (s : String) : Except ChannelError Channel :=
  match s.toList.span fun c => !isSeparator c with
  | (_, []) => .error (.missingSeparator s)
  | (name, _ :: rest) => do
    let topic ← Topic.parse (String.ofList name)
    let target ← Target.parse (String.ofList rest)
    return ⟨topic, target⟩

end Channel
end MarketFeed

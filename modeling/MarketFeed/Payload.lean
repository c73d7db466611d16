import MarketFeed.Channel
import MarketFeed.Json.Decoder

/-!
# Payloads

Market data comes as order books, trades and market statistics. Prices, sizes and figures are texts
and stay exactly as they were received; nothing here computes with them.

A frame of a book lists the levels of a side with the best one first. A trade has the side of its
aggressor: a side other than `buy` and `sell` keeps the text that was received, while a missing one,
an empty one and the word `unknown` itself all mean that the side is not known. Statistics are the
rolling figures of one market, any of which may be missing. The market is named only where an entry
could belong to several, and then under either of two keys.
-/
namespace MarketFeed

/-- A price and the size that is offered at it. -/
structure PriceLevel where
  price : String
  size : String
  deriving DecidableEq, Repr

namespace PriceLevel

def record : Json.Record PriceLevel where
  name := "PriceLevel"
  blank := ⟨"0", "0"⟩
  fields := [
    .of "price" .decimal (fun price level => { level with price }) [],
    .of "size" .decimal (fun size level => { level with size }) []]

def decoder : Json.Decoder PriceLevel := record.decoder

def toValue (level : PriceLevel) : Json.Value :=
  .object [("price", .string level.price), ("size", .string level.size)]

end PriceLevel

structure OrderBook where
  bids : List PriceLevel
  asks : List PriceLevel
  deriving DecidableEq, Repr

namespace OrderBook

def empty : OrderBook := ⟨[], []⟩

def record : Json.Record OrderBook where
  name := "OrderBook"
  blank := empty
  fields := [
    .of "bids" (.list PriceLevel.decoder) (fun bids book => { book with bids }) [],
    .of "asks" (.list PriceLevel.decoder) (fun asks book => { book with asks }) []]

def decoder : Json.Decoder OrderBook := record.decoder

def toValue (book : OrderBook) : Json.Value :=
  .object [
    ("bids", .array (book.bids.map PriceLevel.toValue)),
    ("asks", .array (book.asks.map PriceLevel.toValue))]

def bestBid? (book : OrderBook) : Option PriceLevel := book.bids.head?

def bestAsk? (book : OrderBook) : Option PriceLevel := book.asks.head?

def top? (book : OrderBook) : Option (PriceLevel × PriceLevel) :=
  match book.bestBid?, book.bestAsk? with
  | some bid, some ask => some (bid, ask)
  | _, _ => none

def isEmpty (book : OrderBook) : Bool := book.bids.isEmpty && book.asks.isEmpty

end OrderBook

inductive TradeSide where
  | buy
  | sell
  | other (text : String)
  | unknown
  deriving DecidableEq, Repr

namespace TradeSide

def text : TradeSide → String
  | buy => "buy"
  | sell => "sell"
  | other text => text
  | unknown => "unknown"

def ofText (s : String) : TradeSide :=
  if s = "buy" then buy
  else if s = "sell" then sell
  else if s = "" ∨ s = "unknown" then unknown
  else other s

/-- A side that reading produces: the text of an `other` side is the text of no other one. -/
def Normal (side : TradeSide) : Prop := ofText side.text = side

def isBuy : TradeSide → Bool
  | buy => true
  | _ => false

def decoder : Json.Decoder TradeSide := Json.Decoder.string.map ofText

def toValue (side : TradeSide) : Json.Value := .string side.text

end TradeSide

structure Trade where
  side : TradeSide
  price : String
  size : String
  deriving DecidableEq, Repr

namespace Trade

def record : Json.Record Trade where
  name := "Trade"
  blank := ⟨.unknown, "0", "0"⟩
  fields := [
    .of "side" TradeSide.decoder (fun side trade => { trade with side }) [],
    .of "price" .decimal (fun price trade => { trade with price }) [],
    .of "size" .decimal (fun size trade => { trade with size }) []]

def decoder : Json.Decoder Trade := record.decoder

def toValue (trade : Trade) : Json.Value :=
  .object [
    ("side", trade.side.toValue),
    ("price", .string trade.price),
    ("size", .string trade.size)]

end Trade

/-- The figures of one market; prices and volumes as they were received. -/
structure MarketStats where
  marketIndex : Option MarketIndex
  lastPrice : Option String
  markPrice : Option String
  indexPrice : Option String
  high24h : Option String
  low24h : Option String
  volume24h : Option String
  quoteVolume24h : Option String
  priceChange24h : Option String
  priceChangePercent : Option String
  openInterest : Option String
  fundingRate : Option String
  nextFundingTime : Option Signed64
  deriving DecidableEq, Repr

namespace MarketStats

def blank : MarketStats :=
  ⟨none, none, none, none, none, none, none, none, none, none, none, none, none⟩

/-- A figure that is a decimal. -/
def figure (name : String) (set : Option String → MarketStats → MarketStats) :
    Json.Field MarketStats :=
  .of name (.optional .decimal) set []

def record : Json.Record MarketStats where
  name := "MarketStats"
  blank := blank
  fields := [
    .of "market_index" (.optional .unsigned16)
      (fun marketIndex stats => { stats with marketIndex }) ["market_id"],
    figure "last_price" fun lastPrice stats => { stats with lastPrice },
    figure "mark_price" fun markPrice stats => { stats with markPrice },
    figure "index_price" fun indexPrice stats => { stats with indexPrice },
    figure "high_24h" fun high24h stats => { stats with high24h },
    figure "low_24h" fun low24h stats => { stats with low24h },
    figure "volume_24h" fun volume24h stats => { stats with volume24h },
    figure "quote_volume_24h" fun quoteVolume24h stats => { stats with quoteVolume24h },
    figure "price_change_24h" fun priceChange24h stats => { stats with priceChange24h },
    figure "price_change_pct" fun priceChangePercent stats =>
      { stats with priceChangePercent },
    figure "open_interest" fun openInterest stats => { stats with openInterest },
    figure "funding_rate" fun fundingRate stats => { stats with fundingRate },
    .of "next_funding_time" (.optional .signed64)
      (fun nextFundingTime stats => { stats with nextFundingTime }) []]

def decoder : Json.Decoder MarketStats := record.decoder

def figureValue (figure : Option String) : Json.Value := .ofOption (figure.map .string)

def toValue (stats : MarketStats) : Json.Value :=
  .object [
    ("market_index", .ofOption (stats.marketIndex.map fun n => .int n.value)),
    ("last_price", figureValue stats.lastPrice),
    ("mark_price", figureValue stats.markPrice),
    ("index_price", figureValue stats.indexPrice),
    ("high_24h", figureValue stats.high24h),
    ("low_24h", figureValue stats.low24h),
    ("volume_24h", figureValue stats.volume24h),
    ("quote_volume_24h", figureValue stats.quoteVolume24h),
    ("price_change_24h", figureValue stats.priceChange24h),
    ("price_change_pct", figureValue stats.priceChangePercent),
    ("open_interest", figureValue stats.openInterest),
    ("funding_rate", figureValue stats.fundingRate),
    ("next_funding_time", .ofOption (stats.nextFundingTime.map fun n => .int n.value))]

end MarketStats
end MarketFeed

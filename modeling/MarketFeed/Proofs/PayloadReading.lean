import MarketFeed.Payload
import MarketFeed.Proofs.DecoderReading

/-!
# Payloads read back

Levels, books, trades and statistics are read to exactly what was written, whatever their texts are,
from a text as well as from a document. Only a trade whose side has the text of another side is read
as that side.
-/
namespace MarketFeed

open Json (Decoder Value Field)
open Json.Record (decoder_reads writes_of)

namespace PriceLevel

theorem independent : record.Independent :=
  List.pairwise_pair.mpr (Field.of_apart (by decide) fun _ _ _ => rfl)

theorem reads_toValue (level : PriceLevel) : decoder.Reads level.toValue level := by
  have hprice := Decoder.decimal_reads level.price
  have hsize := Decoder.decimal_reads level.size
  have hwrites : List.Forall₂ record.Writes
      [("price", .string level.price), ("size", .string level.size)] _ :=
    .cons (writes_of rfl hprice) (.cons (writes_of rfl hsize) .nil)
  exact decoder_reads independent hwrites independent.names_nodup (.refl _)

theorem legible_toValue (level : PriceLevel) (depth : Nat) : level.toValue.Legible (depth + 1) := by
  simp [toValue, Value.Legible, Value.legible_string]

end PriceLevel

namespace OrderBook

theorem independent : record.Independent :=
  List.pairwise_pair.mpr (Field.of_apart (by decide) fun _ _ _ => rfl)

theorem reads_toValue (book : OrderBook) : decoder.Reads book.toValue book := by
  have hbids := Decoder.list_reads fun level (_ : level ∈ book.bids) => level.reads_toValue
  have hasks := Decoder.list_reads fun level (_ : level ∈ book.asks) => level.reads_toValue
  have hwrites : List.Forall₂ record.Writes
      [("bids", .array (book.bids.map PriceLevel.toValue)),
        ("asks", .array (book.asks.map PriceLevel.toValue))] _ :=
    .cons (writes_of rfl hbids) (.cons (writes_of rfl hasks) .nil)
  exact decoder_reads independent hwrites independent.names_nodup (.refl _)

theorem legible_toValue (book : OrderBook) (depth : Nat) : book.toValue.Legible (depth + 3) := by
  simp [toValue, Value.Legible, PriceLevel.legible_toValue]

end OrderBook

namespace TradeSide

theorem normal_of_forall {side : TradeSide}
    (h : ∀ text, side = .other text → text ∉ ["", "buy", "sell", "unknown"]) : side.Normal := by
  cases side with
  | other text =>
    have hother := h text rfl
    simp_all [Normal, ofText, TradeSide.text]
  | _ => rfl

theorem reads_toValue {side : TradeSide} (h : side.Normal) : decoder.Reads side.toValue side := by
  have hread := (Decoder.string_reads side.text).map ofText
  rwa [h] at hread

end TradeSide

namespace Trade

theorem independent : record.Independent := by
  simp only [Json.Record.Independent, record, List.pairwise_cons, List.forall_mem_cons,
    List.not_mem_nil, false_implies, implies_true, List.Pairwise.nil, and_true]
  and_intros <;> exact Field.of_apart (by decide) fun _ _ _ => rfl

theorem reads_toValue {trade : Trade} (h : trade.side.Normal) :
    decoder.Reads trade.toValue trade := by
  have hside := TradeSide.reads_toValue h
  have hprice := Decoder.decimal_reads trade.price
  have hsize := Decoder.decimal_reads trade.size
  have hwrites : List.Forall₂ record.Writes
      [("side", trade.side.toValue), ("price", .string trade.price),
        ("size", .string trade.size)] _ :=
    .cons (writes_of rfl hside) (.cons (writes_of rfl hprice) (.cons (writes_of rfl hsize) .nil))
  exact decoder_reads independent hwrites independent.names_nodup (.refl _)

theorem legible_toValue (trade : Trade) (depth : Nat) : trade.toValue.Legible (depth + 1) := by
  simp [toValue, TradeSide.toValue, Value.Legible, Value.legible_string]

end Trade

namespace MarketStats

theorem independent : record.Independent := by
  simp only [Json.Record.Independent, record, figure, List.pairwise_cons, List.forall_mem_cons,
    List.not_mem_nil, false_implies, implies_true, List.Pairwise.nil, and_true]
  and_intros <;> exact Field.of_apart (by decide) fun _ _ _ => rfl

theorem reads_figure (figure : Option String) :
    (Decoder.optional .decimal).Reads (figureValue figure) figure :=
  Decoder.optional_reads_ofOption (by simp) Decoder.decimal_reads figure

theorem reads_integer {low high : Int} {expected : String} (n : Option (Bounded low high)) :
    (Decoder.optional (.bounded low high expected)).Reads
      (.ofOption (n.map fun n => .int n.value)) n :=
  Decoder.optional_reads_ofOption (by simp [Value.int]) Decoder.bounded_reads n

theorem reads_toValue (stats : MarketStats) : decoder.Reads stats.toValue stats := by
  have hwrites : List.Forall₂ record.Writes
      [("market_index", .ofOption (stats.marketIndex.map fun n => .int n.value)),
        ("last_price", _), ("mark_price", _), ("index_price", _), ("high_24h", _), ("low_24h", _),
        ("volume_24h", _), ("quote_volume_24h", _), ("price_change_24h", _),
        ("price_change_pct", _), ("open_interest", _), ("funding_rate", _),
        ("next_funding_time", .ofOption (stats.nextFundingTime.map fun n => .int n.value))] _ :=
    .cons (writes_of rfl (reads_integer stats.marketIndex)) <|
    .cons (writes_of rfl (reads_figure stats.lastPrice)) <|
    .cons (writes_of rfl (reads_figure stats.markPrice)) <|
    .cons (writes_of rfl (reads_figure stats.indexPrice)) <|
    .cons (writes_of rfl (reads_figure stats.high24h)) <|
    .cons (writes_of rfl (reads_figure stats.low24h)) <|
    .cons (writes_of rfl (reads_figure stats.volume24h)) <|
    .cons (writes_of rfl (reads_figure stats.quoteVolume24h)) <|
    .cons (writes_of rfl (reads_figure stats.priceChange24h)) <|
    .cons (writes_of rfl (reads_figure stats.priceChangePercent)) <|
    .cons (writes_of rfl (reads_figure stats.openInterest)) <|
    .cons (writes_of rfl (reads_figure stats.fundingRate)) <|
    .cons (writes_of rfl (reads_integer stats.nextFundingTime)) .nil
  exact decoder_reads independent hwrites independent.names_nodup (.refl _)

theorem legible_toValue (stats : MarketStats) (depth : Nat) :
    stats.toValue.Legible (depth + 1) := by
  have hfigure : ∀ figure : Option String, (figureValue figure).Legible depth :=
    Value.legible_ofOption (Value.legible_string depth)
  have hmarket := Value.legible_ofOption
    (Value.legible_int_bounded (by decide) (by decide) depth) stats.marketIndex
  have htime := Value.legible_ofOption
    (Value.legible_int_bounded (by decide) (by decide) depth) stats.nextFundingTime
  simp [toValue, Value.Legible, hfigure, hmarket, htime]

end MarketStats

end MarketFeed

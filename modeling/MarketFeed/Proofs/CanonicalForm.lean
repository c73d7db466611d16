import MarketFeed.Payload.Named
import MarketFeed.Proofs.DecodedRecords
import MarketFeed.Proofs.PayloadReading

/-!
# The canonical form of a payload

A payload may be spelled in many ways: as an object or as a list, with unknown keys and without
known ones, with numbers for texts and with escapes. What is decoded of it is written in one way,
and that way is read as the same payload again. So to decode a text and to write it anew is to bring
it into a form that does not change any more.
-/
namespace MarketFeed

namespace Json

variable {α : Type} {reader : Reader α} {write : α → Value}

/-- The text that is written of what a text holds. -/
def rewrite (reader : Reader α) (write : α → Value) (text : String) : Except Fault String :=
  (parseWith reader text).map fun a => (write a).text

/-- What is written is a canonical form of all that is read. -/
structure Canonical (reader : Reader α) (write : α → Value) : Prop where
  read_again : ∀ text a, parseWith reader text = .ok a → parseWith reader (write a).text = .ok a
  rewrite_again : ∀ text written, rewrite reader write text = .ok written →
    rewrite reader write written = .ok written

namespace Canonical

theorem of_read_again
    (h : ∀ text a, parseWith reader text = .ok a → parseWith reader (write a).text = .ok a) :
    Canonical reader write := by
  refine ⟨h, ?_⟩
  intro text written hwritten
  obtain ⟨a, ha, rfl⟩ := Attempts.map_eq_ok.mp hwritten
  exact Attempts.map_eq_ok.mpr ⟨a, h text a ha, rfl⟩

theorem of_reads {d : Decoder α} {depth : Nat} (hreads : ∀ a, d.Gives a → d.Reads (write a) a)
    (hlegible : ∀ a, (write a).Legible depth) : Canonical (d.read depth) write := by
  refine of_read_again ?_
  intro text a ha
  have hgives := Decoder.gives_of_parseWith ha
  exact (hreads a hgives).parseWith (hlegible a)

end Canonical
end Json

open Json (Canonical Decoder Field nestingLimit parseWith)

namespace Topic

theorem reader_chars (topic : Topic) (rest : List Char) :
    reader (topic.toValue.chars ++ rest) = .ok (topic, rest) := by
  have hdocument : ofDocument topic.name = .ok topic := by
    rw [ofDocument, ofName?_name]
  rw [toValue, Json.Value.chars, Json.quoteChars_append, reader,
    Json.skipSpace_cons (c := '"') (by decide)]
  simp only [Json.stringBody_quoted, hdocument, bind, Except.bind]
  rfl

theorem canonical : Canonical reader toValue := by
  refine .of_read_again ?_
  intro text topic _
  have hread := topic.reader_chars []
  rw [List.append_nil] at hread
  simp only [parseWith, Json.Value.toList_text, hread, bind, Except.bind]
  rfl

end Topic

theorem MarketIndex.canonical : Canonical (decoder.read nestingLimit) toValue :=
  .of_reads (fun market _ => Decoder.bounded_reads market)
    (Json.Value.legible_int_bounded (by decide) (by decide) nestingLimit)

theorem PriceLevel.canonical : Canonical (decoder.read nestingLimit) toValue :=
  .of_reads (fun level _ => level.reads_toValue) fun level => level.legible_toValue 126

theorem OrderBook.canonical : Canonical (decoder.read nestingLimit) toValue :=
  .of_reads (fun book _ => book.reads_toValue) fun book => book.legible_toValue 124

theorem MarketStats.canonical : Canonical (decoder.read nestingLimit) toValue :=
  .of_reads (fun stats _ => stats.reads_toValue) fun stats => stats.legible_toValue 126

namespace TradeSide

variable {side : TradeSide}

theorem normal_ofText (s : String) : (ofText s).Normal := by
  unfold ofText
  split_ifs with hbuy hsell hunknown
  · rfl
  · rfl
  · rfl
  · simp [Normal, text, ofText, hbuy, hsell, hunknown]

theorem normal_of_gives (h : decoder.Gives side) : side.Normal := by
  obtain ⟨s, -, rfl⟩ := Decoder.gives_of_map h
  exact normal_ofText s

theorem Normal.not_mem (h : side.Normal) {word : String} (hword : side = .other word) :
    word ∉ ["", "buy", "sell", "unknown"] := by
  subst hword
  simp only [List.mem_cons, List.not_mem_nil, or_false]
  rintro (rfl | rfl | rfl | rfl) <;> cases h

theorem canonical : Canonical (decoder.read nestingLimit) toValue :=
  .of_reads (fun _ h => reads_toValue (normal_of_gives h)) fun side =>
    Json.Value.legible_string nestingLimit side.text

end TradeSide

namespace Trade

variable {trade : Trade}

theorem side_normal_of_gives (h : decoder.Gives trade) : trade.side.Normal := by
  let P : Trade → Prop := fun trade => trade.side.Normal
  have hfields : ∀ f ∈ record.fields, f.Keeps P := by
    simp only [record, List.forall_mem_cons, List.not_mem_nil, false_implies, implies_true,
      and_true]
    refine ⟨?side, ?price, ?size⟩
    case side => exact Field.of_keeps fun _ hside _ _ => TradeSide.normal_of_gives hside
    case price => exact Field.of_keeps fun _ _ _ hnormal => hnormal
    case size => exact Field.of_keeps fun _ _ _ hnormal => hnormal
  exact Json.Record.decoder_keeps (P := P) hfields rfl h

theorem canonical : Canonical (decoder.read nestingLimit) toValue :=
  .of_reads (fun _ h => reads_toValue (side_normal_of_gives h)) fun trade =>
    trade.legible_toValue 126

end Trade

/-- What is decoded of any text for a topic, a market, a level, a book, a side, a trade or the
figures of a market is decoded again of what is written for it; and a side that keeps its own text
has none that stands for another side. -/
theorem payloads_canonical :
    Canonical Topic.reader Topic.toValue ∧
      Canonical (MarketIndex.decoder.read nestingLimit) MarketIndex.toValue ∧
      Canonical (PriceLevel.decoder.read nestingLimit) PriceLevel.toValue ∧
      Canonical (OrderBook.decoder.read nestingLimit) OrderBook.toValue ∧
      Canonical (TradeSide.decoder.read nestingLimit) TradeSide.toValue ∧
      Canonical (Trade.decoder.read nestingLimit) Trade.toValue ∧
      Canonical (MarketStats.decoder.read nestingLimit) MarketStats.toValue ∧
      (∀ text side word, parseWith (TradeSide.decoder.read nestingLimit) text = .ok side →
        side = .other word → word ∉ ["", "buy", "sell", "unknown"]) ∧
      ∀ text trade word, parseWith (Trade.decoder.read nestingLimit) text = .ok trade →
        trade.side = .other word → word ∉ ["", "buy", "sell", "unknown"] := by
  refine ⟨Topic.canonical, MarketIndex.canonical, PriceLevel.canonical, OrderBook.canonical,
    TradeSide.canonical, Trade.canonical, MarketStats.canonical, ?side, ?trade⟩
  case side =>
    intro text side word hside
    have hgives := Decoder.gives_of_parseWith hside
    exact (TradeSide.normal_of_gives hgives).not_mem
  case trade =>
    intro text trade word htrade
    have hgives := Decoder.gives_of_parseWith htrade
    exact (Trade.side_normal_of_gives hgives).not_mem

/-- A list, a number and a missing field are gone after the first time, and a word that only looks
like a side stays what it is. -/
theorem payloads_canonical_for_listed_trade :
    let trade : Trade := ⟨.other "BUY", "7", "0"⟩
    parseWith (Trade.decoder.read nestingLimit) "[\"BUY\", 7]" = .ok trade ∧
      trade.toValue.text = "\x7b\"side\":\"BUY\",\"price\":\"7\",\"size\":\"0\"\x7d" ∧
      parseWith (Trade.decoder.read nestingLimit) trade.toValue.text = .ok trade ∧
      "BUY" ∉ ["", "buy", "sell", "unknown"] := by
  intro trade
  have hdecoded : (parseWith (Trade.decoder.read nestingLimit) "[\"BUY\", 7]").toOption =
      some trade := by decide +kernel
  have htrade := Attempts.toOption_eq_some.mp hdecoded
  have htext : trade.toValue.text =
      "\x7b\"side\":\"BUY\",\"price\":\"7\",\"size\":\"0\"\x7d" := by decide +kernel
  obtain ⟨-, -, -, -, -, hcanonical, -, -, hside⟩ := payloads_canonical
  exact ⟨htrade, htext, hcanonical.read_again _ _ htrade, hside _ trade "BUY" htrade rfl⟩

end MarketFeed

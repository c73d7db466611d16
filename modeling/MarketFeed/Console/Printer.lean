import MarketFeed.Feed

/-!
# Printers

A printer writes whole lines to a sink. Any write may fail; the line is then lost, the failure is
reported, and writing goes on with the next line. A sink to which every write succeeds holds the
lines that were written, in their order and each with its end.

The table has one row for each trade in the order received, and a heading before the trades of a
snapshot. Columns are aligned to the right and never cut. With colours a row is green when the
aggressor bought and red otherwise. The blocks of statistics come one for each entry, under the
market that the entry names, else the one market of the echoed channel.

The summaries show each frame in few lines. A local book is kept for every echoed channel, so that
an update can be followed by the best bid and ask of the merged book. The best line of a snapshot
shows the first levels of the frame itself.
-/
namespace MarketFeed.Console

/-- Lines as they stand on an output. -/
def linesText : List String → String
  | [] => ""
  | line :: rest => line ++ "\n" ++ linesText rest

theorem linesText_append (before after : List String) :
    linesText (before ++ after) = linesText before ++ linesText after := by
  induction before with
  | nil => simp [linesText]
  | cons line rest ih => simp only [List.cons_append, linesText, ih, String.append_assoc]

/-- An output and the fate of the writes to it. -/
structure Sink where
  /-- Why a write fails, by its number, for those that do. -/
  faults : Nat → Option String
  /-- The number of writes so far. -/
  attempts : Nat
  text : String

namespace Sink

/-- An empty output to which every write succeeds. -/
def working : Sink := ⟨fun _ => none, 0, ""⟩

/-- An empty output to which every write fails. -/
def broken (reason : String) : Sink := ⟨fun _ => some reason, 0, ""⟩

def writeLine (sink : Sink) (line : String) : Sink × List Notice :=
  match sink.faults sink.attempts with
  | none => ({ sink with attempts := sink.attempts + 1, text := sink.text ++ line ++ "\n" }, [])
  | some reason => ({ sink with attempts := sink.attempts + 1 }, [.outputFailed reason])

def writeLines (sink : Sink) : List String → Sink × List Notice
  | [] => (sink, [])
  | line :: rest =>
    let (sink, notices) := sink.writeLine line
    let (sink, more) := sink.writeLines rest
    (sink, notices ++ more)

variable {sink : Sink}

def Works (sink : Sink) : Prop := ∀ n, sink.faults n = none

theorem works_working : working.Works := fun _ => rfl

@[simp] theorem faults_writeLine (sink : Sink) (line : String) :
    (sink.writeLine line).1.faults = sink.faults := by
  unfold writeLine
  split <;> rfl

@[simp] theorem faults_writeLines (sink : Sink) (lines : List String) :
    (sink.writeLines lines).1.faults = sink.faults := by
  induction lines generalizing sink with
  | nil => rfl
  | cons line rest ih => exact (ih _).trans (sink.faults_writeLine line)

theorem Works.writeLine (h : sink.Works) (line : String) : (sink.writeLine line).1.Works := by
  unfold Works
  rw [faults_writeLine]
  exact h

theorem Works.writeLines (h : sink.Works) (lines : List String) :
    (sink.writeLines lines).1.Works := by
  unfold Works
  rw [faults_writeLines]
  exact h

theorem Works.text_writeLine (h : sink.Works) (line : String) :
    (sink.writeLine line).1.text = sink.text ++ line ++ "\n" := by
  unfold Sink.writeLine
  rw [h]

/-- What is written stands behind what was there. -/
theorem Works.text_writeLines (h : sink.Works) (lines : List String) :
    (sink.writeLines lines).1.text = sink.text ++ linesText lines := by
  induction lines generalizing sink with
  | nil => exact (String.append_empty).symm
  | cons line rest ih =>
    have hrest := ih (h.writeLine line)
    rw [h.text_writeLine] at hrest
    simpa only [Sink.writeLines, linesText, String.append_assoc] using hrest

end Sink

/-- The handler that writes the lines of an event. -/
def printing (lines : FrameKind → MarketEvent → List String) : Handler Sink :=
  fun sink kind event => sink.writeLines (lines kind event)

/-- What is shown for a figure that is missing. -/
def orMissing (figure : Option String) : String := figure.getD "N/A"

/-- A text with blanks before it up to a width. Longer texts stay whole. -/
def padLeft (width : Nat) (s : String) : String :=
  String.ofList (List.replicate (width - s.length) ' ') ++ s

namespace TradeTable

def columns (side price size : String) : String :=
  padLeft 10 side ++ padLeft 15 price ++ padLeft 15 size

/-- The number of trades, the titles of the columns and a rule. -/
def heading (count : Nat) : List String :=
  ["Trade snapshot: " ++ toString count ++ " recent trades",
    columns "Side" "Price" "Size",
    String.ofList (List.replicate 40 '-')]

def plainRow (trade : Trade) : String := columns trade.side.text trade.price trade.size

def paint (colour line : String) : String := "\x1b[" ++ colour ++ "m" ++ line ++ "\x1b[0m"

def row (coloured : Bool) (trade : Trade) : String :=
  if coloured then paint (if trade.side.isBuy then "32" else "31") (plainRow trade)
  else plainRow trade

def lines (coloured : Bool) (kind : FrameKind) (event : MarketEvent) : List String :=
  match event.payload with
  | .trades trades =>
    (match kind with
      | .snapshot => heading trades.length
      | .update => []) ++ trades.map (row coloured)
  | _ => []

def handler (coloured : Bool) : Handler Sink := printing (lines coloured)

end TradeTable

namespace StatsBlocks

/-- The one market that an echoed channel names. -/
def echoedMarket? (channel : Option String) : Option MarketIndex :=
  (channel.bind fun text => (Channel.parse text).toOption).bind fun c => c.target.market?

def marketText (channel : Option String) (stats : MarketStats) : String :=
  match stats.marketIndex.or (echoedMarket? channel) with
  | some market => market.text
  | none => "?"

/-- The lines of one entry; the last one is empty. -/
def block (market : String) (stats : MarketStats) : List String :=
  ["Market " ++ market ++ ":",
    "  Last Price:    " ++ orMissing stats.lastPrice,
    "  Mark Price:    " ++ orMissing stats.markPrice,
    "  Index Price:   " ++ orMissing stats.indexPrice,
    "  24h High:      " ++ orMissing stats.high24h,
    "  24h Low:       " ++ orMissing stats.low24h,
    "  24h Volume:    " ++ orMissing stats.volume24h,
    "  24h Change:    " ++ orMissing (stats.priceChangePercent.map (· ++ "%")),
    "  Open Interest: " ++ orMissing stats.openInterest,
    "  Funding Rate:  " ++ orMissing stats.fundingRate,
    ""]

def lines (_kind : FrameKind) (event : MarketEvent) : List String :=
  match event.payload with
  | .stats entries => entries.flatMap fun stats => block (marketText event.channel stats) stats
  | _ => []

def handler : Handler Sink := printing lines

end StatsBlocks

/-- The output and the local books by echoed channel. -/
structure Summary where
  sink : Sink
  books : List (String × Book)

namespace Summary

def start (sink : Sink) : Summary := ⟨sink, []⟩

/-- The book of an echoed channel; the name is empty when the frame had none. -/
def book? (summary : Summary) (key : String) : Option Book := summary.books.lookup key

def putBook (summary : Summary) (key : String) (book : Book) : Summary :=
  { summary with books := (key, book) :: summary.books.filter fun entry => entry.1 != key }

def write (summary : Summary) (lines : List String) : Summary × List Notice :=
  let (sink, notices) := summary.sink.writeLines lines
  ({ summary with sink }, notices)

def bestLines : Option (PriceLevel × PriceLevel) → List String
  | some (bid, ask) =>
    ["  Best Bid: " ++ bid.size ++ " @ " ++ bid.price ++
      " | Best Ask: " ++ ask.size ++ " @ " ++ ask.price]
  | none => []

/-- A frame by the number of its levels. -/
def heading : FrameKind → OrderBook → String
  | .snapshot, frame =>
    "Order Book Snapshot: " ++ toString frame.bids.length ++ " bids, " ++
      toString frame.asks.length ++ " asks"
  | .update, frame =>
    "Order Book Update: " ++ toString frame.bids.length ++ " bid updates, " ++
      toString frame.asks.length ++ " ask updates"

def takeSnapshot (summary : Summary) (key : String) (frame : OrderBook) :
    Summary × List Notice :=
  let before := (summary.book? key).getD .empty
  let (book, failure) := match before.snapshot frame with
    | .ok book => (book, [])
    | .error error => (before, [Notice.snapshotNotApplied key error])
  let (summary, notices) :=
    (summary.putBook key book).write (heading .snapshot frame :: bestLines frame.top?)
  (summary, failure ++ notices)

def takeUpdate (summary : Summary) (key : String) (frame : OrderBook) :
    Summary × List Notice :=
  let before := (summary.book? key).getD .empty
  let (book, failure, best) := match before.update frame with
    | .ok book => (book, [], bestLines book.top?)
    | .error error => (before, [Notice.updateNotApplied key error], [])
  let (summary, notices) := (summary.putBook key book).write [heading .update frame]
  let (summary, more) := summary.write best
  (summary, notices ++ failure ++ more)

def takeBook (summary : Summary) (key : String) : FrameKind → OrderBook → Summary × List Notice
  | .snapshot, frame => summary.takeSnapshot key frame
  | .update, frame => summary.takeUpdate key frame

def tradeLine (trade : Trade) : String :=
  "Trade: " ++ trade.size ++ " @ " ++ trade.price ++ " (" ++ trade.side.text ++ ")"

def statsLine (stats : MarketStats) : String :=
  "Market Stats: Last: " ++ orMissing stats.lastPrice ++ " Mark: " ++ orMissing stats.markPrice ++
    " 24h Vol: " ++ orMissing stats.volume24h

/-- Keeps the books and prints the summaries. -/
def handler : Handler Summary := fun summary kind event =>
  match event.payload with
  | .book frame => summary.takeBook (event.channel.getD "") kind frame
  | .trades trades => summary.write (trades.map tradeLine)
  | .stats entries => summary.write (entries.map statsLine)

end Summary

inductive Printer where
  | summary
  | tradeTable (coloured : Bool)
  | statsBlocks
  | silent
  deriving DecidableEq, Repr

def onSink (handler : Handler Sink) : Handler Summary := fun summary kind event =>
  let (sink, notices) := handler summary.sink kind event
  ({ summary with sink }, notices)

def Printer.handler : Printer → Handler Summary
  | summary => Summary.handler
  | tradeTable coloured => onSink (TradeTable.handler coloured)
  | statsBlocks => onSink StatsBlocks.handler
  | silent => fun state _ _ => (state, [])

end MarketFeed.Console

import MarketFeed.Proofs.BookRestore
import MarketFeed.Proofs.ChannelBooks

/-!
# The best bid and ask that are printed

Behind an update the summaries print the best levels of the merged book, behind a snapshot the first
levels of the frame itself. In a book that quotes the first level of a side is the one of the best
price, so an update shows the highest bid and the lowest ask. A frame that is sorted, with a price
and an offer at every level, is the listing of a book, and as a snapshot it makes that book of any
other one. Its first levels are then the best of the book, and the two ways to print agree.
-/
namespace MarketFeed

/-- The handler is called with market data time after time. -/
def Handler.callEach {σ : Type} (handler : Handler σ) (state : σ)
    (calls : List (FrameKind × MarketEvent)) : σ :=
  calls.foldl (fun state call => (handler state call.1 call.2).1) state

/-- One of the levels, and none of them has a higher price. -/
def PriceLevel.IsHighest (levels : List PriceLevel) (best : PriceLevel) : Prop :=
  best ∈ levels ∧
    ∀ level ∈ levels, ∃ p q, best.price? = some p ∧ level.price? = some q ∧ q ≤ p

/-- One of the levels, and none of them has a lower price. -/
def PriceLevel.IsLowest (levels : List PriceLevel) (best : PriceLevel) : Prop :=
  best ∈ levels ∧
    ∀ level ∈ levels, ∃ p q, best.price? = some p ∧ level.price? = some q ∧ p ≤ q

/-- The first level is the one that has no other before it, going by the prices. -/
theorem Ladder.Quotes.head?_eq_some_iff {side : Side} {ladder : Ladder} (h : ladder.Quotes side)
    {best : PriceLevel} :
    ladder.levels.head? = some best ↔ best ∈ ladder.levels ∧
      ∀ level ∈ ladder.levels, ∃ p q, best.price? = some p ∧ level.price? = some q ∧
        side.rank p ≤ side.rank q := by
  constructor
  · intro hbest
    exact ⟨List.mem_of_mem_head? hbest, fun level hlevel => h.head_le hbest hlevel⟩
  · rintro ⟨hmem, hle⟩
    have hpairs := h.levels_pairwise
    cases hlevels : ladder.levels with
    | nil => simp [hlevels] at hmem
    | cons first rest =>
      rw [hlevels] at hmem hle hpairs
      rcases List.mem_cons.mp hmem with rfl | hlater
      · rfl
      · -- a later level has a price behind the first one
        obtain ⟨p, q, hp, hq, hlt⟩ := (List.pairwise_cons.mp hpairs).1 best hlater
        obtain ⟨q', p', hq', hp', hle⟩ := hle first (.head _)
        obtain rfl : q' = q := Option.some.inj (hq'.symm.trans hq)
        obtain rfl : p' = p := Option.some.inj (hp'.symm.trans hp)
        omega

namespace Book

variable {book : Book} {bid ask : PriceLevel}

theorem Quotes.bestBid?_eq_some_iff (h : book.Quotes) :
    book.bestBid? = some bid ↔ PriceLevel.IsHighest book.bids bid := by
  have hhead : book.bids.head? = some bid ↔ _ := (h .bid).head?_eq_some_iff
  simp only [Side.rank_bid_le] at hhead
  exact hhead

theorem Quotes.bestAsk?_eq_some_iff (h : book.Quotes) :
    book.bestAsk? = some ask ↔ PriceLevel.IsLowest book.asks ask := by
  have hhead : book.asks.head? = some ask ↔ _ := (h .ask).head?_eq_some_iff
  simp only [Side.rank_ask_le] at hhead
  exact hhead

theorem Quotes.top?_eq_some_iff_best (h : book.Quotes) :
    book.top? = some (bid, ask) ↔
      PriceLevel.IsHighest book.bids bid ∧ PriceLevel.IsLowest book.asks ask := by
  rw [top?_eq_some_iff, h.bestBid?_eq_some_iff, h.bestAsk?_eq_some_iff]

theorem Quotes.update {frame : OrderBook} {merged : Book} (h : book.Quotes)
    (hmerged : book.update frame = .ok merged) : merged.Quotes := by
  have happlied : book.applyEvent (.update frame) = .ok merged := hmerged
  rw [← after_of_ok happlied]
  exact h.after (.update frame)

theorem update_nothing (book : Book) : book.update .empty = .ok book := rfl

/-- The best bid and ask of the book that a frame makes of this one, if it does. -/
def mergedTop? (book : Book) (frame : OrderBook) : Option (PriceLevel × PriceLevel) :=
  (book.update frame).toOption.bind top?

theorem mergedTop?_of_ok {frame : OrderBook} {merged : Book}
    (h : book.update frame = .ok merged) : book.mergedTop? frame = merged.top? := by
  rw [mergedTop?, h]
  rfl

theorem mergedTop?_of_error {frame : OrderBook} {error : BookError}
    (h : book.update frame = .error error) : book.mergedTop? frame = none := by
  rw [mergedTop?, h]
  rfl

end Book

theorem OrderBook.top?_eq_some_iff {frame : OrderBook} {bid ask : PriceLevel} :
    frame.top? = some (bid, ask) ↔ frame.bids.head? = some bid ∧ frame.asks.head? = some ask := by
  unfold top? bestBid? bestAsk?
  cases frame.bids.head? <;> cases frame.asks.head? <;> simp

/-- Every level has a price and offers something, and the prices of a side get strictly worse. -/
structure OrderBook.Sorted (frame : OrderBook) : Prop where
  offered : ∀ level ∈ frame.bids ++ frame.asks,
    level.price?.isSome = true ∧ level.isOffered = true
  bids_descend : frame.bids.Pairwise fun a b =>
    ∃ p q, a.price? = some p ∧ b.price? = some q ∧ q < p
  asks_ascend : frame.asks.Pairwise fun a b =>
    ∃ p q, a.price? = some p ∧ b.price? = some q ∧ p < q

/-- The levels at the ranks of their own prices, when these ascend. -/
def Ladder.ofLevels (side : Side) (levels : List PriceLevel)
    (h : levels.Pairwise fun a b =>
      ∃ p q, a.price? = some p ∧ b.price? = some q ∧ side.rank p < side.rank q) : Ladder where
  rungs := levels.map fun level => (level.price?.elim 0 side.rank, level)
  ascending := by
    rw [List.pairwise_map]
    refine h.imp ?_
    rintro a b ⟨p, q, hp, hq, hlt⟩
    rw [hp, hq]
    exact hlt

namespace Ladder

variable {side : Side} {levels : List PriceLevel} (h : levels.Pairwise fun a b =>
  ∃ p q, a.price? = some p ∧ b.price? = some q ∧ side.rank p < side.rank q)

@[simp] theorem levels_ofLevels : (ofLevels side levels h).levels = levels := by
  unfold Ladder.levels ofLevels
  rw [List.map_map]
  exact List.map_id levels

theorem quotes_ofLevels
    (hoffered : ∀ level ∈ levels, level.price?.isSome = true ∧ level.isOffered = true) :
    (ofLevels side levels h).Quotes side := by
  refine ⟨?priced, ?offered⟩
  case priced =>
    intro rung hrung
    obtain ⟨level, hlevel, rfl⟩ := List.mem_map.mp hrung
    obtain ⟨p, hp⟩ := Option.isSome_iff_exists.mp (hoffered level hlevel).1
    exact ⟨p, by rw [hp]; rfl, hp⟩
  case offered =>
    intro rung hrung
    obtain ⟨level, hlevel, rfl⟩ := List.mem_map.mp hrung
    exact (hoffered level hlevel).2

end Ladder

namespace OrderBook.Sorted

variable {frame : OrderBook} (h : frame.Sorted)
include h

theorem bids_ranked : frame.bids.Pairwise fun a b =>
    ∃ p q, a.price? = some p ∧ b.price? = some q ∧ Side.bid.rank p < Side.bid.rank q := by
  simpa only [Side.rank_bid_lt] using h.bids_descend

theorem asks_ranked : frame.asks.Pairwise fun a b =>
    ∃ p q, a.price? = some p ∧ b.price? = some q ∧ Side.ask.rank p < Side.ask.rank q := by
  simpa only [Side.rank_ask_lt] using h.asks_ascend

/-- The book with the levels of the frame as they stand. -/
def book : Book :=
  ⟨.ofLevels .bid frame.bids h.bids_ranked, .ofLevels .ask frame.asks h.asks_ranked⟩

theorem toOrderBook_book : h.book.toOrderBook = frame := by
  simp only [book, Book.toOrderBook, Book.bids, Book.asks, Ladder.levels_ofLevels]

theorem top?_book : h.book.top? = frame.top? := by
  have hlisted : h.book.toOrderBook.top? = h.book.top? := rfl
  rw [← hlisted, h.toOrderBook_book]

theorem quotes_book : h.book.Quotes := by
  obtain ⟨hbids, hasks⟩ := List.forall_mem_append.mp h.offered
  rintro (_ | _)
  · exact Ladder.quotes_ofLevels h.bids_ranked hbids
  · exact Ladder.quotes_ofLevels h.asks_ranked hasks

/-- A sorted frame is the listing of a book, which its snapshot makes of any other. -/
theorem snapshot_eq (other : Book) : other.snapshot frame = .ok h.book := by
  have hlisting := h.quotes_book.snapshot_listing other
  rwa [h.toOrderBook_book] at hlisting

end OrderBook.Sorted

namespace Console.Summary

variable {summary : Summary}

/-- The book that a frame on a channel is applied to. The first frame finds an empty one. -/
def bookOf (summary : Summary) (channel : Option String) : Book :=
  (summary.book? (channel.getD "")).getD .empty

/-- The best bid and ask that are shown behind a frame: those of a snapshot itself, and those of the
book that an update is merged into. -/
def shownTop? (book : Book) : FrameKind → OrderBook → Option (PriceLevel × PriceLevel)
  | .snapshot, frame => frame.top?
  | .update, frame => book.mergedTop? frame

theorem sink_book (summary : Summary) (channel : Option String) (kind : FrameKind)
    (frame : OrderBook) :
    (handler summary kind ⟨channel, .book frame⟩).1.sink =
      (summary.sink.writeLines
        (heading kind frame :: bestLines (shownTop? (summary.bookOf channel) kind frame))).1 := by
  change (summary.takeBook (channel.getD "") kind frame).1.sink = _
  cases kind with
  | snapshot => rfl
  | update =>
    -- the heading is written before it is known whether the frame can be applied
    simp only [takeBook, takeUpdate, shownTop?, Book.mergedTop?, bookOf, write]
    cases ((summary.book? (channel.getD "")).getD .empty).update frame with
    | error error => rfl
    | ok merged => rfl

theorem text_book (h : summary.sink.Works) (channel : Option String) (kind : FrameKind)
    (frame : OrderBook) :
    (handler summary kind ⟨channel, .book frame⟩).1.sink.text =
      summary.sink.text ++ linesText
        (heading kind frame :: bestLines (shownTop? (summary.bookOf channel) kind frame)) := by
  rw [sink_book, h.text_writeLines]

theorem bookOf_book (summary : Summary) (channel : Option String) (kind : FrameKind)
    (frame : OrderBook) :
    (handler summary kind ⟨channel, .book frame⟩).1.bookOf channel =
      (summary.bookOf channel).after (.ofFrame kind frame) := by
  have htake := summary.book?_takeBook (channel.getD "") (channel.getD "") kind frame
  rw [if_pos rfl] at htake
  exact congrArg (·.getD .empty) htake

structure Sound (summary : Summary) : Prop where
  works : summary.sink.Works
  quotes : ∀ key, ((summary.book? key).getD .empty).Quotes

theorem faults_handler (summary : Summary) (kind : FrameKind) (event : MarketEvent) :
    (handler summary kind event).1.sink.faults = summary.sink.faults := by
  obtain ⟨channel, payload⟩ := event
  cases payload with
  | book frame => rw [sink_book, Sink.faults_writeLines]
  | trades entries => exact summary.sink.faults_writeLines _
  | stats entries => exact summary.sink.faults_writeLines _

theorem sound_start : (start .working).Sound where
  works := Sink.works_working
  quotes _ := Book.quotes_empty

theorem Sound.handler (h : summary.Sound) (kind : FrameKind) (event : MarketEvent) :
    (Summary.handler summary kind event).1.Sound := by
  refine ⟨?works, ?quotes⟩
  case works =>
    unfold Sink.Works
    rw [faults_handler]
    exact h.works
  case quotes =>
    intro key
    rw [book?_handler]
    cases bookEvent? key kind event with
    | none => exact h.quotes key
    | some event => exact (h.quotes key).after event

theorem Sound.callEach (h : summary.Sound) (calls : List (FrameKind × MarketEvent)) :
    (Handler.callEach Summary.handler summary calls).Sound := by
  induction calls generalizing summary with
  | nil => exact h
  | cons call rest ih => exact ih (h.handler call.1 call.2)

theorem linesText_best (heading : String) (quote : Option (PriceLevel × PriceLevel)) :
    linesText (heading :: bestLines quote) = heading ++ "\n" ++ quote.elim "" fun top =>
      "  Best Bid: " ++ top.1.size ++ " @ " ++ top.1.price ++
        " | Best Ask: " ++ top.2.size ++ " @ " ++ top.2.price ++ "\n" := by
  cases quote with
  | none => rfl
  | some top => simp [bestLines, linesText, String.append_assoc]

theorem heading_snapshot (frame : OrderBook) :
    heading .snapshot frame ++ "\n" = "Order Book Snapshot: " ++ toString frame.bids.length ++
      " bids, " ++ toString frame.asks.length ++ " asks\n" := by
  have hend : " asks" ++ "\n" = " asks\n" := by decide
  unfold heading
  rw [String.append_assoc, hend]

theorem heading_update (frame : OrderBook) :
    heading .update frame ++ "\n" = "Order Book Update: " ++ toString frame.bids.length ++
      " bid updates, " ++ toString frame.asks.length ++ " ask updates\n" := by
  have hend : " ask updates" ++ "\n" = " ask updates\n" := by decide
  unfold heading
  rw [String.append_assoc, hend]

/-- The best line is the top of the local book. Whatever a printer on a working output was called
with, an update writes the numbers of its levels and, if it can be applied and the merged book has
both sides, one line of the highest bid and the lowest ask of that book; one that cannot be applied
writes its heading alone and leaves the book as it was. A snapshot writes the numbers of its levels
and a line of the first level of each side, if there are both. If its levels are sorted, an update
of nothing right behind it writes that same line, or none just like the snapshot. -/
theorem best_line_of_local_book (calls : List (FrameKind × MarketEvent)) (channel : Option String)
    (frame : OrderBook) :
    let reached := Handler.callEach handler (start .working) calls
    let book := reached.bookOf channel
    let updated := (handler reached .update ⟨channel, .book frame⟩).1
    let shown := (handler reached .snapshot ⟨channel, .book frame⟩).1
    let again := (handler shown .update ⟨channel, .book .empty⟩).1
    let best (quote : Option (PriceLevel × PriceLevel)) := quote.elim "" fun top =>
      "  Best Bid: " ++ top.1.size ++ " @ " ++ top.1.price ++
        " | Best Ask: " ++ top.2.size ++ " @ " ++ top.2.price ++ "\n"
    (∃ quote,
      updated.sink.text = reached.sink.text ++
        ("Order Book Update: " ++ toString frame.bids.length ++ " bid updates, " ++
          toString frame.asks.length ++ " ask updates\n" ++ best quote) ∧
      (∀ error, book.update frame = .error error →
        quote = none ∧ updated.bookOf channel = book) ∧
      ∀ merged, book.update frame = .ok merged →
        updated.bookOf channel = merged ∧
        (quote.isSome = true ↔ merged.bids ≠ [] ∧ merged.asks ≠ []) ∧
        ∀ bid ask, quote = some (bid, ask) ↔
          PriceLevel.IsHighest merged.bids bid ∧ PriceLevel.IsLowest merged.asks ask) ∧
    ∃ first,
      (∀ bid ask, first = some (bid, ask) ↔
        frame.bids.head? = some bid ∧ frame.asks.head? = some ask) ∧
      shown.sink.text = reached.sink.text ++
        ("Order Book Snapshot: " ++ toString frame.bids.length ++ " bids, " ++
          toString frame.asks.length ++ " asks\n" ++ best first) ∧
      (frame.Sorted → again.sink.text = shown.sink.text ++
        ("Order Book Update: 0 bid updates, 0 ask updates\n" ++ best first)) := by
  intro reached book updated shown again best
  have hreached : reached.Sound := sound_start.callEach calls
  have hshown : shown.Sound := hreached.handler .snapshot ⟨channel, .book frame⟩
  refine ⟨⟨book.mergedTop? frame, ?text, ?error, ?ok⟩, frame.top?, ?first, ?snapshot, ?sorted⟩
  case text =>
    have htext := text_book hreached.works channel .update frame
    rwa [linesText_best, heading_update] at htext
  case error =>
    intro error herror
    have hrefused : book.applyEvent (.update frame) = .error error := herror
    refine ⟨Book.mergedTop?_of_error herror, ?_⟩
    exact (bookOf_book reached channel .update frame).trans (Book.after_of_error hrefused)
  case ok =>
    intro merged hmerged
    have happlied : book.applyEvent (.update frame) = .ok merged := hmerged
    have hquotes : merged.Quotes := (hreached.quotes _).update hmerged
    rw [Book.mergedTop?_of_ok hmerged]
    refine ⟨?_, Book.top?_isSome_iff, fun bid ask => hquotes.top?_eq_some_iff_best⟩
    exact (bookOf_book reached channel .update frame).trans (Book.after_of_ok happlied)
  case first =>
    exact fun bid ask => OrderBook.top?_eq_some_iff
  case snapshot =>
    have htext := text_book hreached.works channel .snapshot frame
    rwa [linesText_best, heading_snapshot] at htext
  case sorted =>
    intro hsorted
    have happlied : book.applyEvent (.snapshot frame) = .ok hsorted.book :=
      hsorted.snapshot_eq book
    have hbook : shown.bookOf channel = hsorted.book :=
      (bookOf_book reached channel .snapshot frame).trans (Book.after_of_ok happlied)
    have htop : (shown.bookOf channel).mergedTop? .empty = frame.top? := by
      rw [hbook, Book.mergedTop?_of_ok (Book.update_nothing _), hsorted.top?_book]
    have hnone : heading .update .empty ++ "\n" =
        "Order Book Update: 0 bid updates, 0 ask updates\n" := by decide +kernel
    have htext := text_book hshown.works channel .update .empty
    rwa [linesText_best, hnone, shownTop?, htop] at htext

/-- A frame meets a stale book of better prices, behind a frame that could not be applied. Merged as
an update it leaves the stale prices best; as a snapshot it shows its own, one of which has an
exponent. -/
theorem best_line_of_local_book_after_stale_one :
    let channel := some "order_book:0"
    let stale : OrderBook := ⟨[⟨"20", "5"⟩], [⟨"10.5", "5"⟩]⟩
    let bad : OrderBook := ⟨[⟨"x", "5"⟩], []⟩
    let frame : OrderBook := ⟨[⟨"10", "1"⟩, ⟨"9.50", "2"⟩], [⟨"1.1e1", "3"⟩]⟩
    let reached := Handler.callEach handler (start .working)
      [(.snapshot, ⟨channel, .book stale⟩), (.update, ⟨channel, .book bad⟩)]
    let updated := (handler reached .update ⟨channel, .book frame⟩).1
    let shown := (handler reached .snapshot ⟨channel, .book frame⟩).1
    frame.Sorted ∧
      updated.sink.text = reached.sink.text ++
        ("Order Book Update: 2 bid updates, 1 ask updates\n" ++
          "  Best Bid: 5 @ 20 | Best Ask: 5 @ 10.5\n") ∧
      (handler shown .update ⟨channel, .book .empty⟩).1.sink.text = shown.sink.text ++
        ("Order Book Update: 0 bid updates, 0 ask updates\n" ++
          "  Best Bid: 1 @ 10 | Best Ask: 3 @ 1.1e1\n") := by
  intro channel stale bad frame reached updated shown
  have hprices : PriceLevel.price? ⟨"20", "5"⟩ = some ⟨200000000000000000000000000000⟩ ∧
      PriceLevel.price? ⟨"10", "1"⟩ = some ⟨100000000000000000000000000000⟩ ∧
      PriceLevel.price? ⟨"9.50", "2"⟩ = some ⟨95000000000000000000000000000⟩ ∧
      PriceLevel.price? ⟨"10.5", "5"⟩ = some ⟨105000000000000000000000000000⟩ ∧
      PriceLevel.price? ⟨"1.1e1", "3"⟩ = some ⟨110000000000000000000000000000⟩ := by
    decide +kernel
  obtain ⟨h20, h10, h9, h10', h11⟩ := hprices
  have hsorted : frame.Sorted := by
    have hoffered : ∀ level ∈ frame.bids ++ frame.asks,
        level.price?.isSome = true ∧ level.isOffered = true := by decide +kernel
    exact ⟨hoffered, List.pairwise_pair.mpr ⟨_, _, h10, h9, by decide⟩, List.pairwise_singleton _ _⟩
  obtain ⟨⟨quote, hupdated, -, hmerged⟩, first, hfirst, -, hagain⟩ := best_line_of_local_book
    [(.snapshot, ⟨channel, .book stale⟩), (.update, ⟨channel, .book bad⟩)] channel frame
  obtain ⟨merged, hupdate, hbids, hasks⟩ : ∃ merged,
      (reached.bookOf channel).update frame = .ok merged ∧
        merged.bids = [⟨"20", "5"⟩, ⟨"10", "1"⟩, ⟨"9.50", "2"⟩] ∧
        merged.asks = [⟨"10.5", "5"⟩, ⟨"1.1e1", "3"⟩] := by
    have hsome : ((reached.bookOf channel).update frame).toOption.map Book.toOrderBook =
        some ⟨[⟨"20", "5"⟩, ⟨"10", "1"⟩, ⟨"9.50", "2"⟩], [⟨"10.5", "5"⟩, ⟨"1.1e1", "3"⟩]⟩ := by
      decide +kernel
    obtain ⟨merged, hupdate, hlisting⟩ := Option.map_eq_some_iff.mp hsome
    exact ⟨merged, Attempts.toOption_eq_some.mp hupdate, congrArg OrderBook.bids hlisting,
      congrArg OrderBook.asks hlisting⟩
  have hquote : quote = some (⟨"20", "5"⟩, ⟨"10.5", "5"⟩) := by
    refine ((hmerged merged hupdate).2.2 _ _).mpr ⟨?_, ?_⟩
    · rw [hbids]
      refine ⟨.head _, List.forall_mem_cons.mpr ⟨⟨_, _, h20, h20, by decide⟩,
        List.forall_mem_cons.mpr ⟨⟨_, _, h20, h10, by decide⟩,
          List.forall_mem_singleton.mpr ⟨_, _, h20, h9, by decide⟩⟩⟩⟩
    · rw [hasks]
      exact ⟨.head _, List.forall_mem_cons.mpr ⟨⟨_, _, h10', h10', by decide⟩,
        List.forall_mem_singleton.mpr ⟨_, _, h10', h11, by decide⟩⟩⟩
  have hshown : first = some (⟨"10", "1"⟩, ⟨"1.1e1", "3"⟩) := (hfirst _ _).mpr ⟨rfl, rfl⟩
  subst hquote hshown
  refine ⟨hsorted, hupdated.trans ?_, (hagain hsorted).trans ?_⟩
  · exact congrArg (reached.sink.text ++ ·) (by decide +kernel)
  · exact congrArg (shown.sink.text ++ ·) (by decide +kernel)

end Console.Summary
end MarketFeed

import MarketFeed.Decimal
import MarketFeed.Payload
import MarketFeed.Text

/-!
# The local order book

A book follows a market from snapshots and incremental updates. A frame is read as a whole before
any of it is applied, so a frame with a bad level leaves the book as it was. Prices are compared as
numbers: a level replaces the level of the same price however it was spelled, and is stored with the
texts of its own frame. A level whose size is empty or zero takes its price off the book.

Each side is a ladder: levels in strictly ascending order of rank, which is part of the type. The
rank of an ask is its price and the rank of a bid is its price negated, so the best level of either
side comes first.
-/
namespace MarketFeed

inductive BookError where
  | invalidPrice (price : String)
  | invalidSize (price size : String)
  deriving DecidableEq, Repr

def BookError.message : BookError → String
  | invalidPrice price => "invalid price: " ++ Text.quoted price
  | invalidSize price size => "invalid size " ++ Text.quoted size ++ " at price " ++ price

inductive Side where
  | bid | ask
  deriving DecidableEq, Repr

/-- The place of a price on its side, the best one first. -/
def Side.rank : Side → Decimal → Int
  | bid, price => -price.units
  | ask, price => price.units

theorem Side.rank_inj {side : Side} {p q : Decimal} : side.rank p = side.rank q ↔ p = q := by
  cases side <;> simp [rank, Decimal.ext_iff]

/-- What a level does to its side: it is put at its price, or its price is emptied. -/
structure Change where
  price : Decimal
  level : Option PriceLevel
  deriving DecidableEq, Repr

def PriceLevel.change (level : PriceLevel) : Except BookError Change :=
  match Decimal.parse? (Text.trim level.price) with
  | none => .error (.invalidPrice level.price)
  | some price =>
    let size := Text.trim level.size
    if size = "" then .ok ⟨price, none⟩
    else match Decimal.parse? size with
      | none => .error (.invalidSize level.price level.size)
      | some amount => .ok ⟨price, if amount.isZero then none else some level⟩

/-- A level with its rank. -/
abbrev Rung := Int × PriceLevel

/-- Puts a level at its rank, in place of the level that was there. -/
def putRung (rank : Int) (level : PriceLevel) : List Rung → List Rung
  | [] => [(rank, level)]
  | (r, l) :: rest =>
    if rank < r then (rank, level) :: (r, l) :: rest
    else if rank = r then (rank, level) :: rest
    else (r, l) :: putRung rank level rest

theorem mem_putRung {rank : Int} {level : PriceLevel} {rung : Rung} {rungs : List Rung}
    (h : rung ∈ putRung rank level rungs) : rung = (rank, level) ∨ rung ∈ rungs := by
  induction rungs with
  | nil => simpa [putRung] using h
  | cons first rest ih =>
    rw [putRung] at h
    grind

theorem pairwise_putRung {rungs : List Rung} (h : rungs.Pairwise fun a b => a.1 < b.1) (rank : Int)
    (level : PriceLevel) : (putRung rank level rungs).Pairwise fun a b => a.1 < b.1 := by
  induction rungs with
  | nil => exact List.pairwise_singleton _ _
  | cons rung rest ih =>
    obtain ⟨hfirst, hrest⟩ := List.pairwise_cons.mp h
    rw [putRung]
    split
    case isTrue hbefore => exact List.pairwise_cons.mpr ⟨by grind, h⟩
    case isFalse hnot =>
      split
      case isTrue hsame => exact List.pairwise_cons.mpr ⟨by grind, hrest⟩
      case isFalse hother =>
        refine List.pairwise_cons.mpr ⟨fun later hlater => ?_, ih hrest⟩
        rcases mem_putRung hlater with rfl | hmem
        · change rung.1 < rank
          omega
        · exact hfirst later hmem

/-- Levels with their ranks, which ascend strictly. -/
structure Ladder where
  rungs : List Rung
  ascending : rungs.Pairwise fun a b => a.1 < b.1
  deriving DecidableEq, Repr

namespace Ladder

def empty : Ladder := ⟨[], .nil⟩

def put (rank : Int) (level : PriceLevel) (ladder : Ladder) : Ladder :=
  ⟨putRung rank level ladder.rungs, pairwise_putRung ladder.ascending rank level⟩

def drop (rank : Int) (ladder : Ladder) : Ladder :=
  ⟨ladder.rungs.filter fun rung => rung.1 != rank, ladder.ascending.filter _⟩

def at? (rank : Int) (ladder : Ladder) : Option PriceLevel := ladder.rungs.lookup rank

def apply (side : Side) (ladder : Ladder) (change : Change) : Ladder :=
  match change.level with
  | some level => ladder.put (side.rank change.price) level
  | none => ladder.drop (side.rank change.price)

def levels (ladder : Ladder) : List PriceLevel := ladder.rungs.map Prod.snd

end Ladder

structure Changes where
  bids : List Change
  asks : List Change

/-- Reads a frame as a whole, all bids before the asks. -/
def OrderBook.changes (frame : OrderBook) : Except BookError Changes := do
  let bids ← frame.bids.mapM PriceLevel.change
  let asks ← frame.asks.mapM PriceLevel.change
  return ⟨bids, asks⟩

@[ext] structure Book where
  bidLadder : Ladder
  askLadder : Ladder
  deriving DecidableEq, Repr

namespace Book

def empty : Book := ⟨.empty, .empty⟩

def merge (book : Book) (changes : Changes) : Book where
  bidLadder := changes.bids.foldl (Ladder.apply .bid) book.bidLadder
  askLadder := changes.asks.foldl (Ladder.apply .ask) book.askLadder

def snapshot (_book : Book) (frame : OrderBook) : Except BookError Book :=
  frame.changes.map empty.merge

def update (book : Book) (frame : OrderBook) : Except BookError Book :=
  frame.changes.map book.merge

inductive Event where
  | snapshot (frame : OrderBook)
  | update (frame : OrderBook)
  | clear
  deriving DecidableEq, Repr

def applyEvent (book : Book) : Event → Except BookError Book
  | .snapshot frame => book.snapshot frame
  | .update frame => book.update frame
  | .clear => .ok empty

/-- The book after an event, which is the same book when the event cannot be applied. -/
def after (book : Book) (event : Event) : Book := (book.applyEvent event).toOption.getD book

def ofHistory (events : List Event) : Book := events.foldl after empty

/-- Bids from the highest price to the lowest. -/
def bids (book : Book) : List PriceLevel := book.bidLadder.levels

/-- Asks from the lowest price to the highest. -/
def asks (book : Book) : List PriceLevel := book.askLadder.levels

def bestBid? (book : Book) : Option PriceLevel := book.bids.head?

def bestAsk? (book : Book) : Option PriceLevel := book.asks.head?

def top? (book : Book) : Option (PriceLevel × PriceLevel) :=
  match book.bestBid?, book.bestAsk? with
  | some bid, some ask => some (bid, ask)
  | _, _ => none

def depth (book : Book) : Nat × Nat :=
  (book.bidLadder.rungs.length, book.askLadder.rungs.length)

def isEmpty (book : Book) : Bool :=
  book.bidLadder.rungs.isEmpty && book.askLadder.rungs.isEmpty

/-- The book as a frame would list it. -/
def toOrderBook (book : Book) : OrderBook := ⟨book.bids, book.asks⟩

end Book
end MarketFeed

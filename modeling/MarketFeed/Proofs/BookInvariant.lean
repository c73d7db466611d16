import MarketFeed.Proofs.BookLevels
import Mathlib.Data.List.Induction

/-!
# The invariant of a book

That the ranks of a ladder ascend is part of its type. The rank at which a level stands and the text
of its price are kept apart, so that they agree is an invariant: a ladder quotes when every rank is
that of the price which its level spells, and no level is empty. Each change made by a level of a
frame keeps this, hence every event does, applied or not, and hence every history. Frames are
refused and merged by books that do not quote as well, so the invariant is not made a part of the
type.

What a reader of a book relies on follows from it and is put together in `WellFormed`.
-/
namespace MarketFeed

instance : LT Decimal := ⟨fun p q => p.units < q.units⟩

instance : LE Decimal := ⟨fun p q => p.units ≤ q.units⟩

@[simp] theorem Side.rank_bid_lt {p q : Decimal} : Side.bid.rank p < Side.bid.rank q ↔ q < p :=
  Int.neg_lt_neg_iff

@[simp] theorem Side.rank_ask_lt {p q : Decimal} : Side.ask.rank p < Side.ask.rank q ↔ p < q :=
  Iff.rfl

@[simp] theorem Side.rank_bid_le {p q : Decimal} : Side.bid.rank p ≤ Side.bid.rank q ↔ q ≤ p :=
  Int.neg_le_neg_iff

@[simp] theorem Side.rank_ask_le {p q : Decimal} : Side.ask.rank p ≤ Side.ask.rank q ↔ p ≤ q :=
  Iff.rfl

/-- Every level is at the rank of its own price, and none of them is empty. -/
structure Ladder.Quotes (side : Side) (ladder : Ladder) : Prop where
  priced : ∀ rung ∈ ladder.rungs, ∃ p, rung.1 = side.rank p ∧ rung.2.price? = some p
  offered : ∀ rung ∈ ladder.rungs, rung.2.isOffered = true

namespace Ladder

variable {side : Side} {ladder : Ladder}

theorem quotes_empty (side : Side) : Ladder.empty.Quotes side := ⟨nofun, nofun⟩

theorem Quotes.drop (h : ladder.Quotes side) (rank : Int) : (ladder.drop rank).Quotes side where
  priced rung hrung := h.priced rung (List.mem_of_mem_filter hrung)
  offered rung hrung := h.offered rung (List.mem_of_mem_filter hrung)

theorem Quotes.put (h : ladder.Quotes side) {level : PriceLevel} {p : Decimal}
    (hp : level.price? = some p) (ho : level.isOffered = true) :
    (ladder.put (side.rank p) level).Quotes side where
  priced rung hrung := by
    rcases mem_putRung hrung with rfl | hmem
    · exact ⟨p, rfl, hp⟩
    · exact h.priced rung hmem
  offered rung hrung := by
    rcases mem_putRung hrung with rfl | hmem
    · exact ho
    · exact h.offered rung hmem

theorem Quotes.apply (h : ladder.Quotes side) {level : PriceLevel} {change : Change}
    (hc : level.change = .ok change) : (ladder.apply side change).Quotes side := by
  obtain ⟨hprice, hlevel⟩ := PriceLevel.change_spec hc
  unfold Ladder.apply
  cases hl : change.level with
  | none => exact h.drop _
  | some offered =>
    obtain ⟨rfl, ho⟩ := PriceLevel.offer?_eq_some.mp (hlevel.symm.trans hl)
    exact h.put hprice ho

theorem Quotes.foldl_apply (h : ladder.Quotes side) {levels : List PriceLevel}
    {changes : List Change} (hc : levels.map PriceLevel.change = changes.map .ok) :
    (changes.foldl (Ladder.apply side) ladder).Quotes side := by
  induction changes generalizing ladder levels with
  | nil => exact h
  | cons change rest ih =>
    cases levels with
    | nil => simp at hc
    | cons level more =>
      obtain ⟨hfirst, hmore⟩ := List.cons.inj hc
      exact ih (h.apply hfirst) hmore

theorem Quotes.levels_pairwise (h : ladder.Quotes side) :
    ladder.levels.Pairwise fun a b =>
      ∃ p q, a.price? = some p ∧ b.price? = some q ∧ side.rank p < side.rank q := by
  unfold levels
  rw [List.pairwise_map]
  apply List.Pairwise.imp_of_mem _ ladder.ascending
  intro a b ha hb hab
  obtain ⟨p, hp, hap⟩ := h.priced a ha
  obtain ⟨q, hq, hbq⟩ := h.priced b hb
  exact ⟨p, q, hap, hbq, hp ▸ hq ▸ hab⟩

theorem Quotes.head_le (h : ladder.Quotes side) {best level : PriceLevel}
    (hbest : ladder.levels.head? = some best) (hlevel : level ∈ ladder.levels) :
    ∃ p q, best.price? = some p ∧ level.price? = some q ∧ side.rank p ≤ side.rank q := by
  have hpairs := h.levels_pairwise
  obtain ⟨rest, hrest⟩ := List.head?_eq_some_iff.mp hbest
  rw [hrest] at hpairs hlevel
  rcases List.mem_cons.mp hlevel with rfl | hmem
  · have hhead : level ∈ ladder.levels := List.mem_of_mem_head? hbest
    obtain ⟨rung, hrung, rfl⟩ := List.mem_map.mp hhead
    obtain ⟨p, -, hp⟩ := h.priced rung hrung
    exact ⟨p, p, hp, hp, Int.le_refl _⟩
  · obtain ⟨p, q, hp, hq, hlt⟩ := (List.pairwise_cons.mp hpairs).1 level hmem
    exact ⟨p, q, hp, hq, Int.le_of_lt hlt⟩

/-- Among the levels of a side the one at a price is found by its own text. -/
theorem Quotes.filter_price (h : ladder.Quotes side) (p : Decimal) :
    (ladder.levels.filter fun level => level.price? = some p) =
      (ladder.at? (side.rank p)).toList := by
  have hsame : (ladder.rungs.filter fun rung => rung.2.price? = some p) =
      ladder.rungs.filter fun rung => rung.1 = side.rank p := by
    apply List.filter_congr
    intro rung hrung
    obtain ⟨q, hq, hprice⟩ := h.priced rung hrung
    simp [hq, hprice, Side.rank_inj]
  rw [← ladder.filter_rank, ← hsame, levels, List.filter_map]
  simp only [Function.comp_def]

end Ladder

namespace Book

def Quotes (book : Book) : Prop := ∀ side, (book.ladder side).Quotes side

theorem quotes_empty : empty.Quotes := by
  intro side
  rw [ladder_empty]
  exact Ladder.quotes_empty side

theorem Quotes.merge {book : Book} (h : book.Quotes) {frame : OrderBook} {changes : Changes}
    (hc : frame.changes = .ok changes) : (book.merge changes).Quotes := by
  intro side
  rw [ladder_merge]
  exact (h side).foldl_apply (OrderBook.changes_eq_ok.mp hc side)

theorem Quotes.after {book : Book} (h : book.Quotes) (event : Event) :
    (book.after event).Quotes := by
  cases hr : book.applyEvent event with
  | error error =>
    rw [after_of_error hr]
    exact h
  | ok next =>
    rw [after_of_ok hr]
    rcases applyEvent_cases hr with ⟨-, rfl⟩ | ⟨frame, changes, hc, ⟨-, rfl⟩ | ⟨-, rfl⟩⟩
    · exact quotes_empty
    · exact quotes_empty.merge hc
    · exact h.merge hc

theorem ofHistory_concat (events : List Event) (event : Event) :
    ofHistory (events ++ [event]) = (ofHistory events).after event := by
  simp [ofHistory]

theorem quotes_ofHistory (events : List Event) : (ofHistory events).Quotes := by
  induction events using List.reverseRecOn with
  | nil => exact quotes_empty
  | append_singleton events event ih =>
    rw [ofHistory_concat]
    exact ih.after event

/-- What a reader of a book relies on. -/
structure WellFormed (book : Book) : Prop where
  /-- Every level that is listed has a price and offers something. -/
  readable : ∀ side, ∀ level ∈ book.levels side,
    level.price?.isSome = true ∧ level.isOffered = true
  bids_descend : book.bids.Pairwise fun a b =>
    ∃ p q, a.price? = some p ∧ b.price? = some q ∧ q < p
  asks_ascend : book.asks.Pairwise fun a b =>
    ∃ p q, a.price? = some p ∧ b.price? = some q ∧ p < q
  /-- No two levels of a side have one price, however it is spelled. -/
  distinct : ∀ side, (book.levels side).Pairwise fun a b => a.price? ≠ b.price?
  bestBid?_eq_none : book.bestBid? = none ↔ book.bids = []
  bestBid?_greatest : ∀ best, book.bestBid? = some best → best ∈ book.bids ∧
    ∀ level ∈ book.bids, ∃ p q, best.price? = some p ∧ level.price? = some q ∧ q ≤ p
  bestAsk?_eq_none : book.bestAsk? = none ↔ book.asks = []
  bestAsk?_least : ∀ best, book.bestAsk? = some best → best ∈ book.asks ∧
    ∀ level ∈ book.asks, ∃ p q, best.price? = some p ∧ level.price? = some q ∧ p ≤ q
  top?_isSome : book.top?.isSome = true ↔ book.bids ≠ [] ∧ book.asks ≠ []
  top?_eq_some : ∀ bid ask,
    book.top? = some (bid, ask) ↔ book.bestBid? = some bid ∧ book.bestAsk? = some ask
  depth_eq : book.depth = (book.bids.length, book.asks.length)
  isEmpty_iff : book.isEmpty = true ↔ book.bids = [] ∧ book.asks = []
  /-- A frame made of the book lists the same levels, and its best ones are those of the book. -/
  listed : book.toOrderBook = ⟨book.bids, book.asks⟩ ∧
    book.toOrderBook.bestBid? = book.bestBid? ∧ book.toOrderBook.bestAsk? = book.bestAsk? ∧
    book.toOrderBook.top? = book.top?

theorem top?_eq_some_iff {book : Book} {bid ask : PriceLevel} :
    book.top? = some (bid, ask) ↔ book.bestBid? = some bid ∧ book.bestAsk? = some ask := by
  unfold top?
  cases book.bestBid? <;> cases book.bestAsk? <;> simp

theorem top?_isSome_iff {book : Book} :
    book.top?.isSome = true ↔ book.bids ≠ [] ∧ book.asks ≠ [] := by
  unfold top? bestBid? bestAsk?
  cases book.bids <;> cases book.asks <;> simp

/-- After any history the book can be read: its levels are numbers, sorted by price on each side
without a price twice, and every way to look at it shows the same levels. -/
theorem wellFormed_ofHistory (events : List Event) : (ofHistory events).WellFormed := by
  have h := quotes_ofHistory events
  refine
    { readable := ?readable
      bids_descend := ?bids
      asks_ascend := ?asks
      distinct := ?distinct
      bestBid?_eq_none := List.head?_eq_none_iff
      bestBid?_greatest := ?bestBid
      bestAsk?_eq_none := List.head?_eq_none_iff
      bestAsk?_least := ?bestAsk
      top?_isSome := top?_isSome_iff
      top?_eq_some := fun _ _ => top?_eq_some_iff
      depth_eq := ?depth
      isEmpty_iff := ?isEmpty
      listed := ⟨rfl, rfl, rfl, rfl⟩ }
  case readable =>
    intro side level hlevel
    obtain ⟨rung, hrung, rfl⟩ := List.mem_map.mp hlevel
    obtain ⟨p, -, hp⟩ := (h side).priced rung hrung
    exact ⟨by rw [hp]; rfl, (h side).offered rung hrung⟩
  case bids => simpa using (h .bid).levels_pairwise
  case asks => simpa using (h .ask).levels_pairwise
  case distinct =>
    intro side
    apply (h side).levels_pairwise.imp
    rintro a b ⟨p, q, hp, hq, hlt⟩ he
    obtain rfl : p = q := by simpa [hp, hq] using he
    exact Int.lt_irrefl _ hlt
  case bestBid =>
    intro best hbest
    refine ⟨List.mem_of_mem_head? hbest, ?_⟩
    intro level hlevel
    simpa using (h .bid).head_le hbest hlevel
  case bestAsk =>
    intro best hbest
    refine ⟨List.mem_of_mem_head? hbest, ?_⟩
    intro level hlevel
    simpa using (h .ask).head_le hbest hlevel
  case depth => simp [depth, bids, asks, Ladder.levels]
  case isEmpty => simp [isEmpty, bids, asks, Ladder.levels]

end Book
end MarketFeed

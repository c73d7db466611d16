import MarketFeed.Proofs.BookInvariant
import MarketFeed.Proofs.FrameRefusal
import MarketFeed.Proofs.PayloadReading

/-!
# Books restored from their listing

A book that quotes can be listed as a frame, and that frame as a snapshot gives the book again, on
top of any other book. Every level that is listed asks to be put at the price where it stood, and as
no price is listed twice none is lost. The listing may be kept as a text in the meantime.
-/
namespace MarketFeed

theorem PriceLevel.readable_of_offered {level : PriceLevel} (hprice : level.price?.isSome = true)
    (hoffered : level.isOffered = true) : level.Readable := by
  have hsize := (Bool.and_eq_true_iff.mp hoffered).2
  exact ⟨hprice, .inr (Option.isSome_of_any hsize)⟩

namespace Ladder.Quotes

variable {side : Side} {ladder : Ladder} {level : PriceLevel}

theorem readable (h : ladder.Quotes side) (hlevel : level ∈ ladder.levels) : level.Readable := by
  obtain ⟨rung, hrung, rfl⟩ := List.mem_map.mp hlevel
  obtain ⟨p, -, hprice⟩ := h.priced rung hrung
  have hsome : rung.2.price?.isSome = true := by rw [hprice, Option.isSome_some]
  exact PriceLevel.readable_of_offered hsome (h.offered rung hrung)

theorem lastWrite?_levels (h : ladder.Quotes side) (p : Decimal) :
    lastWrite? p ladder.levels = ladder.at? (side.rank p) := by
  rw [lastWrite?, h.filter_price]
  cases ladder.at? (side.rank p) <;> rfl

theorem offer?_of_at? (h : ladder.Quotes side) {r : Int} (hat : ladder.at? r = some level) :
    level.offer? = some level := by
  have hoffered := h.offered (r, level) (Ladder.mem_rungs_iff.mpr hat)
  exact PriceLevel.offer?_eq_some.mpr ⟨rfl, hoffered⟩

end Ladder.Quotes

namespace Book

variable {book other : Book}

theorem levels_toOrderBook (book : Book) (side : Side) :
    book.toOrderBook.levels side = (book.ladder side).levels := by
  cases side <;> rfl

theorem Quotes.exists_changes (h : book.Quotes) :
    ∃ changes, book.toOrderBook.changes = .ok changes := by
  rw [OrderBook.exists_changes_iff]
  intro level hlevel
  rcases List.mem_append.mp hlevel with hbid | hask
  · exact (h .bid).readable hbid
  · exact (h .ask).readable hask

theorem Quotes.merge_listing (h : book.Quotes) {changes : Changes}
    (hc : book.toOrderBook.changes = .ok changes) : empty.merge changes = book := by
  apply ext_levelAt?
  intro side p
  rw [levelAt?_merge hc, levelAt?_empty, levels_toOrderBook, (h side).lastWrite?_levels]
  change _ = (book.ladder side).at? (side.rank p)
  cases hat : (book.ladder side).at? (side.rank p) with
  | none => rfl
  | some level => exact (h side).offer?_of_at? hat

theorem Quotes.snapshot_listing (h : book.Quotes) (other : Book) :
    other.snapshot book.toOrderBook = .ok book := by
  obtain ⟨changes, hc⟩ := h.exists_changes
  exact Attempts.map_eq_ok.mpr ⟨changes, hc, h.merge_listing hc⟩

theorem parseWith_listing (listing : OrderBook) :
    Json.parseWith (OrderBook.decoder.read Json.nestingLimit) listing.toValue.text = .ok listing :=
  listing.reads_toValue.parseWith (listing.legible_toValue 124)

/-- After any history the listing of a book, taken as a snapshot by any other book, makes that book
equal to it with all texts of its levels; and the listing itself is read back from its own text. -/
theorem restored_from_listing (events : List Event) (other : Book) :
    other.snapshot (ofHistory events).toOrderBook = .ok (ofHistory events) ∧
      Json.parseWith (OrderBook.decoder.read Json.nestingLimit)
          (ofHistory events).toOrderBook.toValue.text = .ok (ofHistory events).toOrderBook := by
  constructor
  · exact (quotes_ofHistory events).snapshot_listing other
  · exact parseWith_listing (ofHistory events).toOrderBook

/-- The texts that a book holds are the texts of its frames, blanks and exponents included. -/
example :
    (ofHistory [.update ⟨[⟨"\u00a0+1_0e1\u3000", " 2_0 "⟩], [⟨"-.5", "1E-2"⟩]⟩]).toOrderBook =
      ⟨[⟨"\u00a0+1_0e1\u3000", " 2_0 "⟩], [⟨"-.5", "1E-2"⟩]⟩ := by decide +kernel

end Book
end MarketFeed

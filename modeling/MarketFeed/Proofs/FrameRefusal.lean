import MarketFeed.Proofs.BookInPlace

/-!
# Frames that are refused

A level can be read when its price is a number and its size is a number or empty. A frame is refused
when one of its levels cannot be read, and the first of these is what it is refused for, all bids
before the asks. Neither the levels behind it nor the book have a say, and a snapshot is refused
like an update.
-/
namespace MarketFeed

namespace PriceLevel

variable {level : PriceLevel} {error : BookError}

/-- The price is a number, and so is the size unless there is none. -/
def Readable (level : PriceLevel) : Prop :=
  level.price?.isSome = true ∧ (Text.trim level.size = "" ∨ level.amount?.isSome = true)

instance : DecidablePred Readable := fun level => inferInstanceAs (Decidable
  (level.price?.isSome = true ∧ (Text.trim level.size = "" ∨ level.amount?.isSome = true)))

/-- What is said of a level that cannot be read: its price is looked at first, and the texts are
shown with the blanks around them. -/
def complaint (level : PriceLevel) : BookError :=
  if level.price?.isSome then .invalidSize level.price level.size else .invalidPrice level.price

theorem change_cases (level : PriceLevel) :
    (level.Readable ∧ ∃ change, level.change = .ok change) ∨
      (¬level.Readable ∧ level.change = .error level.complaint) := by
  unfold Readable complaint PriceLevel.change price? amount?
  cases Decimal.parse? (Text.trim level.price) with
  | none => simp
  | some price =>
    by_cases hs : Text.trim level.size = ""
    · simp [hs]
    · cases ha : Decimal.parse? (Text.trim level.size) <;> simp [hs, ha]

theorem exists_change_iff : (∃ change, level.change = .ok change) ↔ level.Readable := by
  rcases change_cases level with ⟨h, hchange⟩ | ⟨h, hchange⟩
  · exact iff_of_true hchange h
  · exact iff_of_false (by simp [hchange]) h

theorem change_eq_error :
    level.change = .error error ↔ ¬level.Readable ∧ level.complaint = error := by
  rcases change_cases level with ⟨h, change, hchange⟩ | ⟨h, hchange⟩
  · simp [h, hchange]
  · simp [h, hchange]

end PriceLevel

namespace OrderBook

variable {frame : OrderBook} {error : BookError}

def firstUnreadable? (frame : OrderBook) : Option PriceLevel :=
  (frame.bids ++ frame.asks).find? fun level => ¬level.Readable

theorem mapM_change_append (frame : OrderBook) :
    (frame.bids ++ frame.asks).mapM PriceLevel.change =
      frame.changes.map fun changes => changes.bids ++ changes.asks := by
  unfold changes
  rw [List.mapM_append]
  cases frame.bids.mapM PriceLevel.change with
  | error fault => rfl
  | ok bids => cases frame.asks.mapM PriceLevel.change <;> rfl

theorem changes_eq_error :
    frame.changes = .error error ↔
      frame.firstUnreadable?.map PriceLevel.complaint = some error := by
  rw [← Attempts.map_eq_error, ← mapM_change_append, Attempts.mapM_eq_error, Option.map_eq_some_iff]
  simp only [firstUnreadable?, List.find?_eq_some_iff_append, PriceLevel.exists_change_iff,
    PriceLevel.change_eq_error, decide_eq_true_eq, Bool.not_eq_eq_eq_not, Bool.not_true,
    decide_eq_false_iff_not, not_not]
  constructor
  · rintro ⟨before, level, after, heq, hbefore, hlevel, herror⟩
    exact ⟨level, ⟨hlevel, before, after, heq, hbefore⟩, herror⟩
  · rintro ⟨level, ⟨hlevel, before, after, heq, hbefore⟩, herror⟩
    exact ⟨before, level, after, heq, hbefore, hlevel, herror⟩

theorem exists_changes_eq_error_iff :
    (∃ error, frame.changes = .error error) ↔
      ∃ level ∈ frame.bids ++ frame.asks, ¬level.Readable := by
  simp only [changes_eq_error]
  rw [← Option.isSome_iff_exists, Option.isSome_map, firstUnreadable?, List.find?_isSome]
  simp only [decide_eq_true_eq]

theorem exists_changes_iff :
    (∃ changes, frame.changes = .ok changes) ↔
      ∀ level ∈ frame.bids ++ frame.asks, level.Readable := by
  have hfault : (∃ error, frame.changes = .error error) ↔ _ := exists_changes_eq_error_iff
  cases h : frame.changes <;> simp_all

end OrderBook

namespace Book

variable {frame : OrderBook} {error : BookError}

theorem snapshot_eq_error (book : Book) :
    book.snapshot frame = .error error ↔ frame.changes = .error error := Attempts.map_eq_error

theorem update_eq_error (book : Book) :
    book.update frame = .error error ↔ frame.changes = .error error := Attempts.map_eq_error

theorem outcome_follow_of_error {book : Book} {event : Event}
    (h : book.applyEvent event = .error error) :
    InPlace.outcome (InPlace.follow event) book = (.error error, book) := by
  rw [InPlace.outcome_follow, h, after_of_error h]
  rfl

/-- A frame is refused exactly when one of its levels cannot be read, as a snapshot and as an update
alike, and then for the first such level, whatever the book is. The book stays as it is, also when
it is kept in place. -/
theorem refused_for_first_unreadable (book : Book) (frame : OrderBook) :
    ((∃ error, book.snapshot frame = .error error) ↔
        ∃ level ∈ frame.bids ++ frame.asks, ¬level.Readable) ∧
      ((∃ error, book.update frame = .error error) ↔
        ∃ level ∈ frame.bids ++ frame.asks, ¬level.Readable) ∧
      ∀ level, frame.firstUnreadable? = some level →
        book.snapshot frame = .error level.complaint ∧
          book.update frame = .error level.complaint ∧
          book.after (.snapshot frame) = book ∧ book.after (.update frame) = book ∧
          InPlace.outcome (InPlace.snapshot frame) book = (.error level.complaint, book) ∧
          InPlace.outcome (InPlace.update frame) book = (.error level.complaint, book) := by
  simp only [snapshot_eq_error, update_eq_error]
  refine ⟨OrderBook.exists_changes_eq_error_iff, OrderBook.exists_changes_eq_error_iff, ?_⟩
  intro level hlevel
  have hchanges : frame.changes = .error level.complaint := by
    rw [OrderBook.changes_eq_error, hlevel, Option.map_some]
  have hsnapshot : book.applyEvent (.snapshot frame) = .error level.complaint :=
    (snapshot_eq_error book).mpr hchanges
  have hupdate : book.applyEvent (.update frame) = .error level.complaint :=
    (update_eq_error book).mpr hchanges
  exact ⟨hchanges, hchanges, after_of_error hsnapshot, after_of_error hupdate,
    outcome_follow_of_error hsnapshot, outcome_follow_of_error hupdate⟩

/-- A bad ask is found behind bids that would delete and insert, and its empty size does not make it
a deletion. -/
theorem refused_for_first_unreadable_ask :
    let book : Book := ⟨⟨[(-100, ⟨"1e-26", "2"⟩)], List.pairwise_singleton _ _⟩, .empty⟩
    let frame : OrderBook := ⟨[⟨"1e-26", "0"⟩, ⟨"7", "1"⟩], [⟨"101", ""⟩, ⟨" x", ""⟩, ⟨"8", "y"⟩]⟩
    frame.firstUnreadable? = some ⟨" x", ""⟩ ∧
      book.update frame = .error (.invalidPrice " x") ∧ book.after (.update frame) = book ∧
      InPlace.outcome (InPlace.update frame) book = (.error (.invalidPrice " x"), book) := by
  intro book frame
  have hfirst : frame.firstUnreadable? = some ⟨" x", ""⟩ := by decide +kernel
  obtain ⟨-, hupdate, -, hafter, -, hplace⟩ :=
    (refused_for_first_unreadable book frame).2.2 _ hfirst
  have hcomplaint : PriceLevel.complaint ⟨" x", ""⟩ = .invalidPrice " x" := by decide +kernel
  rw [hcomplaint] at hupdate hplace
  exact ⟨hfirst, hupdate, hafter, hplace⟩

end Book
end MarketFeed

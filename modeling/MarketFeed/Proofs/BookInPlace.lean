import MarketFeed.Proofs.BookLevels

/-!
# Books changed in place

A book may also be kept in place, so that a frame is applied to it in steps: both sides are read,
and then the book is changed level by level. What a step has done to the book stays done when a
later step fails. But every step that can fail comes before the first one that changes the book, and
so a frame does in place what it does to a book that is handed over and given back.
-/
namespace MarketFeed.Book

/-- Steps on a book that is kept in place. -/
abbrev InPlace := ExceptT BookError (StateM Book)

def withLadder (book : Book) (side : Side) (ladder : Ladder) : Book :=
  match side with
  | .bid => { book with bidLadder := ladder }
  | .ask => { book with askLadder := ladder }

namespace InPlace

variable {α β : Type}

/-- What the steps come to, and the book that they leave. -/
def outcome (steps : InPlace α) (book : Book) : Except BookError α × Book := steps.run.run book

/-- Reads the levels of a side, which does not take the book. -/
def read (levels : List PriceLevel) : InPlace (List Change) :=
  MonadExcept.ofExcept (levels.mapM PriceLevel.change)

def change (side : Side) (change : Change) : InPlace Unit :=
  modify fun book => book.withLadder side ((book.ladder side).apply side change)

def merge (side : Side) (changes : List Change) : InPlace Unit := changes.forM (change side)

def snapshot (frame : OrderBook) : InPlace Unit := do
  let bids ← read frame.bids
  let asks ← read frame.asks
  set empty
  merge .bid bids
  merge .ask asks

def update (frame : OrderBook) : InPlace Unit := do
  let bids ← read frame.bids
  let asks ← read frame.asks
  merge .bid bids
  merge .ask asks

def follow : Event → InPlace Unit
  | .snapshot frame => snapshot frame
  | .update frame => update frame
  | .clear => set empty

theorem outcome_bind (steps : InPlace α) (next : α → InPlace β) (book : Book) :
    outcome (steps >>= next) book =
      match outcome steps book with
      | (.ok a, after) => outcome (next a) after
      | (.error error, after) => (.error error, after) := by
  unfold outcome
  rw [ExceptT.run_bind, StateT.run_bind]
  rcases steps.run.run book with ⟨error | a, after⟩ <;> rfl

theorem outcome_read (levels : List PriceLevel) (book : Book) :
    outcome (read levels) book = (levels.mapM PriceLevel.change, book) := by
  unfold read
  cases levels.mapM PriceLevel.change <;> rfl

theorem outcome_merge (side : Side) (changes : List Change) (book : Book) :
    outcome (merge side changes) book =
      (.ok (), book.withLadder side (changes.foldl (Ladder.apply side) (book.ladder side))) := by
  induction changes generalizing book with
  | nil => cases side <;> rfl
  | cons first rest ih =>
    have hfirst : outcome (merge side (first :: rest)) book =
        outcome (merge side rest) (book.withLadder side ((book.ladder side).apply side first)) :=
      rfl
    rw [hfirst, ih, List.foldl_cons]
    cases side <;> rfl

theorem outcome_merge_sides (changes : Changes) (book : Book) :
    outcome (do merge .bid changes.bids; merge .ask changes.asks) book =
      (.ok (), book.merge changes) := by
  simp only [outcome_bind, outcome_merge]
  rfl

section Frames

variable {frame : OrderBook} {book : Book} {event : Event} {next : Changes → InPlace Unit}
  {result : Changes → Book}

/-- A frame that is refused is refused before anything is done with it. -/
theorem outcome_read_sides (frame : OrderBook) (next : Changes → InPlace Unit) (book : Book) :
    outcome (do let bids ← read frame.bids; let asks ← read frame.asks; next ⟨bids, asks⟩) book =
      match frame.changes with
      | .ok changes => outcome (next changes) book
      | .error error => (.error error, book) := by
  simp only [outcome_bind, outcome_read, OrderBook.changes]
  cases frame.bids.mapM PriceLevel.change with
  | error error => rfl
  | ok bids => cases frame.asks.mapM PriceLevel.change <;> rfl

theorem outcome_frame (hevent : book.applyEvent event = frame.changes.map result)
    (hnext : ∀ changes, outcome (next changes) book = (.ok (), result changes)) :
    outcome (do let bids ← read frame.bids; let asks ← read frame.asks; next ⟨bids, asks⟩) book =
      ((book.applyEvent event).map fun _ => (), book.after event) := by
  rw [outcome_read_sides]
  cases hchanges : frame.changes with
  | error error =>
    have hrefused : book.applyEvent event = .error error := by
      rw [hevent, hchanges]
      rfl
    rw [hrefused, after_of_error hrefused]
    rfl
  | ok changes =>
    have happlied : book.applyEvent event = .ok (result changes) := by
      rw [hevent, hchanges]
      rfl
    rw [happlied, after_of_ok happlied]
    exact hnext changes

end Frames

/-- A book that is kept in place is the book after the event, also when the event fails. -/
theorem outcome_follow (event : Event) (book : Book) :
    outcome (follow event) book = ((book.applyEvent event).map fun _ => (), book.after event) := by
  cases event with
  | snapshot frame =>
    have hmerge : ∀ changes : Changes,
        outcome (do set empty; merge .bid changes.bids; merge .ask changes.asks) book =
          (.ok (), empty.merge changes) := fun changes => outcome_merge_sides changes empty
    exact outcome_frame rfl hmerge
  | update frame =>
    have hmerge : ∀ changes : Changes,
        outcome (do merge .bid changes.bids; merge .ask changes.asks) book =
          (.ok (), book.merge changes) := fun changes => outcome_merge_sides changes book
    exact outcome_frame rfl hmerge
  | clear => rfl

end InPlace
end MarketFeed.Book

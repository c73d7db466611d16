import MarketFeed.Proofs.BookInvariant
import Mathlib.Data.List.DropRight

/-!
# The last write wins

A history of a book can be told without running it. The events that could not be applied are left
out, and so is what a clearing or a snapshot wiped away; the levels of one side that remain, in the
order in which they came, are all that was written there. A price then holds the last level written
to it, unless that level is empty.

The run and this account of it are compared at each price, and the comparison is carried along the
history event by event.
-/
namespace MarketFeed.Book

def Event.isClear : Event → Bool
  | clear => true
  | _ => false

def Event.isSnapshot : Event → Bool
  | snapshot _ => true
  | _ => false

/-- The levels that an event brings to a side. -/
def Event.levels (side : Side) : Event → List PriceLevel
  | snapshot frame | update frame => frame.levels side
  | clear => []

/-- The events of a history that can be applied to the book as they find it. -/
def accepted (book : Book) : List Event → List Event
  | [] => []
  | event :: rest =>
    (if (book.applyEvent event).isOk then [event] else []) ++ (book.after event).accepted rest

/-- What comes after the last clearing. -/
def sinceClear (events : List Event) : List Event :=
  events.rtakeWhile fun event => !event.isClear

/-- What comes from the last snapshot on, or everything when there is none. -/
def sinceSnapshot (events : List Event) : List Event :=
  (events.rdropWhile fun event => !event.isSnapshot).getLast?.toList ++
    events.rtakeWhile fun event => !event.isSnapshot

/-- The levels of a side that a history wrote and did not wipe away. -/
def written (side : Side) (events : List Event) : List PriceLevel :=
  (sinceSnapshot (sinceClear (empty.accepted events))).flatMap (Event.levels side)

theorem accepted_append (book : Book) (earlier later : List Event) :
    book.accepted (earlier ++ later) =
      book.accepted earlier ++ (earlier.foldl after book).accepted later := by
  induction earlier generalizing book with
  | nil => rfl
  | cons event rest ih =>
    simp only [List.cons_append, accepted, ih, List.append_assoc, List.foldl_cons]

theorem accepted_concat (events : List Event) (event : Event) :
    empty.accepted (events ++ [event]) =
      empty.accepted events ++ (ofHistory events).accepted [event] :=
  accepted_append empty events [event]

theorem written_concat_error {events : List Event} {event : Event} {error : BookError}
    (h : (ofHistory events).applyEvent event = .error error) (side : Side) :
    written side (events ++ [event]) = written side events := by
  have hnone : (ofHistory events).accepted [event] = [] := by simp [accepted, h, Except.toBool]
  rw [written, accepted_concat, hnone, List.append_nil, written]

theorem written_concat_ok {events : List Event} {event : Event} {next : Book}
    (h : (ofHistory events).applyEvent event = .ok next) (side : Side) :
    written side (events ++ [event]) =
      match event with
      | .clear => []
      | .snapshot frame => frame.levels side
      | .update frame => written side events ++ frame.levels side := by
  have hone : (ofHistory events).accepted [event] = [event] := by
    simp [accepted, h, Except.toBool]
  rw [written, accepted_concat, hone]
  cases event with
  | clear => simp [sinceClear, sinceSnapshot, Event.isClear]
  | snapshot frame =>
    simp [sinceClear, sinceSnapshot, Event.isClear, Event.isSnapshot, Event.levels]
  | update frame =>
    simp [written, sinceClear, sinceSnapshot, Event.isClear, Event.isSnapshot, Event.levels]

/-- The simulation: at each price the book agrees with the last level written there. -/
theorem levelAt?_ofHistory (events : List Event) (side : Side) (p : Decimal) :
    (ofHistory events).levelAt? side p =
      (lastWrite? p (written side events)).bind PriceLevel.offer? := by
  induction events using List.reverseRecOn with
  | nil => exact levelAt?_empty side p
  | append_singleton events event ih =>
    rw [ofHistory_concat]
    cases hr : (ofHistory events).applyEvent event with
    | error error => rw [after_of_error hr, written_concat_error hr, ih]
    | ok next =>
      rw [after_of_ok hr, written_concat_ok hr]
      rcases applyEvent_cases hr with ⟨rfl, rfl⟩ | ⟨frame, changes, hc, ⟨rfl, rfl⟩ | ⟨rfl, rfl⟩⟩
      · exact levelAt?_empty side p
      · rw [levelAt?_merge hc, levelAt?_empty]
        cases lastWrite? p (frame.levels side) <;> rfl
      · rw [levelAt?_merge hc, ih, lastWrite?_append]
        cases lastWrite? p (frame.levels side) <;> rfl

/-- Each price of a side holds the last level written to it, as it was spelled there, if that level
offers something, and no other level. What the side holds depends on what was written to this side
and on nothing else. -/
theorem last_write_wins (events : List Event) (side : Side) :
    (∀ p level, (ofHistory events).levelAt? side p = some level ↔
      lastWrite? p (written side events) = some level ∧ level.isOffered = true) ∧
    (∀ p, (((ofHistory events).levels side).filter fun level => level.price? = some p) =
      ((ofHistory events).levelAt? side p).toList) ∧
    ∀ others, written side others = written side events →
      (ofHistory others).ladder side = (ofHistory events).ladder side := by
  refine ⟨?_, ?_, ?_⟩
  · intro p level
    rw [levelAt?_ofHistory, Option.bind_eq_some_iff]
    simp only [PriceLevel.offer?_eq_some]
    constructor
    · rintro ⟨last, hlast, rfl, ho⟩
      exact ⟨hlast, ho⟩
    · rintro ⟨hlast, ho⟩
      exact ⟨level, hlast, rfl, ho⟩
  · exact (quotes_ofHistory events side).filter_price
  · intro others h
    apply ladder_ext
    intro p
    rw [levelAt?_ofHistory, levelAt?_ofHistory, h]

/-- A frame with a bad ask writes nothing, and a price keeps the spelling of its last level. -/
theorem last_write_wins_across_spellings :
    let bids : List PriceLevel := [⟨"100", "1"⟩, ⟨"99", "2"⟩]
    let events : List Event :=
      [.snapshot ⟨bids, [⟨"101", "1"⟩]⟩, .update ⟨[⟨"99", "7"⟩], [⟨"x", "1"⟩]⟩,
        .update ⟨[⟨"1e2", "5"⟩, ⟨"99.0", "0.0"⟩], []⟩]
    let others : List Event :=
      [.clear, .update ⟨bids ++ [⟨"1e2", "5"⟩, ⟨"99.0", "0.0"⟩], [⟨"103", "4"⟩]⟩]
    written .bid others = written .bid events ∧
      (ofHistory others).ladder .bid = (ofHistory events).ladder .bid ∧
      (ofHistory events).levelAt? .bid ⟨1000000000000000000000000000000⟩ = some ⟨"1e2", "5"⟩ := by
  intro bids events others
  have h : written .bid others = written .bid events := by decide +kernel
  refine ⟨h, (last_write_wins events .bid).2.2 others h, ?_⟩
  exact ((last_write_wins events .bid).1 _ _).mpr ⟨by decide +kernel, by decide +kernel⟩

end MarketFeed.Book

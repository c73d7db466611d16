import MarketFeed.Console.Printer
import MarketFeed.Proofs.BookInvariant

/-!
# The book of a channel

The summaries keep one local book for each echoed channel. Such a book is a function of the frames
that concern it: those that decode to an order book and echo its channel, in their order, each a
snapshot or an update. Whatever else comes between them, and whether or not lines can be written,
leaves it alone.

The lookup of one channel is followed through each function that touches the books. The history of
the book is then carried along the frames one by one.
-/
namespace MarketFeed

variable {σ : Type}

/-- Passes a text frame on to a handler. A frame that cannot be decoded is skipped. -/
def Handler.feed (handler : Handler σ) (state : σ) (text : String) : σ :=
  match Inbound.decode text with
  | .ok message => (dispatch handler state message).state
  | .error _ => state

def Handler.feedAll (handler : Handler σ) (state : σ) (frames : List String) : σ :=
  frames.foldl handler.feed state

def Book.Event.ofFrame : FrameKind → OrderBook → Book.Event
  | .snapshot, frame => .snapshot frame
  | .update, frame => .update frame

namespace Console.Summary

/-- What market data asks of the book kept under a key. -/
def bookEvent? (key : String) (kind : FrameKind) (event : MarketEvent) : Option Book.Event :=
  match event.payload with
  | .book frame => if event.channel.getD "" = key then some (.ofFrame kind frame) else none
  | .trades _ | .stats _ => none

def frameEvent? (key text : String) : Option Book.Event :=
  match Inbound.decode text with
  | .ok (.market kind event) => bookEvent? key kind event
  | _ => none

variable (summary : Summary)

theorem book?_putBook (key other : String) (book : Book) :
    (summary.putBook other book).book? key =
      if key = other then some book else summary.book? key := by
  unfold book? putBook
  rw [lookup_cons]
  split_ifs with h
  · rfl
  · rw [lookup_filter_ne, if_neg h]

@[simp] theorem book?_write (lines : List String) (key : String) :
    (summary.write lines).1.book? key = summary.book? key := rfl

/-- A failing frame still leaves an entry: a book under its key that is as it was, or empty. -/
theorem book?_takeBook (key other : String) (kind : FrameKind) (frame : OrderBook) :
    (summary.takeBook other kind frame).1.book? key =
      if key = other then some (((summary.book? other).getD .empty).after (.ofFrame kind frame))
      else summary.book? key := by
  cases kind with
  | snapshot =>
    simp only [takeBook, takeSnapshot, book?_write, book?_putBook, Book.Event.ofFrame, Book.after,
      Book.applyEvent]
    cases ((summary.book? other).getD .empty).snapshot frame <;> rfl
  | update =>
    simp only [takeBook, takeUpdate, book?_write, book?_putBook, Book.Event.ofFrame, Book.after,
      Book.applyEvent]
    cases ((summary.book? other).getD .empty).update frame <;> rfl

/-- The book under a key after one more event. The first event makes the book. -/
def advance (book : Option Book) : Option Book.Event → Option Book
  | some event => some ((book.getD .empty).after event)
  | none => book

theorem book?_handler (key : String) (kind : FrameKind) (event : MarketEvent) :
    (handler summary kind event).1.book? key =
      advance (summary.book? key) (bookEvent? key kind event) := by
  obtain ⟨channel, payload⟩ := event
  cases payload with
  | book frame =>
    have htake : (handler summary kind ⟨channel, .book frame⟩).1.book? key = _ :=
      summary.book?_takeBook key (channel.getD "") kind frame
    simp only [htake, bookEvent?]
    by_cases hkey : channel.getD "" = key
    · rw [if_pos hkey.symm, if_pos hkey, hkey]
      rfl
    · rw [if_neg (Ne.symm hkey), if_neg hkey]
      rfl
  | trades entries => rfl
  | stats entries => rfl

theorem book?_feed (key text : String) :
    (Handler.feed handler summary text).book? key =
      advance (summary.book? key) (frameEvent? key text) := by
  unfold Handler.feed frameEvent?
  cases Inbound.decode text with
  | error error => rfl
  | ok message =>
    cases message with
    | market kind event => exact summary.book?_handler key kind event
    | connected => rfl
    | ping => rfl
    | error error => rfl
    | unknown type => rfl

theorem book?_feedAll (sink : Sink) (key : String) (frames : List String) :
    (Handler.feedAll handler (start sink) frames).book? key =
      if frames.filterMap (frameEvent? key) = [] then none
      else some (Book.ofHistory (frames.filterMap (frameEvent? key))) := by
  induction frames using List.reverseRecOn with
  | nil => rfl
  | append_singleton frames text ih =>
    have hlast : Handler.feedAll handler (start sink) (frames ++ [text]) =
        Handler.feed handler (Handler.feedAll handler (start sink) frames) text := by
      simp [Handler.feedAll]
    rw [hlast, book?_feed, ih, List.filterMap_append]
    cases hevent : frameEvent? key text with
    | none =>
      have hnone : [text].filterMap (frameEvent? key) = [] := by simp [hevent]
      rw [hnone, List.append_nil]
      rfl
    | some event =>
      have hone : [text].filterMap (frameEvent? key) = [event] := by simp [hevent]
      have hmore : frames.filterMap (frameEvent? key) ++ [event] ≠ [] := by simp
      rw [hone, Book.ofHistory_concat, if_neg hmore]
      split_ifs with hfirst
      · rw [hfirst]
        rfl
      · rfl

/-- Books are kept apart. The one under a key is there once a frame concerned it, and is then what
the frames that concern it make of an empty book. No other frame and no fault of the output changes
it. -/
theorem books_kept_apart (sink : Sink) (key : String) (frames : List String) :
    let kept := Handler.feedAll handler (start sink) frames
    let events := frames.filterMap (frameEvent? key)
    (kept.book? key = none ↔ ∀ text ∈ frames, frameEvent? key text = none) ∧
      (events ≠ [] → kept.book? key = some (Book.ofHistory events)) ∧
      ∀ (summary : Summary) (text : String), frameEvent? key text = none →
        (Handler.feed handler summary text).book? key = summary.book? key := by
  intro kept events
  have hkept : kept.book? key = if events = [] then none else some (Book.ofHistory events) :=
    book?_feedAll sink key frames
  refine ⟨?_, ?_, ?_⟩
  · rw [hkept, ← List.filterMap_eq_nil_iff]
    constructor
    · intro h
      by_contra hsome
      rw [if_neg hsome] at h
      exact Option.some_ne_none _ h
    · exact fun hnone => if_pos hnone
  · intro hsome
    rw [hkept, if_neg hsome]
  · intro summary text hother
    rw [book?_feed, hother]
    rfl

/-- On an output that takes no line, a frame with a bad price, trades and a frame of another market
come between a snapshot and an update, and the book has the levels of these two. -/
theorem books_kept_apart_between_others :
    let frame (type market levels : String) :=
      "\x7b\"type\":\"" ++ type ++ "\",\"channel\":\"order_book:" ++ market ++
        "\",\"data\":" ++ levels ++ "\x7d"
    let snapshot := frame "subscribed/order_book" "0" "\x7b\"bids\":[[\"9\",\"1\"]]\x7d"
    let bad := frame "update/order_book" "0" "\x7b\"bids\":[[\"x\",\"1\"]]\x7d"
    let other := frame "subscribed/order_book" "1" "null"
    let trades := frame "update/trade" "0" "[]"
    let update := frame "update/order_book" "0" "\x7b\"asks\":[[\"10\",\"2\"]]\x7d"
    let frames := [snapshot, bad, other, trades, "no frame", update]
    let kept := Handler.feedAll handler (start (.broken "closed")) frames
    frames.filterMap (frameEvent? "order_book:0") ≠ [] ∧
      frameEvent? "order_book:0" other = none ∧
      (kept.book? "order_book:0").map Book.toOrderBook = some ⟨[⟨"9", "1"⟩], [⟨"10", "2"⟩]⟩ ∧
      (Handler.feed handler kept other).book? "order_book:0" = kept.book? "order_book:0" := by
  intro frame snapshot bad other trades update frames kept
  have hevents : frames.filterMap (frameEvent? "order_book:0") =
      [.snapshot ⟨[⟨"9", "1"⟩], []⟩, .update ⟨[⟨"x", "1"⟩], []⟩, .update ⟨[], [⟨"10", "2"⟩]⟩] := by
    decide +kernel
  have hsome : frames.filterMap (frameEvent? "order_book:0") ≠ [] := by
    rw [hevents]
    simp
  have hother : frameEvent? "order_book:0" other = none := by decide +kernel
  obtain ⟨-, hbook, hsame⟩ := books_kept_apart (.broken "closed") "order_book:0" frames
  refine ⟨hsome, hother, ?_, hsame kept other hother⟩
  rw [show kept.book? "order_book:0" = _ from hbook hsome, hevents]
  decide +kernel

end Console.Summary
end MarketFeed

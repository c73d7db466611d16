import MarketFeed.Proofs.Attempts
import MarketFeed.Proofs.LadderLookup

/-!
# Levels, changes and the sides of a book

A level has a price and offers an amount, each when its text is a number. These two readings say
what the level asks for: a level that offers something is put at its price, and any other level
that can be read empties its price.

Both sides of a book are treated alike, so a side is a parameter of everything here. An event that
is applied changes each side by the levels of its own frame on that side and by nothing else.
-/
namespace MarketFeed

theorem Side.exists_rank (side : Side) (r : Int) : ∃ p, side.rank p = r := by
  cases side with
  | bid => exact ⟨⟨-r⟩, Int.neg_neg r⟩
  | ask => exact ⟨⟨r⟩, rfl⟩

namespace PriceLevel

def price? (level : PriceLevel) : Option Decimal := Decimal.parse? (Text.trim level.price)

def amount? (level : PriceLevel) : Option Decimal := Decimal.parse? (Text.trim level.size)

/-- The size is there and is a number other than zero. -/
def isOffered (level : PriceLevel) : Bool :=
  Text.trim level.size != "" && level.amount?.any fun amount => !amount.isZero

def offer? (level : PriceLevel) : Option PriceLevel := if level.isOffered then some level else none

theorem offer?_eq_some {level offered : PriceLevel} :
    level.offer? = some offered ↔ level = offered ∧ offered.isOffered = true := by
  unfold offer?
  split_ifs with h
  · simp only [Option.some.injEq]
    exact ⟨fun he => ⟨he, he ▸ h⟩, And.left⟩
  · simp only [false_iff, not_and]
    rintro rfl
    exact h

/-- A change goes to the price of its level and holds what the level offers. -/
theorem change_spec {level : PriceLevel} {change : Change} (h : level.change = .ok change) :
    level.price? = some change.price ∧ change.level = level.offer? := by
  unfold PriceLevel.change at h
  unfold offer? isOffered price? amount?
  cases hp : Decimal.parse? (Text.trim level.price) with
  | none => simp [hp] at h
  | some price =>
    simp only [hp] at h
    by_cases hs : Text.trim level.size = ""
    · simp only [hs, if_true, Except.ok.injEq] at h
      subst h
      simp [hs]
    · cases ha : Decimal.parse? (Text.trim level.size) with
      | none => simp [hs, ha] at h
      | some amount =>
        simp only [hs, ha, if_false, Except.ok.injEq] at h
        subst h
        cases hz : amount.isZero <;> simp [hs, hz]

end PriceLevel

def OrderBook.levels (frame : OrderBook) : Side → List PriceLevel
  | .bid => frame.bids
  | .ask => frame.asks

def Changes.on (changes : Changes) : Side → List Change
  | .bid => changes.bids
  | .ask => changes.asks

theorem OrderBook.changes_eq_ok {frame : OrderBook} {changes : Changes} :
    frame.changes = .ok changes ↔
      ∀ side, (frame.levels side).map PriceLevel.change = (changes.on side).map .ok := by
  unfold OrderBook.changes
  rw [Attempts.bind_eq_ok]
  constructor
  · rintro ⟨bids, hbids, h⟩
    obtain ⟨asks, hasks, he⟩ := Attempts.bind_eq_ok.mp h
    obtain rfl : (⟨bids, asks⟩ : Changes) = changes := Except.ok.inj he
    rintro (_ | _)
    · exact Attempts.mapM_eq_ok.mp hbids
    · exact Attempts.mapM_eq_ok.mp hasks
  · intro h
    refine ⟨changes.bids, Attempts.mapM_eq_ok.mpr (h .bid), ?_⟩
    exact Attempts.bind_eq_ok.mpr ⟨changes.asks, Attempts.mapM_eq_ok.mpr (h .ask), rfl⟩

/-- The last of some levels at a price. -/
def lastWrite? (p : Decimal) (levels : List PriceLevel) : Option PriceLevel :=
  (levels.filter fun level => level.price? = some p).getLast?

theorem lastWrite?_append (p : Decimal) (earlier later : List PriceLevel) :
    lastWrite? p (earlier ++ later) = (lastWrite? p later).or (lastWrite? p earlier) := by
  simp [lastWrite?]

theorem last_change {levels : List PriceLevel} {changes : List Change}
    (h : levels.map PriceLevel.change = changes.map .ok) (p : Decimal) :
    (changes.filter fun change => change.price = p).getLast?.map Change.level =
      (lastWrite? p levels).map PriceLevel.offer? := by
  unfold lastWrite?
  induction levels generalizing changes with
  | nil =>
    obtain rfl : changes = [] := by simpa using h.symm
    rfl
  | cons level rest ih =>
    cases changes with
    | nil => simp at h
    | cons change more =>
      obtain ⟨hfirst, hrest⟩ := List.cons.inj h
      obtain ⟨hprice, hlevel⟩ := PriceLevel.change_spec hfirst
      specialize ih hrest
      by_cases hp : change.price = p
      · have hat : level.price? = some p := by rw [hprice, hp]
        simp only [hp, hat, decide_true, List.filter_cons_of_pos, List.getLast?_cons]
        simp only [Option.map_some, Option.some.injEq]
        -- a later change to the price hides this one, and a later level does so at the same time
        revert ih
        cases (more.filter fun change => change.price = p).getLast? <;>
          cases (rest.filter fun level => level.price? = some p).getLast? <;>
          simp [hlevel]
      · have hat : ¬level.price? = some p := by simpa [hprice] using hp
        simpa [hp, hat] using ih

namespace Book

def ladder (book : Book) : Side → Ladder
  | .bid => book.bidLadder
  | .ask => book.askLadder

def levels (book : Book) (side : Side) : List PriceLevel := (book.ladder side).levels

/-- The level that a side holds at a price. -/
def levelAt? (book : Book) (side : Side) (p : Decimal) : Option PriceLevel :=
  (book.ladder side).at? (side.rank p)

@[simp] theorem levels_ladder_bid (book : Book) : (book.ladder .bid).levels = book.bids := rfl

@[simp] theorem levels_ladder_ask (book : Book) : (book.ladder .ask).levels = book.asks := rfl

@[simp] theorem ladder_empty (side : Side) : empty.ladder side = .empty := by
  cases side <;> rfl

@[simp] theorem levelAt?_empty (side : Side) (p : Decimal) : empty.levelAt? side p = none := by
  simp [levelAt?]

theorem ladder_ext {book other : Book} {side : Side}
    (h : ∀ p, book.levelAt? side p = other.levelAt? side p) :
    book.ladder side = other.ladder side := by
  apply Ladder.ext_at?
  intro r
  obtain ⟨p, rfl⟩ := side.exists_rank r
  exact h p

/-- A book is told by its levels at all prices. -/
theorem ext_levelAt? {book other : Book}
    (h : ∀ side p, book.levelAt? side p = other.levelAt? side p) : book = other := by
  have hbids := ladder_ext (h .bid)
  have hasks := ladder_ext (h .ask)
  exact Book.ext hbids hasks

theorem ladder_merge (book : Book) (changes : Changes) (side : Side) :
    (book.merge changes).ladder side =
      (changes.on side).foldl (Ladder.apply side) (book.ladder side) := by
  cases side <;> rfl

/-- A side after a frame was merged holds at a price what the last level of the frame there offers,
or what it held before. -/
theorem levelAt?_merge {frame : OrderBook} {changes : Changes} (h : frame.changes = .ok changes)
    (book : Book) (side : Side) (p : Decimal) :
    (book.merge changes).levelAt? side p =
      ((lastWrite? p (frame.levels side)).map PriceLevel.offer?).getD (book.levelAt? side p) := by
  unfold levelAt?
  rw [ladder_merge, Ladder.at?_foldl_apply, last_change (OrderBook.changes_eq_ok.mp h side)]

theorem applyEvent_cases {book next : Book} {event : Event} (h : book.applyEvent event = .ok next) :
    (event = .clear ∧ next = empty) ∨
      ∃ frame changes, frame.changes = .ok changes ∧
        (event = .snapshot frame ∧ next = empty.merge changes ∨
          event = .update frame ∧ next = book.merge changes) := by
  cases event with
  | clear => exact .inl ⟨rfl, (Except.ok.inj h).symm⟩
  | snapshot frame =>
    obtain ⟨changes, hc, hn⟩ := Attempts.map_eq_ok.mp h
    exact .inr ⟨frame, changes, hc, .inl ⟨rfl, hn.symm⟩⟩
  | update frame =>
    obtain ⟨changes, hc, hn⟩ := Attempts.map_eq_ok.mp h
    exact .inr ⟨frame, changes, hc, .inr ⟨rfl, hn.symm⟩⟩

theorem after_of_ok {book next : Book} {event : Event} (h : book.applyEvent event = .ok next) :
    book.after event = next := by
  simp [after, h, Except.toOption]

theorem after_of_error {book : Book} {event : Event} {error : BookError}
    (h : book.applyEvent event = .error error) : book.after event = book := by
  simp [after, h, Except.toOption]

end Book
end MarketFeed

import MarketFeed.Proofs.BookInvariant
import MarketFeed.Proofs.FrameBoundaries

/-!
# The order of levels, of frames and of their delivery

Only levels of one price get in each other's way, and of those the last one counts. So the levels of
a frame may be moved past each other as long as those of one price keep their order, frames without
a common price may be exchanged, and a row of frames that is delivered once more changes nothing.
Prices are compared as numbers here: `101` and `101.0` are one price.

Each of these laws compares two frames that write the same last level at every price, and no book
can tell such frames apart.
-/
namespace MarketFeed

/-- The same levels in an order in which those of one price come as before. -/
structure Rearranged (levels others : List PriceLevel) : Prop where
  perm : others.Perm levels
  by_price : ∀ p, (others.filter fun level => level.price? = some p) =
    levels.filter fun level => level.price? = some p

theorem rearranged_refl (levels : List PriceLevel) : Rearranged levels levels :=
  ⟨.refl _, fun _ => rfl⟩

theorem rearranged_swap {level level' : PriceLevel} (h : level.price? ≠ level'.price?)
    (before after : List PriceLevel) :
    Rearranged (before ++ level :: level' :: after) (before ++ level' :: level :: after) where
  perm := (List.Perm.swap level level' after).append_left before
  by_price p := by
    by_cases hlevel : level.price? = some p
    · have hlevel' : ¬level'.price? = some p := fun hsame => h (hlevel.trans hsame.symm)
      simp [List.filter_append, hlevel, hlevel']
    · by_cases hlevel' : level'.price? = some p <;> simp [List.filter_append, hlevel, hlevel']

theorem Rearranged.lastWrite?_eq {levels others : List PriceLevel} (h : Rearranged levels others)
    (p : Decimal) : lastWrite? p others = lastWrite? p levels := by
  unfold lastWrite?
  rw [h.by_price]

theorem lastWrite?_eq_none {levels : List PriceLevel} {p : Decimal} :
    lastWrite? p levels = none ↔ ∀ level ∈ levels, level.price? ≠ some p := by
  simp [lastWrite?]

namespace OrderBook

variable {frame other : OrderBook}

/-- No level of the one frame has the price of a level of the other on the same side. -/
def Apart (frame other : OrderBook) : Prop :=
  ∀ side, ∀ level ∈ frame.levels side, ∀ level' ∈ other.levels side, level.price? ≠ level'.price?

theorem Readable.of_rearranged (h : frame.Readable)
    (hother : ∀ side, Rearranged (frame.levels side) (other.levels side)) : other.Readable := by
  rw [readable_iff_levels] at h ⊢
  intro side level hlevel
  exact h side level ((hother side).perm.mem_iff.mp hlevel)

theorem lastWrite?_joined_pair (frame other : OrderBook) (side : Side) (p : Decimal) :
    lastWrite? p ((joined [frame, other]).levels side) =
      (lastWrite? p (other.levels side)).or (lastWrite? p (frame.levels side)) := by
  rw [levels_joined, List.flatMap_cons, List.flatMap_singleton, lastWrite?_append]

/-- At most one of two frames without a common price has a last word on a price. -/
theorem Apart.lastWrite?_comm (h : frame.Apart other) (side : Side) (p : Decimal) :
    lastWrite? p ((joined [frame, other]).levels side) =
      lastWrite? p ((joined [other, frame]).levels side) := by
  rw [lastWrite?_joined_pair, lastWrite?_joined_pair]
  by_cases hframe : ∃ level ∈ frame.levels side, level.price? = some p
  · obtain ⟨level, hlevel, hprice⟩ := hframe
    have hother : lastWrite? p (other.levels side) = none := by
      rw [lastWrite?_eq_none]
      intro level' hlevel' hprice'
      exact h side level hlevel level' hlevel' (hprice.trans hprice'.symm)
    rw [hother, Option.none_or, Option.or_none]
  · have hnone : lastWrite? p (frame.levels side) = none := by
      rw [lastWrite?_eq_none]
      push Not at hframe
      exact hframe
    rw [hnone, Option.or_none, Option.none_or]

end OrderBook

namespace Book

open OrderBook (joined)

variable {book : Book} {frame other : OrderBook} {frames : List OrderBook}

theorem update_congr (hframe : frame.Readable) (hother : other.Readable)
    (hlast : ∀ side p, lastWrite? p (other.levels side) = lastWrite? p (frame.levels side))
    (book : Book) : book.update other = book.update frame := by
  obtain ⟨changes, hchanges⟩ := hframe.exists_changes
  obtain ⟨changes', hchanges'⟩ := hother.exists_changes
  have hsame : book.merge changes' = book.merge changes := by
    apply ext_levelAt?
    intro side p
    rw [levelAt?_merge hchanges, levelAt?_merge hchanges', hlast]
  rw [update_of_changes hchanges, update_of_changes hchanges', hsame]

theorem update_rearranged (hframe : frame.Readable)
    (hother : ∀ side, Rearranged (frame.levels side) (other.levels side)) (book : Book) :
    book.update other = book.update frame :=
  update_congr hframe (hframe.of_rearranged hother) (fun side p => (hother side).lastWrite?_eq p)
    book

theorem update_joined_comm (hframe : frame.Readable) (hother : other.Readable)
    (hapart : frame.Apart other) (book : Book) :
    book.update (joined [frame, other]) = book.update (joined [other, frame]) := by
  have hforth : (joined [frame, other]).Readable := by
    simp [OrderBook.readable_joined, hframe, hother]
  have hback : (joined [other, frame]).Readable := by
    simp [OrderBook.readable_joined, hframe, hother]
  exact update_congr hback hforth hapart.lastWrite?_comm book

theorem update_pair (hframe : frame.Readable) (hother : other.Readable) (book : Book) :
    (book.update frame >>= fun book => book.update other) =
      book.update (joined [frame, other]) := by
  have hframes : ∀ f ∈ [frame, other], f.Readable := by simp [hframe, hother]
  rw [← foldlM_update hframes]
  simp only [List.foldlM_cons, List.foldlM_nil, bind_pure]

/-- What a frame has written it writes again without effect. -/
theorem update_again {next : Book} (hnext : book.update frame = .ok next) :
    next.update frame = .ok next := by
  obtain ⟨changes, hchanges, rfl⟩ := Attempts.map_eq_ok.mp hnext
  have hsame : (book.merge changes).merge changes = book.merge changes := by
    apply ext_levelAt?
    intro side p
    rw [levelAt?_merge hchanges, levelAt?_merge hchanges]
    cases lastWrite? p (frame.levels side) <;> rfl
  rw [update_of_changes hchanges, hsame]

/-- Only levels of one price depend on each other's order. A book takes a frame like any
rearrangement of it, as an update and as a snapshot; updates without a common price may be
exchanged; and a row of updates that comes a second time leaves the book as the first time did. -/
theorem only_price_order_counts (book : Book) :
    (∀ frame other : OrderBook, frame.Readable → other.Readable →
      (∀ side, Rearranged (frame.levels side) (other.levels side)) →
      (∃ next, book.update frame = .ok next ∧ book.update other = .ok next) ∧
        ∃ next, book.snapshot frame = .ok next ∧ book.snapshot other = .ok next) ∧
    (∀ frame other : OrderBook, frame.Readable → other.Readable → frame.Apart other →
      ∃ next, (book.update frame >>= fun book => book.update other) = .ok next ∧
        (book.update other >>= fun book => book.update frame) = .ok next) ∧
    ∀ frames : List OrderBook, (∀ frame ∈ frames, frame.Readable) →
      ∃ next, frames.foldlM update book = .ok next ∧ frames.foldlM update next = .ok next := by
  refine ⟨?rearranged, ?exchanged, ?again⟩
  case rearranged =>
    intro frame other hframe _ hrearranged
    obtain ⟨next, hnext⟩ := update_of_readable hframe book
    obtain ⟨fresh, hfresh⟩ := update_of_readable hframe empty
    have hupdate := update_rearranged hframe hrearranged book
    have hsnapshot := update_rearranged hframe hrearranged empty
    exact ⟨⟨next, hnext, hupdate.trans hnext⟩, fresh, hfresh, hsnapshot.trans hfresh⟩
  case exchanged =>
    intro frame other hframe hother hapart
    have hjoined : (joined [frame, other]).Readable := by
      simp [OrderBook.readable_joined, hframe, hother]
    obtain ⟨next, hnext⟩ := update_of_readable hjoined book
    refine ⟨next, ?_, ?_⟩
    · rw [update_pair hframe hother, hnext]
    · rw [update_pair hother hframe, ← update_joined_comm hframe hother hapart, hnext]
  case again =>
    intro frames hframes
    have hjoined := OrderBook.readable_joined.mpr hframes
    obtain ⟨next, hnext⟩ := update_of_readable hjoined book
    refine ⟨next, ?_, ?_⟩
    · rw [foldlM_update hframes, hnext]
    · rw [foldlM_update hframes, update_again hnext]

/-- A level of another price moves past two spellings of one price; a deletion of a price that is
not there is exchanged with a frame that writes another price; a row in which a price is written and
emptied is delivered twice. -/
theorem only_price_order_counts_across_spellings :
    let book : Book := ofHistory [.snapshot ⟨[⟨"99", "1"⟩], [⟨"103", "4"⟩]⟩]
    let frame : OrderBook := ⟨[⟨"101", "1"⟩, ⟨"99", "0"⟩, ⟨"101.0", "2"⟩], []⟩
    let other : OrderBook := ⟨[⟨"101", "1"⟩, ⟨"101.0", "2"⟩, ⟨"99", "0"⟩], []⟩
    let missing : OrderBook := ⟨[⟨"98", ""⟩], [⟨"1.03e2", "5"⟩]⟩
    frame.Readable ∧ other.Readable ∧ missing.Readable ∧
      (∀ side, Rearranged (frame.levels side) (other.levels side)) ∧ frame.Apart missing ∧
      (∃ next, book.update frame = .ok next ∧ book.update other = .ok next) ∧
      (∃ next, (book.update frame >>= fun book => book.update missing) = .ok next ∧
        (book.update missing >>= fun book => book.update frame) = .ok next) ∧
      ∃ next, [missing, frame, other].foldlM update book = .ok next ∧
        [missing, frame, other].foldlM update next = .ok next := by
  intro book frame other missing
  have hframe : frame.Readable := by decide +kernel
  have hother : other.Readable := by decide +kernel
  have hmissing : missing.Readable := by decide +kernel
  have hdifferent : PriceLevel.price? ⟨"99", "0"⟩ ≠ PriceLevel.price? ⟨"101.0", "2"⟩ := by
    decide +kernel
  have hrearranged : ∀ side, Rearranged (frame.levels side) (other.levels side) := by
    rintro (_ | _)
    · exact rearranged_swap hdifferent [⟨"101", "1"⟩] []
    · exact rearranged_refl []
  have hapart : frame.Apart missing := by
    rintro (_ | _) <;> decide +kernel
  obtain ⟨hmoved, hexchanged, hagain⟩ := only_price_order_counts book
  exact ⟨hframe, hother, hmissing, hrearranged, hapart,
    (hmoved frame other hframe hother hrearranged).1,
    hexchanged frame missing hframe hmissing hapart,
    hagain [missing, frame, other] (by simp [hframe, hother, hmissing])⟩

end Book
end MarketFeed

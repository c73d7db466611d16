import MarketFeed.Proofs.FrameRefusal

/-!
# Frames in a row

The levels of several frames can be written into one. A book that takes the frames one after the
other is the book that takes this one frame, although the frames go back and forth between the sides
and the one frame has all its bids before its asks: the changes of a side are made in the same order
and neither side looks at the other. Frames that are refused leave no trace, so it is the readable
ones that count.

A snapshot is an update of the empty book. With frames behind it, it is the snapshot of all of them.
-/
namespace MarketFeed

namespace OrderBook

def Readable (frame : OrderBook) : Prop := ∀ level ∈ frame.bids ++ frame.asks, level.Readable

instance : DecidablePred Readable := fun frame =>
  inferInstanceAs (Decidable (∀ level ∈ frame.bids ++ frame.asks, level.Readable))

/-- The levels of some frames in one frame. -/
def joined (frames : List OrderBook) : OrderBook :=
  ⟨frames.flatMap OrderBook.bids, frames.flatMap OrderBook.asks⟩

variable {frame : OrderBook} {frames rest : List OrderBook}

theorem levels_joined (frames : List OrderBook) (side : Side) :
    (joined frames).levels side = frames.flatMap fun frame => frame.levels side := by
  cases side <;> rfl

theorem readable_iff_levels :
    frame.Readable ↔ ∀ side, ∀ level ∈ frame.levels side, level.Readable := by
  unfold Readable
  rw [List.forall_mem_append]
  constructor
  · rintro ⟨hbids, hasks⟩ (_ | _)
    · exact hbids
    · exact hasks
  · intro h
    exact ⟨h .bid, h .ask⟩

theorem readable_joined : (joined frames).Readable ↔ ∀ frame ∈ frames, frame.Readable := by
  simp only [readable_iff_levels, levels_joined, List.mem_flatMap]
  constructor
  · intro h frame hframe side level hlevel
    exact h side level ⟨frame, hframe, hlevel⟩
  · rintro h side level ⟨frame, hframe, hlevel⟩
    exact h frame hframe side level hlevel

theorem Readable.exists_changes (h : frame.Readable) : ∃ changes, frame.changes = .ok changes :=
  exists_changes_iff.mpr h

theorem changes_of_not_readable (h : ¬frame.Readable) : ∃ error, frame.changes = .error error := by
  rw [exists_changes_eq_error_iff]
  unfold Readable at h
  push Not at h
  exact h

theorem changes_joined_cons {changes more : Changes} (hchanges : frame.changes = .ok changes)
    (hmore : (joined rest).changes = .ok more) :
    (joined (frame :: rest)).changes =
      .ok ⟨changes.bids ++ more.bids, changes.asks ++ more.asks⟩ := by
  rw [changes_eq_ok] at hchanges hmore ⊢
  intro side
  have hfirst := hchanges side
  have hrest := hmore side
  rw [levels_joined] at hrest ⊢
  rw [List.flatMap_cons, List.map_append, hfirst, hrest, ← List.map_append]
  cases side <;> rfl

end OrderBook

namespace Book

open OrderBook (joined)

variable {frame : OrderBook} {frames rest : List OrderBook}

theorem merge_append (book : Book) (changes more : Changes) :
    book.merge ⟨changes.bids ++ more.bids, changes.asks ++ more.asks⟩ =
      (book.merge changes).merge more := by
  simp only [merge, List.foldl_append]

theorem update_of_changes {changes : Changes} (h : frame.changes = .ok changes) (book : Book) :
    book.update frame = .ok (book.merge changes) := by
  rw [update, h]
  rfl

theorem update_of_readable (h : frame.Readable) (book : Book) :
    ∃ next, book.update frame = .ok next := by
  obtain ⟨changes, hchanges⟩ := h.exists_changes
  exact ⟨book.merge changes, update_of_changes hchanges book⟩

/-- A snapshot has no use for the book that it replaces. -/
theorem snapshot_eq_update_empty (book : Book) (frame : OrderBook) :
    book.snapshot frame = empty.update frame := rfl

theorem update_joined_cons (hframe : frame.Readable) (hrest : (joined rest).Readable)
    (book : Book) :
    book.update (joined (frame :: rest)) =
      book.update frame >>= fun next => next.update (joined rest) := by
  obtain ⟨changes, hchanges⟩ := hframe.exists_changes
  obtain ⟨more, hmore⟩ := hrest.exists_changes
  have hjoined := update_of_changes (OrderBook.changes_joined_cons hchanges hmore) book
  rw [hjoined, merge_append, update_of_changes hchanges]
  exact (update_of_changes hmore (book.merge changes)).symm

/-- Frames that can be read may come one after the other or all at once. -/
theorem foldlM_update (h : ∀ frame ∈ frames, frame.Readable) (book : Book) :
    frames.foldlM update book = book.update (joined frames) := by
  induction frames generalizing book with
  | nil => rfl
  | cons frame rest ih =>
    obtain ⟨hframe, hrest⟩ := List.forall_mem_cons.mp h
    have hjoined := OrderBook.readable_joined.mpr hrest
    obtain ⟨next, hnext⟩ := update_of_readable hframe book
    rw [update_joined_cons hframe hjoined, List.foldlM_cons, hnext]
    exact ih hrest next

theorem after_update_of_not_readable (h : ¬frame.Readable) (book : Book) :
    book.after (.update frame) = book := by
  obtain ⟨error, herror⟩ := OrderBook.changes_of_not_readable h
  have hupdate : book.applyEvent (.update frame) = .error error :=
    (update_eq_error book).mpr herror
  exact after_of_error hupdate

/-- A row of frames of which some are refused is the row of the others. -/
theorem foldlM_update_readable (frames : List OrderBook) (book : Book) :
    (frames.filter fun frame => frame.Readable).foldlM update book =
      .ok (frames.foldl (fun book frame => book.after (.update frame)) book) := by
  induction frames generalizing book with
  | nil => rfl
  | cons frame rest ih =>
    rw [List.foldl_cons]
    by_cases hframe : frame.Readable
    · obtain ⟨next, hnext⟩ := update_of_readable hframe book
      have hafter : book.after (.update frame) = next := after_of_ok hnext
      rw [List.filter_cons_of_pos (by simpa using hframe), List.foldlM_cons, hnext, hafter]
      exact ih next
    · rw [List.filter_cons_of_neg (by simpa using hframe), after_update_of_not_readable hframe]
      exact ih book

/-- Updates that can be read change any book as the one update that joins them. A snapshot with
updates behind it makes of any book what the snapshot of all of them makes of any other, and what
their update makes of a book that was cleared. Of updates in a row those that are refused can be
left out. -/
theorem update_joined (book : Book) :
    (∀ frames : List OrderBook, (∀ frame ∈ frames, frame.Readable) →
      ∃ next, frames.foldlM update book = .ok next ∧ book.update (joined frames) = .ok next) ∧
    (∀ (first : OrderBook) (rest : List OrderBook), (∀ frame ∈ first :: rest, frame.Readable) →
      ∃ next, (book.snapshot first >>= fun book => rest.foldlM update book) = .ok next ∧
        ∀ other : Book, other.snapshot (joined (first :: rest)) = .ok next ∧
          (other.applyEvent .clear >>= fun book => book.update (joined (first :: rest))) =
            .ok next) ∧
    ∀ frames : List OrderBook,
      book.update (joined (frames.filter fun frame => frame.Readable)) =
        .ok (frames.foldl (fun book frame => book.after (.update frame)) book) := by
  refine ⟨?_, ?_, ?_⟩
  · intro frames hframes
    obtain ⟨next, hnext⟩ := update_of_readable (OrderBook.readable_joined.mpr hframes) book
    exact ⟨next, by rw [foldlM_update hframes, hnext], hnext⟩
  · intro first rest hframes
    have hall := OrderBook.readable_joined.mpr hframes
    obtain ⟨next, hnext⟩ := update_of_readable hall empty
    have hrow : (book.snapshot first >>= fun book => rest.foldlM update book) = .ok next := by
      rw [← hnext, ← foldlM_update hframes, List.foldlM_cons, snapshot_eq_update_empty]
    exact ⟨next, hrow, fun other => ⟨hnext, hnext⟩⟩
  · intro frames
    have hreadable : ∀ frame ∈ frames.filter fun frame => frame.Readable, frame.Readable := by
      intro frame hframe
      simpa using (List.mem_filter.mp hframe).2
    rw [← foldlM_update hreadable, foldlM_update_readable]

/-- A price is written, emptied and written again under three spellings, each in a frame of its own,
while the other side is written and emptied in between. -/
theorem update_joined_across_spellings :
    let first : OrderBook := ⟨[⟨"100", "1"⟩], [⟨"7", "2"⟩]⟩
    let rest : List OrderBook :=
      [⟨[⟨"1e2", "0.0"⟩], []⟩, ⟨[⟨"100.0", "3"⟩], [⟨"7.0", ""⟩]⟩]
    let last : Book :=
      ⟨⟨[(-1000000000000000000000000000000, ⟨"100.0", "3"⟩)], List.pairwise_singleton _ _⟩, .empty⟩
    (∀ frame ∈ first :: rest, frame.Readable) ∧
      (first :: rest).foldlM update empty = .ok last ∧
      (∀ book : Book, book.snapshot (joined (first :: rest)) = .ok last) ∧
      ((first :: ⟨[⟨"x", "1"⟩], []⟩ :: rest).foldl
        (fun book frame => book.after (.update frame)) empty) = last := by
  intro first rest last
  have hframes : ∀ frame ∈ first :: rest, frame.Readable := by decide +kernel
  have hlast : (empty.update (joined (first :: rest))).toOption = some last := by decide +kernel
  have hvalid : (first :: ⟨[⟨"x", "1"⟩], []⟩ :: rest).filter (fun frame => frame.Readable) =
      first :: rest := by decide +kernel
  obtain ⟨hrows, hsnapshots, hfiltered⟩ := update_joined empty
  obtain ⟨next, hrow, hjoined⟩ := hrows (first :: rest) hframes
  obtain ⟨fresh, -, hfresh⟩ := hsnapshots first rest hframes
  have hupdate := Attempts.toOption_eq_some.mp hlast
  have hnext : next = last := Except.ok.inj (hjoined.symm.trans hupdate)
  -- the snapshot of an empty book is the update of it
  have hsnapshot : fresh = last := Except.ok.inj ((hfresh empty).1.symm.trans hupdate)
  refine ⟨hframes, hnext ▸ hrow, fun book => hsnapshot ▸ (hfresh book).1, ?_⟩
  have hskipped := hfiltered (first :: ⟨[⟨"x", "1"⟩], []⟩ :: rest)
  rw [hvalid, hupdate] at hskipped
  exact (Except.ok.inj hskipped).symm

end Book
end MarketFeed

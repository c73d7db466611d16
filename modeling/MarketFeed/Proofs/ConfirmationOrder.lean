import MarketFeed.Proofs.RequestStatus
import Mathlib.Data.List.Perm.Basic

/-!
# Confirmations in any order

A snapshot makes active what it covers, and nothing goes back from active. Snapshots in a row
therefore add up: a channel is active behind them when it was so before or one of them covers it.
Neither their order nor how often each of them comes has a part in this.

Which snapshot reports a channel does depend on the order, as it is the first one to cover it. But
every pending channel that is covered at all is reported, and just once.
-/
namespace MarketFeed.Subscriptions

/-- The list with all channels of a kind active. -/
def activate (s : Subscriptions) (p : Channel → Bool) : Subscriptions :=
  ⟨s.entries.map fun entry => if p entry.1 then (entry.1, .active) else entry⟩

/-- The channels that wait for a snapshot. -/
def pending (s : Subscriptions) : List Channel :=
  (s.entries.filter fun entry => entry.2 == .pending).map Prod.fst

def confirmEach (s : Subscriptions) (seen : List MarketEvent) : Subscriptions :=
  seen.foldl confirm s

def coveredBy (seen : List MarketEvent) (channel : Channel) : Bool :=
  seen.any fun event => event.covers channel

variable {s : Subscriptions} {channel : Channel}

theorem coveredBy_cons (event : MarketEvent) (rest : List MarketEvent) (channel : Channel) :
    coveredBy (event :: rest) channel = (event.covers channel || coveredBy rest channel) := rfl

@[simp] theorem activate_none (s : Subscriptions) : (s.activate fun _ => false) = s := by
  simp [activate]

theorem activate_activate (s : Subscriptions) (p q : Channel → Bool) :
    (s.activate p).activate q = s.activate fun channel => p channel || q channel := by
  unfold activate
  rw [List.map_map]
  congr 2
  funext entry
  cases hp : p entry.1 <;> simp [hp]

theorem confirm_eq_activate (s : Subscriptions) (event : MarketEvent) :
    s.confirm event = s.activate event.covers := by
  unfold confirm activate isConfirmedBy
  congr 2
  funext ⟨channel, status⟩
  -- where nothing is pending the channel is active already
  cases status <;> simp

theorem confirmed_eq_filter_pending (s : Subscriptions) (event : MarketEvent) :
    s.confirmed event = s.pending.filter event.covers := by
  unfold confirmed pending isConfirmedBy
  rw [List.filter_map, List.filter_filter]
  rfl

theorem pending_activate (s : Subscriptions) (p : Channel → Bool) :
    (s.activate p).pending = s.pending.filter fun channel => !p channel := by
  obtain ⟨entries⟩ := s
  induction entries with
  | nil => rfl
  | cons entry rest ih =>
    obtain ⟨channel, status⟩ := entry
    unfold activate pending at ih ⊢
    cases hp : p channel <;> cases status <;> simpa [hp] using ih

theorem pending_nodup (hnodup : s.channels.Nodup) : s.pending.Nodup :=
  hnodup.sublist (List.filter_sublist.map _)

theorem mem_channels_of_status? {status : SubscriptionStatus}
    (h : s.status? channel = some status) : channel ∈ s.channels := by
  rw [← tracks_iff, tracks, h]
  rfl

theorem mem_pending (hnodup : s.channels.Nodup) :
    channel ∈ s.pending ↔ s.status? channel = some .pending := by
  have hfilter := filter_entries hnodup fun _ status => status == .pending
  unfold pending
  rw [hfilter, List.mem_filter, Option.any_eq_true]
  constructor
  · rintro ⟨-, status, hstatus, hpending⟩
    rw [hstatus, beq_iff_eq.mp hpending]
  · intro hpending
    exact ⟨mem_channels_of_status? hpending, .pending, hpending, rfl⟩

theorem confirmEach_eq_activate (s : Subscriptions) (seen : List MarketEvent) :
    s.confirmEach seen = s.activate (coveredBy seen) := by
  induction seen generalizing s with
  | nil => exact s.activate_none.symm
  | cons event rest ih =>
    rw [confirmEach, List.foldl_cons, ← confirmEach, ih, confirm_eq_activate, activate_activate]
    rfl

theorem status?_confirmEach (s : Subscriptions) (seen : List MarketEvent) (channel : Channel) :
    (s.confirmEach seen).status? channel =
      (s.status? channel).map fun status =>
        if coveredBy seen channel then .active else status := by
  induction seen generalizing s with
  | nil => simp [confirmEach, coveredBy]
  | cons event rest ih =>
    rw [confirmEach, List.foldl_cons, ← confirmEach, ih, status?_confirm, Option.map_map]
    congr 1
    funext status
    cases hfirst : event.covers channel <;> simp [coveredBy, hfirst]

theorem coveredBy_iff {seen : List MarketEvent} :
    coveredBy seen channel = true ↔ ∃ event ∈ seen, event.Covers channel := by
  rw [coveredBy, List.any_eq_true]
  simp only [MarketEvent.covers_iff]

/-- A channel is active when it was before, or was pending and is covered. -/
theorem status?_confirmEach_eq_active {seen : List MarketEvent} :
    (s.confirmEach seen).status? channel = some .active ↔
      s.status? channel = some .active ∨
        s.status? channel = some .pending ∧ ∃ event ∈ seen, event.Covers channel := by
  rw [status?_confirmEach, ← coveredBy_iff]
  cases hstatus : s.status? channel with
  | none => simp
  | some status => cases status <;> simp

/-- Each pending channel that is covered is reported by the first snapshot that covers it. -/
theorem reported_perm (s : Subscriptions) (seen : List MarketEvent) :
    (s.reported (seen.map .confirm)).Perm (s.pending.filter (coveredBy seen)) := by
  induction seen generalizing s with
  | nil => simp [reported, coveredBy]
  | cons event rest ih =>
    have hnow : s.confirmed event =
        (s.pending.filter (coveredBy (event :: rest))).filter event.covers := by
      rw [confirmed_eq_filter_pending, List.filter_filter]
      congr 1
      funext channel
      rw [coveredBy_cons]
      cases event.covers channel <;> rfl
    have hlater : (s.confirm event).pending.filter (coveredBy rest) =
        (s.pending.filter (coveredBy (event :: rest))).filter fun channel =>
          !event.covers channel := by
      rw [confirm_eq_activate, pending_activate, List.filter_filter, List.filter_filter]
      congr 1
      funext channel
      rw [coveredBy_cons]
      cases event.covers channel <;> simp
    have hrest := ih (s.confirm event)
    rw [hlater] at hrest
    change (s.confirmed event ++ (s.confirm event).reported (rest.map .confirm)).Perm _
    rw [hnow]
    exact (hrest.append_left _).trans (List.filter_append_perm event.covers _)

theorem mem_reported (hnodup : s.channels.Nodup) (seen : List MarketEvent) :
    channel ∈ s.reported (seen.map .confirm) ↔
      s.status? channel = some .pending ∧ (s.confirmEach seen).status? channel = some .active := by
  rw [(s.reported_perm seen).mem_iff, List.mem_filter, mem_pending hnodup, status?_confirmEach]
  refine and_congr_right fun hpending => ?_
  cases hcovered : coveredBy seen channel <;> simp [hpending]

theorem coveredBy_congr {seen again : List MarketEvent}
    (hsame : ∀ event, event ∈ again ↔ event ∈ seen) : coveredBy again = coveredBy seen := by
  funext channel
  rw [Bool.eq_iff_iff, coveredBy, coveredBy, List.any_eq_true, List.any_eq_true]
  simp only [hsame]

/-- After any history, two rows of the same snapshots, each however often and wherever in its row,
leave the same list. Neither row reports a channel twice, and both report the same channels, which
are those that were pending before it and are active behind it. Active behind it are the channels
that were so before, and the pending ones that some snapshot covers. -/
theorem confirmed_in_any_order (history : List Event) {seen again : List MarketEvent}
    (hsame : ∀ event, event ∈ again ↔ event ∈ seen) :
    let s := ofHistory history
    s.confirmEach again = s.confirmEach seen ∧
      (s.reported (again.map .confirm)).Nodup ∧
      (s.reported (again.map .confirm)).Perm (s.reported (seen.map .confirm)) ∧
      ∀ channel,
        (channel ∈ s.reported (again.map .confirm) ↔
          s.status? channel = some .pending ∧
            (s.confirmEach again).status? channel = some .active) ∧
        ((s.confirmEach again).status? channel = some .active ↔
          s.status? channel = some .active ∨
            s.status? channel = some .pending ∧ ∃ event ∈ again, event.Covers channel) := by
  intro s
  have hnodup : s.channels.Nodup := channels_nodup_ofHistory history
  have hcovered : coveredBy again = coveredBy seen := coveredBy_congr hsame
  have hagain := s.reported_perm again
  have hseen := s.reported_perm seen
  refine ⟨?_, ?_, ?_, fun channel => ⟨mem_reported hnodup again, status?_confirmEach_eq_active⟩⟩
  · rw [confirmEach_eq_activate, confirmEach_eq_activate, hcovered]
  · exact hagain.nodup_iff.mpr ((pending_nodup hnodup).filter _)
  · rw [hcovered] at hagain
    exact hagain.trans hseen.symm

/-- The echo of one channel, one that is not a channel and one of another topic: with the exact echo
in front the second channel is reported first, and in the other order, with repetitions, last. -/
theorem confirmed_in_any_order_across_echoes :
    let first := Channel.ofMarket .trade ⟨0, by decide, by decide⟩
    let second := Channel.ofMarket .trade ⟨1, by decide, by decide⟩
    let book := Channel.ofMarket .orderBook ⟨0, by decide, by decide⟩
    let s := ofHistory [.request first, .request book, .request second]
    let echo (text : String) : MarketEvent := ⟨some text, .trades []⟩
    let seen := [echo "trade:1", echo "trades", echo "order_book:0"]
    let again := [echo "order_book:0", echo "trades", echo "trade:1", echo "trades"]
    (∀ event, event ∈ again ↔ event ∈ seen) ∧
      s.confirmEach again = s.confirmEach seen ∧
      s.reported (seen.map .confirm) = [second, first] ∧
      s.reported (again.map .confirm) = [first, second] := by
  intro first second book s echo seen again
  have hsame : ∀ event, event ∈ again ↔ event ∈ seen := by
    intro event
    simp only [again, seen, List.mem_cons, List.not_mem_nil, or_false]
    tauto
  obtain ⟨hlist, -⟩ := confirmed_in_any_order [.request first, .request book, .request second] hsame
  exact ⟨hsame, hlist, by decide +kernel, by decide +kernel⟩

end MarketFeed.Subscriptions

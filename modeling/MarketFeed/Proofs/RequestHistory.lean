import MarketFeed.Subscriptions
import Mathlib.Data.List.DropRight
import Mathlib.Data.List.Induction

/-!
# Requests and their history

Which channels are listed after a history, and in which order, can be told from the history alone.
A channel is listed when the last event that names it is a request. Its tenure is what happened
since it was first requested after its last removal, so the longer tenure stands in front.

Confirmations change no channel of the list and lengthen every tenure alike.
-/
namespace MarketFeed.Subscriptions

def Event.names (channel : Channel) (event : Event) : Bool :=
  event == .request channel || event == .remove channel

/-- The last request or removal of a channel. -/
def lastNaming? (channel : Channel) (events : List Event) : Option Event :=
  (events.filter (Event.names channel)).getLast?

/-- What happened from the first request of a channel on that is not followed by its removal. -/
def tenure (channel : Channel) (events : List Event) : List Event :=
  (events.rtakeWhile (· != .remove channel)).dropWhile (· != .request channel)

variable {s : Subscriptions} {channel : Channel} {event : Event} {events : List Event}

theorem ofHistory_concat (events : List Event) (event : Event) :
    ofHistory (events ++ [event]) = (ofHistory events).after event := by
  simp [ofHistory]

theorem tracks_iff : s.tracks channel = true ↔ channel ∈ s.channels := by
  simp [tracks, status?, channels]

theorem channels_request (s : Subscriptions) (channel : Channel) :
    (s.request channel).channels =
      if channel ∈ s.channels then s.channels else s.channels ++ [channel] := by
  unfold request
  by_cases h : channel ∈ s.channels
  · rw [if_pos (tracks_iff.mpr h), if_pos h]
  · rw [if_neg (mt tracks_iff.mp h), if_neg h]
    simp [channels]

theorem channels_remove (s : Subscriptions) (channel : Channel) :
    (s.remove channel).channels = s.channels.filter (· != channel) := by
  unfold channels remove
  rw [List.filter_map]
  rfl

theorem mem_channels_after :
    channel ∈ (s.after event).channels ↔
      event = .request channel ∨ channel ∈ s.channels ∧ event ≠ .remove channel := by
  cases event with
  | request other =>
    have heq : Event.request other = .request channel ↔ channel = other := by
      rw [Event.request.injEq]
      exact eq_comm
    rw [after, channels_request, heq]
    split_ifs with hmem
    · constructor
      · exact fun h => .inr ⟨h, by simp⟩
      · rintro (rfl | ⟨h, -⟩)
        · exact hmem
        · exact h
    · simp [or_comm]
  | remove other =>
    have hne : Event.remove other ≠ .remove channel ↔ channel ≠ other := by
      rw [ne_eq, Event.remove.injEq]
      exact not_congr eq_comm
    rw [after, channels_remove, List.mem_filter, hne]
    simp
  | confirm seen =>
    rw [after, channels_confirm]
    simp

theorem eq_empty (h : s.channels = []) : s = empty := by
  obtain ⟨entries⟩ := s
  obtain rfl : entries = [] := List.map_eq_nil_iff.mp h
  rfl

theorem lastNaming?_concat (channel : Channel) (events : List Event) (event : Event) :
    lastNaming? channel (events ++ [event]) =
      if event.names channel then some event else lastNaming? channel events := by
  unfold lastNaming?
  rw [List.filter_append]
  split_ifs with h <;> simp [h]

/-- A channel is listed when the last that was said of it is a request. -/
theorem mem_channels_ofHistory (events : List Event) (channel : Channel) :
    channel ∈ (ofHistory events).channels ↔
      lastNaming? channel events = some (.request channel) := by
  induction events using List.reverseRecOn with
  | nil => simp [ofHistory, empty, channels, lastNaming?]
  | append_singleton events event ih =>
    rw [ofHistory_concat, mem_channels_after, lastNaming?_concat, ih]
    by_cases hrequest : event = .request channel
    · simp [hrequest, Event.names]
    · by_cases hremove : event = .remove channel
      · simp [hremove, Event.names]
      · simp [hrequest, hremove, Event.names]

theorem tenure_concat (channel : Channel) (events : List Event) (event : Event) :
    tenure channel (events ++ [event]) =
      if event = .remove channel then []
      else if tenure channel events = [] then
        if event = .request channel then [event] else []
      else tenure channel events ++ [event] := by
  unfold tenure
  rw [List.rtakeWhile_concat]
  by_cases hremove : event = .remove channel
  · simp [hremove]
  · rw [if_pos (by simpa using hremove), if_neg hremove, List.dropWhile_append]
    by_cases hrequest : event = .request channel <;> simp [hrequest]

theorem tenure_eq_nil (events : List Event) (channel : Channel) :
    tenure channel events = [] ↔ channel ∉ (ofHistory events).channels := by
  induction events using List.reverseRecOn with
  | nil => simp [tenure, ofHistory, empty, channels]
  | append_singleton events event ih =>
    rw [tenure_concat, ofHistory_concat, mem_channels_after]
    by_cases hremove : event = .remove channel
    · simp [hremove]
    · by_cases hmem : channel ∈ (ofHistory events).channels
      · have htenure : tenure channel events ≠ [] := fun h => ih.mp h hmem
        simp [hremove, hmem, htenure]
      · have htenure : tenure channel events = [] := ih.mpr hmem
        by_cases hrequest : event = .request channel <;> simp [hrequest, hmem, htenure]

theorem length_tenure_concat (hmem : channel ∈ (ofHistory events).channels)
    (hkept : event ≠ .remove channel) :
    (tenure channel (events ++ [event])).length = (tenure channel events).length + 1 := by
  have hnonempty : tenure channel events ≠ [] := fun h => (tenure_eq_nil events channel).mp h hmem
  rw [tenure_concat, if_neg hkept, if_neg hnonempty]
  simp

/-- The list is in the order of tenure. -/
theorem channels_pairwise_ofHistory (events : List Event) :
    (ofHistory events).channels.Pairwise fun a b =>
      (tenure b events).length < (tenure a events).length := by
  induction events using List.reverseRecOn with
  | nil => simp [ofHistory, empty, channels]
  | append_singleton events event ih =>
    -- what stays listed keeps its place, since every tenure that goes on grows by this event
    have hkeep : ∀ kept : List Channel, kept.Sublist (ofHistory events).channels →
        (∀ channel ∈ kept, event ≠ .remove channel) →
        kept.Pairwise fun a b =>
          (tenure b (events ++ [event])).length < (tenure a (events ++ [event])).length := by
      intro kept hsub hkept
      refine (ih.sublist hsub).imp_of_mem ?_
      intro a b ha hb hless
      rw [length_tenure_concat (hsub.mem ha) (hkept a ha),
        length_tenure_concat (hsub.mem hb) (hkept b hb)]
      omega
    rw [ofHistory_concat]
    cases event with
    | request other =>
      have hold := hkeep _ (List.Sublist.refl _) (fun _ _ => by simp)
      rw [after, channels_request]
      by_cases hmem : other ∈ (ofHistory events).channels
      · rw [if_pos hmem]
        exact hold
      · rw [if_neg hmem, List.pairwise_append]
        refine ⟨hold, List.pairwise_singleton _ _, ?_⟩
        intro earlier hearlier last hlast
        obtain rfl : last = other := List.mem_singleton.mp hlast
        have hfresh : tenure last events = [] := (tenure_eq_nil events last).mpr hmem
        have hold : tenure earlier events ≠ [] :=
          fun h => (tenure_eq_nil events earlier).mp h hearlier
        have hlong : 0 < (tenure earlier events).length := List.length_pos_iff.mpr hold
        have hone : tenure last (events ++ [.request last]) = [.request last] := by
          simp [tenure_concat, hfresh]
        rw [length_tenure_concat hearlier (by simp), hone]
        simpa using hlong
    | remove other =>
      rw [after, channels_remove]
      refine hkeep _ List.filter_sublist ?_
      intro channel hchannel hsame
      obtain rfl : other = channel := Event.remove.inj hsame
      simp at hchannel
    | confirm seen =>
      rw [after, channels_confirm]
      exact hkeep _ (List.Sublist.refl _) (fun _ _ => by simp)

theorem channels_nodup_ofHistory (events : List Event) : (ofHistory events).channels.Nodup := by
  refine (channels_pairwise_ofHistory events).imp ?_
  rintro a b hless rfl
  exact Nat.lt_irrefl _ hless

end MarketFeed.Subscriptions

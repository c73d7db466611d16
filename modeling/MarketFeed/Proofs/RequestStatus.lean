import MarketFeed.Proofs.RequestHistory
import Mathlib.Data.List.Count
import Mathlib.Data.List.Nodup

/-!
# The status of a request

A channel is active when a snapshot that covers it was seen in its tenure. What each event does to
the status of one channel is a small equation, and the equations add up over a history: requests
that are repeated and snapshots that come late change nothing, a removal forgets everything.

An event is answered by what it changes. A confirmation names the covered channels that were still
pending, so that a channel is named once at most until it is removed.
-/
namespace MarketFeed

/-- The event echoes the text of a channel of its own topic. -/
def MarketEvent.Names (event : MarketEvent) (channel : Channel) : Prop :=
  ∃ text, event.channel = some text ∧ Channel.parse text = .ok channel ∧
    channel.topic = event.topic

/-- The event names the channel, or is one of its topic that names none. -/
def MarketEvent.Covers (event : MarketEvent) (channel : Channel) : Prop :=
  channel.topic = event.topic ∧ (event.Names channel ∨ ∀ other, ¬event.Names other)

theorem MarketEvent.Names.topic_eq {event : MarketEvent} {channel : Channel}
    (h : event.Names channel) : channel.topic = event.topic := by
  obtain ⟨text, htext, hparse, htopic⟩ := h
  exact htopic

theorem MarketEvent.echoed?_eq_some {event : MarketEvent} {channel : Channel} :
    event.echoed? = some channel ↔ event.Names channel := by
  unfold echoed? Names
  rw [Option.filter_eq_some_iff, Option.bind_eq_some_iff, beq_iff_eq]
  constructor
  · rintro ⟨⟨text, htext, hparse⟩, htopic⟩
    cases hresult : Channel.parse text with
    | error error => simp [hresult, Except.toOption] at hparse
    | ok parsed =>
      obtain rfl : parsed = channel := by simpa [hresult, Except.toOption] using hparse
      exact ⟨text, htext, hresult, htopic⟩
  · rintro ⟨text, htext, hparse, htopic⟩
    refine ⟨⟨text, htext, ?_⟩, htopic⟩
    rw [hparse]
    rfl

theorem MarketEvent.covers_iff {event : MarketEvent} {channel : Channel} :
    event.covers channel = true ↔ event.Covers channel := by
  unfold covers Covers
  cases hechoed : event.echoed? with
  | none =>
    have hnone : ∀ other, ¬event.Names other := by
      intro other hother
      rw [echoed?_eq_some.mpr hother] at hechoed
      cases hechoed
    simp [hnone]
  | some echoed =>
    have hnames := echoed?_eq_some.mp hechoed
    rw [beq_iff_eq]
    constructor
    · rintro rfl
      exact ⟨hnames.topic_eq, .inl hnames⟩
    · rintro ⟨-, hnamed | hnone⟩
      · exact Option.some.inj ((echoed?_eq_some.mpr hnamed).symm.trans hechoed)
      · exact absurd hnames (hnone echoed)

namespace Subscriptions

variable {s : Subscriptions} {channel : Channel} {event : Event} {events : List Event}

theorem status?_eq_none : s.status? channel = none ↔ channel ∉ s.channels := by
  rw [← tracks_iff, tracks, Option.not_isSome_iff_eq_none]

theorem status?_request (s : Subscriptions) (requested channel : Channel) :
    (s.request requested).status? channel =
      if channel = requested ∧ channel ∉ s.channels then some .pending else s.status? channel := by
  unfold request
  by_cases hmem : requested ∈ s.channels
  · rw [if_pos (tracks_iff.mpr hmem), if_neg]
    rintro ⟨rfl, hnew⟩
    exact hnew hmem
  · have hnone := status?_eq_none.mpr hmem
    rw [if_neg (mt tracks_iff.mp hmem)]
    unfold status? at hnone ⊢
    rw [List.find?_append, List.find?_singleton]
    by_cases hsame : requested = channel
    · subst hsame
      rw [Option.map_eq_none_iff.mp hnone]
      simp [hmem]
    · simp [hsame, Ne.symm hsame]

theorem status?_remove (s : Subscriptions) (removed channel : Channel) :
    (s.remove removed).status? channel =
      if channel = removed then none else s.status? channel := by
  by_cases hsame : channel = removed
  · rw [if_pos hsame, status?_eq_none, channels_remove, List.mem_filter]
    simp [hsame]
  · rw [if_neg hsame]
    unfold status? remove
    rw [List.find?_filter]
    congr 2
    funext entry
    by_cases hentry : entry.1 = channel
    · simp [hentry, hsame]
    · simp [hentry]

/-- A confirmation makes what it covers active and does not go back on anything. -/
theorem status?_confirm (s : Subscriptions) (seen : MarketEvent) (channel : Channel) :
    (s.confirm seen).status? channel =
      (s.status? channel).map fun status => if seen.covers channel then .active else status := by
  obtain ⟨entries⟩ := s
  simp only [status?, confirm, List.find?_map, Option.map_map]
  induction entries with
  | nil => rfl
  | cons entry rest ih =>
    have hkey : ∀ entry : Channel × SubscriptionStatus,
        (if isConfirmedBy seen entry then (entry.1, .active) else entry).1 = entry.1 := by
      intro entry
      split <;> rfl
    by_cases hentry : entry.1 = channel
    · subst hentry
      rw [List.find?_cons_of_pos (by simp [hkey]), List.find?_cons_of_pos (by simp)]
      obtain ⟨key, status⟩ := entry
      cases status <;> cases hcovers : seen.covers key <;> simp [isConfirmedBy, hcovers]
    · rw [List.find?_cons_of_neg (by simpa [hkey] using hentry),
        List.find?_cons_of_neg (by simpa using hentry)]
      exact ih

def Event.confirms (channel : Channel) : Event → Bool
  | confirm seen => seen.covers channel
  | _ => false

theorem any_confirms : (events.any (Event.confirms channel)) = true ↔
    ∃ seen, .confirm seen ∈ events ∧ seen.Covers channel := by
  rw [List.any_eq_true]
  constructor
  · rintro ⟨event, hmem, hconfirms⟩
    cases event with
    | confirm seen => exact ⟨seen, hmem, MarketEvent.covers_iff.mp hconfirms⟩
    | request other => simp [Event.confirms] at hconfirms
    | remove other => simp [Event.confirms] at hconfirms
  · rintro ⟨seen, hmem, hcovers⟩
    exact ⟨.confirm seen, hmem, MarketEvent.covers_iff.mpr hcovers⟩

/-- The status of a channel is told by its tenure. -/
theorem status?_ofHistory (events : List Event) (channel : Channel) :
    (ofHistory events).status? channel =
      if tenure channel events = [] then none
      else some (if (tenure channel events).any (Event.confirms channel) then .active
        else .pending) := by
  induction events using List.reverseRecOn with
  | nil => rfl
  | append_singleton events event ih =>
    have hlisted := tenure_eq_nil events channel
    rw [ofHistory_concat, tenure_concat]
    cases event with
    | request requested =>
      rw [after, status?_request]
      by_cases htenure : tenure channel events = []
      · by_cases hsame : channel = requested
        · subst hsame
          simp [htenure, hlisted.mp htenure, Event.confirms]
        · have hother : Event.request requested ≠ .request channel :=
            fun h => hsame (Event.request.inj h).symm
          simp [htenure, hsame, ih, Ne.symm hsame]
      · have hmem : channel ∈ (ofHistory events).channels := by
          by_contra hmem
          exact htenure (hlisted.mpr hmem)
        rw [if_neg (fun h => h.2 hmem), ih]
        simp [htenure, Event.confirms]
    | remove removed =>
      rw [after, status?_remove, ih]
      by_cases hsame : channel = removed
      · simp [hsame]
      · by_cases htenure : tenure channel events = [] <;>
          simp [hsame, Ne.symm hsame, htenure, Event.confirms]
    | confirm seen =>
      rw [after, status?_confirm, ih]
      by_cases htenure : tenure channel events = []
      · simp [htenure]
      · cases hcovers : seen.covers channel <;>
          cases hbefore : (tenure channel events).any (Event.confirms channel) <;>
          simp [htenure, Event.confirms, hcovers, hbefore]

theorem status?_of_mem (hnodup : s.channels.Nodup) {entry : Channel × SubscriptionStatus}
    (hmem : entry ∈ s.entries) : s.status? entry.1 = some entry.2 := by
  unfold status?
  cases hfind : s.entries.find? fun other => other.1 == entry.1 with
  | none =>
    have hnone := List.find?_eq_none.mp hfind entry hmem
    simp at hnone
  | some other =>
    have hkey : other.1 = entry.1 := by simpa using List.find?_some hfind
    obtain rfl : other = entry :=
      List.inj_on_of_nodup_map hnodup (List.mem_of_find?_eq_some hfind) hmem hkey
    rfl

/-- A choice among the entries is one among the channels by their status. -/
theorem filter_entries (hnodup : s.channels.Nodup) (p : Channel → SubscriptionStatus → Bool) :
    (s.entries.filter fun entry => p entry.1 entry.2).map Prod.fst =
      s.channels.filter fun channel => (s.status? channel).any (p channel) := by
  unfold channels
  rw [List.filter_map]
  congr 1
  apply List.filter_congr
  intro entry hmem
  simp [status?_of_mem hnodup hmem]

theorem confirmed_eq_filter (hnodup : s.channels.Nodup) (seen : MarketEvent) :
    s.confirmed seen = s.channels.filter fun channel =>
      seen.covers channel && s.status? channel == some .pending := by
  have hfilter := filter_entries hnodup fun channel status =>
    seen.covers channel && status == .pending
  unfold confirmed
  refine hfilter.trans (List.filter_congr fun channel _ => ?_)
  cases s.status? channel <;> simp

theorem pendingCount_eq_filter (hnodup : s.channels.Nodup) :
    s.pendingCount =
      (s.channels.filter fun channel => s.status? channel == some .pending).length := by
  have hfilter := congrArg List.length (filter_entries hnodup fun _ status => status == .pending)
  rw [List.length_map] at hfilter
  unfold pendingCount
  refine hfilter.trans (congrArg List.length (List.filter_congr fun channel _ => ?_))
  cases s.status? channel <;> simp

theorem reply_remove (s : Subscriptions) (channel : Channel) :
    s.reply (.remove channel) = .removed (decide (channel ∈ s.channels)) := by
  have hlength : (s.remove channel).length = (s.channels.filter (· != channel)).length := by
    rw [← channels_remove, channels, List.length_map]
    rfl
  have hwhole : s.length = s.channels.length := by
    rw [channels, List.length_map]
    rfl
  rw [reply, hlength, hwhole, Reply.removed.injEq, Bool.eq_iff_iff, bne_iff_ne, decide_eq_true_eq,
    ne_eq, List.length_filter_eq_length_iff]
  constructor
  · intro hsome
    push Not at hsome
    obtain ⟨other, hmem, hother⟩ := hsome
    obtain rfl : other = channel := by simpa using hother
    exact hmem
  · intro hmem hall
    simpa using hall channel hmem

/-- The channels that the confirmations among some events report, in order. -/
def reported (s : Subscriptions) : List Event → List Channel
  | [] => []
  | event :: rest =>
    (match s.reply event with
      | .confirmed channels => channels
      | _ => []) ++ (s.after event).reported rest

theorem nodup_after (hnodup : s.channels.Nodup) (event : Event) :
    (s.after event).channels.Nodup := by
  cases event with
  | request requested =>
    rw [after, channels_request]
    split_ifs with hmem
    · exact hnodup
    · exact List.nodup_append.mpr ⟨hnodup, List.nodup_singleton _, by
        rintro a ha b hb rfl
        exact hmem (List.mem_singleton.mp hb ▸ ha)⟩
  | remove removed =>
    rw [after, channels_remove]
    exact hnodup.filter _
  | confirm seen =>
    rw [after, channels_confirm]
    exact hnodup

theorem status?_after_of_active (hactive : s.status? channel = some .active)
    (hkept : event ≠ .remove channel) : (s.after event).status? channel = some .active := by
  cases event with
  | request requested =>
    have hmem : channel ∈ s.channels := by
      by_contra hmem
      rw [status?_eq_none.mpr hmem] at hactive
      cases hactive
    rw [after, status?_request, if_neg (fun h => h.2 hmem), hactive]
  | remove removed =>
    have hother : channel ≠ removed := by
      rintro rfl
      exact hkept rfl
    rw [after, status?_remove, if_neg hother, hactive]
  | confirm seen =>
    rw [after, status?_confirm, hactive]
    simp

/-- An active channel is not reported again before it is removed. -/
theorem count_reported_of_active (hnodup : s.channels.Nodup)
    (hactive : s.status? channel = some .active) (hkept : .remove channel ∉ events) :
    (s.reported events).count channel = 0 := by
  induction events generalizing s with
  | nil => rfl
  | cons event rest ih =>
    have hfirst : event ≠ .remove channel := fun h => hkept (h ▸ .head _)
    have hrest := ih (nodup_after hnodup event) (status?_after_of_active hactive hfirst)
      (fun h => hkept (.tail _ h))
    rw [reported, List.count_append, hrest, Nat.add_zero, List.count_eq_zero]
    cases event with
    | request requested => simp [reply]
    | remove removed => simp [reply]
    | confirm seen =>
      simp only [reply, confirmed_eq_filter hnodup]
      simp [hactive]

theorem count_reported_le_one (hnodup : s.channels.Nodup) (hlisted : channel ∈ s.channels)
    (hkept : .remove channel ∉ events) : (s.reported events).count channel ≤ 1 := by
  induction events generalizing s with
  | nil => simp [reported]
  | cons event rest ih =>
    have hfirst : event ≠ .remove channel := fun h => hkept (h ▸ .head _)
    have hmore : .remove channel ∉ rest := fun h => hkept (.tail _ h)
    have hnext := nodup_after hnodup event
    have hrest := ih hnext (mem_channels_after.mpr (.inr ⟨hlisted, hfirst⟩)) hmore
    rw [reported, List.count_append]
    cases event with
    | request requested => simpa [reply] using hrest
    | remove removed => simpa [reply] using hrest
    | confirm seen =>
      simp only [reply, confirmed_eq_filter hnodup]
      by_cases hnow : seen.covers channel = true ∧ s.status? channel = some .pending
      · -- it is reported here, and active from here on
        have hactive : (s.after (.confirm seen)).status? channel = some .active := by
          rw [after, status?_confirm, hnow.2]
          simp [hnow.1]
        rw [count_reported_of_active hnext hactive hmore, Nat.add_zero]
        exact (List.nodup_iff_count_le_one.mp (hnodup.filter _)) channel
      · have hzero : (s.channels.filter fun channel =>
            seen.covers channel && s.status? channel == some .pending).count channel = 0 := by
          rw [List.count_eq_zero, List.mem_filter]
          rintro ⟨-, hsome⟩
          exact hnow (by simpa using hsome)
        rw [hzero, Nat.zero_add]
        exact hrest

/-- What a list of requests tells of the events that made it, and of those that come next. -/
structure Recounts (s : Subscriptions) (events : List Event) : Prop where
  mem_channels_iff : ∀ channel, channel ∈ s.channels ↔
    lastNaming? channel events = some (.request channel)
  channels_nodup : s.channels.Nodup
  /-- The channels stand in the order of the first requests since they were removed last. -/
  channels_ordered : s.channels.Pairwise fun a b =>
    (tenure b events).length < (tenure a events).length
  status_isSome_iff : ∀ channel, (s.status? channel).isSome = true ↔ channel ∈ s.channels
  active_iff : ∀ channel, s.status? channel = some .active ↔
    ∃ seen, .confirm seen ∈ tenure channel events ∧ seen.Covers channel
  reply_request : ∀ channel, s.reply (.request channel) = .requested (decide (channel ∉ s.channels))
  reply_remove : ∀ channel, s.reply (.remove channel) = .removed (decide (channel ∈ s.channels))
  /-- A confirmation is answered by some of the channels, in the order of the list. -/
  reply_confirm : ∀ seen, ∃ channels, s.reply (.confirm seen) = .confirmed channels ∧
    channels.Sublist s.channels ∧ ∀ channel, channel ∈ channels ↔
      channel ∈ s.channels ∧ seen.Covers channel ∧ s.status? channel = some .pending
  reported_once : ∀ channel, channel ∉ s.channels → ∀ more, .remove channel ∉ more →
    ((s.request channel).reported more).count channel ≤ 1
  confirm_channels : ∀ seen, (s.confirm seen).channels = s.channels
  confirm_active : ∀ seen channel, s.status? channel = some .active →
    (s.confirm seen).status? channel = some .active
  request_again : ∀ channel ∈ s.channels, s.request channel = s
  length_eq : s.length = s.channels.length
  pendingCount_eq : s.pendingCount =
    (s.channels.filter fun channel => s.status? channel == some .pending).length
  isEmpty_iff : s.isEmpty = true ↔ s.channels = []

/-- Whatever is requested, removed and confirmed in whatever order, the list recounts it. -/
theorem recounts_ofHistory (events : List Event) : Recounts (ofHistory events) events := by
  have hnodup := channels_nodup_ofHistory events
  have hstatus := fun channel => status?_ofHistory events channel
  have hmem := mem_channels_ofHistory events
  have hordered := channels_pairwise_ofHistory events
  generalize ofHistory events = s at hnodup hstatus hmem hordered ⊢
  refine
    { mem_channels_iff := hmem
      channels_nodup := hnodup
      channels_ordered := hordered
      status_isSome_iff := fun channel => tracks_iff
      active_iff := ?active
      reply_request := ?request
      reply_remove := s.reply_remove
      reply_confirm := ?confirm
      reported_once := ?once
      confirm_channels := s.channels_confirm
      confirm_active := ?kept
      request_again := ?again
      length_eq := (List.length_map _).symm
      pendingCount_eq := pendingCount_eq_filter hnodup
      isEmpty_iff := ?empty }
  case active =>
    intro channel
    rw [hstatus, ← any_confirms]
    by_cases htenure : tenure channel events = []
    · simp [htenure]
    · cases hany : (tenure channel events).any (Event.confirms channel) <;> simp [htenure]
  case request =>
    intro channel
    rw [reply, Reply.requested.injEq, decide_not, Bool.eq_iff_iff]
    simp [← tracks_iff]
  case confirm =>
    intro seen
    refine ⟨s.confirmed seen, rfl, ?_, ?_⟩
    · rw [confirmed_eq_filter hnodup]
      exact List.filter_sublist
    · intro channel
      rw [confirmed_eq_filter hnodup, List.mem_filter, ← MarketEvent.covers_iff]
      simp
  case once =>
    intro channel hnew more hkept
    have hlisted : channel ∈ (s.request channel).channels := by
      simp [channels_request, hnew]
    exact count_reported_le_one (nodup_after hnodup (.request channel)) hlisted hkept
  case kept =>
    intro seen channel hactive
    have hother : Event.confirm seen ≠ .remove channel := by simp
    exact status?_after_of_active hactive hother
  case again =>
    intro channel hlisted
    unfold request
    rw [if_pos (tracks_iff.mpr hlisted)]
  case empty =>
    unfold isEmpty channels
    rw [List.isEmpty_iff, List.map_eq_nil_iff]

end Subscriptions
end MarketFeed

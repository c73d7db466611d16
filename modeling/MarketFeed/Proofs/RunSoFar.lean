import MarketFeed.Proofs.RunAccount

/-!
# A run up to a point

A session survives some readings when none of them ends it and every ping among them can be
answered. What a run has done after such readings depends on nothing that comes later: the handler
was called with their market data, their pings are answered and their snapshots are seen.

A token that fires after these readings, and not before, stops the run exactly there, and a run that
is stopped is stopped in this way. The rest of the readings can then be taken up by another run.
-/
namespace MarketFeed

variable {σ : Type}

/-- No reading ends the session and every answer can be written. -/
structure Transport.Survives (t : Transport) (limit : Option Duration) (read : List Reading) :
    Prop where
  goesOn : ∀ reading ∈ read, (reading.effect limit).isEnding = false
  answered : ∀ i < (read.filterMap Reading.answer?).length, t.faults (t.writes.length + i) = none

/-- The token fires after the readings and not before. -/
def Shutdown.FiresAfter (token : Shutdown) (progress : Progress) (read : List Reading) : Prop :=
  token (progress.after read) = true ∧
    ∀ n < read.length, token (progress.after (read.take n)) = false

/-- A run after readings that do not end it. -/
def Running.through (handler : Handler σ) (limit : Option Duration) (r : Running σ)
    (read : List Reading) : Running σ :=
  read.foldl (fun r reading => (r.undergo handler (reading.effect limit)).1) r

theorem Transport.survives_nil (t : Transport) (limit : Option Duration) : t.Survives limit [] :=
  ⟨by simp, by simp⟩

theorem Transport.survives_cons (t : Transport) (limit : Option Duration) (reading : Reading)
    (rest : List Reading) :
    t.Survives limit (reading :: rest) ↔
      (reading.effect limit).isEnding = false ∧
        (reading.answer?.isSome → t.nextFault = none) ∧
          Survives { t with writes := t.writes ++ reading.answer?.toList } limit rest := by
  cases hanswer : reading.answer? with
  | none =>
    have hrest := List.filterMap_cons_none (l := rest) hanswer
    constructor
    · rintro ⟨hgoesOn, hanswered⟩
      rw [hrest] at hanswered
      exact ⟨hgoesOn reading (.head _), by simp,
        fun later hlater => hgoesOn later (.tail _ hlater), by simpa using hanswered⟩
    · rintro ⟨hreading, -, hgoesOn, hanswered⟩
      refine ⟨fun later hlater => ?_, by simpa [hrest] using hanswered⟩
      rcases List.mem_cons.mp hlater with rfl | hlater
      · exact hreading
      · exact hgoesOn later hlater
  | some write =>
    -- this answer takes the next fault, so the later answers are counted from one write further on
    have hrest := List.filterMap_cons_some (l := rest) hanswer
    constructor
    · rintro ⟨hgoesOn, hanswered⟩
      rw [hrest] at hanswered
      refine ⟨hgoesOn reading (.head _), fun _ => hanswered 0 (by simp),
        fun later hlater => hgoesOn later (.tail _ hlater), fun i hi => ?_⟩
      have hnext := hanswered (i + 1) (by simpa using hi)
      simpa [Nat.add_comm, Nat.add_left_comm] using hnext
    · rintro ⟨hreading, hfault, hgoesOn, hanswered⟩
      refine ⟨fun later hlater => ?_, fun i hi => ?_⟩
      · rcases List.mem_cons.mp hlater with rfl | hlater
        · exact hreading
        · exact hgoesOn later hlater
      · cases i with
        | zero => exact hfault rfl
        | succ i =>
          rw [hrest] at hi
          have hnext := hanswered i (by simpa using hi)
          simpa [Nat.add_comm, Nat.add_left_comm] using hnext

namespace Running

section
variable (handler : Handler σ) (r : Running σ)

theorem undergo_goesOn (effect : Effect) :
    (r.undergo handler effect).2 = none ↔
      effect.isEnding = false ∧ (effect.answer?.isSome → r.transport.nextFault = none) := by
  cases effect with
  | nothing => simp [undergo, Effect.isEnding, Effect.answer?]
  | delivery kind event => simp [undergo, Effect.isEnding, Effect.answer?]
  | ping => simp [undergo, Effect.isEnding, Effect.answer?]
  | ending result => simp [undergo, Effect.isEnding]

theorem transport_undergo {effect : Effect}
    (h : effect.answer?.isSome → r.transport.nextFault = none) :
    (r.undergo handler effect).1.transport =
      { r.transport with writes := r.transport.writes ++ effect.answer?.toList } := by
  cases effect with
  | nothing => simp [undergo, Effect.answer?]
  | delivery kind event => simp [undergo, Effect.answer?]
  | ping => simp [undergo, Effect.answer?, Transport.write, h rfl]
  | ending result => simp [undergo, Effect.answer?]

theorem subscriptions_undergo (effect : Effect) :
    (r.undergo handler effect).1.subscriptions =
      effect.delivery?.toList.foldl Subscriptions.see r.subscriptions := by
  cases effect <;> rfl

theorem survives_cons (limit : Option Duration) (reading : Reading) (rest : List Reading) :
    r.transport.Survives limit (reading :: rest) ↔
      (r.undergo handler (reading.effect limit)).2 = none ∧
        (r.undergo handler (reading.effect limit)).1.transport.Survives limit rest := by
  rw [Transport.survives_cons, undergo_goesOn, and_assoc, ← reading.answer?_effect limit]
  refine and_congr_right fun _ => and_congr_right fun hanswer => ?_
  rw [r.transport_undergo handler hanswer]

end

section
variable (handler : Handler σ) (limit : Option Duration)

theorem through_cons (r : Running σ) (reading : Reading) (rest : List Reading) :
    r.through handler limit (reading :: rest) =
      (r.undergo handler (reading.effect limit)).1.through handler limit rest := rfl

theorem transport_through {r : Running σ} {read : List Reading}
    (h : r.transport.Survives limit read) :
    (r.through handler limit read).transport =
      { r.transport with writes := r.transport.writes ++ read.filterMap Reading.answer? } := by
  induction read generalizing r with
  | nil => simp [through]
  | cons reading rest ih =>
    have hstep := (Transport.survives_cons _ _ _ _).mp h
    have hrest := ((r.survives_cons handler limit reading rest).mp h).2
    rw [through_cons, ih hrest, transport_undergo handler r
      (by rw [reading.answer?_effect]; exact hstep.2.1), reading.answer?_effect]
    cases hanswer : reading.answer? <;> simp [hanswer]

theorem subscriptions_through (r : Running σ) (read : List Reading) :
    (r.through handler limit read).subscriptions =
      (read.filterMap Reading.event?).foldl Subscriptions.see r.subscriptions := by
  induction read generalizing r with
  | nil => rfl
  | cons reading rest ih =>
    rw [through_cons, ih, subscriptions_undergo, reading.delivery?_effect]
    cases hevent : reading.event? <;> simp [hevent]

theorem record_through (r : Running (σ × List (FrameKind × MarketEvent))) (read : List Reading) :
    (r.through handler.recorded limit read).state.2 =
      r.state.2 ++ read.filterMap Reading.event? := by
  induction read generalizing r with
  | nil => simp [through]
  | cons reading rest ih =>
    rw [through_cons, ih, record_undergo, reading.delivery?_effect]
    cases hevent : reading.event? <;> simp [hevent]

/-- A run goes on from where it is after readings that it survives. -/
theorem account_append (token : Shutdown) (progress : Progress) {r : Running σ}
    {read : List Reading} (rest : List Reading) (hsurvives : r.transport.Survives limit read)
    (hquiet : ∀ n < read.length, token (progress.after (read.take n)) = false) :
    r.account handler limit token progress (read ++ rest) =
      (r.through handler limit read).account handler limit token (progress.after read) rest := by
  induction read generalizing progress r with
  | nil => rfl
  | cons reading read ih =>
    obtain ⟨hgoesOn, hsurvives⟩ := (r.survives_cons handler limit reading read).mp hsurvives
    have hfirst : token progress = false := hquiet 0 (by simp)
    have hlater : ∀ n < read.length,
        token ((progress.next reading).after (read.take n)) = false :=
      fun n hn => hquiet (n + 1) (by simpa using hn)
    rw [List.cons_append, account_cons, if_neg (by simp [hfirst])]
    cases hundergo : r.undergo handler (reading.effect limit) with
    | mk next ending =>
      rw [hundergo] at hgoesOn hsurvives
      obtain rfl : ending = none := hgoesOn
      rw [through_cons, hundergo]
      exact ih _ hsurvives hlater

theorem account_of_firesAfter {token : Shutdown} {progress : Progress} {r : Running σ}
    {read : List Reading} (rest : List Reading) (hsurvives : r.transport.Survives limit read)
    (hfires : token.FiresAfter progress read) :
    r.account handler limit token progress (read ++ rest) =
      ⟨.ok .cancelled, r.through handler limit read, rest⟩ := by
  rw [account_append handler limit token progress rest hsurvives hfires.2]
  cases rest with
  | nil => rw [account_nil, if_pos hfires.1]
  | cons reading rest => rw [account_cons, if_pos hfires.1]

/-- A run that was stopped survived what it read, and its token fired just then. -/
theorem firesAfter_of_cancelled {token : Shutdown} {progress : Progress} {r : Running σ}
    {readings : List Reading}
    (h : (r.account handler limit token progress readings).result = .ok .cancelled) :
    ∃ read rest, readings = read ++ rest ∧ r.transport.Survives limit read ∧
      token.FiresAfter progress read := by
  induction readings generalizing progress r with
  | nil =>
    rw [account_nil] at h
    cases hfires : token progress with
    | true => exact ⟨[], [], rfl, r.transport.survives_nil limit, hfires, by simp⟩
    | false => simp [hfires] at h
  | cons reading rest ih =>
    rw [account_cons] at h
    cases hfires : token progress with
    | true => exact ⟨[], reading :: rest, rfl, r.transport.survives_nil limit, hfires, by simp⟩
    | false =>
      rw [hfires, if_neg (by simp)] at h
      cases hundergo : r.undergo handler (reading.effect limit) with
      | mk next ending =>
        rw [hundergo] at h
        cases ending with
        | some result =>
          have hcancelled := r.undergo_ne_cancelled handler limit reading
          rw [hundergo] at hcancelled
          exact absurd (congrArg some h) hcancelled
        | none =>
          obtain ⟨read, rest, rfl, hsurvives, hlast, hbefore⟩ := ih h
          refine ⟨reading :: read, rest, rfl, ?_, hlast, ?_⟩
          · rw [r.survives_cons handler, hundergo]
            exact ⟨rfl, hsurvives⟩
          · rintro (_ | n) hn
            · exact hfires
            · exact hbefore n (by simpa using hn)

/-- A run that was not stopped is a run that could not have been. -/
theorem account_of_not_cancelled {token : Shutdown} {progress : Progress} {r : Running σ}
    {readings : List Reading}
    (h : (r.account handler limit token progress readings).result ≠ .ok .cancelled) :
    r.account handler limit token progress readings =
      r.account handler limit .never progress readings := by
  induction readings generalizing progress r with
  | nil =>
    rw [account_nil] at h
    cases hfires : token progress with
    | true => simp [hfires] at h
    | false =>
      rw [account_nil, account_nil, hfires]
      rfl
  | cons reading rest ih =>
    rw [account_cons] at h
    cases hfires : token progress with
    | true => simp [hfires] at h
    | false =>
      rw [account_cons, account_cons, hfires]
      rw [hfires, if_neg (by simp)] at h
      simp only [Shutdown.never, Bool.false_eq_true, if_false]
      cases hundergo : r.undergo handler (reading.effect limit) with
      | mk next ending =>
        rw [hundergo] at h
        cases ending with
        | some result => rfl
        | none => exact ih h

end

end Running
end MarketFeed

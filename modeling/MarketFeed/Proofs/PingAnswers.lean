import MarketFeed.Proofs.RunSoFar
import Mathlib.Tactic.SplitIfs

/-!
# Pings and their answers

The moments of a run are those at which it takes a reading; each knows the state that the run is in
and the reading that it takes. Between two moments lies one turn, so what holds at every moment
holds before every read.

At each moment the pings read so far are answered, once each and by nothing else. A ping changes
nothing but what was written. An answer that cannot be written is the last thing that happens to
its session.
-/
namespace MarketFeed

variable {σ : Type}

def Reading.isPing (reading : Reading) : Bool := reading.message? == some .ping

/-- The next attempts to answer a ping, each with its fate. -/
def Transport.answers (t : Transport) (n : Nat) : List Write :=
  (List.range n).map fun i => ⟨.request .pong, t.faults (t.writes.length + i)⟩

/-- The moments at which a run takes a reading. -/
def Running.moments (handler : Handler σ) (limit : Option Duration) (shutdown : Shutdown)
    (progress : Progress) (r : Running σ) : List Reading → List (Running σ × Reading)
  | [] => []
  | reading :: rest =>
    if shutdown progress then []
    else
      let turn := r.take handler limit reading
      (r, reading) :: match turn.ending with
        | some _ => []
        | none => turn.running.moments handler limit shutdown (progress.next reading) rest

namespace Reading

theorem effect_eq_ping {limit : Option Duration} {reading : Reading} :
    reading.effect limit = .ping ↔ reading.isPing = true := by
  unfold isPing
  rw [beq_iff_eq]
  obtain heffect | ⟨hmessage, result, -, heffect⟩ := reading.effect_cases limit
  · rw [heffect]
    cases reading.message? with
    | none => simp
    | some message => cases message <;> simp [Inbound.effect]
  · rw [heffect, hmessage]
    simp

theorem filterMap_answer? (read : List Reading) :
    read.filterMap answer? = List.replicate (read.countP isPing) ⟨.request .pong, none⟩ := by
  induction read with
  | nil => rfl
  | cons reading rest ih =>
    by_cases hping : reading.isPing = true
    · have hmessage : reading.message? = some .ping := by simpa [isPing] using hping
      have hanswer : reading.answer? = some ⟨.request .pong, none⟩ := by simp [answer?, hmessage]
      rw [List.filterMap_cons_some hanswer, ih, List.countP_cons_of_pos hping,
        List.replicate_succ]
    · have hmessage : reading.message? ≠ some .ping := by simpa [isPing] using hping
      have hanswer : reading.answer? = none := by
        unfold answer?
        split
        next h => exact absurd h hmessage
        next => rfl
      rw [List.filterMap_cons_none hanswer, ih, List.countP_cons_of_neg hping]

end Reading

namespace Transport

@[simp] theorem answers_zero (t : Transport) : t.answers 0 = [] := rfl

theorem answers_succ (t : Transport) (n : Nat) :
    t.answers (n + 1) = ⟨.request .pong, t.nextFault⟩ :: (t.write (.request .pong)).answers n := by
  unfold answers
  rw [List.range_succ_eq_map, List.map_cons, List.map_map]
  congr 1
  apply List.map_congr_left
  intro i _
  simp [write, Nat.add_comm, Nat.add_left_comm]

end Transport

namespace Running

section
variable (handler : Handler σ) (limit : Option Duration) (token : Shutdown)

theorem moments_cons (progress : Progress) (r : Running σ) (reading : Reading)
    (rest : List Reading) :
    r.moments handler limit token progress (reading :: rest) =
      if token progress then []
      else (r, reading) :: match r.undergo handler (reading.effect limit) with
        | (_, some _) => []
        | (next, none) => next.moments handler limit token (progress.next reading) rest := by
  rw [← take_effect, moments]
  cases token progress with
  | true => rfl
  | false => cases hending : (r.take handler limit reading).ending <;> simp [hending]

/-- Nothing but a ping is answered, whether or not the answer can be written. -/
theorem transport_of_reading (r : Running σ) (reading : Reading) :
    (r.undergo handler (reading.effect limit)).1.transport =
      if reading.isPing then r.transport.write (.request .pong) else r.transport := by
  by_cases hping : reading.isPing = true
  · rw [if_pos hping, Reading.effect_eq_ping.mpr hping]
    rfl
  · have heffect : reading.effect limit ≠ .ping := fun h => hping (Reading.effect_eq_ping.mp h)
    rw [if_neg hping]
    cases h : reading.effect limit with
    | ping => exact absurd h heffect
    | nothing => rfl
    | delivery kind event => rfl
    | ending result => rfl

/-- A run takes the readings of its moments, leaves the others unread, and writes the answers to the
pings among them. -/
theorem account_moments (progress : Progress) (r : Running σ) (readings : List Reading) :
    let a := r.account handler limit token progress readings
    let read := (r.moments handler limit token progress readings).map Prod.snd
    readings = read ++ a.unread ∧
      a.running.transport.writes =
        r.transport.writes ++ r.transport.answers (read.countP Reading.isPing) := by
  induction readings generalizing progress r with
  | nil =>
    simp only [account_nil, moments]
    split <;> simp
  | cons reading rest ih =>
    simp only [account_cons, moments_cons]
    split_ifs
    · simp
    · have htransport := transport_of_reading handler limit r reading
      cases hundergo : r.undergo handler (reading.effect limit) with
      | mk next ending =>
        rw [hundergo] at htransport
        -- the answer to this reading comes first, the later ones are counted from behind it
        have hfirst : ∀ n, r.transport.writes ++
            r.transport.answers (n + if reading.isPing then 1 else 0) =
              next.transport.writes ++ next.transport.answers n := by
          intro n
          rw [htransport]
          split_ifs
          · rw [Transport.answers_succ]
            simp [Transport.write]
          · rfl
        cases ending with
        | some result =>
          refine ⟨rfl, ?_⟩
          have hlast := hfirst 0
          rw [Transport.answers_zero, List.append_nil] at hlast
          simpa [List.countP_cons] using hlast.symm
        | none =>
          obtain ⟨hread, hwrites⟩ := ih (progress.next reading) next
          refine ⟨congrArg (reading :: ·) hread, ?_⟩
          rw [List.map_cons, List.countP_cons, hfirst]
          exact hwrites

/-- At a moment of a run the readings before it are survived, and the run goes on from there. -/
theorem moments_split {progress : Progress} {r : Running σ} {readings : List Reading}
    {before after : List (Running σ × Reading)} {now : Running σ} {reading : Reading}
    (h : r.moments handler limit token progress readings = before ++ (now, reading) :: after) :
    r.transport.Survives limit (before.map Prod.snd) ∧
      now = r.through handler limit (before.map Prod.snd) ∧
      ∃ rest progress',
        now.moments handler limit token progress' (reading :: rest) = (now, reading) :: after ∧
        now.account handler limit token progress' (reading :: rest) =
          r.account handler limit token progress readings := by
  induction before generalizing progress r readings with
  | nil =>
    cases readings with
    | nil => simp [moments] at h
    | cons first rest =>
      have hcons := h
      rw [moments_cons] at h
      split_ifs at h
      · simp at h
      · obtain ⟨hpair, -⟩ := List.cons.inj h
        obtain ⟨rfl, rfl⟩ := Prod.mk.inj hpair
        exact ⟨r.transport.survives_nil limit, rfl, rest, progress, hcons, rfl⟩
  | cons earlier before ih =>
    cases readings with
    | nil => simp [moments] at h
    | cons first rest =>
      rw [moments_cons] at h
      split_ifs at h with hfires
      · simp at h
      · obtain ⟨rfl, hlater⟩ := List.cons.inj h
        cases hundergo : r.undergo handler (first.effect limit) with
        | mk next ending =>
          rw [hundergo] at hlater
          cases ending with
          | some result => simp at hlater
          | none =>
            obtain ⟨hsurvives, hnow, rest', progress', hmoments, haccount⟩ := ih hlater
            refine ⟨?_, ?_, rest', progress', hmoments, ?_⟩
            · rw [List.map_cons, r.survives_cons handler, hundergo]
              exact ⟨rfl, hsurvives⟩
            · rw [List.map_cons, through_cons, hundergo]
              exact hnow
            · rw [haccount, account_cons, if_neg hfires, hundergo]

/-- An answer that cannot be written ends the run at its moment. -/
theorem moments_of_fault {progress : Progress} {now : Running σ} {reading : Reading}
    {rest : List Reading} {after : List (Running σ × Reading)} {reason : String}
    (hmoments : now.moments handler limit token progress (reading :: rest) =
      (now, reading) :: after)
    (hping : reading.isPing = true) (hfault : now.transport.nextFault = some reason) :
    after = [] ∧ (now.account handler limit token progress (reading :: rest)).result =
      .error (.transportClosed reason) := by
  have hundergo : now.undergo handler (reading.effect limit) =
      ({ now with transport := now.transport.write (.request .pong) },
        some (.error (.transportClosed reason))) := by
    rw [Reading.effect_eq_ping.mpr hping, undergo, hfault]
    rfl
  rw [moments_cons, hundergo] at hmoments
  rw [account_cons, hundergo]
  split_ifs at hmoments ⊢
  · exact ⟨(List.cons.inj hmoments).2.symm, rfl⟩

end

end Running

namespace Client

def moments (c : Client) (t : Transport) (handler : Handler σ) (state : σ) (token : Shutdown) :
    List (Running (σ × List (FrameKind × MarketEvent)) × Reading) :=
  Running.moments handler.recorded c.endpoint.readLimit token ⟨0, 0⟩
    ⟨t, c.subscriptions, (state, [])⟩ t.incoming

/-- Pings are answered in turn. What a run writes are the answers to the pings that it read, one
each and nothing else, and at each moment those to the pings before it were written. A ping changes
nothing else. If its answer cannot be written it is the last reading of the run, which ends with
this fault and leaves the client closed. -/
theorem pings_answered_in_turn (c : Client) (t : Transport) (handler : Handler σ) (state : σ)
    (token : Shutdown) :
    let ran := (c.holding t).record handler state token
    let moments := c.moments t handler state token
    let read := moments.map Prod.snd
    Outbound.pong.text = "\x7b\"type\":\"pong\"\x7d" ∧
    (∃ left, t.incoming = read ++ left.incoming ∧
      left.writes = t.writes ++ t.answers (read.countP Reading.isPing) ∧
      (ran.client.phase = c.phase ∧ ran.client.session = some left ∨
        ran.client.phase = .closed ∧ ran.client.session = none ∧
          ran.client.past = c.past ++ [left])) ∧
    ∀ before now reading after, moments = before ++ (now, reading) :: after →
      now.transport.writes = t.writes ++
        List.replicate ((before.map Prod.snd).countP Reading.isPing) ⟨.request .pong, none⟩ ∧
      (reading.isPing = true →
        (now.take handler.recorded c.endpoint.readLimit reading).running =
          { now with transport := now.transport.write (.request .pong) } ∧
        ∀ reason, now.transport.nextFault = some reason →
          after = [] ∧ ran.result = .error (.transportClosed reason) ∧
            ran.client.phase = .closed ∧ ran.client.session = none) := by
  intro ran moments read
  let start : Running (σ × List (FrameKind × MarketEvent)) := ⟨t, c.subscriptions, (state, [])⟩
  let a := c.account t handler.recorded (state, []) token
  obtain ⟨hresult, hclient, -⟩ := c.run_holding t handler.recorded (state, []) token
  refine ⟨by decide +kernel, ?_, ?_⟩
  · obtain ⟨hread, hwrites⟩ := Running.account_moments handler.recorded c.endpoint.readLimit token
      ⟨0, 0⟩ start t.incoming
    refine ⟨a.left, hread, hwrites, ?_⟩
    have hran : ran.client = c.leave a := hclient
    by_cases hcancelled : a.result = .ok .cancelled
    · left
      rw [hran, c.leave_of_cancelled hcancelled]
      exact ⟨rfl, rfl⟩
    · right
      rw [hran, c.leave_of_ne_cancelled hcancelled]
      exact ⟨rfl, rfl, rfl⟩
  · intro before now reading after hsplit
    obtain ⟨hsurvives, hnow, rest, progress, hmoments, haccount⟩ :=
      Running.moments_split handler.recorded c.endpoint.readLimit token hsplit
    refine ⟨?_, fun hping => ⟨?_, ?_⟩⟩
    · rw [hnow, Running.transport_through _ _ hsurvives, Reading.filterMap_answer?]
    · have htake := Running.take_effect handler.recorded c.endpoint.readLimit now reading
      rw [Reading.effect_eq_ping.mpr hping] at htake
      exact congrArg Prod.fst htake
    · intro reason hfault
      obtain ⟨hafter, hended⟩ :=
        Running.moments_of_fault handler.recorded c.endpoint.readLimit token hmoments hping hfault
      rw [haccount] at hended
      have hfailed : a.result = .error (.transportClosed reason) := hended
      have hran : ran.client = c.leave a := hclient
      have hopen : a.result ≠ .ok .cancelled := by
        rw [hfailed]
        simp
      rw [hran, c.leave_of_ne_cancelled hopen]
      exact ⟨hafter, hresult.trans hfailed, rfl, rfl⟩

/-- Of three pings the second cannot be answered, and the third is not read. -/
theorem pings_answered_until_fault :
    let ping := Reading.text "\x7b\"type\":\"ping\"\x7d"
    let t := Transport.fresh [ping, ping, ping] fun n => if n = 1 then some "gone" else none
    let c := Client.start .mainnet
    let ran := (c.holding t).record Handler.ignore () .never
    let first : Running (Unit × List (FrameKind × MarketEvent)) := ⟨t, .empty, ((), [])⟩
    let second := { first with transport := t.write (.request .pong) }
    c.moments t Handler.ignore () .never = [(first, ping)] ++ [(second, ping)] ∧
      ping.isPing = true ∧ second.transport.nextFault = some "gone" ∧
      second.transport.writes = [⟨.request .pong, none⟩] ∧
      ran.result = .error (.transportClosed "gone") ∧ ran.client.session = none := by
  intro ping t c ran first second
  have hping : ping.isPing = true := by decide +kernel
  have heffect : ping.effect c.endpoint.readLimit = .ping := Reading.effect_eq_ping.mpr hping
  have hmoments : c.moments t Handler.ignore () .never =
      [(first, ping)] ++ (second, ping) :: [] := by
    change Running.moments _ _ _ _ first [ping, ping, ping] = _
    rw [Running.moments_cons, heffect]
    change (first, ping) :: Running.moments _ _ _ _ second [ping, ping] = _
    rw [Running.moments_cons, heffect]
    rfl
  obtain ⟨-, -, hall⟩ := c.pings_answered_in_turn t Handler.ignore () .never
  obtain ⟨hwrites, hanswer⟩ := hall [(first, ping)] second ping [] hmoments
  obtain ⟨-, hresult, -, hsession⟩ := (hanswer hping).2 "gone" rfl
  exact ⟨hmoments, hping, rfl, rfl, hresult, hsession⟩

end Client
end MarketFeed

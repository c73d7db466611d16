import MarketFeed.Proofs.ReadingEffect

/-!
# The account of a run

An account is what a run comes to when its notices are left out: the result, the state in which it
leaves its parts, and the readings it did not get to. It has one equation for an empty script and
one for a reading in front of others, and everything about runs is an induction on these two.

A run can be looked at through a map of its states: when the map agrees with every effect, it agrees
with the whole run. Recording what a handler is called with, and the script which a transport still
carries, are looked away in this manner.
-/
namespace MarketFeed

variable {σ τ : Type}

structure Account (σ : Type) where
  result : Except StreamError StopReason
  running : Running σ
  unread : List Reading

def Account.map (f : Running σ → Running τ) (a : Account σ) : Account τ :=
  ⟨a.result, f a.running, a.unread⟩

def Account.left (a : Account σ) : Transport := { a.running.transport with incoming := a.unread }

def Progress.after (progress : Progress) (readings : List Reading) : Progress :=
  readings.foldl Progress.next progress

namespace Running

def account (handler : Handler σ) (limit : Option Duration) (shutdown : Shutdown)
    (progress : Progress) (r : Running σ) (readings : List Reading) : Account σ :=
  let finished := r.follow handler limit shutdown progress readings
  ⟨finished.result, finished.running, finished.unread⟩

section
variable (handler : Handler σ) (limit : Option Duration) (shutdown : Shutdown)

theorem account_nil (progress : Progress) (r : Running σ) :
    r.account handler limit shutdown progress [] =
      if shutdown progress then ⟨.ok .cancelled, r, []⟩
      else ⟨.error (.transportClosed "stream ended"), r, []⟩ := by
  unfold account follow
  split <;> rfl

theorem account_cons (progress : Progress) (r : Running σ) (reading : Reading)
    (rest : List Reading) :
    r.account handler limit shutdown progress (reading :: rest) =
      if shutdown progress then ⟨.ok .cancelled, r, reading :: rest⟩
      else match r.undergo handler (reading.effect limit) with
        | (next, some result) => ⟨result, next, rest⟩
        | (next, none) => next.account handler limit shutdown (progress.next reading) rest := by
  rw [← take_effect]
  simp only [account]
  rw [follow]
  cases shutdown progress with
  | true => rfl
  | false => cases hending : (r.take handler limit reading).ending <;> simp [hending]

/-- A token that does not fire leaves the progress out of account. -/
theorem account_never_progress (p q : Progress) (r : Running σ) (readings : List Reading) :
    r.account handler limit .never p readings = r.account handler limit .never q readings := by
  induction readings generalizing p q r with
  | nil =>
    rw [account_nil, account_nil]
    rfl
  | cons reading rest ih =>
    simp only [account_cons, Shutdown.never, Bool.false_eq_true, if_false]
    cases r.undergo handler (reading.effect limit) with
    | mk next ending =>
      cases ending with
      | none => exact ih _ _ next
      | some result => rfl

/-- No run ends as cancelled but by its token. -/
theorem account_never_ne_cancelled (progress : Progress) (r : Running σ)
    (readings : List Reading) :
    (r.account handler limit .never progress readings).result ≠ .ok .cancelled := by
  induction readings generalizing progress r with
  | nil =>
    rw [account_nil]
    simp [Shutdown.never]
  | cons reading rest ih =>
    have hstep := undergo_ne_cancelled handler limit r reading
    simp only [account_cons, Shutdown.never, Bool.false_eq_true, if_false]
    cases hundergo : r.undergo handler (reading.effect limit) with
    | mk next ending =>
      cases ending with
      | none => exact ih _ next
      | some result =>
        rw [hundergo] at hstep
        exact fun hcancelled => hstep (congrArg some hcancelled)

variable {handler}

/-- What agrees with every effect agrees with the run. -/
theorem account_map {f : Running σ → Running τ} {other : Handler τ}
    (h : ∀ r effect, (f r).undergo other effect =
      (f (r.undergo handler effect).1, (r.undergo handler effect).2))
    (progress : Progress) (r : Running σ) (readings : List Reading) :
    (f r).account other limit shutdown progress readings =
      (r.account handler limit shutdown progress readings).map f := by
  induction readings generalizing progress r with
  | nil =>
    simp only [account_nil]
    split <;> rfl
  | cons reading rest ih =>
    simp only [account_cons, h]
    split
    · rfl
    · cases r.undergo handler (reading.effect limit) with
      | mk next ending =>
        cases ending with
        | none => exact ih _ next
        | some result => rfl

end

/-- The run with another script before its transport. -/
def facing (r : Running σ) (readings : List Reading) : Running σ :=
  { r with transport := { r.transport with incoming := readings } }

theorem undergo_facing (handler : Handler σ) (script : List Reading) (r : Running σ)
    (effect : Effect) :
    (r.facing script).undergo handler effect =
      ((r.undergo handler effect).1.facing script, (r.undergo handler effect).2) := by
  cases effect <;> rfl

end Running

/-- The handler that also keeps what it is called with, in order. -/
def Handler.recorded (handler : Handler σ) : Handler (σ × List (FrameKind × MarketEvent)) :=
  fun (state, calls) kind event =>
    let (state, notices) := handler state kind event
    ((state, calls ++ [(kind, event)]), notices)

namespace Running

def forget (r : Running (σ × List (FrameKind × MarketEvent))) : Running σ :=
  ⟨r.transport, r.subscriptions, r.state.1⟩

def recalling (calls : List (FrameKind × MarketEvent))
    (r : Running (σ × List (FrameKind × MarketEvent))) :
    Running (σ × List (FrameKind × MarketEvent)) :=
  { r with state := (r.state.1, calls ++ r.state.2) }

theorem undergo_forget (handler : Handler σ) (r : Running (σ × List (FrameKind × MarketEvent)))
    (effect : Effect) :
    r.forget.undergo handler effect =
      ((r.undergo handler.recorded effect).1.forget, (r.undergo handler.recorded effect).2) := by
  cases effect <;> rfl

theorem undergo_recalling (handler : Handler σ) (calls : List (FrameKind × MarketEvent))
    (r : Running (σ × List (FrameKind × MarketEvent))) (effect : Effect) :
    (r.recalling calls).undergo handler.recorded effect =
      ((r.undergo handler.recorded effect).1.recalling calls,
        (r.undergo handler.recorded effect).2) := by
  cases effect <;> simp [undergo, recalling, Handler.recorded]

theorem record_undergo (handler : Handler σ) (r : Running (σ × List (FrameKind × MarketEvent)))
    (effect : Effect) :
    (r.undergo handler.recorded effect).1.state.2 = r.state.2 ++ effect.delivery?.toList := by
  cases effect <;> simp [undergo, Handler.recorded, Effect.delivery?]

/-- A run calls its handler once for each market data frame that it reads, and for nothing else. -/
theorem record_account (handler : Handler σ) (limit : Option Duration) (shutdown : Shutdown)
    (progress : Progress) (r : Running (σ × List (FrameKind × MarketEvent)))
    (readings : List Reading) :
    let a := r.account handler.recorded limit shutdown progress readings
    ∃ read, readings = read ++ a.unread ∧
      a.running.state.2 = r.state.2 ++ read.filterMap Reading.event? := by
  induction readings generalizing progress r with
  | nil =>
    refine ⟨[], ?_⟩
    simp only [account_nil]
    split <;> simp
  | cons reading rest ih =>
    have hstep := record_undergo handler r (reading.effect limit)
    rw [Reading.delivery?_effect] at hstep
    simp only [account_cons]
    split
    · exact ⟨[], by simp⟩
    · cases hu : r.undergo handler.recorded (reading.effect limit) with
      | mk next ending =>
        rw [hu] at hstep
        have hcons : ∀ read : List Reading,
            r.state.2 ++ (reading :: read).filterMap Reading.event? =
              next.state.2 ++ read.filterMap Reading.event? := by
          intro read
          rw [hstep]
          cases hevent : reading.event? <;> simp [hevent]
        cases ending with
        | some result => exact ⟨[reading], rfl, by simp [hcons]⟩
        | none =>
          obtain ⟨read, hread, hcalls⟩ := ih (progress.next reading) next
          refine ⟨reading :: read, congrArg (reading :: ·) hread, ?_⟩
          rw [hcons]
          exact hcalls

end Running

namespace Client

def holding (c : Client) (t : Transport) : Client := { c with session := some t }

/-- The client as a run leaves it. -/
def leave (c : Client) (a : Account σ) : Client :=
  let client := { c with session := some a.left, subscriptions := a.running.subscriptions }
  match a.result with
  | .ok .cancelled => client
  | _ => client.drop

theorem leave_of_cancelled (c : Client) {a : Account σ} (h : a.result = .ok .cancelled) :
    c.leave a = { c with session := some a.left, subscriptions := a.running.subscriptions } := by
  unfold leave
  rw [h]

theorem leave_of_ne_cancelled (c : Client) {a : Account σ} (h : a.result ≠ .ok .cancelled) :
    c.leave a =
      { c with
        phase := c.phase.after .close
        session := none
        subscriptions := a.running.subscriptions
        past := c.past ++ [a.left] } := by
  unfold leave
  split
  next hcancelled => exact absurd hcancelled h
  next => rfl

def account (c : Client) (t : Transport) (handler : Handler σ) (state : σ) (shutdown : Shutdown) :
    Account σ :=
  Running.account handler c.endpoint.readLimit shutdown ⟨0, 0⟩ ⟨t, c.subscriptions, state⟩
    t.incoming

theorem run_holding (c : Client) (t : Transport) (handler : Handler σ) (state : σ)
    (shutdown : Shutdown) :
    ((c.holding t).run handler state shutdown).result =
        (c.account t handler state shutdown).result ∧
      ((c.holding t).run handler state shutdown).client =
        c.leave (c.account t handler state shutdown) ∧
      ((c.holding t).run handler state shutdown).state =
        (c.account t handler state shutdown).running.state :=
  ⟨rfl, rfl, rfl⟩

theorem run_held {c : Client} {t : Transport} (h : c.session = some t) (handler : Handler σ)
    (state : σ) (shutdown : Shutdown) :
    (c.run handler state shutdown).result = (c.account t handler state shutdown).result ∧
      (c.run handler state shutdown).client = c.leave (c.account t handler state shutdown) ∧
      (c.run handler state shutdown).state =
        (c.account t handler state shutdown).running.state := by
  have hself : c.holding t = c := by
    unfold holding
    rw [← h]
  have hrun := c.run_holding t handler state shutdown
  rw [hself] at hrun
  exact hrun

/-- A run that keeps what it calls its handler with. -/
def record (c : Client) (handler : Handler σ) (state : σ) (shutdown : Shutdown) :
    RunCall (σ × List (FrameKind × MarketEvent)) :=
  c.run handler.recorded (state, []) shutdown

theorem run_eq_record (c : Client) (handler : Handler σ) (state : σ) (shutdown : Shutdown) :
    (c.run handler state shutdown).result = (c.record handler state shutdown).result ∧
      (c.run handler state shutdown).client = (c.record handler state shutdown).client ∧
      (c.run handler state shutdown).state = (c.record handler state shutdown).state.1 := by
  obtain ⟨endpoint, phase, session, subscriptions, past⟩ := c
  cases session with
  | none => exact ⟨rfl, rfl, rfl⟩
  | some t =>
    let bare : Client := ⟨endpoint, phase, none, subscriptions, past⟩
    have hmap : bare.account t handler state shutdown =
        (bare.account t handler.recorded (state, []) shutdown).map Running.forget :=
      Running.account_map _ _ (Running.undergo_forget handler) _ ⟨t, subscriptions, (state, [])⟩ _
    obtain ⟨hresult, hclient, hstate⟩ := bare.run_holding t handler state shutdown
    obtain ⟨rresult, rclient, rstate⟩ := bare.run_holding t handler.recorded (state, []) shutdown
    refine ⟨?_, ?_, ?_⟩
    · exact hresult.trans ((congrArg Account.result hmap).trans rresult.symm)
    · exact hclient.trans ((congrArg bare.leave hmap).trans rclient.symm)
    · exact hstate.trans ((congrArg (fun a => a.running.state) hmap).trans
        (congrArg Prod.fst rstate.symm))

end Client
end MarketFeed

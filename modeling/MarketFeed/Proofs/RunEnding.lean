import MarketFeed.Proofs.PingAnswers

/-!
# Why a run ends

Six causes end a run. They are looked for at one point of the script after the other: first the
token is asked, then the reading at this point may be the cause, or it is a ping whose answer cannot
be written. A script that is over is a cause as well, so there always is a first point with one, and
that is where the run ends, with the result of the cause.

What a frame says is never a cause. The one error besides those of the transport and the limit is
that there was no session to begin with.
-/
namespace MarketFeed

variable {σ : Type}

inductive Cause where
  /-- The token fired. -/
  | stopped
  | closed (reason : Option CloseReason)
  /-- The script is over. -/
  | exhausted
  | failed (reason : String)
  | silent (limit : Duration)
  /-- A ping could not be answered. -/
  | unanswered (reason : String)
  deriving DecidableEq, Repr

def Cause.result : Cause → Except StreamError StopReason
  | stopped => .ok .cancelled
  | closed _ => .ok .peerClosed
  | exhausted => .error (.transportClosed "stream ended")
  | failed reason | unanswered reason => .error (.transportClosed reason)
  | silent limit => .error (.timeout limit)

/-- The cause in a reading, when this is the fate of the next write. -/
def Reading.cause? (limit : Option Duration) (fault : Option String) (reading : Reading) :
    Option Cause :=
  match reading with
  | .close reason => some (.closed reason)
  | .failed reason => some (.failed reason)
  | .silence => limit.map .silent
  | .keepalive => none
  | .text _ | .binary _ => if reading.isPing then fault.map .unanswered else none

/-- The cause after the first `n` of the readings, whose pings are answered. -/
def Transport.causeAt? (t : Transport) (limit : Option Duration) (token : Shutdown)
    (progress : Progress) (readings : List Reading) (n : Nat) : Option Cause :=
  let read := readings.take n
  if token (progress.after read) then some .stopped
  else match readings[n]? with
    | none => some .exhausted
    | some reading =>
      reading.cause? limit (t.faults (t.writes.length + read.countP Reading.isPing))

theorem first_unique {α : Type} {f : Nat → Option α} {m n : Nat} {a b : α} (hm : f m = some a)
    (hbefore : ∀ k < m, f k = none) (hn : f n = some b) (hbefore' : ∀ k < n, f k = none) :
    m = n := by
  rcases Nat.lt_trichotomy m n with hlt | heq | hgt
  · simp [hbefore' m hlt] at hm
  · exact heq
  · simp [hbefore n hgt] at hn

namespace Cause

theorem result_eq_cancelled {cause : Cause} : cause.result = .ok .cancelled ↔ cause = .stopped := by
  cases cause <;> simp [result]

theorem result_of_error {cause : Cause} {error : StreamError} (h : cause.result = .error error) :
    (∃ reason, error = .transportClosed reason) ∨ ∃ limit, cause = .silent limit ∧
      error = .timeout limit := by
  cases cause with
  | stopped => simp [result] at h
  | closed reason => simp [result] at h
  | exhausted => exact .inl ⟨_, (Except.error.inj h).symm⟩
  | failed reason => exact .inl ⟨reason, (Except.error.inj h).symm⟩
  | unanswered reason => exact .inl ⟨reason, (Except.error.inj h).symm⟩
  | silent limit => exact .inr ⟨limit, rfl, (Except.error.inj h).symm⟩

end Cause

namespace Reading

/-- The octets of a frame that has any. -/
def octets? : Reading → Option (List UInt8)
  | text s => some (Text.Utf8.encode s)
  | binary octets => some octets
  | _ => none

theorem cause?_of_octets {reading : Reading} (h : reading.octets?.isSome) (limit : Option Duration)
    (fault : Option String) :
    reading.cause? limit fault = if reading.isPing then fault.map .unanswered else none := by
  cases reading with
  | text s => rfl
  | binary octets => rfl
  | keepalive | close | failed | silence => simp [octets?] at h

theorem cause?_eq_silent {reading : Reading} {limit : Option Duration} {fault : Option String}
    {wait : Duration} (h : reading.cause? limit fault = some (.silent wait)) :
    limit = some wait := by
  cases reading with
  | text s =>
    rw [cause?_of_octets rfl] at h
    split_ifs at h
    simp at h
  | binary octets =>
    rw [cause?_of_octets rfl] at h
    split_ifs at h
    simp at h
  | keepalive => simp [cause?] at h
  | close reason => simp [cause?] at h
  | failed reason => simp [cause?] at h
  | silence => simpa [cause?] using h

end Reading

theorem Transport.causeAt?_eq_silent {t : Transport} {limit : Option Duration} {token : Shutdown}
    {progress : Progress} {readings : List Reading} {n : Nat} {wait : Duration}
    (h : t.causeAt? limit token progress readings n = some (.silent wait)) : limit = some wait := by
  unfold causeAt? at h
  dsimp only at h
  split_ifs at h
  · simp at h
  · cases hreading : readings[n]? with
    | none => simp [hreading] at h
    | some reading =>
      rw [hreading] at h
      exact Reading.cause?_eq_silent h

theorem Running.undergo_cause (handler : Handler σ) (limit : Option Duration) (r : Running σ)
    (reading : Reading) :
    (r.undergo handler (reading.effect limit)).2 =
      (reading.cause? limit r.transport.nextFault).map Cause.result := by
  have hframe : ∀ {frame : Reading}, frame.octets?.isSome →
      frame.effect limit = (frame.message?.map Inbound.effect).getD .nothing →
      (r.undergo handler (frame.effect limit)).2 =
        (frame.cause? limit r.transport.nextFault).map Cause.result := by
    intro frame hoctets heffect
    rw [Reading.cause?_of_octets hoctets]
    by_cases hping : frame.isPing = true
    · rw [if_pos hping, Reading.effect_eq_ping.mpr hping, undergo, Option.map_map]
      rfl
    · have hother : frame.effect limit ≠ .ping := fun h => hping (Reading.effect_eq_ping.mp h)
      rw [if_neg hping, heffect]
      rw [heffect] at hother
      cases hmessage : frame.message? with
      | none => rfl
      | some message =>
        rw [hmessage] at hother
        cases message with
        | ping => exact absurd rfl hother
        | connected => rfl
        | market kind event => rfl
        | error error => rfl
        | unknown type => rfl
  cases reading with
  | text s => exact hframe rfl rfl
  | binary octets => exact hframe rfl rfl
  | keepalive => rfl
  | close reason => rfl
  | failed reason => rfl
  | silence => cases limit <;> rfl

namespace Transport

theorem causeAt?_zero (t : Transport) (limit : Option Duration) (token : Shutdown)
    (progress : Progress) (readings : List Reading) :
    t.causeAt? limit token progress readings 0 =
      if token progress then some .stopped
      else match readings with
        | [] => some .exhausted
        | reading :: _ => reading.cause? limit t.nextFault := by
  cases readings <;> rfl

theorem causeAt?_succ (t : Transport) (limit : Option Duration) (token : Shutdown)
    (progress : Progress) (reading : Reading) (rest : List Reading) (n : Nat) :
    t.causeAt? limit token progress (reading :: rest) (n + 1) =
      (if reading.isPing then t.write (.request .pong) else t).causeAt? limit token
        (progress.next reading) rest n := by
  unfold causeAt?
  simp only [List.take_succ_cons, List.getElem?_cons_succ, List.countP_cons]
  by_cases hping : reading.isPing = true
  · have hlength : t.writes.length + ((rest.take n).countP Reading.isPing + 1) =
        (t.write (.request .pong)).writes.length + (rest.take n).countP Reading.isPing := by
      simp only [write, List.length_append, List.length_singleton]
      omega
    simp only [hping, if_true, hlength]
    rfl
  · simp only [hping]
    rfl

end Transport

/-- A run ends at the first point with a cause. -/
theorem Running.account_cause (handler : Handler σ) (limit : Option Duration) (token : Shutdown)
    (progress : Progress) (r : Running σ) (readings : List Reading) :
    let a := r.account handler limit token progress readings
    let causeAt? := r.transport.causeAt? limit token progress readings
    ∃ n cause, causeAt? n = some cause ∧ (∀ m < n, causeAt? m = none) ∧ a.result = cause.result ∧
      a.unread = readings.drop (if cause = .stopped then n else n + 1) := by
  induction readings generalizing progress r with
  | nil =>
    rw [account_nil]
    by_cases hfires : token progress = true
    · refine ⟨0, .stopped, ?_, by simp, ?_⟩
      · rw [Transport.causeAt?_zero, if_pos hfires]
      · rw [if_pos hfires]
        exact ⟨rfl, rfl⟩
    · refine ⟨0, .exhausted, ?_, by simp, ?_⟩
      · rw [Transport.causeAt?_zero, if_neg hfires]
      · rw [if_neg hfires]
        exact ⟨rfl, rfl⟩
  | cons reading rest ih =>
    have hstep := r.undergo_cause handler limit reading
    have htransport := transport_of_reading handler limit r reading
    have hhere := r.transport.causeAt?_zero limit token progress (reading :: rest)
    rw [account_cons]
    by_cases hfires : token progress = true
    · rw [if_pos hfires] at hhere ⊢
      exact ⟨0, .stopped, hhere, by simp, rfl, rfl⟩
    · rw [if_neg hfires] at hhere ⊢
      cases hundergo : r.undergo handler (reading.effect limit) with
      | mk next ending =>
        rw [hundergo] at hstep htransport
        cases ending with
        | some result =>
          obtain ⟨cause, hcause, hresult⟩ := Option.map_eq_some_iff.mp hstep.symm
          have hgoesOn : cause ≠ .stopped := by
            have hcancelled := r.undergo_ne_cancelled handler limit reading
            rw [hundergo] at hcancelled
            rintro rfl
            exact hcancelled (congrArg some hresult.symm)
          exact ⟨0, cause, hhere.trans hcause, by simp, hresult.symm, by rw [if_neg hgoesOn]; rfl⟩
        | none =>
          obtain ⟨n, cause, hcause, hbefore, hresult, hunread⟩ :=
            ih (progress.next reading) next
          have hshift : ∀ m, r.transport.causeAt? limit token progress (reading :: rest) (m + 1) =
              next.transport.causeAt? limit token (progress.next reading) rest m := by
            intro m
            rw [Transport.causeAt?_succ, htransport]
          refine ⟨n + 1, cause, (hshift n).trans hcause, ?_, hresult, hunread.trans ?_⟩
          · rintro (_ | m) hm
            · exact hhere.trans (Option.map_eq_none_iff.mp hstep.symm)
            · exact (hshift m).trans (hbefore m (by omega))
          · split <;> rfl

namespace Client

section
variable {c : Client} {t : Transport} {handler : Handler σ} {state : σ} {token : Shutdown}

theorem run_cause (hheld : c.session = some t) (handler : Handler σ) (state : σ)
    (token : Shutdown) :
    let ran := c.run handler state token
    let causeAt? := t.causeAt? c.endpoint.readLimit token ⟨0, 0⟩ t.incoming
    ∃ n cause, causeAt? n = some cause ∧ (∀ m < n, causeAt? m = none) ∧
      ran.result = cause.result ∧
      (cause = .stopped → ran.client.phase = c.phase ∧
        ∃ left, ran.client.session = some left ∧ left.incoming = t.incoming.drop n) ∧
      (cause ≠ .stopped → ran.client.phase = .closed ∧ ran.client.session = none) := by
  intro ran causeAt?
  obtain ⟨hresult, hleave, -⟩ := run_held hheld handler state token
  let start : Running σ := ⟨t, c.subscriptions, state⟩
  obtain ⟨n, cause, hcause, hbefore, haccount, hunread⟩ :=
    start.account_cause handler c.endpoint.readLimit token ⟨0, 0⟩ t.incoming
  refine ⟨n, cause, hcause, hbefore, hresult.trans haccount, ?_, ?_⟩
  · intro hstopped
    have hcancelled : (c.account t handler state token).result = .ok .cancelled :=
      haccount.trans (Cause.result_eq_cancelled.mpr hstopped)
    have hkept : ran.client = _ := hleave.trans (c.leave_of_cancelled hcancelled)
    rw [if_pos hstopped] at hunread
    rw [hkept]
    exact ⟨rfl, _, rfl, hunread⟩
  · intro hstopped
    have hopen : (c.account t handler state token).result ≠ .ok .cancelled :=
      fun h => hstopped (Cause.result_eq_cancelled.mp (haccount.symm.trans h))
    have hdropped : ran.client = _ := hleave.trans (c.leave_of_ne_cancelled hopen)
    rw [hdropped]
    exact ⟨rfl, rfl⟩

theorem run_error {error : StreamError} (hheld : c.session = some t)
    (h : (c.run handler state token).result = .error error) :
    (∃ reason, error = .transportClosed reason) ∨
      ∃ wait, c.endpoint.readLimit = some wait ∧ error = .timeout wait := by
  obtain ⟨n, cause, hcause, -, hresult, -⟩ := run_cause hheld handler state token
  obtain htransport | ⟨wait, hsilent, htimeout⟩ := Cause.result_of_error (hresult.symm.trans h)
  · exact .inl htransport
  · rw [hsilent] at hcause
    exact .inr ⟨wait, Transport.causeAt?_eq_silent hcause, htimeout⟩

end

/-- A run needs a session. It ends at the first point with a cause and at nothing else, and leaves
the client closed unless it was stopped. No other errors come out of it, and no frame ends it by
what it says. -/
theorem run_ends_at_first_cause (c : Client) (handler : Handler σ) (state : σ) (token : Shutdown) :
    let ran := c.run handler state token
    let limit := c.endpoint.readLimit
    (ran.result = .error .notConnected ↔ c.session = none) ∧
    (c.session = none → ran.client = c ∧ ran.state = state) ∧
    (∀ t, c.session = some t →
      let causeAt? := t.causeAt? limit token ⟨0, 0⟩ t.incoming
      ∃ n cause, causeAt? n = some cause ∧ (∀ m < n, causeAt? m = none) ∧
        ran.result = cause.result ∧
        (cause = .stopped → ran.client.phase = c.phase ∧
          ∃ left, ran.client.session = some left ∧ left.incoming = t.incoming.drop n) ∧
        (cause ≠ .stopped → ran.client.phase = .closed ∧ ran.client.session = none)) ∧
    (∀ error, ran.result = .error error → error = .notConnected ∨
      (∃ reason, error = .transportClosed reason) ∨
        ∃ wait, limit = some wait ∧ error = .timeout wait) ∧
    ∀ (r : Running σ) (frame : Reading), frame.octets?.isSome → r.transport.nextFault = none →
      (r.take handler limit frame).ending = none := by
  intro ran limit
  have hcontent : ∀ (r : Running σ) (frame : Reading), frame.octets?.isSome →
      r.transport.nextFault = none → (r.take handler limit frame).ending = none := by
    intro r frame hoctets hfault
    have htake := congrArg Prod.snd (r.take_effect handler limit frame)
    refine htake.trans ((r.undergo_cause handler limit frame).trans ?_)
    rw [Reading.cause?_of_octets hoctets, hfault]
    split_ifs <;> rfl
  cases hheld : c.session with
  | none =>
    have hran : ran = { result := .error .notConnected, client := c, notices := [], state } := by
      simp only [ran, run, hheld]
    rw [hran]
    refine ⟨by simp, fun _ => ⟨rfl, rfl⟩, by simp, ?_, hcontent⟩
    intro error herror
    exact .inl (Except.error.inj herror).symm
  | some t =>
    obtain ⟨n, cause, hcause, hbefore, hended, hstopped, hclosed⟩ :=
      run_cause hheld handler state token
    have herrors : ∀ error, ran.result = .error error →
        (∃ reason, error = .transportClosed reason) ∨
          ∃ wait, limit = some wait ∧ error = .timeout wait :=
      fun error => run_error hheld
    refine ⟨?_, by simp, ?_, fun error herror => .inr (herrors error herror), hcontent⟩
    · refine iff_of_false (fun h => ?_) (by simp)
      rcases herrors _ h with ⟨reason, hreason⟩ | ⟨wait, -, hwait⟩
      · cases hreason
      · cases hwait
    · rintro _ ⟨rfl⟩
      exact ⟨n, cause, hcause, hbefore, hended, hstopped, hclosed⟩

/-- Octets that are no text and a text that is no frame are passed over. The silence behind them is
the first cause, and the close frame is not read. -/
theorem run_ends_at_silence :
    let t := Transport.fresh [.binary [0xff], .text "\x7b", .silence, .close none] fun _ => none
    let c := (Client.start .mainnet).holding t
    let ran := c.run Handler.ignore () .never
    c.session = some t ∧ (Reading.text "\x7b").octets?.isSome ∧ t.nextFault = none ∧
      ran.result = .error (.timeout (.ofSeconds 90)) ∧
      Cause.silent (.ofSeconds 90) ≠ .stopped ∧ ran.client.phase = .closed := by
  intro t c ran
  obtain ⟨-, -, hcause, -, -⟩ := c.run_ends_at_first_cause Handler.ignore () .never
  obtain ⟨n, cause, hn, hbefore, hresult, -, hclosed⟩ := hcause t rfl
  have hzero : t.causeAt? c.endpoint.readLimit .never ⟨0, 0⟩ t.incoming 0 = none := by
    decide +kernel
  have hone : t.causeAt? c.endpoint.readLimit .never ⟨0, 0⟩ t.incoming 1 = none := by
    decide +kernel
  have htwo : t.causeAt? c.endpoint.readLimit .never ⟨0, 0⟩ t.incoming 2 =
      some (.silent (.ofSeconds 90)) := by decide +kernel
  have hfirst : n = 2 := by
    refine first_unique hn hbefore htwo fun m hm => ?_
    obtain rfl | rfl : m = 0 ∨ m = 1 := by omega
    · exact hzero
    · exact hone
  rw [hfirst, htwo] at hn
  obtain rfl : Cause.silent (.ofSeconds 90) = cause := Option.some.inj hn
  exact ⟨rfl, rfl, rfl, hresult, by decide, (hclosed (by decide)).1⟩

end Client
end MarketFeed

import MarketFeed.Proofs.RunSoFar

/-!
# Runs that are interrupted

A client that was asked to stop can be run again. Each run takes up where the one before it left
off, so a row of runs does together what a single run over the whole script does, wherever it was
interrupted: what a stopped run leaves behind is all that the rest of the script needs.
-/
namespace MarketFeed

variable {σ : Type}

theorem Progress.readings_after (progress : Progress) (read : List Reading) :
    (progress.after read).readings = progress.readings + read.length := by
  induction read generalizing progress with
  | nil => rfl
  | cons reading rest ih =>
    have hnext : (progress.next reading).readings = progress.readings + 1 := rfl
    calc (progress.after (reading :: rest)).readings
        = (progress.next reading).readings + rest.length := ih _
      _ = progress.readings + (reading :: rest).length := by
        rw [hnext, List.length_cons]
        omega

theorem Shutdown.firesAfter_afterReadings (n : Nat) (read : List Reading) :
    (Shutdown.afterReadings n).FiresAfter ⟨0, 0⟩ read ↔ read.length = n := by
  simp only [FiresAfter, afterReadings, Progress.readings_after, decide_eq_true_eq,
    decide_eq_false_iff_not, List.length_take]
  constructor
  · rintro ⟨hlast, hbefore⟩
    rcases Nat.lt_or_ge n read.length with hless | hmore
    · have hlate := hbefore n hless
      omega
    · omega
  · intro hlength
    exact ⟨by omega, fun m hm => by omega⟩

/-- What a stopped run did not do is what the run goes on with. -/
theorem Running.account_resume (handler : Handler σ) (limit : Option Duration) {token : Shutdown}
    {progress : Progress} {r : Running σ} {readings : List Reading} {a : Account σ}
    (ha : r.account handler limit token progress readings = a)
    (hstopped : a.result = .ok .cancelled) :
    a.running.account handler limit .never progress a.unread =
      r.account handler limit .never progress readings := by
  subst ha
  obtain ⟨read, rest, rfl, hsurvives, hfires⟩ := firesAfter_of_cancelled handler limit hstopped
  rw [account_of_firesAfter handler limit rest hsurvives hfires,
    account_append handler limit .never progress rest hsurvives (fun _ _ => rfl)]
  exact account_never_progress handler limit _ _ _ _

namespace Client

/-- A client that is run with one token after the other, for as long as it is asked to stop, and
then to the end. -/
def parts (c : Client) (handler : Handler σ) (state : σ) :
    List Shutdown → List (RunCall (σ × List (FrameKind × MarketEvent)))
  | [] => [c.record handler state .never]
  | token :: tokens =>
    let call := c.record handler state token
    match call.result with
    | .ok .cancelled => call :: call.client.parts handler call.state.1 tokens
    | _ => [call]

section
variable (c : Client) (t : Transport) (handler : Handler σ) (state : σ) {token : Shutdown}

theorem record_of_not_cancelled
    (h : ((c.holding t).record handler state token).result ≠ .ok .cancelled) :
    ((c.holding t).record handler state token).result =
        ((c.holding t).record handler state .never).result ∧
      ((c.holding t).record handler state token).client =
        ((c.holding t).record handler state .never).client ∧
      ((c.holding t).record handler state token).state =
        ((c.holding t).record handler state .never).state := by
  obtain ⟨hresult, hclient, hstate⟩ := c.run_holding t handler.recorded (state, []) token
  obtain ⟨wresult, wclient, wstate⟩ := c.run_holding t handler.recorded (state, []) .never
  have haccount : c.account t handler.recorded (state, []) token =
      c.account t handler.recorded (state, []) .never :=
    Running.account_of_not_cancelled _ _ (fun hcancelled => h (hresult.trans hcancelled))
  rw [haccount] at hresult hclient hstate
  exact ⟨hresult.trans wresult.symm, hclient.trans wclient.symm, hstate.trans wstate.symm⟩

theorem record_resume
    (h : ((c.holding t).record handler state token).result = .ok .cancelled) :
    let stopped := (c.holding t).record handler state token
    let next := stopped.client.record handler stopped.state.1 .never
    let whole := (c.holding t).record handler state .never
    (∃ (c' : Client) (t' : Transport), stopped.client = c'.holding t' ∧ c'.phase = c.phase) ∧
      next.result = whole.result ∧ next.client = whole.client ∧
        whole.state = (next.state.1, stopped.state.2 ++ next.state.2) := by
  intro stopped next whole
  obtain ⟨hresult, hclient, hstate⟩ := c.run_holding t handler.recorded (state, []) token
  obtain ⟨wresult, wclient, wstate⟩ := c.run_holding t handler.recorded (state, []) .never
  generalize ha : c.account t handler.recorded (state, []) token = a at hresult hclient hstate
  have hcancelled : a.result = .ok .cancelled := hresult.symm.trans h
  let c' : Client := { c with subscriptions := a.running.subscriptions }
  have hheld : stopped.client = c'.holding a.left :=
    hclient.trans (c.leave_of_cancelled hcancelled)
  -- the whole run and the next one differ from this account in what they look away from
  let calls := a.running.state.2
  let bare : Running (σ × List (FrameKind × MarketEvent)) :=
    ⟨a.running.transport, a.running.subscriptions, (a.running.state.1, [])⟩
  let rest := bare.account handler.recorded c.endpoint.readLimit .never ⟨0, 0⟩ a.unread
  have hwhole : c.account t handler.recorded (state, []) .never = rest.map (.recalling calls) :=
    calc c.account t handler.recorded (state, []) .never
        = a.running.account handler.recorded c.endpoint.readLimit .never ⟨0, 0⟩ a.unread :=
          (Running.account_resume _ _ ha hcancelled).symm
      _ = (bare.recalling calls).account handler.recorded c.endpoint.readLimit .never ⟨0, 0⟩
            a.unread := by
          simp only [bare, calls, Running.recalling, List.append_nil]
      _ = rest.map (.recalling calls) :=
          Running.account_map _ _ (Running.undergo_recalling handler calls) _ _ _
  have hnext : c'.account a.left handler.recorded (a.running.state.1, []) .never =
      rest.map (Running.facing · a.unread) :=
    Running.account_map _ _ (Running.undergo_facing handler.recorded a.unread) _ bare _
  obtain ⟨nresult, nclient, nstate⟩ :=
    c'.run_holding a.left handler.recorded (a.running.state.1, []) .never
  have hrecord : next = (c'.holding a.left).record handler a.running.state.1 .never := by
    simp only [next, hheld]
    rw [show stopped.state = a.running.state from hstate]
  rw [hwhole] at wresult wclient wstate
  rw [hnext] at nresult nclient nstate
  refine ⟨⟨c', a.left, hheld, rfl⟩, ?_, ?_, ?_⟩
  · rw [hrecord]
    exact nresult.trans wresult.symm
  · rw [hrecord]
    exact nclient.trans wclient.symm
  · rw [hrecord]
    have hcalls : stopped.state.2 = calls := congrArg Prod.snd hstate
    rw [hcalls]
    exact wstate.trans (congrArg
      (fun s : σ × List (FrameKind × MarketEvent) => (s.1, calls ++ s.2)) nstate.symm)

theorem record_of_firesAfter {read rest : List Reading} (hincoming : t.incoming = read ++ rest)
    (hsurvives : t.Survives c.endpoint.readLimit read) (hfires : token.FiresAfter ⟨0, 0⟩ read) :
    ((c.holding t).record handler state token).result = .ok .cancelled ∧
      ((c.holding t).record handler state token).state.2 = read.filterMap Reading.event? ∧
      ((c.holding t).record handler state token).client =
        { c with
          session := some
            { t with incoming := rest, writes := t.writes ++ read.filterMap Reading.answer? }
          subscriptions :=
            (read.filterMap Reading.event?).foldl Subscriptions.see c.subscriptions } := by
  let start : Running (σ × List (FrameKind × MarketEvent)) := ⟨t, c.subscriptions, (state, [])⟩
  let stopped := start.through handler.recorded c.endpoint.readLimit read
  obtain ⟨hresult, hclient, hstate⟩ := c.run_holding t handler.recorded (state, []) token
  have haccount : c.account t handler.recorded (state, []) token =
      ⟨.ok .cancelled, stopped, rest⟩ := by
    unfold account
    rw [hincoming]
    exact start.account_of_firesAfter _ _ rest hsurvives hfires
  rw [haccount] at hresult hclient hstate
  refine ⟨hresult, ?_, ?_⟩
  · calc ((c.holding t).record handler state token).state.2
        = stopped.state.2 := congrArg Prod.snd hstate
      _ = read.filterMap Reading.event? := Running.record_through _ _ _ _
  · refine hclient.trans ((c.leave_of_cancelled rfl).trans ?_)
    have htransport : stopped.transport = _ := Running.transport_through _ _ hsurvives
    have hsubscriptions : stopped.subscriptions = _ := Running.subscriptions_through _ _ _ _
    simp only [Account.left, htransport, hsubscriptions]
    rfl

theorem firesAfter_of_record
    (h : ((c.holding t).record handler state token).result = .ok .cancelled) :
    ∃ read rest, t.incoming = read ++ rest ∧ t.Survives c.endpoint.readLimit read ∧
      token.FiresAfter ⟨0, 0⟩ read := by
  have hresult := (c.run_holding t handler.recorded (state, []) token).1
  exact Running.firesAfter_of_cancelled (r := ⟨t, c.subscriptions, (state, [])⟩)
    handler.recorded c.endpoint.readLimit (hresult.symm.trans h)

end

theorem parts_eq_whole (handler : Handler σ) (tokens : List Shutdown) (c : Client) (t : Transport)
    (state : σ) :
    let calls := (c.holding t).parts handler state tokens
    let whole := (c.holding t).record handler state .never
    (calls.flatMap fun call => call.state.2) = whole.state.2 ∧
      ∃ stopped last, calls = stopped ++ [last] ∧
        (∀ call ∈ stopped, call.result = .ok .cancelled ∧ call.client.session.isSome ∧
          call.client.phase = c.phase) ∧
        last.result = whole.result ∧ last.client = whole.client ∧
          last.state.1 = whole.state.1 := by
  induction tokens generalizing c t state with
  | nil =>
    refine ⟨?_, [], _, rfl, by simp, rfl, rfl, rfl⟩
    simp [parts]
  | cons token tokens ih =>
    intro calls whole
    by_cases hcancelled : ((c.holding t).record handler state token).result = .ok .cancelled
    · obtain ⟨⟨c', t', hheld, hphase⟩, hresult, hclient, hstate⟩ :=
        c.record_resume t handler state hcancelled
      generalize hfirst : (c.holding t).record handler state token = first at *
      have hcalls : calls = first :: first.client.parts handler first.state.1 tokens := by
        simp only [calls, parts, hfirst, hcancelled]
      rw [hheld] at hcalls hresult hclient hstate
      obtain ⟨hflat, stopped, last, hparts, hstopped, lresult, lclient, lstate⟩ :=
        ih c' t' first.state.1
      refine ⟨?_, first :: stopped, last, ?_, ?_, lresult.trans hresult, lclient.trans hclient,
        lstate.trans ?_⟩
      · rw [hcalls, List.flatMap_cons, hflat]
        exact (congrArg Prod.snd hstate).symm
      · rw [hcalls, hparts]
        rfl
      · intro call hcall
        rcases List.mem_cons.mp hcall with rfl | hcall
        · refine ⟨hcancelled, ?_, ?_⟩
          · rw [hheld]
            rfl
          · rw [hheld]
            exact hphase
        · obtain ⟨hresult, hsession, hcall⟩ := hstopped call hcall
          exact ⟨hresult, hsession, hcall.trans hphase⟩
      · exact (congrArg Prod.fst hstate).symm
    · obtain ⟨hresult, hclient, hstate⟩ := c.record_of_not_cancelled t handler state hcancelled
      have hcalls : calls = [(c.holding t).record handler state token] := by
        simp only [calls, parts]
      refine ⟨?_, [], _, hcalls, ?_, hresult, hclient, ?_⟩
      · rw [hcalls, List.flatMap_singleton]
        exact congrArg Prod.snd hstate
      · simp
      · exact congrArg Prod.fst hstate

/-- No frame is lost or handled twice when a run is interrupted. However often a client is asked to
stop and run again, its runs together do what a whole run does. Each of them is stopped when, and
only when, its token fires before the session ends; it has then done what the readings before that
ask for, answers included, and has read no further. -/
theorem interrupted_run (c : Client) (t : Transport) (handler : Handler σ) (state : σ) :
    (∀ tokens : List Shutdown,
      let calls := (c.holding t).parts handler state tokens
      let whole := (c.holding t).record handler state .never
      (calls.flatMap fun call => call.state.2) = whole.state.2 ∧
        ∃ stopped last, calls = stopped ++ [last] ∧
          (∀ call ∈ stopped, call.result = .ok .cancelled ∧ call.client.session.isSome ∧
            call.client.phase = c.phase) ∧
          last.result = whole.result ∧ last.client = whole.client ∧
            last.state.1 = whole.state.1) ∧
    ∀ token : Shutdown,
      let call := (c.holding t).record handler state token
      (∀ read rest, t.incoming = read ++ rest → t.Survives c.endpoint.readLimit read →
        token.FiresAfter ⟨0, 0⟩ read →
          call.result = .ok .cancelled ∧
          call.state.2 = read.filterMap Reading.event? ∧
          call.client =
            { c with
              session := some
                { t with incoming := rest, writes := t.writes ++ read.filterMap Reading.answer? }
              subscriptions :=
                (read.filterMap Reading.event?).foldl Subscriptions.see c.subscriptions }) ∧
      (call.result = .ok .cancelled →
        ∃ read rest, t.incoming = read ++ rest ∧ t.Survives c.endpoint.readLimit read ∧
          token.FiresAfter ⟨0, 0⟩ read) := by
  refine ⟨fun tokens => parts_eq_whole handler tokens c t state, fun token => ⟨?_, ?_⟩⟩
  · intro read rest hincoming hsurvives hfires
    exact c.record_of_firesAfter t handler state hincoming hsurvives hfires
  · intro hcancelled
    exact c.firesAfter_of_record t handler state hcancelled

/-- A run that is stopped after a ping and before the close frame has answered the ping. -/
theorem interrupted_run_after_ping :
    let ping := Reading.text "\x7b\"type\":\"ping\"\x7d"
    let t := Transport.fresh [ping, .close none] fun _ => none
    let c := Client.start .mainnet
    let call := (c.holding t).record Handler.ignore () (.afterReadings 1)
    t.Survives c.endpoint.readLimit [ping] ∧
      (Shutdown.afterReadings 1).FiresAfter ⟨0, 0⟩ [ping] ∧
      call.result = .ok .cancelled ∧
      call.client.session.map Transport.writes = some [⟨.request .pong, none⟩] := by
  intro ping t c call
  have hsurvives : t.Survives c.endpoint.readLimit [ping] :=
    ⟨by decide +kernel, by decide +kernel⟩
  have hfires : (Shutdown.afterReadings 1).FiresAfter ⟨0, 0⟩ [ping] :=
    (Shutdown.firesAfter_afterReadings 1 [ping]).mpr rfl
  obtain ⟨hresult, -, hclient⟩ := ((c.interrupted_run t Handler.ignore ()).2 (.afterReadings 1)).1
    [ping] [.close none] rfl hsurvives hfires
  have hanswer : [ping].filterMap Reading.answer? = [⟨.request .pong, none⟩] := by decide +kernel
  refine ⟨hsurvives, hfires, hresult, ?_⟩
  rw [show call.client = _ from hclient, hanswer]
  rfl

end Client
end MarketFeed

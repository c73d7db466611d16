import MarketFeed.Proofs.RunEnding
import MarketFeed.Proofs.Utf8Octets

/-!
# Noise on a transport

Most of what a transport brings has no effect on a run: keepalives, octets that are no text, frames
that cannot be decoded, and messages that are neither market data nor a ping. The essentials of a
script are what remains when these are left out and the octets of a text are taken for the text.

A run cannot tell a script from its essentials. Each reading that is left out has no effect, each
reading that is kept has the effect it had, and the readings left at the end are the essentials of
those that the whole script would leave.
-/
namespace MarketFeed

variable {σ : Type}

/-- The message asks for an answer or carries market data. -/
def Inbound.isEssential : Inbound → Bool
  | market _ _ | ping => true
  | connected | error _ | unknown _ => false

def Reading.essentialText? (s : String) : Option Reading :=
  match Inbound.decode s with
  | .ok message => if message.isEssential then some (text s) else none
  | .error _ => none

/-- What a reading comes to without noise. -/
def Reading.essential? : Reading → Option Reading
  | text s => essentialText? s
  | binary octets =>
    match Text.Utf8.decode octets with
    | .ok s => essentialText? s
    | .error _ => none
  | keepalive => none
  | reading => some reading

def essentials (script : List Reading) : List Reading := script.filterMap Reading.essential?

def Transport.quiet (t : Transport) : Transport := { t with incoming := essentials t.incoming }

theorem Inbound.effect_of_not_essential {message : Inbound} (h : message.isEssential = false) :
    message.effect = .nothing := by
  cases message with
  | connected => rfl
  | ping => simp [isEssential] at h
  | market kind event => simp [isEssential] at h
  | error error => rfl
  | unknown type => rfl

namespace Reading

theorem effect_of_essentialText?_none {s : String} (h : essentialText? s = none)
    (limit : Option Duration) : (text s).effect limit = .nothing := by
  simp only [effect, message?, text?, Option.bind_some]
  unfold essentialText? at h
  cases hdecode : Inbound.decode s with
  | error fault => rfl
  | ok message =>
    rw [hdecode] at h
    cases hessential : message.isEssential with
    | true => simp [hessential] at h
    | false => exact Inbound.effect_of_not_essential hessential

theorem essentialText?_some {s : String} {kept : Reading} (h : essentialText? s = some kept) :
    kept = text s := by
  unfold essentialText? at h
  cases hdecode : Inbound.decode s with
  | error fault => simp [hdecode] at h
  | ok message =>
    rw [hdecode] at h
    cases hessential : message.isEssential with
    | true => simpa [hessential] using h.symm
    | false => simp [hessential] at h

theorem effect_binary_of_decode {octets : List UInt8} {s : String}
    (h : Text.Utf8.decode octets = .ok s) (limit : Option Duration) :
    (binary octets).effect limit = (text s).effect limit := by
  simp only [effect, message?, text?, h]
  rfl

theorem effect_of_essential?_none {reading : Reading} (h : reading.essential? = none)
    (limit : Option Duration) : reading.effect limit = .nothing := by
  cases reading with
  | text s => exact effect_of_essentialText?_none h limit
  | binary octets =>
    cases hdecode : Text.Utf8.decode octets with
    | error fault =>
      simp only [effect, message?, text?, hdecode]
      rfl
    | ok s =>
      rw [effect_binary_of_decode hdecode]
      simp only [essential?, hdecode] at h
      exact effect_of_essentialText?_none h limit
  | keepalive => rfl
  | close reason => simp [essential?] at h
  | failed reason => simp [essential?] at h
  | silence => simp [essential?] at h

/-- What is kept of a reading is the reading, or the text that its octets spell. -/
theorem essential?_eq_some {reading kept : Reading} (h : reading.essential? = some kept) :
    kept = reading ∨
      ∃ octets s, reading = binary octets ∧ Text.Utf8.decode octets = .ok s ∧ kept = text s := by
  cases reading with
  | text s => exact .inl (essentialText?_some h)
  | binary octets =>
    cases hdecode : Text.Utf8.decode octets with
    | error fault => simp [essential?, hdecode] at h
    | ok s =>
      simp only [essential?, hdecode] at h
      exact .inr ⟨octets, s, rfl, hdecode, essentialText?_some h⟩
  | keepalive => simp [essential?] at h
  | close reason => exact .inl (Option.some.inj h).symm
  | failed reason => exact .inl (Option.some.inj h).symm
  | silence => exact .inl (Option.some.inj h).symm

theorem effect_of_essential?_some {reading kept : Reading} (h : reading.essential? = some kept)
    (limit : Option Duration) : kept.effect limit = reading.effect limit := by
  rcases essential?_eq_some h with rfl | ⟨octets, s, rfl, hdecode, rfl⟩
  · rfl
  · exact (effect_binary_of_decode hdecode limit).symm

/-- The octets of a frame outlast the noise. -/
theorem octets?_of_essential? {reading kept : Reading} (h : reading.essential? = some kept) :
    kept.octets? = reading.octets? := by
  rcases essential?_eq_some h with rfl | ⟨octets, s, rfl, hdecode, rfl⟩
  · rfl
  · exact congrArg some (Text.Utf8.encode_of_decode hdecode)

end Reading

def Account.quiet (a : Account σ) : Account σ := { a with unread := essentials a.unread }

theorem Running.account_essentials (handler : Handler σ) (limit : Option Duration)
    (progress : Progress) (r : Running σ) (readings : List Reading) :
    r.account handler limit .never progress (essentials readings) =
      (r.account handler limit .never progress readings).quiet := by
  induction readings generalizing progress r with
  | nil =>
    simp only [essentials, List.filterMap_nil, account_nil]
    rfl
  | cons reading rest ih =>
    cases hessential : reading.essential? with
    | none =>
      have hskip : essentials (reading :: rest) = essentials rest :=
        List.filterMap_cons_none hessential
      -- the run on the essentials has not counted the reading, which only a token could notice
      rw [hskip, account_cons, Reading.effect_of_essential?_none hessential, ih,
        account_never_progress handler limit progress (progress.next reading)]
      rfl
    | some kept =>
      have hkeep : essentials (reading :: rest) = kept :: essentials rest :=
        List.filterMap_cons_some hessential
      rw [hkeep, account_cons, account_cons, Reading.effect_of_essential?_some hessential]
      cases hundergo : r.undergo handler (reading.effect limit) with
      | mk next ending =>
        cases ending with
        | some result => rfl
        | none =>
          simp only [Shutdown.never, Bool.false_eq_true, if_false]
          rw [ih, account_never_progress handler limit _ (progress.next reading)]

namespace Client

theorem account_quiet (c : Client) (t : Transport) (handler : Handler σ) (state : σ) :
    c.account t.quiet handler state .never =
      ((c.account t handler state .never).map
        (Running.facing · (essentials t.incoming))).quiet := by
  let running : Running σ := ⟨t, c.subscriptions, state⟩
  let script := essentials t.incoming
  calc c.account t.quiet handler state .never
      = (running.account handler c.endpoint.readLimit .never ⟨0, 0⟩ script).map
          (Running.facing · script) :=
        Running.account_map _ _ (Running.undergo_facing handler script) _ running _
    _ = ((c.account t handler state .never).quiet).map (Running.facing · script) := by
        rw [Running.account_essentials]
        rfl
    _ = ((c.account t handler state .never).map (Running.facing · script)).quiet := rfl

/-- Noise and the encoding of frames change nothing about a run that is never asked to stop. It
reads up to the first cause of its end, and the handler is called once for each frame with market
data among these readings, in their order. Keeping a record of the calls changes nothing about the
run either, and what is kept of a frame has the octets of the frame. -/
theorem record_quiet (c : Client) (t : Transport) (handler : Handler σ) (state : σ) :
    let plain := (c.holding t).run handler state .never
    let ran := (c.holding t).record handler state .never
    let quiet := (c.holding t.quiet).record handler state .never
    let causeAt? := t.causeAt? c.endpoint.readLimit .never ⟨0, 0⟩ t.incoming
    (quiet.result = ran.result ∧ quiet.state = ran.state ∧
      ∃ read left, t.incoming = read ++ left.incoming ∧
        (∃ n cause, causeAt? n = some cause ∧ (∀ m < n, causeAt? m = none) ∧
          ran.result = cause.result ∧ read = t.incoming.take (n + 1)) ∧
        ran.state.2 = read.filterMap Reading.event? ∧
        ran.client.past = c.past ++ [left] ∧
        quiet.client = { ran.client with past := c.past ++ [left.quiet] }) ∧
    (plain.result = ran.result ∧ plain.client = ran.client ∧ plain.state = ran.state.1) ∧
    ∀ reading kept : Reading, reading.essential? = some kept → kept.octets? = reading.octets? := by
  intro plain ran quiet causeAt?
  refine ⟨?quiet, run_eq_record _ handler state .never, fun _ _ => Reading.octets?_of_essential?⟩
  let account := c.account t handler.recorded (state, []) .never
  let start : Running (σ × List (FrameKind × MarketEvent)) := ⟨t, c.subscriptions, (state, [])⟩
  obtain ⟨hresult, hclient, hstate⟩ := c.run_holding t handler.recorded (state, []) .never
  obtain ⟨qresult, qclient, qstate⟩ := c.run_holding t.quiet handler.recorded (state, []) .never
  rw [account_quiet] at qresult qclient qstate
  have hending : account.result ≠ .ok .cancelled := Running.account_never_ne_cancelled _ _ _ _ _
  have hleave := c.leave_of_ne_cancelled hending
  obtain ⟨read, hread, hcalls⟩ :=
    start.record_account handler c.endpoint.readLimit .never ⟨0, 0⟩ t.incoming
  refine ⟨qresult.trans hresult.symm, qstate.trans hstate.symm, read, account.left, hread, ?cause,
    ?calls, ?past, ?client⟩
  case cause =>
    obtain ⟨n, cause, hcause, hbefore, hended, hunread⟩ :=
      start.account_cause handler.recorded c.endpoint.readLimit .never ⟨0, 0⟩ t.incoming
    have hgoesOn : cause ≠ .stopped := fun hstopped =>
      hending (hended.trans (Cause.result_eq_cancelled.mpr hstopped))
    rw [if_neg hgoesOn] at hunread
    refine ⟨n, cause, hcause, hbefore, hresult.trans hended, ?_⟩
    rw [hunread] at hread
    have hsplit := List.take_append_drop (n + 1) t.incoming
    exact (List.append_cancel_right (hsplit.trans hread)).symm
  case calls =>
    calc ran.state.2
        = account.running.state.2 := congrArg Prod.snd hstate
      _ = read.filterMap Reading.event? := hcalls
  case past =>
    calc ran.client.past
        = (c.leave account).past := congrArg Client.past hclient
      _ = c.past ++ [account.left] := congrArg Client.past hleave
  case client =>
    have hran : ran.client = _ := hclient.trans hleave
    rw [hran]
    exact qclient.trans (c.leave_of_ne_cancelled hending)

/-- Of five readings up to a close frame a trade is kept, which came as octets. The trade behind the
close frame is not read. -/
theorem record_quiet_of_noise :
    let trade := "\x7b\"type\":\"update/trade\",\"data\":[\x7b\"side\":\"buy\"\x7d]\x7d"
    let t := Transport.fresh [.binary [0xff], .keepalive, .text "no frame",
      .binary (Text.Utf8.encode trade), .close none, .text trade] fun _ => none
    let c := Client.start .mainnet
    let quiet := (c.holding t.quiet).record Handler.ignore () .never
    t.quiet.incoming = [.text trade, .close none, .text trade] ∧
      quiet.result = .ok .peerClosed ∧
      quiet.state = ((), [(.update, ⟨none, .trades [⟨.buy, "0", "0"⟩]⟩)]) := by
  intro trade t c quiet
  obtain ⟨⟨hresult, hstate, read, left, -, hfirst, hcalls, -⟩, -⟩ :=
    c.record_quiet t Handler.ignore ()
  obtain ⟨n, cause, hcause, hbefore, hended, hread⟩ := hfirst
  have hclosed : t.causeAt? c.endpoint.readLimit .never ⟨0, 0⟩ t.incoming 4 =
      some (.closed none) := by decide +kernel
  have hquiet : ∀ m < 4, t.causeAt? c.endpoint.readLimit .never ⟨0, 0⟩ t.incoming m = none := by
    decide +kernel
  obtain rfl : n = 4 := first_unique hcause hbefore hclosed hquiet
  obtain rfl : cause = .closed none := Option.some.inj (hcause.symm.trans hclosed)
  have hevents : (t.incoming.take 5).filterMap Reading.event? =
      [(.update, ⟨none, .trades [⟨.buy, "0", "0"⟩]⟩)] := by decide +kernel
  refine ⟨by decide +kernel, hresult.trans hended, hstate.trans ?_⟩
  rw [hread, hevents] at hcalls
  exact Prod.ext rfl hcalls

end Client
end MarketFeed

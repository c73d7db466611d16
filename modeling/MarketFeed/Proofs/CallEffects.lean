import MarketFeed.Proofs.Attempts
import MarketFeed.Proofs.ChannelGrammar
import MarketFeed.Proofs.Lifecycle
import MarketFeed.Proofs.RequestStatus

/-!
# What calls leave behind

A request for a channel is one frame on the open session. When the frame cannot be written, or there
is no session to write it on, nothing has changed; when it is written, the phase and the entry of
the one channel are brought up to date. Both requests are cases of one rule, so what holds of them
is shown once.

An attempt to connect that does not get as far as the server changes nothing either, and one that
does and fails leaves a disconnected client. Closing works in every state, and a closed client stays
as it is until it dials.
-/
namespace MarketFeed

namespace Json

/-- The character stands for itself in the text of a string. -/
def isVerbatim (c : Char) : Bool := 0x20 ≤ c.toNat && c != '"' && c != '\\'

theorem escapeChar_of_isVerbatim {c : Char} (h : isVerbatim c = true) : escapeChar c = [c] := by
  simp only [isVerbatim, Bool.and_eq_true, decide_eq_true_eq, bne_iff_ne, ne_eq] at h
  obtain ⟨⟨hlow, hquote⟩, hbackslash⟩ := h
  unfold escapeChar
  split
  case h_1 => exact absurd rfl hquote
  case h_2 => exact absurd rfl hbackslash
  case h_8 => rw [if_neg (by omega)]
  all_goals exact absurd hlow (by decide)

theorem quoteChars_of_isVerbatim {s : String} (h : ∀ c ∈ s.toList, isVerbatim c = true) :
    quoteChars s = '"' :: s.toList ++ ['"'] := by
  have hself : s.toList.flatMap escapeChar = s.toList := by
    rw [List.flatMap_congr fun c hc => escapeChar_of_isVerbatim (h c hc)]
    exact List.flatMap_singleton' s.toList
  rw [quoteChars, hself]

end Json

theorem Target.isVerbatim_of_mem_text {target : Target} {c : Char} (hc : c ∈ target.text.toList) :
    Json.isVerbatim c = true := by
  cases target with
  | all => exact List.all_eq_true.mp (rfl : "all".toList.all Json.isVerbatim = true) c hc
  | market index =>
    rw [toList_text_market] at hc
    have hdigit : c.isDigit = true := Nat.isDigit_of_mem_toDigits (by decide) (by decide) hc
    have hquote : c ≠ '"' := Json.ne_of_isDigit hdigit (by decide)
    have hbackslash : c ≠ '\\' := Json.ne_of_isDigit hdigit (by decide)
    have hlow : 48 ≤ c.toNat := by
      simp only [Char.isDigit, Bool.and_eq_true, decide_eq_true_eq] at hdigit
      exact hdigit.1
    simp only [Json.isVerbatim, Bool.and_eq_true, decide_eq_true_eq, bne_iff_ne, ne_eq]
    exact ⟨⟨by omega, hquote⟩, hbackslash⟩

theorem Channel.isVerbatim_of_mem_text {channel : Channel} {c : Char}
    (hc : c ∈ channel.text.toList) : Json.isVerbatim c = true := by
  have hname : (channel.topic.name ++ "/").toList.all Json.isVerbatim = true := by
    cases channel.topic <;> rfl
  rw [text, String.toList_append, List.mem_append] at hc
  rcases hc with hc | hc
  · exact List.all_eq_true.mp hname c hc
  · exact Target.isVerbatim_of_mem_text hc

/-- A request names its channel by the canonical text, in which nothing has to be escaped. -/
theorem Outbound.text_request {kind : String} (hkind : kind.toList.all Json.isVerbatim = true)
    (channel : Channel) :
    (request kind channel).text =
      "\x7b\"type\":\"" ++ kind ++ "\",\"channel\":\"" ++ channel.text ++ "\"\x7d" := by
  rw [← String.toList_inj]
  have hquoted := Json.quoteChars_of_isVerbatim (List.all_eq_true.mp hkind)
  have hchannel := Json.quoteChars_of_isVerbatim fun c => channel.isVerbatim_of_mem_text (c := c)
  have htype : Json.quoteChars "type" = "\"type\"".toList := rfl
  have hname : Json.quoteChars "channel" = "\"channel\"".toList := rfl
  simp [request, Json.Value.chars, Json.Value.memberChars, Json.commaJoin, hquoted, hchannel,
    htype, hname]

namespace Transport

/-- The transports differ at most in writes that failed. -/
def Alike (t u : Transport) : Prop :=
  u.incoming = t.incoming ∧ u.faults = t.faults ∧ u.sent = t.sent

variable {t : Transport} {frame : Sent}

theorem sent_write_of_fault {reason : String} (h : t.nextFault = some reason) :
    (t.write frame).sent = t.sent := by
  simp [sent, write, h]

theorem sent_write_of_none (h : t.nextFault = none) : (t.write frame).sent = t.sent ++ [frame] := by
  simp [sent, write, h]

end Transport

namespace Subscriptions

theorem others_request (s : Subscriptions) (channel : Channel) :
    (s.request channel).entries.filter (fun entry => entry.1 != channel) =
      s.entries.filter fun entry => entry.1 != channel := by
  unfold request
  split <;> simp

theorem others_remove (s : Subscriptions) (channel : Channel) :
    (s.remove channel).entries.filter (fun entry => entry.1 != channel) =
      s.entries.filter fun entry => entry.1 != channel := by
  simp [remove, List.filter_filter]

/-- A request is new and pending, or finds its channel and leaves it. -/
theorem status?_request_self (s : Subscriptions) (channel : Channel) :
    (s.request channel).status? channel = some ((s.status? channel).getD .pending) := by
  rw [status?_request]
  by_cases hlisted : channel ∈ s.channels
  · obtain ⟨status, hstatus⟩ : ∃ status, s.status? channel = some status :=
      Option.ne_none_iff_exists'.mp (mt status?_eq_none.mp (not_not.mpr hlisted))
    simp [hlisted, hstatus]
  · simp [hlisted, status?_eq_none.mpr hlisted]

end Subscriptions

theorem Endpoint.validate_error {e : Endpoint} {error : StreamError}
    (h : e.validate = .error error) : ∃ reason, error = .connection reason := by
  unfold validate at h
  split_ifs at h <;> cases h <;> exact ⟨_, rfl⟩

theorem Endpoint.url_error {e : Endpoint} {error : StreamError} (h : e.url = .error error) :
    ∃ reason, error = .connection reason := by
  rcases Attempts.bind_eq_error.mp h with hvalid | ⟨-, -, hparse⟩
  · exact validate_error hvalid
  · split at hparse
    · cases hparse
    · obtain rfl := Except.error.inj hparse
      exact ⟨_, rfl⟩

theorem Endpoint.checkRequest_error {e : Endpoint} {url : Url} {error : StreamError}
    (h : e.checkRequest url = .error error) : ∃ reason, error = .connection reason := by
  unfold checkRequest at h
  split_ifs at h <;> cases h <;> exact ⟨_, rfl⟩

/-- How a handshake fails under a limit for the wait. -/
inductive Handshake.Fails (limit : Option Duration) : Handshake → StreamError → Prop
  | refused (reason : String) : Fails limit (.refused reason) (.connection reason)
  | late {duration : Duration} (h : limit = some duration) (answer : Handshake) :
    Fails limit (.late answer) (.timeout duration)
  /-- Without a limit the answer is waited for, however late it comes. -/
  | awaited {answer : Handshake} {error : StreamError} (h : limit = none)
    (hanswer : Fails limit answer error) : Fails limit (.late answer) error

theorem Handshake.outcome_eq_error {limit : Option Duration} {handshake : Handshake}
    {error : StreamError} :
    handshake.outcome limit = .error error ↔ handshake.Fails limit error := by
  constructor
  · intro h
    induction handshake with
    | accepted transport => cases h
    | refused reason =>
      obtain rfl := Except.error.inj h
      exact .refused reason
    | late answer ih =>
      cases limit with
      | none => exact .awaited rfl (ih h)
      | some duration =>
        obtain rfl := Except.error.inj h
        exact .late rfl answer
  · intro h
    induction h with
    | refused reason => rfl
    | late hlimit answer =>
      subst hlimit
      rfl
    | awaited hlimit _ ih =>
      subst hlimit
      exact ih

theorem Handshake.Fails.error_eq {limit : Option Duration} {handshake : Handshake}
    {error : StreamError} (h : handshake.Fails limit error) :
    (∃ reason, error = .connection reason) ∨
      ∃ duration, limit = some duration ∧ error = .timeout duration := by
  induction h with
  | refused reason => exact .inl ⟨reason, rfl⟩
  | late hlimit answer => exact .inr ⟨_, hlimit, rfl⟩
  | awaited _ _ ih => exact ih

/-- How an attempt to open a session at a URL fails: the request cannot be written, or it can and
the handshake fails. -/
inductive Endpoint.Fails (e : Endpoint) (url : Url) : Handshake → StreamError → Prop
  | unwritten {handshake : Handshake} {error : StreamError}
    (h : e.checkRequest url = .error error) : Fails e url handshake error
  | unanswered {handshake : Handshake} {error : StreamError}
    (hwritten : e.checkRequest url = .ok ()) (h : handshake.Fails e.connectLimit error) :
    Fails e url handshake error

theorem Endpoint.openTransport_eq_error {e : Endpoint} {url : Url} {handshake : Handshake}
    {error : StreamError} :
    e.openTransport url handshake = .error error ↔ e.Fails url handshake error := by
  constructor
  · intro h
    rcases Attempts.bind_eq_error.mp h with hcheck | ⟨_, hwritten, houtcome⟩
    · exact .unwritten hcheck
    · exact .unanswered hwritten (Handshake.outcome_eq_error.mp houtcome)
  · intro h
    cases h with
    | unwritten hcheck => exact Attempts.bind_eq_error.mpr (.inl hcheck)
    | unanswered hwritten hfails =>
      exact Attempts.bind_eq_error.mpr
        (.inr ⟨(), hwritten, Handshake.outcome_eq_error.mpr hfails⟩)

theorem Endpoint.Fails.error_eq {e : Endpoint} {url : Url} {handshake : Handshake}
    {error : StreamError} (h : e.Fails url handshake error) :
    (∃ reason, error = .connection reason) ∨
      ∃ duration, e.connectLimit = some duration ∧ error = .timeout duration := by
  cases h with
  | unwritten hcheck => exact .inl (checkRequest_error hcheck)
  | unanswered _ hfails => exact hfails.error_eq

namespace Client

variable {c : Client}

/-- Every frame that went out, over all sessions. -/
def sent (c : Client) : List Sent := (c.past ++ c.session.toList).flatMap Transport.sent

/-- Nothing has changed but that writes may have failed. -/
structure Unchanged (c next : Client) : Prop where
  endpoint : next.endpoint = c.endpoint
  phase : next.phase = c.phase
  session : Option.Rel Transport.Alike c.session next.session
  subscriptions : next.subscriptions = c.subscriptions
  past : next.past = c.past

theorem sent_of_session {t : Transport} (h : c.session = some t) :
    c.sent = c.past.flatMap Transport.sent ++ t.sent := by
  simp [sent, h]

theorem Unchanged.refl (c : Client) : Unchanged c c where
  endpoint := rfl
  phase := rfl
  session := by
    cases c.session with
    | none => exact .none
    | some t => exact .some ⟨rfl, rfl, rfl⟩
  subscriptions := rfl
  past := rfl

theorem unchanged_holding {t : Transport} (hsession : c.session = some t) {frame : Sent}
    {reason : String} (hfault : t.nextFault = some reason) :
    Unchanged c (c.holding (t.write frame)) where
  endpoint := rfl
  phase := rfl
  session := by
    rw [hsession]
    exact .some ⟨rfl, rfl, Transport.sent_write_of_fault hfault⟩
  subscriptions := rfl
  past := rfl

theorem Unchanged.sent_eq {next : Client} (h : Unchanged c next) : next.sent = c.sent := by
  have hsession : next.session.toList.flatMap Transport.sent =
      c.session.toList.flatMap Transport.sent := by
    have halike := h.session
    generalize c.session = before, next.session = after at halike ⊢
    cases halike with
    | none => rfl
    | some halike => simpa using halike.2.2
  rw [sent, sent, List.flatMap_append, List.flatMap_append, h.past, hsession]

/-- How a request ends, and with what client: it is written, and then phase and requests are as
given, or it is not and the client is the same. -/
inductive Requested (c : Client) (frame : Outbound) (phase : Phase)
    (subscriptions : Subscriptions) : Except StreamError Unit → Client → Prop
  | unheld (hsession : c.session = none) :
      Requested c frame phase subscriptions (.error .notConnected) c
  | fault {t : Transport} {reason : String} (hsession : c.session = some t)
      (hfault : t.nextFault = some reason) :
      Requested c frame phase subscriptions (.error (.transportClosed reason))
        (c.holding (t.write (.request frame)))
  | written {t : Transport} (hsession : c.session = some t) (hfault : t.nextFault = none) :
      Requested c frame phase subscriptions (.ok ())
        { c.holding (t.write (.request frame)) with phase, subscriptions }

theorem requested_then (c : Client) (frame : Outbound) (next : Client → Client)
    (notices : List Notice) {phase : Phase} {subscriptions : Subscriptions}
    (hnext : ∀ t, next (c.holding t) = { c.holding t with phase, subscriptions }) :
    let call := c.send frame
    let done := match call.result with
      | .error _ => call
      | .ok () => { call with client := next call.client, notices }
    Requested c frame phase subscriptions done.result done.client := by
  intro call done
  cases hsession : c.session with
  | none =>
    have hcall : call = ⟨.error .notConnected, c, []⟩ := by simp [call, send, hsession]
    simp only [done, hcall]
    exact .unheld hsession
  | some t =>
    cases hfault : t.nextFault with
    | some reason =>
      have hcall : call = ⟨.error (.transportClosed reason),
          c.holding (t.write (.request frame)), [.sending frame]⟩ := by
        simp [call, send, hsession, hfault, holding]
      simp only [done, hcall]
      exact .fault hsession hfault
    | none =>
      have hcall : call = ⟨.ok (), c.holding (t.write (.request frame)), [.sending frame]⟩ := by
        simp [call, send, hsession, hfault, holding]
      simp only [done, hcall, hnext]
      exact .written hsession hfault

theorem requested_subscribe (c : Client) (channel : Channel) :
    Requested c (.subscribe channel) (c.phase.after .subscribed) (c.subscriptions.request channel)
      (c.subscribe channel).result (c.subscribe channel).client :=
  c.requested_then (.subscribe channel)
    (fun client =>
      { client.enter .subscribed with subscriptions := c.subscriptions.request channel })
    _ fun _ => rfl

theorem requested_unsubscribe (c : Client) (channel : Channel) :
    Requested c (.unsubscribe channel) c.phase (c.subscriptions.remove channel)
      (c.unsubscribe channel).result (c.unsubscribe channel).client :=
  c.requested_then (.unsubscribe channel)
    (fun client => { client with subscriptions := c.subscriptions.remove channel })
    _ fun _ => rfl

namespace Requested
variable {frame : Outbound} {phase : Phase} {subscriptions : Subscriptions}
  {result : Except StreamError Unit} {next : Client}
  (h : Requested c frame phase subscriptions result next)
include h

theorem result_of_unheld (hsession : c.session = none) : result = .error .notConnected := by
  cases h with
  | unheld => rfl
  | fault hheld | written hheld => simp [hsession] at hheld

theorem result_of_held {t : Transport} (hsession : c.session = some t) :
    result = match t.nextFault with
      | some reason => .error (.transportClosed reason)
      | none => .ok () := by
  cases h with
  | unheld hnone => simp [hsession] at hnone
  | fault hheld hfault | written hheld hfault =>
    obtain rfl := Option.some.inj (hsession.symm.trans hheld)
    rw [hfault]

theorem unchanged {error : StreamError} (herror : result = .error error) : Unchanged c next := by
  cases h with
  | unheld => exact .refl c
  | fault hsession hfault => exact unchanged_holding hsession hfault
  | written => cases herror

theorem of_ok (hok : result = .ok ()) :
    next.sent = c.sent ++ [.request frame] ∧ next.phase = phase ∧
      next.subscriptions = subscriptions ∧
      ∃ t, c.session = some t ∧ next.session = some (t.write (.request frame)) := by
  cases h with
  | unheld | fault => cases hok
  | @written t hsession hfault =>
    refine ⟨?_, rfl, rfl, t, hsession, rfl⟩
    rw [sent_of_session hsession, List.append_assoc, ← Transport.sent_write_of_none hfault]
    exact sent_of_session rfl

theorem subscriptions_eq :
    next.subscriptions = c.subscriptions ∨ next.subscriptions = subscriptions := by
  cases h with
  | unheld | fault => exact .inl rfl
  | written => exact .inr rfl

theorem endpoint_eq : next.endpoint = c.endpoint := by
  cases h <;> rfl

end Requested

/-- What a request for a channel comes to. -/
structure RequestEffect (c : Client) (frame : Outbound) (kind : String) (channel : Channel)
    (call : Call (Except StreamError Unit)) : Prop where
  text : frame.text =
    "\x7b\"type\":\"" ++ kind ++ "\",\"channel\":\"" ++ channel.text ++ "\"\x7d"
  unheld : c.session = none → call.result = .error .notConnected
  fault : ∀ t reason, c.session = some t → t.nextFault = some reason →
    call.result = .error (.transportClosed reason)
  accepted : ∀ t, c.session = some t → t.nextFault = none → call.result = .ok ()
  failed : ∀ error, call.result = .error error →
    Unchanged c call.client ∧ call.client.sent = c.sent
  written : call.result = .ok () →
    call.client.sent = c.sent ++ [.request frame] ∧
      ∃ t, c.session = some t ∧ call.client.session = some (t.write (.request frame))
  /-- No entry differs but that of the channel. -/
  others : call.client.subscriptions.entries.filter (fun entry => entry.1 != channel) =
    c.subscriptions.entries.filter fun entry => entry.1 != channel

/-- Both requests come to what their rule says. They differ in the name of their kind and in what
they make of the one channel. -/
theorem Requested.effect {frame : Outbound} {phase : Phase} {subscriptions : Subscriptions}
    {call : Call (Except StreamError Unit)} {kind : String} {channel : Channel}
    (h : Requested c frame phase subscriptions call.result call.client)
    (hframe : frame.toValue = Outbound.request kind channel)
    (hkind : kind.toList.all Json.isVerbatim = true)
    (hothers : subscriptions.entries.filter (fun entry => entry.1 != channel) =
      c.subscriptions.entries.filter fun entry => entry.1 != channel) :
    RequestEffect c frame kind channel call where
  text := by
    rw [Outbound.text, hframe]
    exact Outbound.text_request hkind channel
  unheld := h.result_of_unheld
  fault := by
    intro t reason hsession hfault
    rw [h.result_of_held hsession, hfault]
  accepted := by
    intro t hsession hfault
    rw [h.result_of_held hsession, hfault]
  failed := by
    intro error herror
    have hsame := h.unchanged herror
    exact ⟨hsame, hsame.sent_eq⟩
  written := by
    intro hok
    obtain ⟨hsent, -, -, hheld⟩ := h.of_ok hok
    exact ⟨hsent, hheld⟩
  others := by
    rcases h.subscriptions_eq with hsame | hnext
    · rw [hsame]
    · rw [hnext, hothers]

theorem endpoint_run {σ : Type} (c : Client) (handler : Handler σ) (state : σ)
    (shutdown : Shutdown) : (c.run handler state shutdown).client.endpoint = c.endpoint := by
  cases hsession : c.session with
  | none => simp [run, hsession]
  | some t =>
    rw [(run_held hsession handler state shutdown).2.1]
    unfold leave
    split <;> rfl

theorem endpoint_connect (c : Client) (handshake : Handshake) :
    (c.connect handshake).client.endpoint = c.endpoint := by
  unfold connect
  split
  · rfl
  · cases c.endpoint.url with
    | error error => rfl
    | ok url => cases hanswer : c.endpoint.openTransport url handshake <;> simp [hanswer, enter]

theorem endpoint_after (c : Client) (action : Action) :
    (c.after action).endpoint = c.endpoint := by
  cases action with
  | connect handshake => exact c.endpoint_connect handshake
  | subscribe channel => exact (c.requested_subscribe channel).endpoint_eq
  | unsubscribe channel => exact (c.requested_unsubscribe channel).endpoint_eq
  | run handler state shutdown => exact c.endpoint_run handler state shutdown
  | close =>
    simp only [after, close]
    split <;> rfl

/-- An open session was dialled, so there is a URL to dial. -/
def Dialled (c : Client) : Prop := c.session.isSome = true → ∃ url, c.endpoint.url = .ok url

theorem url_of_connected {action : Action} (h : c.success? action = some .connected) :
    ∃ url, c.endpoint.url = .ok url := by
  cases action with
  | connect handshake =>
    cases hresult : (c.connect handshake).result with
    | error error => simp [success?, hresult, Except.isOk, Except.toBool] at h
    | ok => exact (connect_of_ok hresult).2
  | subscribe | unsubscribe | run | close => simp [success?] at h

theorem Dialled.after (h : c.Dialled) (action : Action) : (c.after action).Dialled := by
  intro hheld
  rw [endpoint_after]
  have hmove := c.move_after action
  generalize hsuccess : c.success? action = success at hmove
  cases hmove with
  | still _ hsame => exact h (hsame.symm.trans hheld)
  | refused _ hnone | ended _ hnone => simp [hnone] at hheld
  | opened => exact url_of_connected hsuccess
  | subscribed _ hbefore | unsubscribed _ hbefore => exact h hbefore

theorem dialled_afterAll (endpoint : Endpoint) (actions : List Action) :
    ((start endpoint).afterAll actions).Dialled := by
  induction actions using List.reverseRecOn with
  | nil =>
    intro hheld
    cases hheld
  | append_singleton actions action ih =>
    rw [afterAll_concat]
    exact ih.after action

theorem connect_of_held (hheld : c.session.isSome = true) (handshake : Handshake) :
    c.connect handshake = ⟨.error .alreadyConnected, c, []⟩ := by
  rw [connect, if_pos hheld]

theorem connect_of_url_error {error : StreamError} (hsession : c.session = none)
    (hurl : c.endpoint.url = .error error) (handshake : Handshake) :
    c.connect handshake = ⟨.error error, c, []⟩ := by
  simp [connect, hsession, hurl]

theorem connect_of_fails {error : StreamError} {handshake : Handshake} {url : Url}
    (hsession : c.session = none) (hurl : c.endpoint.url = .ok url)
    (h : c.endpoint.Fails url handshake error) :
    (c.connect handshake).result = .error error ∧
      (c.connect handshake).client = { c with phase := .disconnected } := by
  have hanswer := Endpoint.openTransport_eq_error.mpr h
  simp [connect, hsession, hurl, hanswer, enter, Phase.after]

theorem fails_of_connect {error : StreamError} {handshake : Handshake} {url : Url}
    (hsession : c.session = none) (hurl : c.endpoint.url = .ok url)
    (h : (c.connect handshake).result = .error error) : c.endpoint.Fails url handshake error := by
  rw [← Endpoint.openTransport_eq_error]
  cases hanswer : c.endpoint.openTransport url handshake with
  | ok transport => simp [connect, hsession, hurl, hanswer] at h
  | error other => simpa [connect, hsession, hurl, hanswer] using h

theorem closed_close (c : Client) :
    c.close.client.phase = .closed ∧ c.close.client.session = none ∧
      c.close.client.subscriptions = c.subscriptions := by
  unfold close
  cases hsession : c.session with
  | none => exact ⟨rfl, hsession, rfl⟩
  | some t => exact ⟨rfl, rfl, rfl⟩

/-- Without a session nothing but the phase changes until one is opened. -/
theorem after_of_not_connected {action : Action} (hsession : c.session = none)
    (hsuccess : c.success? action ≠ some .connected) :
    ∃ phase, c.after action = { c with phase } := by
  by_cases hdials : action.dials c.endpoint = true
  · cases action with
    | connect handshake =>
      cases hurl : c.endpoint.url with
      | error error => simp [Action.dials, hurl, Except.isOk, Except.toBool] at hdials
      | ok url =>
        cases hresult : (c.connect handshake).result with
        | ok => simp [success?, hresult, Except.isOk, Except.toBool] at hsuccess
        | error error =>
          have hfails := fails_of_connect hsession hurl hresult
          exact ⟨.disconnected, (connect_of_fails hsession hurl hfails).2⟩
    | subscribe | unsubscribe | run | close => cases hdials
  · rcases after_of_not_held hsession (by simpa using hdials) with hsame | hclosed
    · exact ⟨c.phase, hsame⟩
    · exact ⟨.closed, hclosed⟩

theorem afterAll_of_not_connected {actions : List Action} (hsession : c.session = none)
    (hsuccesses : .connected ∉ c.successes actions) :
    ∃ phase, c.afterAll actions = { c with phase } := by
  induction actions generalizing c with
  | nil => exact ⟨c.phase, rfl⟩
  | cons action rest ih =>
    rw [successes, List.mem_append, not_or, Option.mem_toList] at hsuccesses
    obtain ⟨first, hfirst⟩ := after_of_not_connected hsession hsuccesses.1
    have hrest := hsuccesses.2
    rw [hfirst] at hrest
    obtain ⟨phase, hphase⟩ := ih (c := { c with phase := first }) hsession hrest
    refine ⟨phase, ?_⟩
    rw [show c.afterAll (action :: rest) = (c.after action).afterAll rest from rfl, hfirst, hphase]

/-- A client that was closed, and may have failed to connect since, is closed again in silence. -/
theorem close_of_closed (hphase : c.phase = .closed) (hsession : c.session = none) (phase : Phase) :
    { c with phase := phase }.close = ⟨(), c, []⟩ := by
  obtain ⟨endpoint, before, session, subscriptions, past⟩ := c
  obtain rfl : before = .closed := hphase
  obtain rfl : session = none := hsession
  rfl

/-- How the calls of a client end and what each leaves behind. -/
structure CallEffects (c : Client) : Prop where
  subscribe : ∀ channel,
    RequestEffect c (.subscribe channel) "subscribe" channel (c.subscribe channel)
  unsubscribe : ∀ channel,
    RequestEffect c (.unsubscribe channel) "unsubscribe" channel (c.unsubscribe channel)
  /-- An active channel stays active. One that was not listed is pending. -/
  subscribed : ∀ channel, (c.subscribe channel).result = .ok () →
    (c.subscribe channel).client.phase = .streaming ∧
      (c.subscribe channel).client.subscriptions.status? channel =
        some ((c.subscriptions.status? channel).getD .pending)
  unsubscribed : ∀ channel, (c.unsubscribe channel).result = .ok () →
    (c.unsubscribe channel).client.phase = c.phase ∧
      (c.unsubscribe channel).client.subscriptions.status? channel = none
  /-- The server is not asked, so its answer makes no difference. -/
  connect_held : c.session.isSome = true →
    ∀ handshake, c.connect handshake = ⟨.error .alreadyConnected, c, []⟩
  connect_without_url : ∀ error, c.endpoint.url = .error error →
    (∃ reason, error = .connection reason) ∧
      ∀ handshake, c.connect handshake = ⟨.error error, c, []⟩
  /-- A refused handshake, a late one and a request that cannot be written are the failures. -/
  connect_fails : ∀ url handshake error, c.session = none → c.endpoint.url = .ok url →
    ((c.connect handshake).result = .error error ↔ c.endpoint.Fails url handshake error) ∧
      (c.endpoint.Fails url handshake error →
        (c.connect handshake).client = { c with phase := .disconnected } ∧
          ((∃ reason, error = .connection reason) ∨
            ∃ duration, c.endpoint.connectLimit = some duration ∧ error = .timeout duration))
  closed : c.close.client.phase = .closed ∧ c.close.client.session = none ∧
    c.close.client.subscriptions = c.subscriptions
  /-- Until a session is opened there is nothing to say goodbye to. -/
  closed_again : ∀ more : List Action, .connected ∉ c.close.client.successes more →
    (c.close.client.afterAll more).close = ⟨(), c.close.client, []⟩

/-- Whatever was called before and however a write or a handshake comes out, a call that fails
changes nothing beyond what is said of it, and a request that succeeds is one frame. -/
theorem call_effects (endpoint : Endpoint) (actions : List Action) :
    CallEffects ((start endpoint).afterAll actions) := by
  have hconsistent := consistent_afterAll endpoint actions
  have hdialled := dialled_afterAll endpoint actions
  generalize (start endpoint).afterAll actions = c at hconsistent hdialled ⊢
  refine
    { subscribe := fun channel => ?subscribe
      unsubscribe := fun channel => ?unsubscribe
      subscribed := fun channel hok => ?subscribed
      unsubscribed := fun channel hok => ?unsubscribed
      connect_held := connect_of_held
      connect_without_url := fun error hurl => ?url
      connect_fails := fun url handshake error hsession hurl => ?fails
      closed := c.closed_close
      closed_again := fun more hmore => ?again }
  case subscribe =>
    exact (c.requested_subscribe channel).effect rfl rfl (c.subscriptions.others_request channel)
  case unsubscribe =>
    exact (c.requested_unsubscribe channel).effect rfl rfl (c.subscriptions.others_remove channel)
  case subscribed =>
    obtain ⟨-, hphase, hsubscriptions, t, hsession, -⟩ :=
      (c.requested_subscribe channel).of_ok hok
    refine ⟨?_, ?_⟩
    · rw [hphase]
      rcases hconsistent.held_iff.mp (by rw [hsession]; rfl) with h | h <;> rw [h] <;> rfl
    · rw [hsubscriptions, Subscriptions.status?_request_self]
  case unsubscribed =>
    obtain ⟨-, hphase, hsubscriptions, -⟩ := (c.requested_unsubscribe channel).of_ok hok
    refine ⟨hphase, ?_⟩
    rw [hsubscriptions, Subscriptions.status?_remove, if_pos rfl]
  case url =>
    have hsession : c.session = none := by
      rw [← Option.not_isSome_iff_eq_none]
      intro hheld
      obtain ⟨url, hok⟩ := hdialled hheld
      simp [hurl] at hok
    exact ⟨Endpoint.url_error hurl, connect_of_url_error hsession hurl⟩
  case fails =>
    refine ⟨⟨fails_of_connect hsession hurl, fun h => (connect_of_fails hsession hurl h).1⟩, ?_⟩
    exact fun h => ⟨(connect_of_fails hsession hurl h).2, h.error_eq⟩
  case again =>
    obtain ⟨hphase, hsession, -⟩ := c.closed_close
    obtain ⟨phase, hlater⟩ := afterAll_of_not_connected hsession hmore
    rw [hlater]
    exact close_of_closed hphase hsession phase

/-- The second frame on a session cannot be written. Without a session the server refuses, or it
accepts too late. -/
theorem call_effects_of_failures :
    let endpoint := Endpoint.plain "[::1]" ⟨9001, by decide, by decide⟩
    let channel := Channel.ofMarket .trade ⟨0, by decide, by decide⟩
    let t := Transport.fresh [] fun n => if n = 1 then some "gone" else none
    let held := (start endpoint).afterAll [.connect (.accepted t), .subscribe channel]
    let closed := (start endpoint).afterAll [.connect (.accepted t), .subscribe channel, .close]
    let refused := closed.connect (.refused "full")
    let late := closed.connect (.late (.accepted t))
    ((held.subscribe channel).result = .error (.transportClosed "gone") ∧
        Unchanged held (held.subscribe channel).client ∧
        held.subscriptions.status? channel = some .pending) ∧
      held.connect (.refused "full") = ⟨.error .alreadyConnected, held, []⟩ ∧
      (closed.subscribe channel).result = .error .notConnected ∧
      (refused.result = .error (.connection "full") ∧
        refused.client = { closed with phase := .disconnected }) ∧
      (late.result = .error (.timeout (.ofSeconds 10)) ∧
        late.client = { closed with phase := .disconnected }) ∧
      refused.client.close = ⟨(), closed, []⟩ := by
  intro endpoint channel t held closed refused late
  have hheld := call_effects endpoint [.connect (.accepted t), .subscribe channel]
  have hclosed := call_effects endpoint [.connect (.accepted t), .subscribe channel, .close]
  have hendpoint : closed.endpoint = endpoint := by
    rw [show closed.endpoint = held.endpoint from held.endpoint_after .close]
    exact (endpoint_after _ (.subscribe channel)).trans (endpoint_connect _ _)
  have hsession : closed.session = none := held.closed_close.2.1
  obtain ⟨url, hurl, hwritten⟩ :
      ∃ url, endpoint.url = .ok url ∧ endpoint.checkRequest url = .ok () :=
    Attempts.bind_eq_ok.mp (Attempts.toOption_eq_some.mp (by decide +kernel))
  have hfails : ∀ handshake error, handshake.Fails (some (.ofSeconds 10)) error →
      (closed.connect handshake).result = .error error ∧
        (closed.connect handshake).client = { closed with phase := .disconnected } := by
    intro handshake error hhandshake
    have hfailed : closed.endpoint.Fails url handshake error := by
      rw [hendpoint]
      exact .unanswered hwritten hhandshake
    obtain ⟨hresult, hclient⟩ :=
      hclosed.connect_fails url handshake error hsession (by rw [hendpoint, hurl])
    exact ⟨hresult.mpr hfailed, (hclient hfailed).1⟩
  obtain ⟨u, hheldOn, hfault⟩ : ∃ u, held.session = some u ∧ u.nextFault = some "gone" := by
    have hsome : held.session.bind Transport.nextFault = some "gone" := by decide +kernel
    exact Option.bind_eq_some_iff.mp hsome
  have hwrite := (hheld.subscribe channel).fault u "gone" hheldOn hfault
  have hagain := hheld.closed_again [.connect (.refused "full")] (by decide +kernel)
  exact ⟨⟨hwrite, ((hheld.subscribe channel).failed _ hwrite).1, by decide +kernel⟩,
    hheld.connect_held (by rw [hheldOn]; rfl) _, (hclosed.subscribe channel).unheld hsession,
    hfails _ _ (.refused "full"), hfails _ _ (.late rfl (.accepted t)), hagain⟩

end Client
end MarketFeed

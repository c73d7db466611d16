import MarketFeed.Client.Run

/-!
# The effect of a reading

A reading goes through decoding, the request list, the dispatch to the handler and the answer to the
server, but what it does to a run is one of four things: nothing, a delivery to the handler, a ping
to be answered, or the end. The effect is told by the reading and the limit alone; the run and the
handler only decide what comes of it. Notices are the one thing that is left out of it.

Every statement about whole runs goes by these effects, so the functions that take a reading apart
are opened in this module and nowhere else.
-/
namespace MarketFeed

inductive Effect where
  | nothing
  | delivery (kind : FrameKind) (event : MarketEvent)
  | ping
  | ending (result : Except StreamError StopReason)

def Inbound.effect : Inbound → Effect
  | .market kind event => .delivery kind event
  | .ping => .ping
  | .connected | .error _ | .unknown _ => .nothing

def Reading.effect (limit : Option Duration) (reading : Reading) : Effect :=
  match reading with
  | .close _ => .ending (.ok .peerClosed)
  | .failed reason => .ending (.error (.transportClosed reason))
  | .silence =>
    match limit with
    | some limit => .ending (.error (.timeout limit))
    | none => .nothing
  | reading => (reading.message?.map Inbound.effect).getD .nothing

/-- The call of the handler that an effect makes. -/
def Effect.delivery? : Effect → Option (FrameKind × MarketEvent)
  | delivery kind event => some (kind, event)
  | _ => none

/-- What is written for an effect, if it can be written. -/
def Effect.answer? : Effect → Option Write
  | ping => some ⟨.request .pong, none⟩
  | _ => none

def Reading.answer? (reading : Reading) : Option Write :=
  match reading.message? with
  | some .ping => some ⟨.request .pong, none⟩
  | _ => none

def Effect.isEnding : Effect → Bool
  | ending _ => true
  | _ => false

/-- Only a snapshot confirms a request. -/
def Subscriptions.see (s : Subscriptions) : FrameKind × MarketEvent → Subscriptions
  | (.snapshot, event) => s.confirm event
  | (.update, _) => s

/-- An effect on a run, with the result of the run if it ends there. -/
def Running.undergo {σ : Type} (handler : Handler σ) (r : Running σ) :
    Effect → Running σ × Option (Except StreamError StopReason)
  | .nothing => (r, none)
  | .delivery kind event =>
    ({ r with
        subscriptions := r.subscriptions.see (kind, event)
        state := (handler r.state kind event).1 }, none)
  | .ping =>
    ({ r with transport := r.transport.write (.request .pong) },
      r.transport.nextFault.map fun reason => .error (.transportClosed reason))
  | .ending result => (r, some result)

variable {σ : Type}

/-- Among the errors that come of a text only that of an answer is fatal. -/
theorem Running.takeText_effect (handler : Handler σ) (r : Running σ) (s : String) :
    ((r.takeText handler s).running, (r.takeText handler s).ending) =
      r.undergo handler (((Inbound.decode s).toOption.map Inbound.effect).getD .nothing) := by
  unfold takeText handleText
  cases Inbound.decode s with
  | error error => rfl
  | ok message =>
    cases message with
    | connected => rfl
    | ping =>
      simp only [handleMessage, confirm, dispatch, reply, Except.toOption, Option.map_some,
        Option.getD_some, Inbound.effect, undergo]
      cases r.transport.nextFault <;> rfl
    | market kind event => cases kind <;> rfl
    | error error => rfl
    | unknown type => rfl

theorem Running.take_effect (handler : Handler σ) (limit : Option Duration) (r : Running σ)
    (reading : Reading) :
    ((r.take handler limit reading).running, (r.take handler limit reading).ending) =
      r.undergo handler (reading.effect limit) := by
  cases reading with
  | text s => exact r.takeText_effect handler s
  | binary octets =>
    simp only [take, Reading.effect, Reading.message?, Reading.text?]
    cases Text.Utf8.decode octets with
    | error fault => rfl
    | ok s => exact r.takeText_effect handler s
  | keepalive => rfl
  | close reason => rfl
  | failed reason => rfl
  | silence => cases limit <;> rfl

/-- The effects of readings which are not the end by themselves are those of their messages. -/
theorem Reading.effect_cases (limit : Option Duration) (reading : Reading) :
    reading.effect limit = ((reading.message?).map Inbound.effect).getD .nothing ∨
      reading.message? = none ∧
        ∃ result, result ≠ .ok .cancelled ∧ reading.effect limit = .ending result := by
  cases reading with
  | text s => exact .inl rfl
  | binary octets => exact .inl rfl
  | keepalive => exact .inl rfl
  | close reason => exact .inr ⟨rfl, .ok .peerClosed, by simp, rfl⟩
  | failed reason => exact .inr ⟨rfl, .error (.transportClosed reason), by simp, rfl⟩
  | silence =>
    cases limit with
    | none => exact .inl rfl
    | some limit => exact .inr ⟨rfl, .error (.timeout limit), by simp, rfl⟩

theorem Reading.delivery?_effect (limit : Option Duration) (reading : Reading) :
    (reading.effect limit).delivery? = reading.event? := by
  unfold event?
  obtain heffect | ⟨hmessage, result, -, heffect⟩ := reading.effect_cases limit
  · rw [heffect]
    cases reading.message? with
    | none => rfl
    | some message => cases message <;> rfl
  · rw [heffect, hmessage]
    rfl

theorem Reading.answer?_effect (limit : Option Duration) (reading : Reading) :
    (reading.effect limit).answer? = reading.answer? := by
  unfold answer?
  obtain heffect | ⟨hmessage, result, -, heffect⟩ := reading.effect_cases limit
  · rw [heffect]
    cases reading.message? with
    | none => rfl
    | some message => cases message <;> rfl
  · rw [heffect, hmessage]
    rfl

theorem Reading.effect_ne_cancelled (limit : Option Duration) (reading : Reading) :
    reading.effect limit ≠ .ending (.ok .cancelled) := by
  obtain heffect | ⟨-, result, hresult, heffect⟩ := reading.effect_cases limit
  · rw [heffect]
    cases reading.message? with
    | none => simp
    | some message => cases message <;> simp [Inbound.effect]
  · rw [heffect]
    simpa using hresult

theorem Running.undergo_ne_cancelled (handler : Handler σ) (limit : Option Duration)
    (r : Running σ) (reading : Reading) :
    (r.undergo handler (reading.effect limit)).2 ≠ some (.ok .cancelled) := by
  have hreading := reading.effect_ne_cancelled limit
  cases heffect : reading.effect limit with
  | nothing => simp [undergo]
  | delivery kind event => simp [undergo]
  | ping => cases h : r.transport.nextFault <;> simp [undergo, h]
  | ending result =>
    rw [heffect] at hreading
    simpa [undergo] using hreading

end MarketFeed

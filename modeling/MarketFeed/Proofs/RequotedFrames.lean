import MarketFeed.Client.Run
import MarketFeed.Proofs.DecimalFields
import MarketFeed.Proofs.FrameClasses
import MarketFeed.Proofs.ListedPayloads

/-!
# Frames with integers in quotation marks

In a frame the payload is read as a value first, and the type or the channel says what is decoded
from it. So integers may be put in quotation marks where the payload of that topic has decimals:
the frame is decoded to the same message or refused for the same reason. A run cannot tell either,
for it sees of its frames only what they are decoded to.
-/
namespace MarketFeed

open Attempts (Both)
open Json (Decoder Document Member Requoted Value whole)

/-- A payload of a topic with integers in quotation marks: a book, a list of entries, or an object
that stands for a single entry. -/
inductive PayloadRequoted : Topic → List Char → List Char → Prop
  | book {t u : List Char} (h : Requoted OrderBook.decoder t u) : PayloadRequoted .orderBook t u
  | entries {α : Type} {listing : Listing α} {t u : List Char}
    (h : Requoted (.list listing.decoder) ('[' :: t) ('[' :: u)) :
    PayloadRequoted listing.topic ('[' :: t) ('[' :: u)
  | entry {α : Type} {listing : Listing α} {t u : List Char}
    (h : Requoted listing.decoder ('{' :: t) ('{' :: u)) :
    PayloadRequoted listing.topic ('{' :: t) ('{' :: u)

/-- Two values in the place of a payload of which a topic makes the same. -/
def Payload.Agree (topic : Topic) (v w : Option Value) : Prop :=
  (v = none ↔ w = none) ∧ Payload.read topic v = Payload.read topic w

theorem Payload.Agree.refl (topic : Topic) (v : Option Value) : Payload.Agree topic v v :=
  ⟨Iff.rfl, rfl⟩

theorem Listing.read_eq {α : Type} (listing : Listing α) (v : Option Value) :
    Payload.read listing.topic v =
      (Inbound.decodeMany listing.decoder v).map listing.payload := by
  cases listing <;> rfl

theorem Payload.agree_book {v w : Value} (h : OrderBook.decoder.Agrees v w) :
    Payload.Agree .orderBook v.toOption w.toOption := by
  by_cases hv : v = .null
  · obtain rfl : v = w := hv.trans (h.null.mp hv).symm
    exact .refl .orderBook v.toOption
  · have hread : ∀ x : Value, x ≠ .null → x.toOption = some x ∧
        Payload.read .orderBook (some x) =
          ((OrderBook.decoder.ofValue x).mapError FrameError.document).map Payload.book := by
      intro x hx
      cases x <;> first | exact absurd rfl hx | exact ⟨rfl, rfl⟩
    obtain ⟨hsome, hbook⟩ := hread v hv
    obtain ⟨hsome', hbook'⟩ := hread w (mt h.null.mpr hv)
    rw [hsome, hsome']
    exact ⟨by simp, by rw [hbook, hbook', h.ofValue]⟩

theorem Listing.agree_array {α : Type} (listing : Listing α) {vs ws : List Value}
    (h : (Decoder.list listing.decoder).Agrees (.array vs) (.array ws)) :
    Payload.Agree listing.topic (Value.array vs).toOption (Value.array ws).toOption := by
  refine ⟨by simp [Value.toOption], ?_⟩
  have hvalues : vs.mapM listing.decoder.ofValue = ws.mapM listing.decoder.ofValue := h.ofValue
  simp only [listing.read_eq, Value.toOption, Inbound.decodeMany, hvalues]

theorem Listing.agree_object {α : Type} (listing : Listing α) {ms ns : List (String × Value)}
    (h : listing.decoder.Agrees (.object ms) (.object ns)) :
    Payload.Agree listing.topic (Value.object ms).toOption (Value.object ns).toOption := by
  refine ⟨by simp [Value.toOption], ?_⟩
  simp only [listing.read_eq, Value.toOption, Inbound.decodeMany, h.ofValue]

namespace PayloadRequoted

variable {topic : Topic} {t u : List Char}

theorem documents (h : PayloadRequoted topic t u) : Document t ∧ Document u := by
  cases h with
  | book h | entries h | entry h => exact h.alike.documents

theorem exists_array {s : List Char} {depth : Nat} {v : Value}
    (h : whole (Json.value depth) ('[' :: s) = .ok v) : ∃ vs, v = .array vs := by
  cases depth with
  | zero => cases h
  | succ depth =>
    rw [whole, Json.value, Json.valueWith_array] at h
    obtain ⟨p, hp, rfl⟩ := Attempts.map_eq_ok.mp h
    obtain ⟨q, -, rfl⟩ := Attempts.map_eq_ok.mp hp
    exact ⟨q.1, rfl⟩

theorem exists_object {s : List Char} {depth : Nat} {v : Value}
    (h : whole (Json.value depth) ('{' :: s) = .ok v) : ∃ ms, v = .object ms := by
  cases depth with
  | zero => cases h
  | succ depth =>
    rw [whole, Json.value, Json.valueWith_object] at h
    obtain ⟨p, hp, rfl⟩ := Attempts.map_eq_ok.mp h
    obtain ⟨q, -, rfl⟩ := Attempts.map_eq_ok.mp hp
    exact ⟨q.1, rfl⟩

/-- A topic makes the same of the values of both payloads. -/
theorem both (h : PayloadRequoted topic t u) (depth : Nat) :
    Both (fun v w : Value => Payload.Agree topic v.toOption w.toOption) (whole (Json.value depth) t)
      (whole (Json.value depth) u) := by
  cases h with
  | book h => exact (h.alike.value depth).imp fun v w hvw => Payload.agree_book hvw
  | @entries α listing t u h =>
    refine (h.alike.value depth).imp_of_ok fun v w hv hw hvw => ?_
    obtain ⟨vs, rfl⟩ := exists_array hv
    obtain ⟨ws, rfl⟩ := exists_array hw
    exact listing.agree_array hvw
  | @entry α listing t u h =>
    refine (h.alike.value depth).imp_of_ok fun v w hv hw hvw => ?_
    obtain ⟨ms, rfl⟩ := exists_object hv
    obtain ⟨ns, rfl⟩ := exists_object hw
    exact listing.agree_object hvw

end PayloadRequoted

/-- Envelopes that differ in their payloads at most, and of these the topic makes the same. -/
structure Envelope.Alike (topic : Topic) (e e' : Envelope) : Prop where
  kind : e.kind = e'.kind
  channel : e.channel = e'.channel
  data : Payload.Agree topic e.data e'.data
  orderBook : Payload.Agree topic e.orderBook e'.orderBook

theorem Json.Field.gives_of {α β : Type} {name : String} {d : Decoder β} {set : β → α → α}
    {aliases : List String} {g : α → α} (h : (Field.of name d set aliases).update.Gives g) :
    ∃ b, d.Gives b ∧ set b = g := Decoder.gives_of_map h

namespace Envelope.Alike

variable {topic : Topic} {e e' : Envelope}

theorem refl (topic : Topic) (e : Envelope) : e.Alike topic e := ⟨rfl, rfl, .refl _ _, .refl _ _⟩

theorem indicates (h : e.Alike topic e') {c : Inbound.Class} (hc : e.Indicates c) :
    e'.Indicates c := by
  obtain ⟨kind, channel, data, orderBook⟩ := e
  obtain ⟨kind', channel', data', orderBook'⟩ := e'
  obtain rfl : kind = kind' := h.kind
  obtain rfl : channel = channel' := h.channel
  cases hc with
  | connected h => exact .connected h
  | ping h => exact .ping h
  | error h => exact .error h
  | typed h => exact .typed h
  | fallback h => exact .fallback h
  | unknown hkind hchannel => exact .unknown hkind hchannel

theorem decodePayload_eq (h : e.Alike topic e') :
    Inbound.decodePayload topic e = Inbound.decodePayload topic e' := by
  cases topic with
  | orderBook =>
    have hread : ∀ e : Envelope, Inbound.decodePayload .orderBook e =
      Payload.read .orderBook (e.orderBook.or e.data) := fun _ => rfl
    rw [hread, hread]
    -- a book in its own place comes first, so both places have to be filled alike
    cases hbook : e.orderBook with
    | none =>
      rw [h.orderBook.1.mp hbook]
      exact h.data.2
    | some v =>
      cases hbook' : e'.orderBook with
      | none =>
        rw [h.orderBook.1.mpr hbook'] at hbook
        cases hbook
      | some w =>
        have hplace := h.orderBook.2
        rw [hbook, hbook'] at hplace
        exact hplace
  | trade => exact h.data.2
  | marketStats => exact h.data.2

/-- What a member other than the payload changes, it changes on both sides. -/
theorem update (h : e.Alike topic e') {f : Json.Field Envelope} (hf : f ∈ record.fields)
    {g : Envelope → Envelope} (hg : f.update.Gives g) : (g e).Alike topic (g e') := by
  simp only [record, List.mem_cons, List.not_mem_nil, or_false] at hf
  rcases hf with rfl | rfl | rfl | rfl <;> obtain ⟨part, -, rfl⟩ := Json.Field.gives_of hg
  · exact ⟨rfl, h.channel, h.data, h.orderBook⟩
  · exact ⟨h.kind, rfl, h.data, h.orderBook⟩
  · exact ⟨h.kind, h.channel, .refl topic part, h.orderBook⟩
  · exact ⟨h.kind, h.channel, h.data, .refl topic part⟩

end Envelope.Alike

/-- Drafts that have seen the same and are alike so far. -/
def Envelope.DraftAlike (topic : Topic) (draft draft' : Json.Record.Draft Envelope) : Prop :=
  draft.seen = draft'.seen ∧ draft.value.Alike topic draft'.value

/-- Where the payload of a topic may stand. -/
def PayloadKey (topic : Topic) (key : String) : Prop :=
  key = "data" ∨ topic = .orderBook ∧ key = "order_book"

namespace Envelope

variable {topic : Topic} {m : Member} {t : List Char} {draft draft' : Json.Record.Draft Envelope}

theorem both_takeText (h : DraftAlike topic draft draft') (m : Member) :
    Both (DraftAlike topic) (record.takeText 126 draft m) (record.takeText 126 draft' m) := by
  unfold Json.Record.takeText
  rw [← h.1]
  cases hfield : record.field? m.key with
  | none => exact .ok h
  | some f =>
    simp only
    split_ifs
    · exact .error _
    · cases hread : whole (f.update.read 126) m.value.core with
      | error fault => exact .error fault
      | ok g =>
        exact .ok ⟨rfl,
          h.2.update (List.mem_of_find?_eq_some hfield) (Json.gives_of_whole hread)⟩

/-- What a payload stores, with the quotation marks and without them. -/
theorem both_stored {u : List Char} (h : PayloadRequoted topic t u) (name : String)
    (set : Option Value → Envelope → Envelope) (aliases : List String) :
    let f := Json.Field.of name (.optional .any) set aliases
    Both (fun g g' => ∃ v w, Payload.Agree topic v w ∧ g = set v ∧ g' = set w)
      (whole (f.update.read 126) t) (whole (f.update.read 126) u) := by
  intro f
  have hany : ∀ t, Document t → whole (f.update.read 126) t =
      ((whole (Json.value 126) t).map Value.toOption).map set := by
    intro t ht
    rw [show f.update = (Decoder.optional .any).map set from rfl, Decoder.whole_map,
      Json.whole_optional_any ht]
  rw [hany t h.documents.1, hany u h.documents.2]
  exact ((h.both 126).map fun _ _ hvw => hvw).map fun v w hvw => ⟨v, w, hvw, rfl, rfl⟩

theorem both_takeText_payload (hkey : PayloadKey topic m.key)
    (h : PayloadRequoted topic m.value.core t) (hdraft : DraftAlike topic draft draft') :
    Both (DraftAlike topic) (record.takeText 126 draft m)
      (record.takeText 126 draft' (m.replace t)) := by
  obtain ⟨f, hfield, hstored⟩ : ∃ f, record.field? m.key = some f ∧
      Both (fun g g' : Envelope → Envelope => (g draft.value).Alike topic (g' draft'.value))
        (whole (f.update.read 126) m.value.core) (whole (f.update.read 126) t) := by
    rcases hkey with hkey | ⟨-, hkey⟩ <;> rw [hkey]
    · refine ⟨_, rfl, (both_stored h "data" _ []).imp ?_⟩
      rintro _ _ ⟨v, w, hvw, rfl, rfl⟩
      exact ⟨hdraft.2.kind, hdraft.2.channel, hvw, hdraft.2.orderBook⟩
    · refine ⟨_, rfl, (both_stored h "order_book" _ []).imp ?_⟩
      rintro _ _ ⟨v, w, hvw, rfl, rfl⟩
      exact ⟨hdraft.2.kind, hdraft.2.channel, hdraft.2.data, hvw⟩
  simp only [Json.Record.takeText, Member.replace, Json.Padded.replace, hfield, ← hdraft.1]
  split_ifs
  · exact .error _
  · exact hstored.map fun g g' hg => ⟨rfl, hg⟩

/-- A frame is taken apart into envelopes that are alike, with the quotation marks and without. -/
theorem both_parse (blanks : FrameBlanks) {before after : List Member}
    (hothers : ∀ other ∈ before ++ after, Document other.value.core)
    (hkey : PayloadKey topic m.key) (h : PayloadRequoted topic m.value.core t) :
    Both (Alike topic) (parse (frameText blanks (before ++ m :: after)))
      (parse (frameText blanks (before ++ m.replace t :: after))) := by
  rw [parse_frameText (Json.forall_mem_replace hothers h.documents.1),
    parse_frameText (Json.forall_mem_replace hothers h.documents.2)]
  -- members behind the payload go on from drafts that are no longer the same, only alike
  have hsteps : List.Forall₂ (fun n n' => ∀ draft draft', DraftAlike topic draft draft' →
      Both (DraftAlike topic) (record.takeText 126 draft n) (record.takeText 126 draft' n'))
      (before ++ m :: after) (before ++ m.replace t :: after) :=
    Json.forall₂_replace (fun n _ _ hdraft => both_takeText hdraft n)
      fun _ _ hdraft => both_takeText_payload hkey h hdraft
  exact (Both.foldlM hsteps ⟨rfl, .refl topic record.blank⟩).map fun _ _ hdraft => hdraft.2

end Envelope

/-- The second frame is the first one with integers in its payload in quotation marks. The topic of
the payload is the one that the type or the channel of the frame indicates. -/
inductive FrameRequoted : String → String → Prop
  | refl (text : String) : FrameRequoted text text
  | payload {topic : Topic} {blanks : FrameBlanks} {before after : List Member} {m : Member}
    {t : List Char} (hothers : ∀ other ∈ before ++ after, Document other.value.core)
    (htopic : ∀ envelope, Envelope.parse (frameText blanks (before ++ m :: after)) = .ok envelope →
      ∃ kind, envelope.Indicates (.market kind topic))
    (hkey : PayloadKey topic m.key) (h : PayloadRequoted topic m.value.core t) :
    FrameRequoted (frameText blanks (before ++ m :: after))
      (frameText blanks (before ++ m.replace t :: after))
  | trans {text text' text'' : String} (h : FrameRequoted text text')
    (h' : FrameRequoted text' text'') : FrameRequoted text text''

/-- A frame is decoded to the same message, or refused for the same reason. -/
theorem FrameRequoted.decode_eq {text text' : String} (h : FrameRequoted text text') :
    Inbound.decode text = Inbound.decode text' := by
  induction h with
  | refl => rfl
  | trans _ _ ih ih' => exact ih.trans ih'
  | @payload topic blanks before after m t hothers htopic hkey h =>
    have hboth := Envelope.both_parse blanks hothers hkey h
    unfold Inbound.decode
    generalize hparse : Envelope.parse (frameText blanks (before ++ m :: after)) = x at *
    generalize hparse' : Envelope.parse (frameText blanks (before ++ m.replace t :: after)) = y at *
    cases hboth with
    | error fault => rfl
    | @ok e e' he =>
      obtain ⟨kind, hindicates⟩ := htopic e rfl
      obtain ⟨-, hnull⟩ := Envelope.parse_ne_null hparse
      obtain ⟨-, hnull'⟩ := Envelope.parse_ne_null hparse'
      simp only [Envelope.ofEnvelope_of_indicates hnull hindicates,
        Envelope.ofEnvelope_of_indicates hnull' (he.indicates hindicates), Envelope.outcome,
        ← Envelope.decodePayload_eq_read hnull, ← Envelope.decodePayload_eq_read hnull',
        he.decodePayload_eq, he.channel]

/-- The second reading is the first one, a frame as text or as octets, with integers in its payload
in quotation marks. -/
inductive Reading.Requoted : Reading → Reading → Prop
  | refl (reading : Reading) : Requoted reading reading
  | text {s s' : String} (h : FrameRequoted s s') : Requoted (.text s) (.text s')
  | binary {octets octets' : List UInt8} {s s' : String} (hs : Text.Utf8.decode octets = .ok s)
    (hs' : Text.Utf8.decode octets' = .ok s') (h : FrameRequoted s s') :
    Requoted (.binary octets) (.binary octets')

namespace Reading.Requoted

variable {reading reading' : Reading} {readings readings' : List Reading} {σ : Type}

theorem message?_eq (h : Requoted reading reading') : reading.message? = reading'.message? := by
  cases h with
  | refl => rfl
  | text h => simp only [message?, text?, Option.bind_some, h.decode_eq]
  | binary hs hs' h =>
    simp only [message?, text?, hs, hs', Except.toOption, Option.bind_some, h.decode_eq]

theorem takeText_eq {s s' : String} (h : FrameRequoted s s') (handler : Handler σ)
    (r : Running σ) : r.takeText handler s = r.takeText handler s' := by
  simp only [Running.takeText, Running.handleText, h.decode_eq]

theorem take_eq (h : Requoted reading reading') (handler : Handler σ) (limit : Option Duration)
    (r : Running σ) : r.take handler limit reading = r.take handler limit reading' := by
  cases h with
  | refl => rfl
  | text h => exact takeText_eq h handler r
  | binary hs hs' h => simp only [Running.take, hs, hs', takeText_eq h]

theorem next_eq (h : Requoted reading reading') (progress : Progress) :
    progress.next reading = progress.next reading' := by
  rw [Progress.next, Progress.next, event?, event?, h.message?_eq]

end Reading.Requoted

/-- Two runs of the same course, of which one leaves unread what the other does, but for quotation
marks. -/
structure Finished.SameCourse {σ : Type} (a b : Finished σ) : Prop where
  result : a.result = b.result
  running : a.running = b.running
  notices : a.notices = b.notices
  unread : List.Forall₂ Reading.Requoted a.unread b.unread

theorem Running.follow_sameCourse {σ : Type} {readings readings' : List Reading}
    (h : List.Forall₂ Reading.Requoted readings readings') (handler : Handler σ)
    (limit : Option Duration) (shutdown : Shutdown) (progress : Progress) (r : Running σ) :
    (r.follow handler limit shutdown progress readings).SameCourse
      (r.follow handler limit shutdown progress readings') := by
  induction h generalizing progress r with
  | nil => exact ⟨rfl, rfl, rfl, by unfold follow; split <;> exact .nil⟩
  | @cons reading reading' rest rest' hreading hrest ih =>
    unfold follow
    split_ifs
    · exact ⟨rfl, rfl, rfl, .cons hreading hrest⟩
    · rw [hreading.take_eq, hreading.next_eq]
      simp only
      cases (r.take handler limit reading').ending with
      | some result => exact ⟨rfl, rfl, rfl, hrest⟩
      | none =>
        have hcourse := ih (progress.next reading') (r.take handler limit reading').running
        exact ⟨hcourse.result, hcourse.running, congrArg (_ ++ ·) hcourse.notices, hcourse.unread⟩

end MarketFeed

import MarketFeed.Client.Run
import MarketFeed.Proofs.FrameTexts

/-!
# Payloads that list entries

Trades and market statistics come in lists. A list is decoded entry by entry: what becomes of a
frame is what becomes of the frames that hold one of its entries each, in their order, and the first
of them that is refused is the refusal of the whole. An object stands for the list of it, a payload
that is not there for the empty list, and everything else is refused.
-/
namespace MarketFeed

open Json (Value Decoder Spells)

/-- A string, a number or a boolean. -/
inductive Json.Value.Scalar : Value → Prop where
  | string (s : String) : Scalar (.string s)
  | number (n : Json.Number) : Scalar (.number n)
  | bool (b : Bool) : Scalar (.bool b)

/-- The topics whose payloads list entries. -/
inductive Listing : Type → Type where
  | trades : Listing Trade
  | stats : Listing MarketStats

namespace Listing

variable {α : Type}

def topic : Listing α → Topic
  | trades => .trade
  | stats => .marketStats

def decoder : Listing α → Decoder α
  | trades => Trade.decoder
  | stats => MarketStats.decoder

def payload : Listing α → List α → Payload
  | trades => .trades
  | stats => .stats

def entry (listing : Listing α) (v : Value) : Except FrameError α :=
  (listing.decoder.ofValue v).mapError .document

/-- The message that brings the entries. -/
def message (listing : Listing α) (kind : FrameKind) (channel : Option String)
    (entries : List α) : Inbound :=
  .market kind ⟨channel, listing.payload entries⟩

/-- The text is a frame of the kind, on the channel and with this payload. -/
def Frame (listing : Listing α) (kind : FrameKind) (channel : Option String) (data : Option Value)
    (text : String) : Prop :=
  ∃ orderBook, Envelope.parse text =
    .ok ⟨kind.typeHead ++ listing.topic.name, channel, data, orderBook⟩

/-- The texts are frames of the kind and on the channel that list one of the values each. -/
def Singles (listing : Listing α) (kind : FrameKind) (channel : Option String) :
    List Value → List String → Prop :=
  List.Forall₂ fun v part => listing.Frame kind channel (some (.array [v])) part

/-- What becomes of a frame is what becomes of the frames with one of its entries each. -/
structure OneByOne (listing : Listing α) (kind : FrameKind) (channel : Option String)
    (whole : String) (parts : List String) : Prop where
  decoded_iff : (∃ m, Inbound.decode whole = .ok m) ↔
    ∀ part ∈ parts, ∃ m, Inbound.decode part = .ok m
  /-- The entries are those of the single frames, in their order. -/
  entries : ∀ m, Inbound.decode whole = .ok m ↔
    ∃ as : List α, as.length = parts.length ∧ m = listing.message kind channel as ∧
      List.Forall₂ (fun part a => Inbound.decode part = .ok (listing.message kind channel [a]))
        parts as
  /-- The first single frame that is refused decides. -/
  refused : ∀ error, Inbound.decode whole = .error error ↔
    ∃ before part after, parts = before ++ part :: after ∧
      (∀ earlier ∈ before, ∃ m, Inbound.decode earlier = .ok m) ∧
      Inbound.decode part = .error error
  /-- A refused frame leaves everything as it was and is reported. -/
  unchanged : ∀ error, Inbound.decode whole = .error error →
    ∀ {σ : Type} (handler : Handler σ) (r : Running σ),
      r.takeText handler whole = r.goOn [.frameSkipped (.ofFrameError error)]

variable {listing : Listing α} {kind : FrameKind} {channel : Option String} {data : Option Value}
  {text : String} {v : Value} {vs : List Value} {as bs : List α}

theorem message_inj :
    listing.message kind channel as = listing.message kind channel bs ↔ as = bs := by
  cases listing <;> simp [message, payload]

theorem decodePayload_eq (envelope : Envelope) :
    Inbound.decodePayload listing.topic envelope =
      (Inbound.decodeMany listing.decoder envelope.data).map listing.payload := by
  cases listing <;> rfl

theorem Frame.decode (h : listing.Frame kind channel data text) :
    Inbound.decode text =
      (Inbound.decodeMany listing.decoder data).map (listing.message kind channel) := by
  obtain ⟨orderBook, hparse⟩ := h
  rw [Inbound.decode_of_parse hparse, Inbound.ofEnvelope_of_typeHead rfl, Topic.ofName?_name]
  simp only [Inbound.decodeMarket, decodePayload_eq]
  cases Inbound.decodeMany listing.decoder data <;> rfl

theorem decodeMany_array (vs : List Value) :
    Inbound.decodeMany listing.decoder (some (.array vs)) = vs.mapM listing.entry :=
  (Attempts.mapM_mapError vs).symm

theorem Frame.decode_array (h : listing.Frame kind channel (some (.array vs)) text) :
    Inbound.decode text = (vs.mapM listing.entry).map (listing.message kind channel) := by
  rw [h.decode, decodeMany_array]

theorem Frame.decode_single (h : listing.Frame kind channel (some (.array [v])) text) :
    Inbound.decode text =
      (listing.entry v).map fun a => listing.message kind channel [a] := by
  rw [h.decode_array]
  simp only [List.mapM_cons, List.mapM_nil]
  cases listing.entry v <;> rfl

theorem Frame.decode_object {ms : List (String × Value)}
    (h : listing.Frame kind channel (some (.object ms)) text) :
    Inbound.decode text =
      (listing.entry (.object ms)).map fun a => listing.message kind channel [a] := by
  rw [h.decode, Inbound.decodeMany, entry]
  cases listing.decoder.ofValue (.object ms) <;> rfl

section Parts

variable {whole : String} {parts : List String}

theorem mapM_decode (h : listing.Singles kind channel vs parts) :
    parts.mapM Inbound.decode =
      (vs.mapM listing.entry).map (List.map fun a => listing.message kind channel [a]) := by
  rw [← Attempts.mapM_map]
  exact Attempts.mapM_congr (h.flip.imp fun part v hpart => Frame.decode_single hpart)

theorem mapM_entry_eq_ok (h : listing.Singles kind channel vs parts) :
    vs.mapM listing.entry = .ok as ↔
      List.Forall₂ (fun part a => Inbound.decode part = .ok (listing.message kind channel [a]))
        parts as := by
  have hinj : Function.Injective fun a : α => listing.message kind channel [a] := by
    intro a b hab
    exact List.singleton_inj.mp (message_inj.mp hab)
  have hparts : List.Forall₂ (fun part a =>
      Inbound.decode part = .ok (listing.message kind channel [a])) parts as ↔
        parts.mapM Inbound.decode = .ok (as.map fun a => listing.message kind channel [a]) := by
    rw [Attempts.mapM_eq_ok_iff_forall₂, List.forall₂_map_right_iff]
  rw [hparts, mapM_decode h, Attempts.map_eq_ok]
  constructor
  · intro has
    exact ⟨as, has, rfl⟩
  · rintro ⟨bs, hbs, heq⟩
    rw [hbs, List.map_injective_iff.mpr hinj heq]

theorem oneByOne (hwhole : listing.Frame kind channel (some (.array vs)) whole)
    (hparts : listing.Singles kind channel vs parts) :
    listing.OneByOne kind channel whole parts := by
  have hdecode := hwhole.decode_array
  have heach := mapM_decode hparts
  refine
    { decoded_iff := ?decoded
      entries := ?entries
      refused := ?refused
      unchanged := ?unchanged }
  case decoded =>
    rw [← Attempts.exists_mapM_eq_ok, heach, hdecode]
    cases vs.mapM listing.entry <;> simp [Except.map]
  case entries =>
    intro m
    rw [hdecode, Attempts.map_eq_ok]
    constructor
    · rintro ⟨as, has, rfl⟩
      have hall := (mapM_entry_eq_ok hparts).mp has
      exact ⟨as, hall.length_eq.symm, rfl, hall⟩
    · rintro ⟨as, -, rfl, hall⟩
      exact ⟨as, (mapM_entry_eq_ok hparts).mpr hall, rfl⟩
  case refused =>
    intro error
    rw [hdecode, Attempts.map_eq_error, ← Attempts.mapM_eq_error, heach, Attempts.map_eq_error]
  case unchanged =>
    exact fun error herror σ handler r => Running.takeText_of_error herror handler r

end Parts

section Texts

variable {echo : Option Value} {t : Option (List Char)} {ms : List (String × List Char)}

/-- What a payload is written as: nothing at all, a null, a list of values, or one value. Two
brackets are open around the values of a list, and one around the others. -/
inductive DataText : Option (List Char) → Option Value → Prop where
  | missing : DataText none none
  | null : DataText (some "null".toList) none
  | list {ts : List (List Char)} {vs : List Value} (h : List.Forall₂ (Spells 125) ts vs) :
    DataText (some (Json.listText ts)) (some (.array vs))
  | value {t : List Char} {v : Value} (h : Spells 126 t v) (hv : v ≠ .null) :
    DataText (some t) (some v)

theorem frame_written (hecho : Envelope.Echoes channel echo) (hdata : DataText t data)
    (hperm : ms.Perm (Envelope.textMembers (kind.typeHead ++ listing.topic.name) echo t)) :
    listing.Frame kind channel data (String.ofList (Json.objectText ms)) := by
  have hread : ∃ spelled : Option (List Char × Value), spelled.map Prod.fst = t ∧
      (∀ p ∈ spelled, Spells 126 p.1 p.2) ∧ (spelled.bind fun p => p.2.toOption) = data := by
    cases hdata with
    | missing => exact ⟨none, rfl, nofun, rfl⟩
    | null =>
      have hnull : Spells 126 "null".toList .null := ⟨⟨'n', _, rfl, by decide, by decide⟩, rfl⟩
      exact ⟨some (_, .null), rfl, fun p hp => Option.mem_some_iff.mp hp ▸ hnull, rfl⟩
    | @list ts vs h =>
      have hlist := Spells.list h
      exact ⟨some (_, .array vs), rfl, fun p hp => Option.mem_some_iff.mp hp ▸ hlist, rfl⟩
    | @value t v h hv =>
      refine ⟨some (t, v), rfl, fun p hp => Option.mem_some_iff.mp hp ▸ h, ?_⟩
      cases v with
      | null => exact absurd rfl hv
      | _ => rfl
  obtain ⟨spelled, rfl, hspelled, rfl⟩ := hread
  exact ⟨none, Envelope.parse_written hecho hspelled hperm⟩

end Texts

/-- A frame with a list has the entries of the frames with one of its values each, or is refused as
the first of these that is refused. An object stands for the list of it, what is missing, null or
empty for no entries, and a string, a number or a boolean is refused. The frames meant are all those
that the reader of documents takes apart so, among them the ones that are written around any texts
of values. -/
theorem decoded_one_by_one (listing : Listing α) (kind : FrameKind) (channel : Option String) :
    (∀ vs whole parts, listing.Frame kind channel (some (.array vs)) whole →
      listing.Singles kind channel vs parts → listing.OneByOne kind channel whole parts) ∧
    (∀ ms text listed, listing.Frame kind channel (some (.object ms)) text →
      listing.Frame kind channel (some (.array [.object ms])) listed →
        Inbound.decode text = Inbound.decode listed) ∧
    (∀ text, listing.Frame kind channel none text ∨
      listing.Frame kind channel (some (.array [])) text →
        Inbound.decode text = .ok (listing.message kind channel [])) ∧
    (∀ v text, v.Scalar → listing.Frame kind channel (some v) text →
      Inbound.decode text = .error (.notListOrObject v) ∧
        ∀ {σ : Type} (handler : Handler σ) (r : Running σ), r.takeText handler text =
          r.goOn [.frameSkipped (.protocol ("expected object or array payload, got " ++ v.text))]) ∧
    ∀ echo t data ms, Envelope.Echoes channel echo → DataText t data →
      ms.Perm (Envelope.textMembers (kind.typeHead ++ listing.topic.name) echo t) →
        listing.Frame kind channel data (String.ofList (Json.objectText ms)) := by
  refine ⟨?lists, ?objects, ?nothing, ?scalars, ?texts⟩
  case lists => exact fun vs whole parts hwhole hparts => oneByOne hwhole hparts
  case objects =>
    intro ms text listed htext hlisted
    rw [htext.decode_object, hlisted.decode_single]
  case nothing =>
    rintro text (h | h)
    · exact h.decode
    · exact h.decode_array
  case scalars =>
    intro v text hv htext
    have hdecode : Inbound.decode text = .error (.notListOrObject v) := by
      rw [htext.decode]
      cases hv <;> rfl
    exact ⟨hdecode, fun handler r => Running.takeText_of_error hdecode handler r⟩
  case texts => exact fun echo t data ms hecho hdata hperm => frame_written hecho hdata hperm

/-- An object, a list of fields and a number as trades. Without the number two trades come out, with
it the frame is refused for it. -/
theorem decoded_one_by_one_of_trades :
    let frame (data : Option (List Char)) := String.ofList (Json.objectText
      (Envelope.textMembers (FrameKind.update.typeHead ++ Listing.trades.topic.name)
        (some (.string "trade:0")) data))
    let list (ts : List (List Char)) := frame (some (Json.listText ts))
    let object := (Value.object [("price", .int 2)]).chars
    let fields := (Value.array [.string "sell"]).chars
    let number := (Value.int 7).chars
    let taken : Trade := ⟨.unknown, "2", "0"⟩
    let sold : Trade := ⟨.sell, "0", "0"⟩
    let message := Listing.trades.message .update (some "trade:0")
    Listing.trades.OneByOne .update (some "trade:0") (list [object, fields])
        [list [object], list [fields]] ∧
      Inbound.decode (list [object, fields]) = .ok (message [taken, sold]) ∧
      Inbound.decode (list [object, number, fields]) =
        .error (.document (.wrongKind (.number (.integer 7)) "struct Trade")) ∧
      Inbound.decode (frame (some object)) = Inbound.decode (list [object]) ∧
      Inbound.decode (frame none) = .ok (message []) ∧
      Inbound.decode (frame (some "null".toList)) = .ok (message []) ∧
      Inbound.decode (list []) = .ok (message []) ∧
      Inbound.decode (frame (some number)) = .error (.notListOrObject (.int 7)) := by
  intro frame list object fields number taken sold message
  obtain ⟨hlists, hobjects, hnothing, hscalars, hwritten⟩ :=
    decoded_one_by_one .trades .update (some "trade:0")
  have hframe : ∀ t data, DataText t data →
      Listing.trades.Frame .update (some "trade:0") data (frame t) := fun t data h =>
    hwritten (some (.string "trade:0")) t data _ (.text "trade:0") h (.refl _)
  have hlist : ∀ ts vs, List.Forall₂ (Spells 125) ts vs →
      Listing.trades.Frame .update (some "trade:0") (some (.array vs)) (list ts) :=
    fun ts vs h => hframe (some (Json.listText ts)) (some (.array vs)) (.list h)
  have hobject : ∀ depth, Spells (depth + 1) object (.object [("price", .int 2)]) := by
    intro depth
    refine Json.spells_chars (v := .object [("price", .int 2)]) fun member hmember => ?_
    obtain rfl := List.mem_singleton.mp hmember
    exact Value.legible_number.mpr ⟨by decide, by decide⟩
  have hfields : Spells 125 fields (.array [.string "sell"]) := by
    refine Json.spells_chars (v := .array [.string "sell"]) fun item hitem => ?_
    obtain rfl := List.mem_singleton.mp hitem
    exact Value.legible_string 124 "sell"
  have hnumber : ∀ depth, Spells depth number (.int 7) := fun depth =>
    Json.spells_chars (v := .int 7) (Value.legible_number.mpr ⟨by decide, by decide⟩)
  -- the texts are known by what they spell, and need not be looked into again
  clear_value frame object fields number
  have hone : ∀ {t v}, Spells 125 t v →
      Listing.trades.Frame .update (some "trade:0") (some (.array [v])) (list [t]) :=
    fun h => hlist _ _ (.cons h .nil)
  have hboth := hlists _ _ _ (hlist _ _ (.cons (hobject 124) (.cons hfields .nil)))
    (.cons (hone (hobject 124)) (.cons (hone hfields) .nil))
  have hall := hlists _ _ _
    (hlist _ _ (.cons (hobject 124) (.cons (hnumber 125) (.cons hfields .nil))))
    (.cons (hone (hobject 124)) (.cons (hone (hnumber 125)) (.cons (hone hfields) .nil)))
  have htaken : Inbound.decode (list [object]) = .ok (message [taken]) :=
    (hone (hobject 124)).decode_single
  have hsold : Inbound.decode (list [fields]) = .ok (message [sold]) :=
    (hone hfields).decode_single
  have hrefused : Inbound.decode (list [number]) =
      .error (.document (.wrongKind (.number (.integer 7)) "struct Trade")) :=
    (hone (hnumber 125)).decode_single
  refine ⟨hboth, ?trades, ?refused, ?object, ?missing, ?null, ?empty, ?number⟩
  case trades =>
    exact (hboth.entries _).mpr ⟨[taken, sold], rfl, rfl, .cons htaken (.cons hsold .nil)⟩
  case refused =>
    refine (hall.refused _).mpr ⟨[list [object]], list [number], [list [fields]], rfl, ?_, hrefused⟩
    simp [htaken]
  case object =>
    have hvalue := DataText.value (hobject 125) (by simp)
    exact hobjects _ _ _ (hframe _ _ hvalue) (hone (hobject 124))
  case missing => exact hnothing _ (.inl (hframe _ _ .missing))
  case null => exact hnothing _ (.inl (hframe _ _ .null))
  case empty => exact hnothing _ (.inr (hlist [] [] .nil))
  case number =>
    have hvalue := DataText.value (hnumber 126) (by simp [Value.int])
    exact (hscalars _ _ (.number (.integer 7)) (hframe _ _ hvalue)).1

end Listing
end MarketFeed

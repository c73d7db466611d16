import MarketFeed.Proofs.FrameTexts
import MarketFeed.Proofs.ReorderedDocuments
import MarketFeed.Proofs.TypedDocuments

/-!
# The order of the members of a frame

A frame is read in one pass over its text. The value of an unknown key is passed over, the type and
the channel are read as texts, and the payload is read as a document before it is known what it is.
Still the message does not depend on the order in which the members stand, on what unknown members
there are, or on the order of the members inside the payload.
-/
namespace MarketFeed

namespace Json

variable {α : Type}

/-- The fields have different names, and what one stores in text or in a document the other
leaves. -/
structure Field.Commutes (f g : Field α) : Prop where
  names : f.name ≠ g.name
  commute : ∀ u w, f.update.Gives u → g.update.Gives w → ∀ a, u (w a) = w (u a)

instance : Std.Symm (Field.Commutes (α := α)) where
  symm _ _ h := ⟨h.names.symm, fun u w hu hw a => (h.commute w u hw hu a).symm⟩

theorem Field.of_commutes {β γ : Type} {name name' : String} {d : Decoder β} {d' : Decoder γ}
    {set : β → α → α} {set' : γ → α → α} {aliases aliases' : List String}
    (hnames : name ≠ name') (h : ∀ b c a, set b (set' c a) = set' c (set b a)) :
    (Field.of name d set aliases).Commutes (.of name' d' set' aliases') := by
  refine ⟨hnames, ?_⟩
  intro u w hu hw a
  obtain ⟨b, -, rfl⟩ := Decoder.gives_of_map hu
  obtain ⟨c, -, rfl⟩ := Decoder.gives_of_map hw
  exact h b c a

theorem gives_of_whole {d : Decoder α} {depth : Nat} {t : List Char} {a : α}
    (h : whole (d.read depth) t = .ok a) : d.Gives a := by
  obtain ⟨⟨b, rest⟩, hread, rfl⟩ := Attempts.map_eq_ok.mp h
  exact .inl ⟨depth, t, rest, hread⟩

namespace Record

variable {r : Record α} {depth : Nat} {ms ms' : List Member}
  {parts parts' : List (String × (α → α))}

/-- The members that a field takes. -/
def known (r : Record α) (ms : List Member) : List Member :=
  ms.filter fun m => (r.field? m.key).isSome

/-- A member in text that a field takes: the name of the field and the change it makes. -/
def Changes (r : Record α) (depth : Nat) (m : Member) (part : String × (α → α)) : Prop :=
  ∃ f, r.field? m.key = some f ∧ f.name = part.1 ∧
    whole (f.update.read depth) m.value.core = .ok part.2

def changed (parts : List (String × (α → α))) (a : α) : α := parts.foldl (fun a part => part.2 a) a

/-- A record is read when each known member is. Unknown ones do nothing. -/
theorem foldlM_takeText_eq_ok {a : α} {draft : Draft α}
    (hnames : ((r.known ms).map fun m => (r.field? m.key).map Field.name).Nodup)
    (hseen : ∀ m ∈ ms, ∀ f ∈ r.field? m.key, f.name ∉ draft.seen) :
    (ms.foldlM (r.takeText depth) draft).map Draft.value = .ok a ↔
      ∃ parts, List.Forall₂ (r.Changes depth) (r.known ms) parts ∧
        a = changed parts draft.value := by
  induction ms generalizing draft with
  | nil =>
    constructor
    · intro h
      obtain rfl := Except.ok.inj h
      exact ⟨[], .nil, rfl⟩
    · rintro ⟨parts, hparts, rfl⟩
      cases hparts
      rfl
  | cons m ms ih =>
    obtain ⟨hm, hms⟩ := List.forall_mem_cons.mp hseen
    rw [List.foldlM_cons]
    cases hfield : r.field? m.key with
    | none =>
      have hknown : r.known (m :: ms) = r.known ms := by simp [known, hfield]
      have htake : r.takeText depth draft m = .ok draft := by simp [takeText, hfield]
      rw [hknown] at hnames ⊢
      rw [htake]
      exact ih hnames hms
    | some f =>
      have hknown : r.known (m :: ms) = m :: r.known ms := by simp [known, hfield]
      rw [hknown] at hnames ⊢
      rw [List.map_cons, List.nodup_cons, hfield] at hnames
      -- the name that is seen now is the one of no later member
      have hlater : ∀ g : α → α, ∀ n ∈ ms, ∀ f' ∈ r.field? n.key,
          f'.name ∉ (⟨f.name :: draft.seen, g draft.value⟩ : Draft α).seen := by
        intro g n hn f' hf' hmem
        rcases List.mem_cons.mp hmem with hsame | hmem
        · refine hnames.1 (List.mem_map.mpr ⟨n, ?_, ?_⟩)
          · exact List.mem_filter.mpr ⟨hn, by simp [Option.mem_def.mp hf']⟩
          · rw [Option.mem_def.mp hf', Option.map_some, Option.map_some, hsame]
        · exact hms n hn f' hf' hmem
      have htake : r.takeText depth draft m = (whole (f.update.read depth) m.value.core).map
          fun g => ⟨f.name :: draft.seen, g draft.value⟩ := by
        simp only [takeText, hfield]
        rw [if_neg (by simpa using hm f hfield)]
      rw [htake]
      have hchange : ∀ part, r.Changes depth m part →
          whole (f.update.read depth) m.value.core = .ok part.2 := by
        rintro part ⟨f', hfield', -, hvalue⟩
        obtain rfl : f = f' := Option.some.inj (hfield.symm.trans hfield')
        exact hvalue
      cases hvalue : whole (f.update.read depth) m.value.core with
      | error fault =>
        constructor
        · exact nofun
        · rintro ⟨parts, hparts, -⟩
          obtain ⟨part, rest, hpart, -, -⟩ := List.forall₂_cons_left_iff.mp hparts
          cases hvalue.symm.trans (hchange part hpart)
      | ok g =>
        refine (ih hnames.2 (hlater g)).trans ?_
        constructor
        · rintro ⟨parts, hparts, rfl⟩
          exact ⟨(f.name, g) :: parts, .cons ⟨f, hfield, rfl, hvalue⟩ hparts, rfl⟩
        · rintro ⟨parts, hparts, rfl⟩
          obtain ⟨part, rest, hpart, hrest, rfl⟩ := List.forall₂_cons_left_iff.mp hparts
          obtain rfl : g = part.2 := Except.ok.inj (hvalue.symm.trans (hchange part hpart))
          exact ⟨rest, hrest, rfl⟩

/-- Changes by different fields make the same record in every order. -/
theorem changed_perm (hcommutes : r.fields.Pairwise Field.Commutes)
    (hparts : List.Forall₂ (r.Changes depth) ms parts) (hnames : (parts.map Prod.fst).Nodup)
    (hperm : parts.Perm parts') (a : α) : changed parts a = changed parts' a := by
  refine foldl_perm ?_ hnames hperm a
  intro x hx y hy hne
  obtain ⟨m, f, hfield, hname, hvalue⟩ := exists_partner hparts hx
  obtain ⟨n, g, hfield', hname', hvalue'⟩ := exists_partner hparts hy
  have hfg : f ≠ g := by
    rintro rfl
    exact hne (hname.symm.trans hname')
  have hapart : f.Commutes g := hcommutes.forall (List.mem_of_find?_eq_some hfield)
    (List.mem_of_find?_eq_some hfield') hfg
  exact hapart.commute x.2 y.2 (gives_of_whole hvalue) (gives_of_whole hvalue')

theorem names_of_changes (hparts : List.Forall₂ (r.Changes depth) ms parts) :
    (ms.map fun m => (r.field? m.key).map Field.name) = (parts.map Prod.fst).map some := by
  induction hparts with
  | nil => rfl
  | cons hpart _ ih =>
    obtain ⟨f, hfield, hname, -⟩ := hpart
    simp only [List.map_cons, hfield, hname, Option.map_some, ih]

end Record

theorem Decoder.whole_map {β : Type} (d : Decoder α) (f : α → β) (depth : Nat) (t : List Char) :
    whole ((d.map f).read depth) t = (whole (d.read depth) t).map f := by
  simp only [whole, Decoder.map]
  cases d.read depth t <;> rfl

theorem whole_optional_any {t : List Char} (h : Document t) (depth : Nat) :
    whole ((Decoder.optional .any).read depth) t = (whole (value depth) t).map Value.toOption := by
  cases hread : value depth t with
  | ok p =>
    obtain ⟨v, rest⟩ := p
    rw [whole, whole, optional_any_read hread, hread]
    rfl
  | error fault =>
    have hany : Decoder.any.read depth t = .error fault := by
      simp only [Decoder.any, Decoder.viaValue, hread]
      rfl
    obtain ⟨c, cs, rfl, hspace, -, hnull, -⟩ := h.head
    have hletter : c ≠ 'n' := by
      intro hc
      rw [hnull hc] at hread
      cases depth <;> cases hread
    rw [whole, whole, Decoder.optional_read_of_head hspace hletter, hany, hread]
    rfl

end Json

namespace Envelope

open Json (Decoder Field.of_commutes Field.of_delimits)

theorem commutes : record.fields.Pairwise Json.Field.Commutes := by
  simp only [record, List.pairwise_cons, List.forall_mem_cons,
    List.not_mem_nil, false_implies, implies_true, List.Pairwise.nil, and_true]
  and_intros <;> exact Field.of_commutes (by decide) fun _ _ _ => rfl

theorem delimits : record.Delimits := by
  have hany : Decoder.any.Delimits := Decoder.viaValue_delimits .ok
  simp only [Json.Record.Delimits, record, List.forall_mem_cons, List.not_mem_nil, false_implies,
    implies_true, and_true]
  exact ⟨Field.of_delimits Decoder.string_delimits,
    Field.of_delimits Decoder.string_delimits.optional, Field.of_delimits hany.optional,
    Field.of_delimits hany.optional⟩

/-- The keys of the members that are read. -/
def keys : List String := ["type", "channel", "data", "order_book"]

theorem isSome_field?_iff {key : String} : (record.field? key).isSome = true ↔ key ∈ keys := by
  rw [Json.Record.field?, List.find?_isSome]
  simp [record, Json.Field.of, keys, @eq_comm _ key]

theorem name_of_field? {key : String} {f : Json.Field Envelope} (h : record.field? key = some f) :
    f.name = key := by
  have hmem := List.mem_of_find?_eq_some h
  have hkey := List.find?_some h
  have halias : ∀ f ∈ record.fields, f.aliases = [] := by simp [record, Json.Field.of]
  simpa [halias f hmem] using hkey

end Envelope

/-- Where blanks stand around the members of a frame: before it, behind its brace and behind it. -/
structure FrameBlanks where
  before : List Char
  inner : List Char
  after : List Char
  blanks_before : Json.Blanks before
  blanks_inner : Json.Blanks inner
  blanks_after : Json.Blanks after

def FrameBlanks.none : FrameBlanks :=
  ⟨[], [], [], Json.blanks_nil, Json.blanks_nil, Json.blanks_nil⟩

def frameText (blanks : FrameBlanks) (ms : List Json.Member) : String :=
  String.ofList (blanks.before ++ (Json.spacedObject blanks.inner ms ++ blanks.after))

namespace Envelope

open Json (Document Member Reordered Value whole value)

variable {ms ms' : List Member} {blanks blanks' : FrameBlanks} {envelope : Envelope}

theorem parse_frameText (hms : ∀ m ∈ ms, Document m.value.core) :
    parse (frameText blanks ms) =
      (ms.foldlM (record.takeText 126) ⟨[], record.blank⟩).map Json.Record.Draft.value := by
  have hparse := delimits.decoder.parseWith
    ⟨blanks.before, Json.spacedObject blanks.inner ms, blanks.after, blanks.blanks_before,
      blanks.blanks_after⟩ (.object blanks.blanks_inner hms) Json.nestingLimit
  rw [parse]
  refine hparse.trans ?_
  exact (Json.Record.answers_object delimits blanks.blanks_inner hms 126).whole_eq

/-- The members that are read, of those that stand in a frame. -/
def known (ms : List Member) : List Member := ms.filter fun m => m.key ∈ keys

theorem record_known (ms : List Member) : record.known ms = known ms := by
  refine List.filter_congr fun m _ => ?_
  rw [Bool.eq_iff_iff, isSome_field?_iff, decide_eq_true_iff]

theorem names_nodup (honce : ((known ms).map Member.key).Nodup) :
    ((record.known ms).map fun m => (record.field? m.key).map Json.Field.name).Nodup := by
  have hnames : ((known ms).map fun m => (record.field? m.key).map Json.Field.name) =
      ((known ms).map Member.key).map some := by
    rw [List.map_map]
    refine List.map_congr_left fun m hm => ?_
    have hkey := of_decide_eq_true (List.mem_filter.mp hm).2
    obtain ⟨f, hf⟩ := Option.isSome_iff_exists.mp (isSome_field?_iff.mpr hkey)
    rw [hf, Option.map_some, name_of_field? hf]
    rfl
  rw [record_known, hnames]
  exact honce.map (Option.some_injective _)

/-- What a frame is taken apart into is told from what its known members do, one after the other. -/
def TakesApart (ms : List Member) (envelope : Envelope) : Prop :=
  ∃ parts, List.Forall₂ (record.Changes 126) (known ms) parts ∧
    envelope = Json.Record.changed parts record.blank

theorem parse_eq_ok (hms : ∀ m ∈ ms, Document m.value.core)
    (honce : ((known ms).map Member.key).Nodup) :
    parse (frameText blanks ms) = .ok envelope ↔ TakesApart ms envelope := by
  rw [parse_frameText hms, TakesApart, ← record_known]
  exact Json.Record.foldlM_takeText_eq_ok (names_nodup honce) fun m _ f _ => List.not_mem_nil

theorem TakesApart.perm (honce : ((known ms).map Member.key).Nodup) (hperm : ms.Perm ms')
    (h : TakesApart ms envelope) : TakesApart ms' envelope := by
  obtain ⟨parts, hparts, rfl⟩ := h
  have hknown : (known ms').Perm (known ms) := hperm.symm.filter _
  obtain ⟨parts', hparts', hsame⟩ := List.perm_comp_forall₂ hknown hparts
  have hnames := names_nodup honce
  rw [record_known, Json.Record.names_of_changes hparts] at hnames
  exact ⟨parts', hparts',
    Json.Record.changed_perm commutes hparts (hnames.of_map some) hsame.symm record.blank⟩

/-- A member with the same key and a value that is read alike: the same value, or a payload that has
members in another order. -/
inductive Respells (m m' : Member) : Prop
  | same (hkey : m.key = m'.key) (hcore : m.value.core = m'.value.core)
  | payload (hkey : m.key = m'.key) (hpayload : m.key = "data" ∨ m.key = "order_book")
    (h : Reordered m.value.core m'.value.core)

theorem Respells.key_eq {m m' : Member} (h : Respells m m') : m.key = m'.key := by
  cases h with
  | same hkey => exact hkey
  | payload hkey => exact hkey

theorem whole_payload {t u : List Char} (h : Reordered t u)
    {name : String} {set : Option Value → Envelope → Envelope} {aliases : List String}
    (depth : Nat) :
    let f := Json.Field.of name (.optional .any) set aliases
    (whole (f.update.read depth) t).toOption = (whole (f.update.read depth) u).toOption := by
  intro f
  have hany : ∀ t, Document t → (whole (f.update.read depth) t).toOption =
      ((whole (value depth) t).toOption.map Value.toOption).map set := by
    intro t ht
    rw [show f.update = (Json.Decoder.optional .any).map set from rfl, Json.Decoder.whole_map,
      Json.whole_optional_any ht, Attempts.toOption_map, Attempts.toOption_map]
  rw [hany t h.documents.1, hany u h.documents.2, h.value_eq depth]

theorem Respells.changes {m m' : Member} (h : Respells m m')
    (part : String × (Envelope → Envelope)) :
    record.Changes 126 m part ↔ record.Changes 126 m' part := by
  have hread : ∀ f ∈ record.field? m.key, (whole (f.update.read 126) m.value.core).toOption =
      (whole (f.update.read 126) m'.value.core).toOption := by
    intro f hf
    cases h with
    | same _ hcore => rw [hcore]
    | payload _ hpayload h =>
      rcases hpayload with hkey | hkey <;> rw [hkey] at hf <;> cases hf <;>
        exact whole_payload h 126
  unfold Json.Record.Changes
  rw [← h.key_eq]
  refine exists_congr fun f => and_congr_right fun hf => and_congr_right fun _ => ?_
  rw [← Attempts.toOption_eq_some, ← Attempts.toOption_eq_some, hread f hf]

theorem forall₂_known (h : List.Forall₂ Respells ms ms') :
    List.Forall₂ Respells (known ms) (known ms') :=
  List.rel_filter (fun m m' hm => by simp [hm.key_eq]) h

theorem keys_known (h : List.Forall₂ Respells ms ms') :
    (known ms).map Member.key = (known ms').map Member.key := by
  rw [← List.forall₂_eq_eq_eq, List.forall₂_map_left_iff, List.forall₂_map_right_iff]
  exact (forall₂_known h).imp fun _ _ => Respells.key_eq

theorem documents_of_respells (h : List.Forall₂ Respells ms ms')
    (hms : ∀ m ∈ ms, Document m.value.core) : ∀ m ∈ ms', Document m.value.core := by
  induction h with
  | nil => exact nofun
  | @cons m m' ms ms' hm _ ih =>
    obtain ⟨hfirst, hothers⟩ := List.forall_mem_cons.mp hms
    refine List.forall_mem_cons.mpr ⟨?_, ih hothers⟩
    cases hm with
    | same _ hcore => exact hcore ▸ hfirst
    | payload _ _ h => exact h.documents.2

theorem forall₂_changes (h : List.Forall₂ Respells ms ms')
    (parts : List (String × (Envelope → Envelope))) :
    List.Forall₂ (record.Changes 126) ms parts ↔ List.Forall₂ (record.Changes 126) ms' parts := by
  induction h generalizing parts with
  | nil => exact Iff.rfl
  | cons hm _ ih => simp only [List.forall₂_cons_left_iff, hm.changes, ih]

theorem takesApart_of_respells (h : List.Forall₂ Respells ms ms') :
    TakesApart ms envelope ↔ TakesApart ms' envelope := by
  simp only [TakesApart, forall₂_changes (forall₂_known h)]

theorem known_known (ms : List Member) : known (known ms) = known ms := by
  simp [known, List.filter_filter]

end Envelope

namespace Inbound

open Json (Document Member quoteChars spacedObject)
open Envelope (known Respells TakesApart)

variable {ms ms' : List Member} {blanks blanks' : FrameBlanks} {message : Inbound}

theorem decode_eq_ok {text : String} : decode text = .ok message ↔
    ∃ envelope, Envelope.parse text = .ok envelope ∧ ofEnvelope envelope = .ok message := by
  unfold decode
  cases Envelope.parse text <;> simp

theorem decode_congr (hms : ∀ m ∈ ms, Document m.value.core)
    (hms' : ∀ m ∈ ms', Document m.value.core)
    (honce : ((known ms).map Member.key).Nodup) (honce' : ((known ms').map Member.key).Nodup)
    (h : ∀ envelope, TakesApart ms envelope ↔ TakesApart ms' envelope) :
    decode (frameText blanks ms) = .ok message ↔ decode (frameText blanks' ms') = .ok message := by
  simp only [decode_eq_ok, Envelope.parse_eq_ok hms honce, Envelope.parse_eq_ok hms' honce', h]

/-- Let no known key stand twice in a frame. Then it is decoded to a message just when it is with
its members in any other order, without its unknown members, and with the members of any objects
inside the payload in any other order. -/
theorem decode_members_in_any_order (hms : ∀ m ∈ ms, Document m.value.core)
    (honce : ((known ms).map Member.key).Nodup) (blanks : FrameBlanks) (message : Inbound) :
    (∀ blanks' ms', ms.Perm ms' →
      (decode (frameText blanks ms) = .ok message ↔ decode (frameText blanks' ms') = .ok message)) ∧
    (∀ blanks', decode (frameText blanks ms) = .ok message ↔
      decode (frameText blanks' (known ms)) = .ok message) ∧
    (∀ blanks' ms', List.Forall₂ Respells ms ms' →
      (decode (frameText blanks ms) = .ok message ↔
        decode (frameText blanks' ms') = .ok message)) := by
  refine ⟨?order, ?unknown, ?inside⟩
  case order =>
    intro blanks' ms' hperm
    have honce' : ((known ms').map Member.key).Nodup :=
      (((hperm.filter _).map Member.key).nodup_iff).mp honce
    exact decode_congr hms (fun m hm => hms m (hperm.mem_iff.mpr hm)) honce honce'
      fun envelope => ⟨.perm honce hperm, .perm honce' hperm.symm⟩
  case unknown =>
    intro blanks'
    refine decode_congr hms (fun m hm => hms m (List.mem_of_mem_filter hm)) honce ?_ ?_
    · rwa [Envelope.known_known]
    · intro envelope
      rw [TakesApart, TakesApart, Envelope.known_known]
  case inside =>
    intro blanks' ms' hrespells
    exact decode_congr hms (Envelope.documents_of_respells hrespells hms) honce
      (Envelope.keys_known hrespells ▸ honce) fun envelope =>
        Envelope.takesApart_of_respells hrespells

/-- A trade between two members of an unknown key, the value of which could not be read. -/
theorem decode_members_in_any_order_of_trade :
    let other := Member.bare "x" ['"', '\\', 'u', 'd', '8', '0', '0', '"']
    let type := Member.bare "type" (quoteChars "update/trade")
    let price := Member.bare "price" (quoteChars "1")
    let size := Member.bare "size" (quoteChars "2")
    let data (parts : List Member) := Member.bare "data" (spacedObject [] parts)
    let frame (ms : List Member) := frameText .none ms
    let ms := [other, data [price, size], type, other]
    let trade := market .update ⟨none, .trades [⟨.unknown, "1", "2"⟩]⟩
    (∀ m ∈ ms, Document m.value.core) ∧ ((known ms).map Member.key).Nodup ∧
      decode (frame ms) = .ok trade ∧
      decode (frame [other, other, type, data [price, size]]) = .ok trade ∧
      decode (frame [data [price, size], type]) = .ok trade ∧
      decode (frame [other, data [size, price], type, other]) = .ok trade := by
  intro other type price size data frame ms trade
  have hparts : ∀ m ∈ [price, size], Document m.value.core :=
    List.forall_mem_cons.mpr ⟨Json.document_quoteChars "1",
      List.forall_mem_singleton.mpr (Json.document_quoteChars "2")⟩
  have hother : Document other.value.core := .scalar (.string (.digits rfl .nil))
  have hms : ∀ m ∈ ms, Document m.value.core := by
    simp only [ms, List.forall_mem_cons, List.not_mem_nil, false_implies, implies_true, and_true]
    exact ⟨hother, .object Json.blanks_nil hparts, Json.document_quoteChars "update/trade", hother⟩
  have honce : ((known ms).map Member.key).Nodup := by decide
  have hdecode := Attempts.toOption_eq_some.mp (by decide +kernel :
    (decode (frame ms)).toOption = some trade)
  obtain ⟨horder, hunknown, hinside⟩ := decode_members_in_any_order hms honce .none trade
  refine ⟨hms, honce, hdecode, (horder _ _ ?_).mp hdecode, (hunknown _).mp hdecode,
    (hinside _ _ ?_).mp hdecode⟩
  · exact .cons other (List.reverse_perm [data [price, size], type, other]).symm
  · have hsame : ∀ m, Respells m m := fun m => .same rfl rfl
    have hswapped : Respells (data [price, size]) (data [size, price]) :=
      .payload rfl (.inl rfl) (.members Json.blanks_nil Json.blanks_nil hparts (by decide)
        (.swap size price []))
    exact .cons (hsame other) (.cons hswapped (.cons (hsame type) (.cons (hsame other) .nil)))

end Inbound
end MarketFeed

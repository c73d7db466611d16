import MarketFeed.Proofs.DecodedRecords
import MarketFeed.Proofs.FrameRoundTrip
import MarketFeed.Proofs.ReadingOn

/-!
# Frames around any payload

The payload of a frame is any text that the reader of documents takes for one value, whether this
library would write it so or not. Such a text keeps its value inside a list and inside a frame, as
long as the brackets around it are within the limit. A frame that is written around it is taken
apart into its type, its channel and that value.
-/
namespace MarketFeed

namespace Json

variable {depth depth' : Nat} {s t rest : List Char} {v : Value} {ts : List (List Char)}
  {vs : List Value}

/-- The value, unless it is a null. -/
def Value.toOption : Value → Option Value
  | null => none
  | v => some v

/-- A text without blanks around it that is read as one value. -/
structure Spells (depth : Nat) (t : List Char) (v : Value) : Prop where
  begins : Begins t
  whole : value depth t = .ok (v, [])

theorem Spells.answers (h : Spells depth t v) (hdepth : depth ≤ depth') :
    Answers (value depth') t (.ok v) := fun rest hrest =>
  value_extends hdepth h.whole rest fun _ => hrest

/-- What is written of a value that can be read back spells that value. -/
theorem spells_chars (h : v.Legible depth) : Spells depth v.chars v.sorted := by
  refine ⟨begins_chars h, ?_⟩
  have hread := value_chars h [] closes_nil
  rwa [List.append_nil] at hread

theorem Spells.list (h : List.Forall₂ (Spells depth) ts vs) :
    Spells (depth + 1) (listText ts) (.array vs) := by
  have hread : ∀ t ∈ ts, Begins t ∧ Answers (value depth) t ((value depth t).map Prod.fst) := by
    intro t ht
    obtain ⟨v, hv⟩ := exists_partner h.flip ht
    exact ⟨hv.begins, hv.whole ▸ hv.answers le_rfl⟩
  have hall : ts.mapM (fun t => (value depth t).map Prod.fst) = .ok vs := by
    rw [Attempts.mapM_eq_ok_iff_forall₂]
    exact h.imp fun t v hv => hv.whole ▸ rfl
  have hitems := items_commaJoin (fun t ht => (hread t ht).1) (fun t ht => (hread t ht).2) []
  rw [List.map_id', hall] at hitems
  refine ⟨⟨'[', _, rfl, by decide, by decide⟩, ?_⟩
  rw [← List.append_nil (listText ts), listText_append, value, valueWith_array, hitems]
  rfl

/-- A part that may be missing and is not looked into is the value that is read, unless that is a
null. -/
theorem optional_any_read (h : value depth s = .ok (v, rest)) :
    (Decoder.optional .any).read depth s = .ok (v.toOption, rest) := by
  rw [← value_skipSpace] at h
  simp only [Decoder.optional]
  split
  next u hs =>
    obtain ⟨inner, hinner⟩ := exists_valueWith depth
    rw [hs, hinner] at h
    have hscalar : scalar ('n' :: u) = .ok (v, rest) := by
      simpa [valueWith, skipSpace, isSpace] using h
    obtain ⟨rest, hword, heq⟩ := Attempts.bind_eq_ok.mp hscalar
    cases heq
    exact Attempts.bind_eq_ok.mpr ⟨_, hword, rfl⟩
  next hletter =>
    have hv : v ≠ .null := by
      rintro rfl
      obtain ⟨u, hu⟩ := value_eq_null h
      exact hletter u (skipSpace_skipSpace s ▸ hu)
    have hsome : v.toOption = some v := by
      cases v with
      | null => exact absurd rfl hv
      | _ => rfl
    simp only [Decoder.any, Decoder.viaValue, h, hsome, bind, Except.bind]
    rfl

theorem Spells.answers_optional (h : Spells depth t v) :
    Answers ((Decoder.optional .any).read depth) t (.ok v.toOption) := fun rest hrest =>
  optional_any_read (h.answers le_rfl rest hrest)

theorem optional_any_ofValue (v : Value) : (Decoder.optional .any).ofValue v = .ok v.toOption := by
  cases v <;> rfl

/-- Images in another order are the images of what they come from, in that order. -/
theorem exists_perm_map {α β : Type} {f : α → β} {as : List α} {bs : List β}
    (h : bs.Perm (as.map f)) : ∃ ordered : List α, ordered.Perm as ∧ bs = ordered.map f := by
  have himages : List.Forall₂ (fun b a => b = f a) (as.map f) as := by
    rw [List.forall₂_map_left_iff]
    exact List.forall₂_same.mpr fun _ _ => rfl
  obtain ⟨ordered, hbs, hordered⟩ := List.perm_comp_forall₂ h himages
  refine ⟨ordered, hordered, ?_⟩
  rw [← List.forall₂_eq_eq_eq, List.forall₂_map_right_iff]
  exact hbs

section Records

variable {α β : Type} {r : Record α} {d : Decoder β} {b : β} {parts : List (String × (α → α))}
  {ms : List (String × List Char × Value)} {texts : List (String × List Char)}

/-- A member in text with the value that it spells, the field that takes it and the change that it
makes. -/
def Record.TakesText (r : Record α) (depth : Nat) (member : String × List Char × Value)
    (part : String × (α → α)) : Prop :=
  ∃ f, r.field? member.1 = some f ∧ f.name = part.1 ∧
    Answers (f.update.read depth) member.2.1 (.ok part.2) ∧
    f.update.ofValue member.2.2 = .ok part.2

theorem Record.takesText_of {key name : String} {set : β → α → α} {aliases : List String}
    (hfield : r.field? key = some (.of name d set aliases))
    (hread : Answers (d.read depth) t (.ok b)) (hvalue : d.ofValue v = .ok b) :
    r.TakesText depth (key, t, v) (name, set b) := by
  refine ⟨_, hfield, rfl, ?_, ?_⟩
  · intro rest hrest
    simp only [Field.of, Decoder.map, hread rest hrest, bind, Except.bind, Except.map]
    rfl
  · simp only [Field.of, Decoder.map, hvalue, Except.map]

/-- A record is read from text with its members in any order. -/
theorem Record.answers_record (hind : r.Independent)
    (htakes : List.Forall₂ (r.TakesText depth) ms parts) (hnames : (parts.map Prod.fst).Nodup)
    (hperm : texts.Perm (ms.map fun member => (member.1, member.2.1))) :
    Answers (r.decoder.read (depth + 1)) (objectText texts)
      (.ok (parts.foldl (fun a part => part.2 a) r.blank)) := by
  obtain ⟨ordered, hordered, rfl⟩ := exists_perm_map hperm
  have hvalues : List.Forall₂ r.Takes (ms.map fun member => (member.1, member.2.2)) parts := by
    rw [List.forall₂_map_left_iff]
    exact htakes.imp fun member part ⟨f, hfield, hname, _, hvalue⟩ => ⟨f, hfield, hname, hvalue⟩
  have hmembers : ∀ member ∈ ordered, ∀ draft,
      Answers (r.readMember depth draft member.1) (':' :: member.2.1)
        (r.takeMember draft member.1 member.2.2) := by
    intro member hmember draft
    obtain ⟨part, f, hfield, -, hread, hvalue⟩ :=
      exists_partner htakes.flip (hordered.mem_iff.mp hmember)
    exact answers_readMember hfield hread hvalue draft
  have hanswers := answers_members hmembers
  have hfold := foldlM_takeMember_perm hind hvalues hnames (hordered.map fun m => (m.1, m.2.2))
  rw [List.foldlM_map] at hfold
  rwa [hfold] at hanswers

end Records

end Json

namespace Envelope

open Json (Spells Value Decoder quoteChars objectText)
open Json.Record (takesText_of answers_record)

variable {kind : String} {channel : Option String} {echo : Option Value}
  {data : Option (List Char × Value)} {ms : List (String × List Char)}

/-- The members of a frame in text, its payload any text. -/
def textMembers (kind : String) (echo : Option Value) (data : Option (List Char)) :
    List (String × List Char) :=
  ("type", quoteChars kind) :: (echo.map fun v => ("channel", v.chars)).toList ++
    (data.map ("data", ·)).toList

theorem Echoes.takesText (h : Echoes channel echo) : ∀ v ∈ echo,
    record.TakesText 126 ("channel", v.chars, v)
      ("channel", fun envelope => { envelope with channel }) := by
  intro v hv
  have hlegible : v.Legible 126 := by
    cases h <;> cases hv <;> trivial
  have hsorted : v.sorted = v := by
    cases h <;> cases hv <;> rfl
  have hreads := h.reads v hv
  have hvalue := hreads.fromValue
  rw [hsorted] at hvalue
  have htakes : record.TakesText 126 ("channel", v.chars, v) _ :=
    takesText_of rfl (hreads.fromText hlegible) hvalue
  exact htakes

/-- A frame that is written around the text of a value is taken apart into its type, its channel and
that value. -/
theorem parse_written (hecho : Echoes channel echo) (hdata : ∀ p ∈ data, Spells 126 p.1 p.2)
    (hperm : ms.Perm (textMembers kind echo (data.map Prod.fst))) :
    parse (String.ofList (objectText ms)) =
      .ok ⟨kind, channel, data.bind fun p => p.2.toOption, none⟩ := by
  have hreads := Decoder.string_reads kind
  have hkind : record.TakesText 126 ("type", quoteChars kind, .string kind) _ :=
    takesText_of rfl (hreads.fromText (Value.legible_string 126 kind)) hreads.fromValue
  have hchannel := Json.forall₂_toList hecho.takesText
  have hpayload := Json.forall₂_toList fun p (hp : p ∈ data) =>
    (takesText_of rfl (hdata p hp).answers_optional (Json.optional_any_ofValue p.2) :
      record.TakesText 126 ("data", p.1, p.2) _)
  have htakes := List.rel_append (List.Forall₂.cons hkind hchannel) hpayload
  have htexts : textMembers kind echo (data.map Prod.fst) =
      (("type", quoteChars kind, Value.string kind) ::
        (echo.map fun v => ("channel", v.chars, v)).toList ++
          (data.map fun p => ("data", p.1, p.2)).toList).map
        fun member => (member.1, member.2.1) := by
    cases echo <;> cases data <;> rfl
  rw [htexts] at hperm
  have hanswers := answers_record independent htakes
    (by cases echo <;> cases data <;> simp) hperm
  -- what is left out keeps the value of the blank envelope
  have hparse : parse (String.ofList (objectText ms)) = _ := hanswers.parseWith
  cases hecho <;> cases data <;> exact hparse

end Envelope
end MarketFeed

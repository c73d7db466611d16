import MarketFeed.Json.Decoder
import MarketFeed.Proofs.Attempts
import Mathlib.Data.List.DropRight

/-!
# What decoders give

A decoder has two ways to give a value, from a text and from a document, and what is said here holds
of both. A record is its blank changed by one field after another, in whichever order and form they
come. So a property that the blank has and that every change of every field keeps is a property of
every record that is decoded.
-/
namespace MarketFeed.Json

variable {α β σ : Type}

namespace Decoder

/-- A value that the decoder makes of some text or of some document. -/
def Gives (d : Decoder α) (a : α) : Prop :=
  (∃ depth s rest, d.read depth s = .ok (a, rest)) ∨ ∃ v, d.ofValue v = .ok a

variable {d : Decoder α} {a : α}

theorem gives_of_parseWith {depth : Nat} {text : String}
    (h : parseWith (d.read depth) text = .ok a) : d.Gives a := by
  obtain ⟨⟨b, rest⟩, hread, hrest⟩ := Attempts.bind_eq_ok.mp h
  have hb : b = a := by
    simp only at hrest
    split at hrest
    · exact Except.ok.inj hrest
    · cases hrest
  subst hb
  exact .inl ⟨depth, text.toList, rest, hread⟩

theorem gives_of_map {f : α → β} {b : β} (h : (d.map f).Gives b) : ∃ a, d.Gives a ∧ f a = b := by
  rcases h with ⟨depth, s, rest, hread⟩ | ⟨v, hv⟩
  · obtain ⟨⟨a, rest'⟩, ha, hb⟩ := Attempts.bind_eq_ok.mp hread
    have hf : f a = b := congrArg Prod.fst (Except.ok.inj hb)
    exact ⟨a, .inl ⟨depth, s, rest', ha⟩, hf⟩
  · obtain ⟨a, ha, hf⟩ := Attempts.map_eq_ok.mp hv
    exact ⟨a, .inr ⟨v, ha⟩, hf⟩

end Decoder

section Nulls

variable {depth : Nat} {s rest : List Char} {v : Value}

theorem scalar_eq_null (h : scalar s = .ok (.null, rest)) : ∃ t, s = 'n' :: t := by
  unfold scalar at h
  split at h
  case h_2 t => exact ⟨t, rfl⟩
  case h_1 => cases h
  case h_7 =>
    split at h
    · obtain ⟨_, -, h⟩ := Attempts.bind_eq_ok.mp h
      cases h
    · cases h
  all_goals
    obtain ⟨_, -, h⟩ := Attempts.bind_eq_ok.mp h
    cases h

theorem value_eq_null (h : value depth s = .ok (.null, rest)) : ∃ t, skipSpace s = 'n' :: t := by
  have hwith : ∃ inner, valueWith inner s = .ok (.null, rest) := by
    cases depth with
    | zero => exact ⟨none, h⟩
    | succ depth => exact ⟨some (value depth), h⟩
  obtain ⟨inner, hread⟩ := hwith
  unfold valueWith at hread
  split at hread
  case h_5 => exact scalar_eq_null hread
  case h_1 | h_2 => cases hread
  all_goals
    obtain ⟨_, -, hread⟩ := Attempts.bind_eq_ok.mp hread
    cases hread

/-- A part that may be missing is never there as a null. -/
theorem Decoder.optional_any_ne_null (h : (Decoder.optional .any).Gives (some v)) : v ≠ .null := by
  rintro rfl
  rcases h with ⟨depth, s, rest, hread⟩ | ⟨w, hw⟩
  · simp only [optional] at hread
    split at hread
    · obtain ⟨_, -, hread⟩ := Attempts.bind_eq_ok.mp hread
      cases hread
    · next hletter =>
      obtain ⟨⟨v, afterPart⟩, hpart, hread⟩ := Attempts.bind_eq_ok.mp hread
      obtain ⟨⟨w, afterValue⟩, hvalue, hpart⟩ := Attempts.bind_eq_ok.mp hpart
      cases hread
      cases hpart
      obtain ⟨t, ht⟩ := value_eq_null hvalue
      have hskip : skipSpace (skipSpace s) = skipSpace s := List.dropWhile_idempotent isSpace s
      exact hletter t (hskip ▸ ht)
  · cases w <;> cases hw

end Nulls

section Members

variable {P : σ → Prop} {step : σ → String → Reader σ} {state final : σ} {s rest : List Char}

theorem moreMembers_keeps
    (hstep : ∀ {state key s next rest}, P state → step state key s = .ok (next, rest) → P next)
    {steps : Nat} (hstate : P state) (h : moreMembers step steps state s = .ok (final, rest)) :
    P final := by
  induction steps generalizing state s with
  | zero => cases h
  | succ steps ih =>
    rw [moreMembers] at h
    split at h
    · cases h
    · obtain ⟨rfl, -⟩ := Prod.mk.inj (Except.ok.inj h)
      exact hstate
    · split at h
      · cases h
      · cases h
      · obtain ⟨⟨key, afterKey⟩, -, h⟩ := Attempts.bind_eq_ok.mp h
        obtain ⟨⟨next, afterMember⟩, hnext, h⟩ := Attempts.bind_eq_ok.mp h
        exact ih (hstep hstate hnext) h
      · cases h
    · cases h

theorem members_keeps
    (hstep : ∀ {state key s next rest}, P state → step state key s = .ok (next, rest) → P next)
    (hstate : P state) (h : members step state s = .ok (final, rest)) : P final := by
  unfold members at h
  split at h
  · cases h
  · obtain ⟨rfl, -⟩ := Prod.mk.inj (Except.ok.inj h)
    exact hstate
  · obtain ⟨⟨key, afterKey⟩, -, h⟩ := Attempts.bind_eq_ok.mp h
    obtain ⟨⟨next, afterMember⟩, hnext, h⟩ := Attempts.bind_eq_ok.mp h
    exact moreMembers_keeps hstep (hstep hstate hnext) h
  · cases h

end Members

/-- No change that the field makes destroys the property. -/
def Field.Keeps (P : α → Prop) (f : Field α) : Prop :=
  ∀ u, f.update.Gives u → ∀ a, P a → P (u a)

theorem Field.of_keeps {P : α → Prop} {name : String} {d : Decoder β} {set : β → α → α}
    {aliases : List String} (h : ∀ b, d.Gives b → ∀ a, P a → P (set b a)) :
    (Field.of name d set aliases).Keeps P := by
  intro u hu
  obtain ⟨b, hb, rfl⟩ := Decoder.gives_of_map hu
  exact h b hb

namespace Record

variable {r : Record α} {P : α → Prop} {a b : α} {depth : Nat} {s rest : List Char}
  {fields : List (Field α)}

theorem readMember_keeps (h : ∀ f ∈ r.fields, f.Keeps P) {draft next : Draft α} {key : String}
    (hdraft : P draft.value) (hread : r.readMember depth draft key s = .ok (next, rest)) :
    P next.value := by
  unfold readMember at hread
  split at hread
  · obtain ⟨_, -, hread⟩ := Attempts.bind_eq_ok.mp hread
    obtain ⟨_, -, hread⟩ := Attempts.bind_eq_ok.mp hread
    obtain ⟨rfl, -⟩ := Prod.mk.inj (Except.ok.inj hread)
    exact hdraft
  · next f hfield =>
    split at hread
    · cases hread
    · obtain ⟨afterColon, -, hread⟩ := Attempts.bind_eq_ok.mp hread
      obtain ⟨⟨u, afterValue⟩, hu, hread⟩ := Attempts.bind_eq_ok.mp hread
      obtain ⟨rfl, -⟩ := Prod.mk.inj (Except.ok.inj hread)
      have hgives : f.update.Gives u := .inl ⟨depth, afterColon, afterValue, hu⟩
      exact h f (List.mem_of_find?_eq_some hfield) u hgives _ hdraft

theorem takeMember_keeps (h : ∀ f ∈ r.fields, f.Keeps P) {draft next : Draft α} {key : String}
    {v : Value} (hdraft : P draft.value) (htake : r.takeMember draft key v = .ok next) :
    P next.value := by
  unfold takeMember at htake
  split at htake
  · obtain rfl := Except.ok.inj htake
    exact hdraft
  · next f hfield =>
    split at htake
    · cases htake
    · obtain ⟨u, hu, htake⟩ := Attempts.bind_eq_ok.mp htake
      obtain rfl := Except.ok.inj htake
      exact h f (List.mem_of_find?_eq_some hfield) u (.inr ⟨v, hu⟩) _ hdraft

theorem closeList_eq_ok (h : closeList a s = .ok (b, rest)) : b = a := by
  unfold closeList at h
  split at h
  · cases h
  · exact (congrArg Prod.fst (Except.ok.inj h)).symm
  · split at h <;> cases h
  · cases h

theorem readMoreItems_keeps (h : ∀ f ∈ fields, f.Keeps P) (ha : P a)
    (hread : readMoreItems depth fields a s = .ok (b, rest)) : P b := by
  induction fields generalizing a s with
  | nil => exact closeList_eq_ok hread ▸ ha
  | cons f fields ih =>
    obtain ⟨hfield, hfields⟩ := List.forall_mem_cons.mp h
    rw [readMoreItems] at hread
    split at hread
    · cases hread
    · obtain ⟨rfl, -⟩ := Prod.mk.inj (Except.ok.inj hread)
      exact ha
    · split at hread
      · cases hread
      · cases hread
      · obtain ⟨⟨u, afterItem⟩, hu, hread⟩ := Attempts.bind_eq_ok.mp hread
        exact ih hfields (hfield u (.inl ⟨_, _, _, hu⟩) a ha) hread
    · cases hread

theorem readItems_keeps (h : ∀ f ∈ fields, f.Keeps P) (ha : P a)
    (hread : readItems depth fields a s = .ok (b, rest)) : P b := by
  cases fields with
  | nil => exact closeList_eq_ok hread ▸ ha
  | cons f fields =>
    obtain ⟨hfield, hfields⟩ := List.forall_mem_cons.mp h
    rw [readItems] at hread
    split at hread
    · cases hread
    · obtain ⟨rfl, -⟩ := Prod.mk.inj (Except.ok.inj hread)
      exact ha
    · obtain ⟨⟨u, afterItem⟩, hu, hread⟩ := Attempts.bind_eq_ok.mp hread
      exact readMoreItems_keeps hfields (hfield u (.inl ⟨_, _, _, hu⟩) a ha) hread

theorem takeItems_keeps (h : ∀ f ∈ fields, f.Keeps P) (ha : P a) {vs : List Value}
    (htake : takeItems fields vs a = .ok b) : P b := by
  induction fields generalizing a vs with
  | nil => exact Except.ok.inj htake ▸ ha
  | cons f fields ih =>
    cases vs with
    | nil => exact Except.ok.inj htake ▸ ha
    | cons v vs =>
      obtain ⟨u, hu, htake⟩ := Attempts.bind_eq_ok.mp htake
      obtain ⟨hfield, hfields⟩ := List.forall_mem_cons.mp h
      exact ih hfields (hfield u (.inr ⟨v, hu⟩) a ha) htake

theorem foldlM_takeMember_keeps (h : ∀ f ∈ r.fields, f.Keeps P) {ms : List (String × Value)}
    {draft final : Draft α} (hdraft : P draft.value)
    (hfold : ms.foldlM (fun draft (key, v) => r.takeMember draft key v) draft = .ok final) :
    P final.value := by
  induction ms generalizing draft with
  | nil => exact Except.ok.inj hfold ▸ hdraft
  | cons m ms ih =>
    rw [List.foldlM_cons] at hfold
    obtain ⟨next, hnext, hfold⟩ := Attempts.bind_eq_ok.mp hfold
    exact ih (takeMember_keeps h hdraft hnext) hfold

/-- A property of the blank that every field keeps is a property of every record that is decoded,
from an object or a list, in text or in a document. -/
theorem decoder_keeps (h : ∀ f ∈ r.fields, f.Keeps P) (hblank : P r.blank)
    (hgives : r.decoder.Gives a) : P a := by
  rcases hgives with ⟨depth, s, rest, hread⟩ | ⟨v, htake⟩
  · simp only [decoder] at hread
    split at hread
    · cases hread
    · cases hread
    · cases hread
    · exact readItems_keeps h hblank hread
    · obtain ⟨⟨draft, afterMembers⟩, hmembers, hread⟩ := Attempts.bind_eq_ok.mp hread
      obtain ⟨rfl, -⟩ := Prod.mk.inj (Except.ok.inj hread)
      exact members_keeps (P := fun draft : Draft α => P draft.value) (readMember_keeps h) hblank
        hmembers
    · cases hread
  · simp only [decoder] at htake
    split at htake
    · obtain ⟨b, hb, htake⟩ := Attempts.bind_eq_ok.mp htake
      split at htake
      · cases htake
      · obtain rfl := Except.ok.inj htake
        exact takeItems_keeps h hblank hb
    · obtain ⟨draft, hdraft, htake⟩ := Attempts.bind_eq_ok.mp htake
      obtain rfl := Except.ok.inj htake
      exact foldlM_takeMember_keeps h hblank hdraft
    · cases htake

end Record
end MarketFeed.Json

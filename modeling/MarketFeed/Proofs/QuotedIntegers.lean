import MarketFeed.Proofs.Attempts
import MarketFeed.Proofs.MemberOrder

/-!
# Integers in quotation marks

A decimal that is written as an integer comes out as the same text as the string of its digits. So
in a document integers may be put in quotation marks wherever its decoder reads decimals, at any
depth, and what is decoded from it stays the same. That has to be seen on two ways: a decoder reads
the text itself, or it is given the value of the document, and the two values are different ones.
-/
namespace MarketFeed.Json

open Attempts (Both)

variable {α β : Type} {d : Decoder α} {r : Record α} {f : Field α} {t u : List Char} {depth : Nat}

namespace Decoder

/-- The decoder makes the same of two values, and neither is a null without the other. -/
structure Agrees (d : Decoder α) (v w : Value) : Prop where
  null : v = .null ↔ w = .null
  ofValue : d.ofValue v = d.ofValue w

namespace Agrees

variable {v w x : Value}

theorem refl (d : Decoder α) (v : Value) : d.Agrees v v := ⟨Iff.rfl, rfl⟩

theorem trans (h : d.Agrees v w) (h' : d.Agrees w x) : d.Agrees v x :=
  ⟨h.null.trans h'.null, h.ofValue.trans h'.ofValue⟩

theorem map (h : d.Agrees v w) (f : α → β) : (d.map f).Agrees v w :=
  ⟨h.null, congrArg (Except.map f) h.ofValue⟩

theorem optional_ofValue_of_ne (h : v ≠ .null) :
    (optional d).ofValue v = (d.ofValue v).map some := by
  cases v <;> first | exact absurd rfl h | rfl

theorem optional (h : d.Agrees v w) : (optional d).Agrees v w := by
  refine ⟨h.null, ?_⟩
  by_cases hv : v = .null
  · rw [hv, h.null.mp hv]
  · rw [optional_ofValue_of_ne hv, optional_ofValue_of_ne (mt h.null.mpr hv), h.ofValue]

theorem array {vs ws : List Value} (h : List.Forall₂ d.Agrees vs ws) :
    (list d).Agrees (.array vs) (.array ws) :=
  ⟨by simp, Attempts.mapM_congr (h.imp fun _ _ hvw => hvw.ofValue)⟩

end Agrees

/-- Documents of which the decoder makes the same, from their texts and by way of their values. -/
structure Alike (d : Decoder α) (t u : List Char) : Prop where
  documents : Document t ∧ Document u
  null : t = ['n', 'u', 'l', 'l'] ↔ u = ['n', 'u', 'l', 'l']
  text : ∀ depth, whole (d.read depth) t = whole (d.read depth) u
  value : ∀ depth, Both d.Agrees (whole (value depth) t) (whole (value depth) u)

end Decoder

namespace Record

/-- Members of two values of which a record makes the same. -/
def Agrees (r : Record α) (m n : String × Value) : Prop :=
  m.1 = n.1 ∧ ∀ f ∈ r.field? m.1, f.update.Agrees m.2 n.2

theorem Agrees.refl (r : Record α) (m : String × Value) : r.Agrees m m :=
  ⟨rfl, fun f _ => .refl f.update m.2⟩

theorem forall₂_insertMember {key : String} {v w : Value} {ms ns : List (String × Value)}
    (hnew : r.Agrees (key, v) (key, w)) (h : List.Forall₂ r.Agrees ms ns) :
    List.Forall₂ r.Agrees (insertMember key v ms) (insertMember key w ns) := by
  induction h with
  | nil => exact .cons hnew .nil
  | @cons m n ms ns hmn hrest ih =>
    obtain ⟨k, x⟩ := m
    obtain ⟨l, y⟩ := n
    obtain rfl : k = l := hmn.1
    simp only [insertMember]
    split_ifs
    · exact .cons hnew (.cons hmn hrest)
    · exact .cons hnew hrest
    · exact .cons hmn ih

theorem takeMember_eq {m n : String × Value} (h : r.Agrees m n) (draft : Draft α) :
    r.takeMember draft m.1 m.2 = r.takeMember draft n.1 n.2 := by
  unfold takeMember
  rw [← h.1]
  cases hfield : r.field? m.1 with
  | none => rfl
  | some f => simp only [(h.2 f hfield).ofValue]

theorem agrees_object {ms ns : List (String × Value)} (h : List.Forall₂ r.Agrees ms ns) :
    r.decoder.Agrees (.object ms) (.object ns) := by
  have hfold : ∀ draft, ms.foldlM (fun draft m => r.takeMember draft m.1 m.2) draft =
      ns.foldlM (fun draft m => r.takeMember draft m.1 m.2) draft := by
    induction h with
    | nil => exact fun _ => rfl
    | cons hmn _ ih =>
      intro draft
      rw [List.foldlM_cons, List.foldlM_cons, takeMember_eq hmn]
      exact congrArg _ (funext ih)
  exact ⟨by simp, congrArg (Except.map Draft.value) (hfold ⟨[], r.blank⟩)⟩

theorem takeItems_eq {fields : List (Field α)} {n : Nat} {vs ws : List Value} {f : Field α}
    (hfield : fields[n]? = some f) (h : DiffersAt f.update.Agrees n vs ws) (a : α) :
    takeItems fields vs a = takeItems fields ws a := by
  induction h generalizing fields a with
  | here h after =>
    cases fields with
    | nil => rfl
    | cons g fields =>
      obtain rfl : g = f := Option.some.inj hfield
      rw [takeItems, takeItems, h.ofValue]
  | there v _ ih =>
    cases fields with
    | nil => rfl
    | cons g fields =>
      rw [takeItems, takeItems]
      exact congrArg _ (funext fun u => ih hfield (u a))

theorem agrees_array {n : Nat} {vs ws : List Value} (hfield : r.fields[n]? = some f)
    (h : DiffersAt f.update.Agrees n vs ws) : r.decoder.Agrees (.array vs) (.array ws) := by
  refine ⟨by simp, ?_⟩
  simp only [decoder, takeItems_eq hfield h r.blank, h.length_eq]

theorem takeTexts_eq {fields : List (Field α)} {n : Nat} {is js : List Padded} {f : Field α}
    (hfield : fields[n]? = some f)
    (h : DiffersAt (fun i j : Padded =>
      whole (f.update.read depth) i.core = whole (f.update.read depth) j.core) n is js) (a : α) :
    takeTexts depth fields is a = takeTexts depth fields js a := by
  induction h generalizing fields a with
  | here h after =>
    cases fields with
    | nil => rfl
    | cons g fields =>
      obtain rfl : g = f := Option.some.inj hfield
      rw [takeTexts, takeTexts, h]
  | there i _ ih =>
    cases fields with
    | nil => rfl
    | cons g fields =>
      rw [takeTexts, takeTexts]
      exact congrArg _ (funext fun u => ih hfield (u a))

end Record

namespace Decoder.Alike

theorem refl (h : Document t) : d.Alike t t where
  documents := ⟨h, h⟩
  null := Iff.rfl
  text _ := rfl
  value _ := .refl (Agrees.refl d) _

theorem trans {w : List Char} (h : d.Alike t u) (h' : d.Alike u w) : d.Alike t w where
  documents := ⟨h.documents.1, h'.documents.2⟩
  null := h.null.trans h'.null
  text depth := (h.text depth).trans (h'.text depth)
  value depth := (h.value depth).trans (fun _ _ _ => Agrees.trans) (h'.value depth)

theorem map (h : d.Alike t u) (f : α → β) : (d.map f).Alike t u where
  documents := h.documents
  null := h.null
  text depth := by rw [whole_map, whole_map, h.text]
  value depth := (h.value depth).imp fun _ _ hvw => hvw.map f

theorem whole_optional (h : Document t) (hnull : t ≠ ['n', 'u', 'l', 'l']) (depth : Nat) :
    whole ((Decoder.optional d).read depth) t = (whole (d.read depth) t).map some := by
  obtain ⟨c, cs, rfl, hspace, -, hletter, -⟩ := h.head
  rw [whole, whole, optional_read_of_head hspace (mt hletter hnull)]
  cases d.read depth (c :: cs) <;> rfl

theorem optional (h : d.Alike t u) : (Decoder.optional d).Alike t u where
  documents := h.documents
  null := h.null
  text depth := by
    by_cases hnull : t = ['n', 'u', 'l', 'l']
    · rw [hnull, h.null.mp hnull]
    · rw [whole_optional h.documents.1 hnull,
        whole_optional h.documents.2 (mt h.null.mpr hnull), h.text]
  value depth := (h.value depth).imp fun _ _ => Agrees.optional

theorem whole_viaValue (f : Value → Except Fault α) (depth : Nat) (t : List Char) :
    whole ((viaValue f).read depth) t = whole (Json.value depth) t >>= f := by
  simp only [whole, viaValue]
  cases Json.value depth t with
  | error fault => rfl
  | ok p =>
    simp only [bind, Except.bind, Except.map]
    cases f p.1 <;> rfl

theorem whole_integer {n : Int} (h : (Number.integer n).Legible) (depth : Nat) :
    whole (Json.value depth) (toString n).toList = .ok (.int n) :=
  (value_chars (Value.legible_number.mpr h)).whole_eq

theorem whole_string (s : String) (depth : Nat) :
    whole (Json.value depth) (quoteChars s) = .ok (.string s) :=
  (value_chars (v := .string s) (Value.legible_string depth s)).whole_eq

theorem integer {n : Int} (h : (Number.integer n).Legible) :
    decimal.Alike (toString n).toList (quoteChars (toString n)) where
  documents := ⟨document_integer n, document_quoteChars _⟩
  null := by
    obtain ⟨c, cs, htext, hc⟩ := toList_toString_int_eq_cons n
    have hletter : c ≠ 'n' := by
      rintro rfl
      simp at hc
    rw [htext]
    simp [hletter, quoteChars]
  text depth := by
    rw [decimal, whole_viaValue, whole_viaValue, whole_integer h, whole_string]
    rfl
  value depth := by
    rw [whole_integer h, whole_string]
    exact .ok ⟨by simp [Value.int], rfl⟩

variable {inner : List Char}

theorem values_of_items {before after : List Padded} {i : Padded} (hinner : Blanks inner)
    (hothers : ∀ j ∈ before ++ after, Document j.core) (h : d.Alike i.core t) (depth : Nat) :
    Both (fun v w => ∃ vs ws, v = .array vs ∧ w = .array ws ∧
        DiffersAt d.Agrees before.length vs ws)
      (whole (Json.value (depth + 1)) (spacedList inner (before ++ i :: after)))
      (whole (Json.value (depth + 1)) (spacedList inner (before ++ i.replace t :: after))) := by
  have hitems : DiffersAt (fun j k : Padded => Both d.Agrees (whole (Json.value depth) j.core)
      (whole (Json.value depth) k.core)) before.length (before ++ i :: after)
      (before ++ i.replace t :: after) :=
    .append (a := i) (b := i.replace t) (h.value depth) before after
  rw [whole_value_list hinner (forall_mem_replace hothers h.documents.1),
    whole_value_list hinner (forall_mem_replace hothers h.documents.2)]
  exact (Both.mapM hitems).map fun vs ws hvs => ⟨vs, ws, rfl, rfl, hvs⟩

theorem item {before after : List Padded} {i : Padded} (hd : d.Delimits) (hinner : Blanks inner)
    (hothers : ∀ j ∈ before ++ after, Document j.core) (h : d.Alike i.core t) :
    (list d).Alike (spacedList inner (before ++ i :: after))
      (spacedList inner (before ++ i.replace t :: after)) where
  documents := documents_item hinner hothers h.documents
  null := by simp [spacedList]
  text depth := by
    cases depth with
    | zero => rfl
    | succ depth =>
      have hitems : List.Forall₂ (fun j k : Padded =>
          whole (d.read depth) j.core = whole (d.read depth) k.core)
          (before ++ i :: after) (before ++ i.replace t :: after) :=
        forall₂_replace (fun _ => rfl) (h.text depth)
      rw [(answers_list hd hinner (forall_mem_replace hothers h.documents.1) depth).whole_eq,
        (answers_list hd hinner (forall_mem_replace hothers h.documents.2) depth).whole_eq,
        Attempts.mapM_congr hitems]
  value depth := by
    cases depth with
    | zero => exact .error Fault.nestingTooDeep
    | succ depth =>
      refine (values_of_items hinner hothers h depth).imp ?_
      rintro _ _ ⟨vs, ws, rfl, rfl, hvs⟩
      exact .array (hvs.forall₂ (Agrees.refl d))

theorem place {before after : List Padded} {i : Padded} (hr : r.Delimits) (hinner : Blanks inner)
    (hothers : ∀ j ∈ before ++ after, Document j.core) (hfield : r.fields[before.length]? = some f)
    (h : f.update.Alike i.core t) :
    r.decoder.Alike (spacedList inner (before ++ i :: after))
      (spacedList inner (before ++ i.replace t :: after)) where
  documents := documents_item hinner hothers h.documents
  null := by simp [spacedList]
  text depth := by
    cases depth with
    | zero => rfl
    | succ depth =>
      have hitems : DiffersAt (fun j k : Padded =>
          whole (f.update.read depth) j.core = whole (f.update.read depth) k.core) before.length
          (before ++ i :: after) (before ++ i.replace t :: after) :=
        .append (a := i) (b := i.replace t) (h.text depth) before after
      have ht : ∀ j ∈ before ++ i :: after, Document j.core :=
        forall_mem_replace hothers h.documents.1
      have hu : ∀ j ∈ before ++ i.replace t :: after, Document j.core :=
        forall_mem_replace hothers h.documents.2
      rw [(Record.answers_items hr hinner ht depth).whole_eq,
        (Record.answers_items hr hinner hu depth).whole_eq, Record.takeTexts_eq hfield hitems]
  value depth := by
    cases depth with
    | zero => exact .error Fault.nestingTooDeep
    | succ depth =>
      refine (values_of_items hinner hothers h depth).imp ?_
      rintro _ _ ⟨vs, ws, rfl, rfl, hvs⟩
      exact Record.agrees_array hfield hvs

theorem takeText_replace {m : Member} (hfield : r.field? m.key = some f)
    (h : f.update.Alike m.value.core t) (draft : Record.Draft α) :
    r.takeText depth draft m = r.takeText depth draft (m.replace t) := by
  simp only [Record.takeText, Member.replace, Padded.replace, hfield, h.text depth]

theorem both_putMember {result : Member → Except Fault Value} {m n : Member}
    {before before' : List (String × Value)} (hbefore : List.Forall₂ r.Agrees before before')
    (h : Both (fun v w => r.Agrees (m.key, v) (n.key, w)) (result m) (result n)) :
    Both (List.Forall₂ r.Agrees) (putMember result before m) (putMember result before' n) := by
  refine h.map fun v w hvw => ?_
  have hkey : m.key = n.key := hvw.1
  rw [← hkey] at hvw ⊢
  exact Record.forall₂_insertMember hvw hbefore

theorem member {before after : List Member} {m : Member} (hr : r.Delimits) (hinner : Blanks inner)
    (hothers : ∀ n ∈ before ++ after, Document n.value.core) (hfield : r.field? m.key = some f)
    (h : f.update.Alike m.value.core t) :
    r.decoder.Alike (spacedObject inner (before ++ m :: after))
      (spacedObject inner (before ++ m.replace t :: after)) where
  documents := documents_member hinner hothers h.documents
  null := by simp [spacedObject]
  text depth := by
    cases depth with
    | zero => rfl
    | succ depth =>
      have ht : ∀ n ∈ before ++ m :: after, Document n.value.core :=
        forall_mem_replace hothers h.documents.1
      have hu : ∀ n ∈ before ++ m.replace t :: after, Document n.value.core :=
        forall_mem_replace hothers h.documents.2
      rw [(Record.answers_object hr hinner ht depth).whole_eq,
        (Record.answers_object hr hinner hu depth).whole_eq]
      simp only [List.foldlM_append, List.foldlM_cons, takeText_replace hfield h]
  value depth := by
    cases depth with
    | zero => exact .error Fault.nestingTooDeep
    | succ depth =>
      rw [whole_value_object hinner (forall_mem_replace hothers h.documents.1),
        whole_value_object hinner (forall_mem_replace hothers h.documents.2)]
      have hagrees : ∀ v w, f.update.Agrees v w → r.Agrees (m.key, v) (m.key, w) := by
        intro v w hvw
        refine ⟨rfl, fun g hg => ?_⟩
        obtain rfl : f = g := Option.some.inj (hfield.symm.trans hg)
        exact hvw
      -- members are sorted in as they are read, so what is there already is carried along in pairs
      refine Both.map (Both.foldlM ?_ .nil) fun _ _ => Record.agrees_object
      refine forall₂_replace (fun n before before' hbefore => ?_) fun before before' hbefore => ?_
      · exact both_putMember hbefore (.refl (fun v => .refl r (n.key, v)) _)
      · exact both_putMember hbefore ((h.value depth).imp hagrees)

end Decoder.Alike

/-- The second document is the first one with integers of 64 bits, signed or unsigned, in quotation
marks. Each of them stands in ordinary decimal notation where the decoder reads a decimal, and that
may be in an item of a list, in a member under the key of a field, or in a list at the place of a
field. The parts of the decoder find the end of every document, as those of all payloads do. -/
inductive Requoted : {α : Type} → Decoder α → List Char → List Char → Prop
  | refl {α : Type} {d : Decoder α} {t : List Char} (h : Document t) : Requoted d t t
  | integer {n : Int} (hlow : -2 ^ 63 ≤ n) (hhigh : n < 2 ^ 64) :
    Requoted .decimal (toString n).toList (quoteChars (toString n))
  | map {α β : Type} {d : Decoder α} {t u : List Char} (g : α → β) (h : Requoted d t u) :
    Requoted (d.map g) t u
  | optional {α : Type} {d : Decoder α} {t u : List Char} (h : Requoted d t u) :
    Requoted (.optional d) t u
  | item {α : Type} {d : Decoder α} {inner t : List Char} {before after : List Padded} {i : Padded}
    (hd : d.Delimits) (hinner : Blanks inner) (hothers : ∀ j ∈ before ++ after, Document j.core)
    (h : Requoted d i.core t) :
    Requoted (.list d) (spacedList inner (before ++ i :: after))
      (spacedList inner (before ++ i.replace t :: after))
  | place {α : Type} {r : Record α} {f : Field α} {inner t : List Char}
    {before after : List Padded} {i : Padded} (hr : r.Delimits) (hinner : Blanks inner)
    (hothers : ∀ j ∈ before ++ after, Document j.core) (hfield : r.fields[before.length]? = some f)
    (h : Requoted f.update i.core t) :
    Requoted r.decoder (spacedList inner (before ++ i :: after))
      (spacedList inner (before ++ i.replace t :: after))
  | member {α : Type} {r : Record α} {f : Field α} {inner t : List Char}
    {before after : List Member} {m : Member} (hr : r.Delimits) (hinner : Blanks inner)
    (hothers : ∀ n ∈ before ++ after, Document n.value.core) (hfield : r.field? m.key = some f)
    (h : Requoted f.update m.value.core t) :
    Requoted r.decoder (spacedObject inner (before ++ m :: after))
      (spacedObject inner (before ++ m.replace t :: after))
  | trans {α : Type} {d : Decoder α} {t u w : List Char} (h : Requoted d t u)
    (h' : Requoted d u w) : Requoted d t w

theorem Requoted.field {name : String} {set : α → β → β} {aliases : List String}
    (h : Requoted d t u) : Requoted (Field.of name d set aliases).update t u := .map set h

theorem legible_of_bounds {n : Int} (hlow : -2 ^ 63 ≤ n) (hhigh : n < 2 ^ 64) :
    (Number.integer n).Legible := by
  unfold Number.Legible
  omega

/-- A decoder makes the same of a document with the quotation marks and without them. -/
theorem Requoted.alike (h : Requoted d t u) : d.Alike t u := by
  induction h with
  | refl h => exact .refl h
  | integer hlow hhigh => exact .integer (legible_of_bounds hlow hhigh)
  | map g _ ih => exact ih.map g
  | optional _ ih => exact ih.optional
  | item hd hinner hothers _ ih => exact .item hd hinner hothers ih
  | place hr hinner hothers hfield _ ih => exact .place hr hinner hothers hfield ih
  | member hr hinner hothers hfield _ ih => exact .member hr hinner hothers hfield ih
  | trans _ _ ih ih' => exact ih.trans ih'

theorem whole_decimal {n : Int} (h : (Number.integer n).Legible) (depth : Nat) :
    whole (Decoder.decimal.read depth) (toString n).toList = .ok (toString n) := by
  rw [Decoder.decimal, Decoder.Alike.whole_viaValue, Decoder.Alike.whole_integer h]
  rfl

/-- A whole payload is decoded alike, whatever blanks stand around it. -/
theorem Requoted.parseWith (hd : d.Delimits) {p : Padded} (h : Requoted d p.core t) (depth : Nat) :
    Json.parseWith (d.read depth) (String.ofList p.text) =
      Json.parseWith (d.read depth) (String.ofList (p.replace t).text) := by
  obtain ⟨hp, ht⟩ := h.alike.documents
  rw [hd.parseWith p hp, hd.parseWith (p.replace t) ht, h.alike.text]
  rfl

end MarketFeed.Json

import MarketFeed.Json.Decoder
import MarketFeed.Proofs.Attempts
import MarketFeed.Proofs.DocumentReading
import Mathlib.Data.List.Nodup
import Mathlib.Data.List.Pairwise
import Mathlib.Data.List.Perm.Basic

/-!
# Typed values read back

A decoder reads a written document as a value when it does so from the text and from the document
read before. The decoders for options, lists and records read what is written part by part. A record
may be written with its members in any order: the fields are stored independently of each other.
-/
namespace MarketFeed.Json

variable {α β : Type}

/-- What is read of a member that may be missing and is not looked into. -/
def Value.present? : Value → Option Value
  | null => none
  | v => some v.sorted

namespace Decoder

/-- The decoder reads a written document as this value, in either of its ways. -/
structure Reads (d : Decoder α) (v : Value) (a : α) : Prop where
  fromText : ∀ {depth}, v.Legible depth → Answers (d.read depth) v.chars (.ok a)
  fromValue : d.ofValue v.sorted = .ok a

variable {d : Decoder α} {v : Value} {a : α}

theorem Reads.parseWith {depth : Nat} (h : d.Reads v a) (hv : v.Legible depth) :
    parseWith (d.read depth) v.text = .ok a :=
  (h.fromText hv).parseWith

theorem Reads.map (h : d.Reads v a) (f : α → β) : (d.map f).Reads v (f a) where
  fromText hv rest hrest := by
    simp only [Decoder.map, h.fromText hv rest hrest, bind, Except.bind, Except.map]
    rfl
  fromValue := by simp [Decoder.map, h.fromValue, Except.map]

theorem viaValue_reads {f : Value → Except Fault α} (h : f v.sorted = .ok a) :
    (viaValue f).Reads v a where
  fromText hv rest hrest := by
    simp only [viaValue, value_chars hv rest hrest, bind, Except.bind, Except.map, h]
    rfl
  fromValue := h

theorem any_reads : any.Reads v v.sorted := viaValue_reads rfl

theorem decimal_reads (text : String) : decimal.Reads (.string text) text :=
  viaValue_reads rfl

theorem string_reads (text : String) : string.Reads (.string text) text where
  fromText _ rest _ := by
    rw [Value.chars, quoteChars_append, string]
    simp only [skipSpace_cons (c := '"') (by decide)]
    exact stringBody_quoted text rest
  fromValue := rfl

theorem bounded_reads {low high : Int} {expected : String} (b : Bounded low high) :
    (bounded low high expected).Reads (.int b.value) b where
  fromText hv rest hrest := by
    have hbound : toBounded low high expected (.integer b.value) = .ok b := by simp [toBounded]
    have hinteger := Value.legible_number.mp hv
    rcases number_integer hinteger hrest with ⟨s, htext, hread⟩ | ⟨c, s, htext, hc, hread⟩
    · rw [Value.int, Value.chars, Number.text, htext, bounded]
      simp only [skipSpace_cons (c := '-') (by decide), hread, hbound, bind, Except.bind]
      rfl
    · have hsign : c ≠ '-' := ne_of_isDigit hc (by decide)
      rw [Value.int, Value.chars, Number.text, htext, bounded]
      simp only [skipSpace_cons (isSpace_of_isDigit hc), hc, if_true, hread, hbound, bind,
        Except.bind]
      rfl
  fromValue := by simp [bounded, Value.int, Value.sorted, toBounded]

theorem optional_reads_null : (optional d).Reads .null none where
  fromText _ _ _ := rfl
  fromValue := rfl

theorem optional_reads (hv : v ≠ .null) (h : d.Reads v a) : (optional d).Reads v (some a) where
  fromText {depth} hlegible rest hrest := by
    obtain ⟨c, cs, hchars, hinitial⟩ := chars_eq_cons hlegible
    have hletter : c ≠ 'n' := by
      rintro rfl
      exact hv hinitial.eq_null
    have hread := h.fromText hlegible rest hrest
    rw [hchars, List.cons_append] at hread ⊢
    simp only [optional, skipSpace_cons hinitial.not_blank.1]
    split
    · simp_all
    · simp only [hread, bind, Except.bind, Except.map]
      rfl
  fromValue := by
    have hsorted : (optional d).ofValue v.sorted = (d.ofValue v.sorted).map some := by
      cases v with
      | null => exact absurd rfl hv
      | _ => rfl
    rw [hsorted, h.fromValue]
    rfl

/-- A part that may be missing is read back when it is not written like a missing one. -/
theorem optional_reads_ofOption {write : α → Value} (hwrite : ∀ a, write a ≠ .null)
    (h : ∀ a, d.Reads (write a) a) (a : Option α) :
    (optional d).Reads (.ofOption (a.map write)) a := by
  cases a with
  | none => exact optional_reads_null
  | some a => exact optional_reads (hwrite a) (h a)

theorem optional_any_reads (v : Value) : (optional any).Reads v v.present? := by
  cases v with
  | null => exact optional_reads_null
  | _ => exact optional_reads (by simp) any_reads

theorem list_reads {write : α → Value} {as : List α} (h : ∀ a ∈ as, d.Reads (write a) a) :
    (list d).Reads (.array (as.map write)) as where
  fromText {depth} hlegible rest _ := by
    cases depth with
    | zero => exact absurd hlegible (by simp [Value.Legible])
    | succ depth =>
      have hitem : ∀ a ∈ as, (write a).Legible depth := fun a ha =>
        hlegible (write a) (List.mem_map_of_mem ha)
      have hall : as.mapM (Except.ok (ε := Fault)) = .ok as := Attempts.mapM_eq_ok.mpr rfl
      have hread := items_commaJoin (fun a ha => begins_chars (hitem a ha))
        (fun a ha => (h a ha).fromText (hitem a ha)) rest
      rw [hall] at hread
      rw [Value.chars_array, listText_append, List.map_map, list]
      simp only [skipSpace_cons (c := '[') (by decide), Function.comp_def, hread]
  fromValue := by
    rw [Value.sorted, Value.sortedItems_eq_map, List.map_map]
    change (as.map (Value.sorted ∘ write)).mapM d.ofValue = .ok as
    rw [Attempts.mapM_eq_ok, List.map_map]
    exact List.map_congr_left fun a ha => (h a ha).fromValue

end Decoder

namespace Field

variable {f : Field α} {u : α → α}

/-- A change that a field makes to the record. -/
def Yields (f : Field α) (u : α → α) : Prop := ∃ v, f.update.ofValue v = .ok u

theorem of_yields {name : String} {d : Decoder β} {set : β → α → α} {aliases : List String}
    (h : (Field.of name d set aliases).Yields u) : ∃ b, u = set b := by
  obtain ⟨v, hv⟩ := h
  obtain ⟨b, -, hb⟩ := Attempts.map_eq_ok.mp hv
  exact ⟨b, hb.symm⟩

/-- The fields have different names and neither touches what the other one stores. -/
structure Apart (f g : Field α) : Prop where
  names : f.name ≠ g.name
  commute : ∀ u w, f.Yields u → g.Yields w → ∀ a, u (w a) = w (u a)

instance : Std.Symm (Apart (α := α)) where
  symm _ _ h := ⟨h.names.symm, fun u w hu hw a => (h.commute w u hw hu a).symm⟩

theorem of_apart {γ : Type} {name name' : String} {d : Decoder β} {d' : Decoder γ}
    {set : β → α → α} {set' : γ → α → α} {aliases aliases' : List String}
    (hnames : name ≠ name') (h : ∀ b c a, set b (set' c a) = set' c (set b a)) :
    (Field.of name d set aliases).Apart (.of name' d' set' aliases') := by
  refine ⟨hnames, ?_⟩
  intro u w hu hw a
  obtain ⟨b, rfl⟩ := of_yields hu
  obtain ⟨c, rfl⟩ := of_yields hw
  exact h b c a

end Field

/-- In lists whose elements correspond every element of the second has a partner. -/
theorem exists_partner {R : α → β → Prop} {as : List α} {bs : List β}
    (h : List.Forall₂ R as bs) {b : β} (hb : b ∈ bs) : ∃ a, R a b := by
  induction h with
  | nil => simp at hb
  | cons hab _ ih =>
    rcases List.mem_cons.mp hb with rfl | hb
    · exact ⟨_, hab⟩
    · exact ih hb

theorem forall₂_toList {γ : Type} {R : α → β → Prop} {f : γ → α} {g : γ → β} {o : Option γ}
    (h : ∀ c ∈ o, R (f c) (g c)) : List.Forall₂ R (o.map f).toList (o.map g).toList := by
  cases o with
  | none => exact .nil
  | some c => exact .cons (h c rfl) .nil

namespace Record

variable {r : Record α} {depth : Nat} {ms : List (String × Value)}
  {parts : List (String × (α → α))}

/-- Every field of the record stores something of its own. -/
def Independent (r : Record α) : Prop := r.fields.Pairwise Field.Apart

theorem Independent.names_nodup (h : r.Independent) : (r.fields.map Field.name).Nodup :=
  List.pairwise_map.mpr (h.imp Field.Apart.names)

/-- A member of a document that a field takes: the name of the field and the change it makes. -/
def Takes (r : Record α) (member : String × Value) (part : String × (α → α)) : Prop :=
  ∃ f, r.field? member.1 = some f ∧ f.name = part.1 ∧ f.update.ofValue member.2 = .ok part.2

theorem foldlM_takeMember (htakes : List.Forall₂ r.Takes ms parts)
    (hnames : (parts.map Prod.fst).Nodup) (draft : Draft α)
    (hseen : ∀ part ∈ parts, part.1 ∉ draft.seen) :
    (ms.foldlM (fun draft member => r.takeMember draft member.1 member.2) draft).map Draft.value =
      .ok (parts.foldl (fun a part => part.2 a) draft.value) := by
  induction htakes generalizing draft with
  | nil => rfl
  | @cons member part ms parts hmember _ ih =>
    obtain ⟨f, hfield, hname, hvalue⟩ := hmember
    rw [List.map_cons, List.nodup_cons] at hnames
    have hnew : draft.seen.contains part.1 = false := by simpa using hseen part (by simp)
    have htake : r.takeMember draft member.1 member.2 =
        .ok ⟨part.1 :: draft.seen, part.2 draft.value⟩ := by
      simp only [takeMember, hfield, hname, hnew, hvalue]
      rfl
    rw [List.foldlM_cons, htake]
    refine ih hnames.2 ⟨part.1 :: draft.seen, part.2 draft.value⟩ ?_
    intro other hother
    rw [List.mem_cons, not_or]
    refine ⟨?_, hseen other (by simp [hother])⟩
    intro hsame
    exact hnames.1 (hsame ▸ List.mem_map_of_mem hother)

/-- Changes under different names commute, so the order in which they are made is open. -/
theorem foldl_perm {parts' : List (String × (α → α))}
    (hcommute : ∀ x ∈ parts, ∀ y ∈ parts, x.1 ≠ y.1 → ∀ a, x.2 (y.2 a) = y.2 (x.2 a))
    (hnames : (parts.map Prod.fst).Nodup) (hperm : parts.Perm parts') (a : α) :
    parts.foldl (fun a part => part.2 a) a = parts'.foldl (fun a part => part.2 a) a := by
  refine hperm.foldl_eq' ?_ a
  intro x hx y hy a
  by_cases hname : x.1 = y.1
  · rw [List.inj_on_of_nodup_map hnames hx hy hname]
  · exact (hcommute x hx y hy hname a).symm

theorem Independent.commute (hind : r.Independent) (htakes : List.Forall₂ r.Takes ms parts) :
    ∀ x ∈ parts, ∀ y ∈ parts, x.1 ≠ y.1 → ∀ a, x.2 (y.2 a) = y.2 (x.2 a) := by
  intro x hx y hy hne
  obtain ⟨m, f, hfield, hname, hvalue⟩ := exists_partner htakes hx
  obtain ⟨n, g, hfield', hname', hvalue'⟩ := exists_partner htakes hy
  have hfg : f ≠ g := by
    rintro rfl
    exact hne (hname.symm.trans hname')
  have hapart : f.Apart g := hind.forall (List.mem_of_find?_eq_some hfield)
    (List.mem_of_find?_eq_some hfield') hfg
  exact hapart.commute x.2 y.2 ⟨m.2, hvalue⟩ ⟨n.2, hvalue'⟩

theorem keys_nodup (htakes : List.Forall₂ r.Takes ms parts)
    (hnames : (parts.map Prod.fst).Nodup) : (ms.map Prod.fst).Nodup := by
  have hfields : (ms.map Prod.fst).map (fun key => (r.field? key).map Field.name) =
      (parts.map Prod.fst).map some := by
    clear hnames
    induction htakes with
    | nil => rfl
    | cons hmember _ ih =>
      obtain ⟨f, hfield, hname, -⟩ := hmember
      simp only [List.map_cons, hfield, hname, Option.map_some, ih]
  refine List.Nodup.of_map (fun key => (r.field? key).map Field.name) ?_
  rw [hfields]
  exact hnames.map (Option.some_injective _)

/-- The order of the members of a document does not matter to a record. -/
theorem foldlM_takeMember_perm {ordered : List (String × Value)} (hind : r.Independent)
    (htakes : List.Forall₂ r.Takes ms parts) (hnames : (parts.map Prod.fst).Nodup)
    (hperm : ordered.Perm ms) :
    (ordered.foldlM (fun draft member => r.takeMember draft member.1 member.2)
        (⟨[], r.blank⟩ : Draft α)).map Draft.value =
      .ok (parts.foldl (fun a part => part.2 a) r.blank) := by
  obtain ⟨parts', htakes', hparts⟩ := List.perm_comp_forall₂ hperm htakes
  have hnames' := (hparts.map Prod.fst).nodup_iff.mpr hnames
  rw [foldlM_takeMember htakes' hnames' _ (by simp),
    foldl_perm (hind.commute htakes') hnames' hparts]

/-- A member as it is written: the field that takes it and the change that it makes. -/
def Writes (r : Record α) (member : String × Value) (part : String × (α → α)) : Prop :=
  ∃ f, r.field? member.1 = some f ∧ f.name = part.1 ∧ f.update.Reads member.2 part.2

theorem writes_of {key name : String} {d : Decoder β} {set : β → α → α} {aliases : List String}
    {v : Value} {b : β} (hfield : r.field? key = some (.of name d set aliases))
    (h : d.Reads v b) : r.Writes (key, v) (name, set b) :=
  ⟨_, hfield, rfl, h.map set⟩

theorem writes_optional {key name : String} {change : Value → α → α} {member : Option Value}
    (h : ∀ v ∈ member, r.Writes (key, v) (name, change v)) :
    List.Forall₂ r.Writes (member.map (key, ·)).toList
      (member.map fun v => (name, change v)).toList :=
  forall₂_toList h

theorem Writes.takes {member : String × Value} {part : String × (α → α)}
    (h : r.Writes member part) : r.Takes (member.1, member.2.sorted) part := by
  obtain ⟨f, hfield, hname, hreads⟩ := h
  exact ⟨f, hfield, hname, hreads.fromValue⟩

/-- In text a member does the same as in a document. -/
theorem answers_readMember {f : Field α} {key : String} {t : List Char} {v : Value} {u : α → α}
    (hfield : r.field? key = some f) (hread : Answers (f.update.read depth) t (.ok u))
    (hvalue : f.update.ofValue v = .ok u) (draft : Draft α) :
    Answers (r.readMember depth draft key) (':' :: t) (r.takeMember draft key v) := by
  intro rest hrest
  simp only [readMember, takeMember, hfield, List.cons_append, colon_cons]
  split_ifs
  · rfl
  · simp only [bind, Except.bind, hread rest hrest, hvalue]
    rfl

theorem decoder_read_object (s : List Char) :
    r.decoder.read (depth + 1) ('{' :: s) =
      (members (r.readMember depth) ⟨[], r.blank⟩ s).map
        fun (draft, rest) => (draft.value, rest) := by
  simp only [decoder, skipSpace_cons (c := '{') (by decide)]
  cases members (r.readMember depth) ⟨[], r.blank⟩ s <;> rfl

/-- In text an object does the same as its members do in a document, one after the other. -/
theorem answers_members {ι : Type} {key : ι → String} {text : ι → List Char} {value : ι → Value}
    {is : List ι}
    (h : ∀ i ∈ is, ∀ draft, Answers (r.readMember depth draft (key i)) (':' :: text i)
      (r.takeMember draft (key i) (value i))) :
    Answers (r.decoder.read (depth + 1)) (objectText (is.map fun i => (key i, text i)))
      ((is.foldlM (fun draft i => r.takeMember draft (key i) (value i))
        (⟨[], r.blank⟩ : Draft α)).map Draft.value) := by
  intro rest _
  have htext := members_commaJoin h ⟨[], r.blank⟩ rest
  rw [objectText_append, decoder_read_object, List.map_map, Function.comp_def, htext]
  cases is.foldlM (fun draft i => r.takeMember draft (key i) (value i))
    (⟨[], r.blank⟩ : Draft α) <;> rfl

theorem answers_decoder (hmembers : ∀ member ∈ ms, ∃ part, r.Writes member part)
    (hlegible : (Value.object ms).Legible (depth + 1)) :
    Answers (r.decoder.read (depth + 1)) (Value.object ms).chars
      (((Value.sortedMembers ms).foldlM (fun draft member => r.takeMember draft member.1 member.2)
        (⟨[], r.blank⟩ : Draft α)).map Draft.value) := by
  rw [Value.chars_object, Value.sortedMembers_eq_map, List.foldlM_map]
  refine answers_members fun member hmember draft => ?_
  obtain ⟨part, f, hfield, -, hreads⟩ := hmembers member hmember
  have hread := hreads.fromText (hlegible member hmember)
  exact answers_readMember hfield hread hreads.fromValue draft

theorem decoder_reads {written : List (String × Value)} (hind : r.Independent)
    (hwrites : List.Forall₂ r.Writes written parts) (hnames : (parts.map Prod.fst).Nodup)
    (hperm : ms.Perm written) :
    r.decoder.Reads (.object ms) (parts.foldl (fun a part => part.2 a) r.blank) := by
  have htakes : List.Forall₂ r.Takes (Value.sortedMembers written) parts := by
    rw [Value.sortedMembers_eq_map, List.forall₂_map_left_iff]
    exact hwrites.imp fun _ _ => Writes.takes
  have hsorted : (Value.sortedMembers ms).Perm (Value.sortedMembers written) := by
    rw [Value.sortedMembers_eq_map, Value.sortedMembers_eq_map]
    exact hperm.map _
  have hmembers : ∀ member ∈ ms, ∃ part, r.Writes member part := fun member hmember =>
    exists_partner hwrites.flip (hperm.mem_iff.mp hmember)
  constructor
  · intro depth hlegible
    cases depth with
    | zero => exact absurd hlegible (by simp [Value.Legible])
    | succ depth =>
      rw [← foldlM_takeMember_perm hind htakes hnames hsorted]
      exact answers_decoder hmembers hlegible
  · have hkeys : ((Value.sortedMembers ms).map Prod.fst).Nodup :=
      (hsorted.map Prod.fst).nodup_iff.mpr (keys_nodup htakes hnames)
    rw [← foldlM_takeMember_perm hind htakes hnames ((merged_perm hkeys).trans hsorted),
      Value.sorted]
    simp only [decoder]
    cases (merged (Value.sortedMembers ms)).foldlM
      (fun draft member => r.takeMember draft member.1 member.2) (⟨[], r.blank⟩ : Draft α) <;> rfl

end Record
end MarketFeed.Json

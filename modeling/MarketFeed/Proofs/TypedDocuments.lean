import MarketFeed.Proofs.DecoderReading
import MarketFeed.Proofs.PassedOver

/-!
# Documents read as typed values

A decoder that reads from text finds the end of every document, like the reader of values: what it
makes of a document, or what is wrong with it, does not depend on what follows. So what it makes of
a list or of an object is told from what its parts make of the items and of the members.
-/
namespace MarketFeed.Json

variable {α β : Type} {t : List Char} {depth : Nat}

/-- The first character of a document is no comma, and it tells a null, a string and a number. -/
theorem Document.head (h : Document t) : ∃ c cs, t = c :: cs ∧ isSpace c = false ∧ c ≠ ',' ∧
    (c = 'n' → t = ['n', 'u', 'l', 'l']) ∧
    (c = '"' → ∃ inside, StringText inside ∧ cs = inside ++ ['"']) ∧
    (c = '-' → NumberText cs) ∧ (c.isDigit = true → NumberText t) := by
  cases h with
  | scalar h =>
    cases h with
    | string h =>
      exact ⟨_, _, rfl, by decide, by decide, by simp, fun _ => ⟨_, h, rfl⟩, by simp, by simp⟩
    | number h =>
      obtain ⟨c, cs, rfl, hc⟩ := h.head_isDigit
      have hne : ∀ d : Char, d.isDigit = false → c ≠ d := fun d hd => ne_of_isDigit hc hd
      exact ⟨c, cs, rfl, isSpace_of_isDigit hc, hne ',' (by decide),
        fun hn => absurd hn (hne 'n' (by decide)),
        fun hquote => absurd hquote (hne '"' (by decide)),
        fun hminus => absurd hminus (hne '-' (by decide)), fun _ => h⟩
    | negative h => exact ⟨_, _, rfl, by decide, by decide, by simp, by simp, fun _ => h, by simp⟩
    | _ => exact ⟨_, _, rfl, by decide, by decide, by simp, by simp, by simp, by simp⟩
  | _ => exact ⟨_, _, rfl, by decide, by decide, by simp, by simp, by simp, by simp⟩

namespace Decoder

/-- In text the decoder begins behind blanks and has an answer to every document. -/
structure Delimits (d : Decoder α) : Prop where
  skips : ∀ depth s, d.read depth (skipSpace s) = d.read depth s
  exists_answers : ∀ {t}, Document t → ∀ depth, ∃ result, Answers (d.read depth) t result

variable {d : Decoder α} {expected : String}

theorem Delimits.answers (h : d.Delimits) (ht : Document t) (depth : Nat) :
    Answers (d.read depth) t (whole (d.read depth) t) :=
  (h.exists_answers ht depth).elim fun _ => .whole

theorem Delimits.append_blanks (h : d.Delimits) {blanks : List Char} (hblanks : Blanks blanks)
    (s : List Char) : d.read depth (blanks ++ s) = d.read depth s := by
  rw [← h.skips, skipSpace_append_blanks hblanks, h.skips]

theorem Delimits.parseWith (h : d.Delimits) (p : Padded) (hp : Document p.core) (depth : Nat) :
    parseWith (d.read depth) (String.ofList p.text) = whole (d.read depth) p.core := by
  rw [Json.parseWith, String.toList_ofList, Padded.text, h.append_blanks p.blanks_before,
    h.answers hp depth p.after p.blanks_after.closes]
  cases whole (d.read depth) p.core with
  | error fault => rfl
  | ok a => simp only [Except.map, bind, Except.bind, p.blanks_after.skipSpace_eq]; rfl

/-- The complaint about a document of the wrong kind is made in view of the document alone. -/
theorem wrongKindAt_append (h : Document t) {rest : List Char} (hrest : Closes rest) :
    wrongKindAt expected (t ++ rest) = wrongKindAt expected t := by
  cases h with
  | scalar h =>
    obtain ⟨result, hresult⟩ := h.answers
    have hread := hresult rest hrest
    have halone := hresult [] closes_nil
    obtain ⟨c, cs, rfl, -, -, hlist, hobject⟩ := h.head
    have hvalue : ∀ s v rest, scalar (c :: s) = .ok (v, rest) →
        wrongKindAt expected (c :: s) = .wrongKind v.found expected := by
      intro s v rest hscalar
      unfold wrongKindAt
      split <;> simp_all
    have hfault : ∀ s fault, scalar (c :: s) = .error fault →
        wrongKindAt expected (c :: s) = fault := by
      intro s fault hscalar
      unfold wrongKindAt
      split <;> simp_all
    rw [List.append_nil] at halone
    rw [List.cons_append] at hread ⊢
    cases result with
    | error fault => rw [hfault _ _ hread, hfault _ _ halone]
    | ok v => rw [hvalue _ _ _ hread, hvalue _ _ _ halone]
  | list => rfl
  | object => rfl

theorem exists_answers_of_wrongKind (expected : String) {reader : Reader α} (h : Document t)
    (hread : ∀ s, reader (t ++ s) = .error (wrongKindAt expected (t ++ s))) :
    ∃ result, Answers reader t result := by
  refine ⟨.error (wrongKindAt expected t), fun rest hrest => ?_⟩
  rw [hread, wrongKindAt_append h hrest]
  rfl

theorem string_delimits : string.Delimits where
  skips depth s := by simp only [string, skipSpace_skipSpace]
  exists_answers {t} h depth := by
    obtain ⟨c, cs, rfl, hspace, -, -, hstring, -, -⟩ := h.head
    by_cases hquote : c = '"'
    · obtain ⟨inside, hinside, rfl⟩ := hstring hquote
      obtain ⟨result, hresult⟩ := hinside.ends none
      refine ⟨result.map String.ofList, fun rest _ => ?_⟩
      rw [hquote, List.cons_append, List.append_assoc, string]
      simp only [skipSpace_cons (c := '"') (by decide), stringBody]
      exact readThen_map (hresult rest)
    · refine exists_answers_of_wrongKind "a string" h fun s => ?_
      simp only [List.cons_append, string, skipSpace_cons hspace]
      split <;> simp_all

theorem optional_read_of_head {c : Char} (hspace : isSpace c = false) (hletter : c ≠ 'n')
    (s : List Char) : (optional d).read depth (c :: s) =
      (d.read depth (c :: s)).map fun (a, rest) => (some a, rest) := by
  simp only [optional, skipSpace_cons hspace]
  split
  · simp_all
  · cases d.read depth (c :: s) <;> rfl

theorem Delimits.optional (hd : d.Delimits) : (optional d).Delimits where
  skips depth s := by simp only [Decoder.optional, skipSpace_skipSpace]
  exists_answers {t} h depth := by
    obtain ⟨c, cs, rfl, hspace, -, hnull, -, -, -⟩ := h.head
    by_cases hletter : c = 'n'
    · rw [hnull hletter]
      exact ⟨.ok none, fun rest _ => rfl⟩
    · refine ⟨(whole (d.read depth) (c :: cs)).map some, fun rest hrest => ?_⟩
      have hread := hd.answers h depth rest hrest
      rw [List.cons_append] at hread ⊢
      rw [optional_read_of_head hspace hletter, hread]
      cases whole (d.read depth) (c :: cs) <;> rfl

theorem bounded_delimits (low high : Int) (expected : String) :
    (bounded low high expected).Delimits where
  skips depth s := by simp only [bounded, skipSpace_skipSpace]
  exists_answers {t} h depth := by
    have hbound : ∀ {read : Except Fault (Number × List Char)} {result : Except Fault Number}
        {rest : List Char}, read = result.map (·, rest) →
          (read >>= fun p => return (← toBounded low high expected p.1, p.2)) =
            (result >>= toBounded low high expected).map (·, rest) := by
      rintro _ result rest rfl
      cases result with
      | error fault => rfl
      | ok n =>
        simp only [Except.map, bind, Except.bind]
        cases toBounded low high expected n <;> rfl
    obtain ⟨c, cs, rfl, hspace, -, -, -, hnegative, hnumber⟩ := h.head
    by_cases hminus : c = '-'
    · obtain ⟨result, hresult⟩ := (hnegative hminus).exists_number true
      refine ⟨result >>= toBounded low high expected, fun rest hrest => ?_⟩
      simp only [hminus, List.cons_append, bounded, skipSpace_cons (c := '-') (by decide)]
      exact hbound (hresult rest hrest)
    · by_cases hdigit : c.isDigit = true
      · obtain ⟨result, hresult⟩ := (hnumber hdigit).exists_number false
        refine ⟨result >>= toBounded low high expected, fun rest hrest => ?_⟩
        refine Eq.trans ?_ (hbound (hresult rest hrest))
        simp only [List.cons_append, bounded, skipSpace_cons hspace]
        split <;> simp_all
      · refine exists_answers_of_wrongKind expected h fun s => ?_
        simp only [List.cons_append, bounded, skipSpace_cons hspace]
        split <;> simp_all

theorem viaValue_delimits (f : Value → Except Fault α) : (viaValue f).Delimits where
  skips depth s := by simp only [viaValue, value_skipSpace]
  exists_answers {t} h depth := by
    refine ⟨whole (value depth) t >>= f, fun rest hrest => ?_⟩
    simp only [viaValue, h.answers depth rest hrest]
    cases whole (value depth) t with
    | error fault => rfl
    | ok v =>
      simp only [Except.map, bind, Except.bind]
      cases f v <;> rfl

theorem Delimits.map (hd : d.Delimits) (f : α → β) : (d.map f).Delimits where
  skips depth s := by simp only [Decoder.map, hd.skips]
  exists_answers {t} h depth := by
    refine ⟨(whole (d.read depth) t).map f, fun rest hrest => ?_⟩
    simp only [Decoder.map, hd.answers h depth rest hrest]
    cases whole (d.read depth) t <;> rfl

theorem answers_list {inner : List Char} {is : List Padded} (hd : d.Delimits)
    (hinner : Blanks inner) (h : ∀ i ∈ is, Document i.core) (depth : Nat) :
    Answers ((list d).read (depth + 1)) (spacedList inner is)
      (is.mapM fun i => whole (d.read depth) i.core) := by
  intro rest _
  have hread : items (d.read depth)
      (inner ++ (commaJoin (is.map Padded.text) ++ ']' :: rest)) = _ :=
    items_padded id hinner (fun i hi => (h i hi).begins)
      (fun i hi => hd.answers (h i hi) depth) rest
  rw [spacedList_append, list]
  simp only [skipSpace_cons (c := '[') (by decide)]
  exact hread

theorem Delimits.list (hd : d.Delimits) : (list d).Delimits where
  skips depth s := by simp only [Decoder.list, skipSpace_skipSpace]
  exists_answers {t} h depth := by
    cases h with
    | scalar h =>
      obtain ⟨c, cs, htext, hspace, -, hlist, -⟩ := h.head
      refine exists_answers_of_wrongKind "a sequence" (.scalar h) fun s => ?_
      simp only [htext, List.cons_append, Decoder.list, skipSpace_cons hspace]
      split <;> simp_all
    | list hinner h =>
      cases depth with
      | zero => exact ⟨.error .nestingTooDeep, fun rest _ => rfl⟩
      | succ depth => exact ⟨_, answers_list hd hinner h depth⟩
    | object hinner h =>
      exact exists_answers_of_wrongKind "a sequence" (.object hinner h) fun s => rfl

end Decoder

theorem Field.of_delimits {name : String} {d : Decoder β} {set : β → α → α}
    {aliases : List String} (h : d.Delimits) : (Field.of name d set aliases).update.Delimits :=
  h.map set

namespace Record

variable {r : Record α} {m : Member} {ms : List Member} {is : List Padded} {inner rest : List Char}

def Delimits (r : Record α) : Prop := ∀ f ∈ r.fields, f.update.Delimits

/-- What a member in text does to a record that is being read. -/
def takeText (r : Record α) (depth : Nat) (draft : Draft α) (m : Member) : Except Fault (Draft α) :=
  match r.field? m.key with
  | none => .ok draft
  | some f =>
    if draft.seen.contains f.name then .error (.duplicateField f.name)
    else (whole (f.update.read depth) m.value.core).map fun g =>
      ⟨f.name :: draft.seen, g draft.value⟩

/-- What the items of a list in text do to a record, each at the place of its field. -/
def takeTexts (depth : Nat) : List (Field α) → List Padded → α → Except Fault α
  | _, [], a => .ok a
  | [], _ :: _, _ => .error .trailingCharacters
  | f :: fs, i :: is, a => do takeTexts depth fs is ((← whole (f.update.read depth) i.core) a)

theorem answers_takeText (h : r.Delimits) (hm : Document m.value.core) (draft : Draft α) :
    Answers (r.readMember depth draft m.key) m.inside (r.takeText depth draft m) := by
  intro rest hrest
  unfold readMember takeText
  cases hfield : r.field? m.key with
  | none =>
    have hpass := (Skip.passes_of_document hm).value m.value.blanks_before hrest
    simp only [colon_inside, bind, Except.bind, hpass]
    rfl
  | some f =>
    have hf := h f (List.mem_of_find?_eq_some hfield)
    simp only
    split_ifs
    · rfl
    · simp only [colon_inside, bind, Except.bind, hf.append_blanks m.value.blanks_before,
        hf.answers hm depth rest hrest]
      cases whole (f.update.read depth) m.value.core <;> rfl

theorem answers_object (h : r.Delimits) (hinner : Blanks inner)
    (hms : ∀ m ∈ ms, Document m.value.core) (depth : Nat) :
    Answers (r.decoder.read (depth + 1)) (spacedObject inner ms)
      ((ms.foldlM (r.takeText depth) ⟨[], r.blank⟩).map Draft.value) := by
  intro rest _
  have hread : members (r.readMember depth) ⟨[], r.blank⟩
      (inner ++ (commaJoin (ms.map Member.text) ++ '}' :: rest)) =
        (ms.foldlM (r.takeText depth) ⟨[], r.blank⟩).map (·, rest) :=
    members_padded id hinner (fun m hm => answers_takeText h (hms m hm)) _ rest
  rw [spacedObject_append, decoder_read_object, hread]
  cases ms.foldlM (r.takeText depth) ⟨[], r.blank⟩ <;> rfl

theorem readMoreItems_append_blanks {fields : List (Field α)} {blanks : List Char} {a : α}
    (h : Blanks blanks) (s : List Char) :
    readMoreItems depth fields a (blanks ++ s) = readMoreItems depth fields a s := by
  cases fields with
  | nil => rw [readMoreItems, readMoreItems, closeList, closeList, skipSpace_append_blanks h]
  | cons f fields => rw [readMoreItems, readMoreItems, skipSpace_append_blanks h]

theorem skipSpace_text {i : Padded} (h : Begins i.core) (s : List Char) :
    skipSpace (i.text ++ s) = i.core ++ (i.after ++ s) := by
  obtain ⟨c, cs, hcore, hspace, -⟩ := h
  rw [Padded.text, List.append_assoc, skipSpace_append_blanks i.blanks_before, List.append_assoc,
    hcore, List.cons_append, skipSpace_cons hspace]

theorem readThen_bind {α β : Type} {read : Except Fault (α × List Char)} {s rest : List Char}
    {result : Except Fault α} {more : α → Reader β} {next : α → Except Fault β}
    (hread : read = result.map (·, s)) (hmore : ∀ a, more a s = (next a).map (·, rest)) :
    (do
      let (a, s) ← read
      more a s) = (result >>= next).map (·, rest) := by
  rw [hread]
  cases result with
  | error fault => rfl
  | ok a => exact hmore a

theorem readMoreItems_flatMap (depth : Nat) {fields : List (Field α)}
    (hfields : ∀ f ∈ fields, f.update.Delimits) (his : ∀ i ∈ is, Document i.core) (a : α)
    (rest : List Char) :
    readMoreItems depth fields a ((is.flatMap fun i => ',' :: i.text) ++ ']' :: rest) =
      (takeTexts depth fields is a).map (·, rest) := by
  induction is generalizing fields a with
  | nil =>
    cases fields with
    | nil => simp [readMoreItems, closeList, takeTexts, skipSpace_cons, isSpace, Except.map]
    | cons f fields => simp [readMoreItems, takeTexts, skipSpace_cons, isSpace, Except.map]
  | cons i is ih =>
    have hi := his i List.mem_cons_self
    have hothers := fun j hj => his j (List.mem_cons_of_mem i hj)
    have hskip := skipSpace_text hi.begins ((is.flatMap fun i => ',' :: i.text) ++ ']' :: rest)
    have hend : Closes (i.after ++ ((is.flatMap fun i => ',' :: i.text) ++ ']' :: rest)) :=
      closes_append_blanks i.blanks_after (closes_moreItems is Padded.text rest)
    obtain ⟨c, cs, hcore, hspace, hbracket⟩ := hi.begins
    rw [List.flatMap_cons, List.append_assoc, List.cons_append]
    cases fields with
    | nil =>
      simp only [readMoreItems, closeList, skipSpace_cons (c := ',') (by decide), hskip, hcore]
      split <;> simp_all [takeTexts, Except.map]
    | cons f fields =>
      have hread := (hfields f List.mem_cons_self).answers hi depth _ hend
      have hmore := fun g : α → α => (readMoreItems_append_blanks i.blanks_after _).trans
        (ih (fun other hother => hfields other (List.mem_cons_of_mem f hother)) hothers (g a))
      rw [takeTexts, ← readThen_bind hread hmore]
      simp only [readMoreItems, skipSpace_cons (c := ',') (by decide), hskip, hcore,
        List.cons_append]
      split <;> simp_all

theorem readItems_commaJoin {fields : List (Field α)}
    (hfields : ∀ f ∈ fields, f.update.Delimits) (hinner : Blanks inner)
    (his : ∀ i ∈ is, Document i.core) (a : α) (rest : List Char) :
    readItems depth fields a (inner ++ (commaJoin (is.map Padded.text) ++ ']' :: rest)) =
      (takeTexts depth fields is a).map (·, rest) := by
  have hblanks : ∀ s, readItems depth fields a (inner ++ s) = readItems depth fields a s := by
    intro s
    cases fields with
    | nil => rw [readItems, readItems, closeList, closeList, skipSpace_append_blanks hinner]
    | cons f fields => rw [readItems, readItems, skipSpace_append_blanks hinner]
  rw [hblanks]
  cases is with
  | nil =>
    cases fields with
    | nil => simp [readItems, closeList, takeTexts, commaJoin, skipSpace_cons, isSpace, Except.map]
    | cons f fields => simp [readItems, takeTexts, commaJoin, skipSpace_cons, isSpace, Except.map]
  | cons i is =>
    have hi := his i List.mem_cons_self
    have hothers := fun j hj => his j (List.mem_cons_of_mem i hj)
    have hskip := skipSpace_text hi.begins ((is.flatMap fun i => ',' :: i.text) ++ ']' :: rest)
    have hend : Closes (i.after ++ ((is.flatMap fun i => ',' :: i.text) ++ ']' :: rest)) :=
      closes_append_blanks i.blanks_after (closes_moreItems is Padded.text rest)
    obtain ⟨c, cs, hcore, hspace, hbracket⟩ := hi.begins
    rw [List.map_cons, commaJoin_cons, List.flatMap_map, List.append_assoc]
    cases fields with
    | nil =>
      obtain ⟨d, ds, htext, -, hcomma, -⟩ := hi.head
      obtain rfl : d = c := (List.cons.inj (htext.symm.trans hcore)).1
      simp only [readItems, closeList, hskip, hcore]
      split <;> simp_all [takeTexts, Except.map]
    | cons f fields =>
      have hread := (hfields f List.mem_cons_self).answers hi depth _ hend
      have hmore := fun g : α → α => (readMoreItems_append_blanks i.blanks_after _).trans
        (readMoreItems_flatMap depth
          (fun other hother => hfields other (List.mem_cons_of_mem f hother)) hothers (g a) rest)
      rw [takeTexts, ← readThen_bind hread hmore]
      simp only [readItems, hskip, hcore, List.cons_append]
      split <;> simp_all

theorem answers_items (h : r.Delimits) (hinner : Blanks inner) (his : ∀ i ∈ is, Document i.core)
    (depth : Nat) : Answers (r.decoder.read (depth + 1)) (spacedList inner is)
      (takeTexts depth r.fields is r.blank) := by
  intro rest _
  rw [spacedList_append, ← readItems_commaJoin h hinner his r.blank rest, decoder]
  simp only [skipSpace_cons (c := '[') (by decide)]

theorem Delimits.decoder (h : r.Delimits) : r.decoder.Delimits where
  skips depth s := by simp only [Record.decoder, skipSpace_skipSpace]
  exists_answers {t} ht depth := by
    cases ht with
    | scalar ht =>
      obtain ⟨c, cs, htext, hspace, -, hlist, hobject⟩ := ht.head
      refine Decoder.exists_answers_of_wrongKind r.expected (.scalar ht) fun s => ?_
      simp only [htext, List.cons_append, Record.decoder, skipSpace_cons hspace]
      split <;> simp_all
    | list hinner his =>
      cases depth with
      | zero => exact ⟨.error .nestingTooDeep, fun rest _ => rfl⟩
      | succ depth => exact ⟨_, answers_items h hinner his depth⟩
    | object hinner hms =>
      cases depth with
      | zero => exact ⟨.error .nestingTooDeep, fun rest _ => rfl⟩
      | succ depth => exact ⟨_, answers_object h hinner hms depth⟩

end Record
end MarketFeed.Json

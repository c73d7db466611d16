import MarketFeed.Proofs.ReadingOn

/-!
# The grammar of documents

A document is a scalar, a list or an object, with blanks anywhere between its tokens. Its strings
may be written with escapes that stand for no character, its numbers may be greater than any that is
kept, and it may be nested to any depth. So not every document is read as a value; but the reader of
values finds the end of every document, or refuses it for a reason that lies in the document alone.
-/
namespace MarketFeed.Json

section Whole

variable {α : Type} {reader : Reader α} {t : List Char} {result : Except Fault α}

/-- What the reader makes of a text and nothing behind it. -/
def whole (reader : Reader α) (t : List Char) : Except Fault α := (reader t).map Prod.fst

theorem Answers.whole_eq (h : Answers reader t result) : whole reader t = result := by
  have hread := h [] closes_nil
  rw [List.append_nil] at hread
  rw [whole, hread]
  cases result <;> rfl

/-- A reader that has an answer gives the one that it gives to the whole text. -/
theorem Answers.whole (h : Answers reader t result) : Answers reader t (whole reader t) := by
  rw [h.whole_eq]
  exact h

end Whole

/-- What stands between the quotation marks of a string. An escape in digits may be one half of a
pair without the other. -/
inductive StringText : List Char → Prop
  | nil : StringText []
  | plain {c : Char} {cs : List Char} (hquote : c ≠ '"') (hbackslash : c ≠ '\\')
    (hcontrol : ¬c.toNat < 0x20) (h : StringText cs) : StringText (c :: cs)
  | letter {e c : Char} {cs : List Char} (he : escaped? e = some c) (h : StringText cs) :
    StringText ('\\' :: e :: cs)
  | digits {a b c d : Char} {n : Nat} {cs : List Char} (hn : hexValue4? a b c d = some n)
    (h : StringText cs) : StringText ('\\' :: 'u' :: a :: b :: c :: d :: cs)

def Digits (ds : List Char) : Prop := ds ≠ [] ∧ ∀ c ∈ ds, c.isDigit = true

inductive FractionText : List Char → Prop
  | none : FractionText []
  | some {ds : List Char} (h : Digits ds) : FractionText ('.' :: ds)

inductive ExponentText : List Char → Prop
  | none : ExponentText []
  | some {e : Char} {sign ds : List Char} (he : e = 'e' ∨ e = 'E')
    (hsign : sign = [] ∨ sign = ['+'] ∨ sign = ['-']) (h : Digits ds) :
    ExponentText (e :: (sign ++ ds))

/-- A number without its sign. A zero at its front has no digit behind it. -/
inductive NumberText : List Char → Prop
  | mk {ds fraction exponent : List Char} (hdigits : Digits ds)
    (hzero : ds.head? = some '0' → ds = ['0']) (hfraction : FractionText fraction)
    (hexponent : ExponentText exponent) : NumberText (ds ++ (fraction ++ exponent))

inductive ScalarText : List Char → Prop
  | null : ScalarText ['n', 'u', 'l', 'l']
  | yes : ScalarText ['t', 'r', 'u', 'e']
  | no : ScalarText ['f', 'a', 'l', 's', 'e']
  | string {cs : List Char} (h : StringText cs) : ScalarText ('"' :: (cs ++ ['"']))
  | number {t : List Char} (h : NumberText t) : ScalarText t
  | negative {t : List Char} (h : NumberText t) : ScalarText ('-' :: t)

theorem readThen_map {α β : Type} {read : Except Fault (α × List Char)} {f : α → β}
    {result : Except Fault α} {rest : List Char} (h : read = result.map (·, rest)) :
    (do
      let (a, rest) ← read
      return (f a, rest)) = (result.map f).map (·, rest) := by
  rw [h]
  cases result <;> rfl

namespace StringText

variable {cs : List Char}

/-- The end of a string is found, or what is wrong lies inside it. -/
def Ends (high : Option Nat) (cs : List Char) : Prop :=
  ∃ result : Except Fault (List Char), ∀ rest,
    stringChars high (cs ++ '"' :: rest) = result.map (·, rest)

theorem Ends.cons {high : Option Nat} (h : Ends none cs) (token : List Char) (c : Char)
    (htoken : ∀ s, stringChars high (token ++ s) = do
      let (cs, rest) ← stringChars none s
      return (c :: cs, rest)) : Ends high (token ++ cs) := by
  obtain ⟨result, hresult⟩ := h
  refine ⟨result.map (c :: ·), fun rest => ?_⟩
  rw [List.append_assoc, htoken]
  exact readThen_map (hresult rest)

theorem ends_of_error {high : Option Nat} {fault : Fault}
    (h : ∀ rest, stringChars high (cs ++ '"' :: rest) = .error fault) : Ends high cs :=
  ⟨.error fault, h⟩

/-- Behind the first half of a pair any text but that of the second half is wrong. -/
theorem ends (h : StringText cs) (high : Option Nat) : Ends high cs := by
  induction h generalizing high with
  | nil =>
    cases high with
    | none => exact ⟨.ok [], fun rest => rfl⟩
    | some high => exact ends_of_error fun rest => rfl
  | @plain c cs hquote hbackslash hcontrol h ih =>
    cases high with
    | none =>
      exact (ih none).cons [c] c fun s => by simp [stringChars, hbackslash, hcontrol]
    | some high => exact ends_of_error fun rest => by simp [stringChars, hbackslash]; rfl
  | @letter e c cs he h ih =>
    have hu : e ≠ 'u' := by
      rintro rfl
      cases he
    cases high with
    | none => exact (ih none).cons ['\\', e] c fun s => by simp [stringChars, he]
    | some high => exact ends_of_error fun rest => by simp [stringChars, hu]; rfl
  | @digits a b c d n cs hn h ih =>
    cases high with
    | none =>
      by_cases hlow : isLowSurrogate n = true
      · exact ends_of_error fun rest => by simp [stringChars, hn, hlow]; rfl
      · by_cases hhigh : isHighSurrogate n = true
        · obtain ⟨result, hresult⟩ := ih (some n)
          exact ⟨result, fun rest => by simp [stringChars, hn, hlow, hhigh, hresult]⟩
        · refine (ih none).cons ['\\', 'u', a, b, c, d] (Char.ofNat n) fun s => ?_
          simp [stringChars, hn, hlow, hhigh]
    | some high =>
      by_cases hlow : isLowSurrogate n = true
      · refine (ih none).cons ['\\', 'u', a, b, c, d] (joinSurrogates high n) ?_
        intro s
        simp [stringChars, hn, hlow]
      · exact ends_of_error fun rest => by simp [stringChars, hn, hlow]; rfl

end StringText

namespace NumberText

variable {t rest fraction exponent ds : List Char} {atEnd : Fault} {negative : Bool}

theorem scanWhole_of_digits (atEnd : Fault) (hdigits : Digits ds)
    (hzero : ds.head? = some '0' → ds = ['0']) (hrest : ∀ c ∈ rest.head?, c.isDigit = false) :
    Written.scanWhole atEnd (ds ++ rest) = .ok (ds, rest) :=
  Written.scanWhole_eq_ok.mpr
    ⟨Written.digits_eq_ok.mpr ⟨hdigits.1, rfl, hdigits.2, hrest⟩, hzero⟩

theorem exists_scanFraction (h : FractionText fraction) : ∃ places, ∀ atEnd rest,
    (∀ c ∈ rest.head?, c.isDigit = false ∧ c ≠ '.') →
      Written.scanFraction atEnd (fraction ++ rest) = .ok (places, rest) := by
  cases h with
  | none =>
    refine ⟨none, fun atEnd rest hrest => ?_⟩
    cases rest with
    | nil => rfl
    | cons c rest =>
      rw [List.nil_append, Written.scanFraction]
      exact fun s hs => (hrest c rfl).2 (List.cons.inj hs).1
  | @some ds hds =>
    refine ⟨some ds, fun atEnd rest hrest => ?_⟩
    have hread : Written.digits atEnd (ds ++ rest) = .ok (ds, rest) :=
      Written.digits_eq_ok.mpr ⟨hds.1, rfl, hds.2, fun c hc => (hrest c hc).1⟩
    rw [List.cons_append, Written.scanFraction, hread]
    rfl

theorem exists_scanExponent (h : ExponentText exponent) : ∃ power, ∀ atEnd rest, Closes rest →
    Written.scanExponent atEnd (exponent ++ rest) = .ok (power, rest) := by
  cases h with
  | none =>
    refine ⟨none, fun atEnd rest hrest => ?_⟩
    cases rest with
    | nil => rfl
    | cons c rest =>
      obtain ⟨-, -, he, hE⟩ := closes_cons.mp hrest
      exact Written.scanExponent_of_ne (not_or.mpr ⟨he, hE⟩) rest
  | @some e sign ds he hsign hds =>
    have hread : ∀ atEnd {rest}, Closes rest → Written.digits atEnd (ds ++ rest) = .ok (ds, rest) :=
      fun _ _ hrest => Written.digits_append hds.1 hds.2 hrest
    obtain ⟨d, cs, rfl⟩ := List.exists_cons_of_ne_nil hds.1
    have hd := hds.2 d List.mem_cons_self
    have hplus : d ≠ '+' := ne_of_isDigit hd (by decide)
    have hminus : d ≠ '-' := ne_of_isDigit hd (by decide)
    rcases hsign with rfl | rfl | rfl
    · refine ⟨some (1 * Nat.ofDigitChars 10 (d :: cs) 0), fun atEnd rest hrest => ?_⟩
      have hdigits := hread atEnd hrest
      rw [List.cons_append] at hdigits
      simp [Written.scanExponent, he, hplus, hminus, hdigits, bind, Except.bind, pure, Except.pure]
    · refine ⟨some (1 * Nat.ofDigitChars 10 (d :: cs) 0), fun atEnd rest hrest => ?_⟩
      have hdigits := hread atEnd hrest
      rw [List.cons_append] at hdigits
      simp [Written.scanExponent, he, hdigits, bind, Except.bind, pure, Except.pure]
    · refine ⟨some (-1 * Nat.ofDigitChars 10 (d :: cs) 0), fun atEnd rest hrest => ?_⟩
      have hdigits := hread atEnd hrest
      rw [List.cons_append] at hdigits
      simp [Written.scanExponent, he, hdigits, bind, Except.bind, pure, Except.pure]

theorem head_exponent (h : ExponentText exponent) (hrest : Closes rest) :
    ∀ c ∈ (exponent ++ rest).head?, c.isDigit = false ∧ c ≠ '.' := by
  intro c hc
  cases h with
  | none =>
    obtain ⟨hdigit, hpoint, -, -⟩ := hrest c hc
    exact ⟨hdigit, hpoint⟩
  | some he =>
    obtain rfl := Option.some.inj hc
    rcases he with rfl | rfl <;> decide

theorem head_fraction (h : FractionText fraction) (hrest : ∀ c ∈ rest.head?, c.isDigit = false) :
    ∀ c ∈ (fraction ++ rest).head?, c.isDigit = false := by
  intro c hc
  cases h with
  | none => exact hrest c hc
  | some =>
    obtain rfl := Option.some.inj hc
    decide

/-- A number is scanned to its end, and its parts do not depend on what is behind it. -/
theorem exists_scan (h : NumberText t) : ∃ parts : Written, ∀ atEnd negative rest, Closes rest →
    Written.scan atEnd negative (t ++ rest) = .ok ({ parts with negative }, rest) := by
  obtain @⟨ds, fraction, exponent, hdigits, hzero, hfraction, hexponent⟩ := h
  obtain ⟨places, hplaces⟩ := exists_scanFraction hfraction
  obtain ⟨power, hpower⟩ := exists_scanExponent hexponent
  refine ⟨⟨false, ds, places, power⟩, fun atEnd negative rest hrest => ?_⟩
  have hend := head_exponent hexponent hrest
  have hwhole := scanWhole_of_digits atEnd hdigits hzero
    (head_fraction hfraction fun c hc => (hend c hc).1)
  simp only [List.append_assoc, Written.scan, hwhole, hplaces atEnd _ hend, hpower atEnd rest hrest,
    bind, Except.bind]
  rfl

theorem exists_number (h : NumberText t) (negative : Bool) :
    ∃ result, Answers (number negative) t result := by
  obtain ⟨parts, hscan⟩ := h.exists_scan
  refine ⟨({ parts with negative } : Written).value, fun rest hrest => ?_⟩
  simp only [number, hscan .endInValue negative rest hrest, bind, Except.bind]
  cases Written.value _ <;> rfl

theorem head_isDigit (h : NumberText t) : ∃ c cs, t = c :: cs ∧ c.isDigit = true := by
  obtain ⟨hdigits, -, -, -⟩ := h
  obtain ⟨c, cs, rfl⟩ := List.exists_cons_of_ne_nil hdigits.1
  exact ⟨c, _, rfl, hdigits.2 c List.mem_cons_self⟩

end NumberText

namespace ScalarText

variable {t : List Char}

/-- No scalar begins like a list, like an object or with a blank. -/
theorem head (h : ScalarText t) :
    ∃ c cs, t = c :: cs ∧ isSpace c = false ∧ c ≠ ']' ∧ c ≠ '[' ∧ c ≠ '{' := by
  cases h with
  | number h =>
    obtain ⟨c, cs, rfl, hc⟩ := h.head_isDigit
    exact ⟨c, cs, rfl, isSpace_of_isDigit hc, ne_of_isDigit hc (by decide),
      ne_of_isDigit hc (by decide), ne_of_isDigit hc (by decide)⟩
  | _ => exact ⟨_, _, rfl, by decide⟩

theorem answers (h : ScalarText t) : ∃ result, Answers scalar t result := by
  cases h with
  | null => exact ⟨.ok .null, fun rest _ => rfl⟩
  | yes => exact ⟨.ok (.bool true), fun rest _ => rfl⟩
  | no => exact ⟨.ok (.bool false), fun rest _ => rfl⟩
  | @string cs h =>
    obtain ⟨result, hresult⟩ := h.ends none
    refine ⟨(result.map String.ofList).map .string, fun rest _ => ?_⟩
    rw [List.cons_append, List.append_assoc, scalar]
    refine readThen_map ?_
    rw [stringBody]
    exact readThen_map (hresult rest)
  | number h =>
    obtain ⟨result, hresult⟩ := h.exists_number false
    refine ⟨result.map .number, fun rest hrest => ?_⟩
    have hread := hresult rest hrest
    obtain ⟨c, cs, rfl, hc⟩ := h.head_isDigit
    rw [List.cons_append] at hread ⊢
    rw [scalar_of_isDigit hc, hread]
    cases result <;> rfl
  | negative h =>
    obtain ⟨result, hresult⟩ := h.exists_number true
    refine ⟨result.map .number, fun rest hrest => ?_⟩
    rw [List.cons_append, scalar]
    exact readThen_map (hresult rest hrest)

end ScalarText

/-- A document without blanks around it. -/
inductive Document : List Char → Prop
  | scalar {t : List Char} (h : ScalarText t) : Document t
  | list {inner : List Char} {is : List Padded} (hinner : Blanks inner)
    (h : ∀ i ∈ is, Document i.core) : Document (spacedList inner is)
  | object {inner : List Char} {ms : List Member} (hinner : Blanks inner)
    (h : ∀ m ∈ ms, Document m.value.core) : Document (spacedObject inner ms)

section Documents

variable {t inner : List Char} {is : List Padded} {ms : List Member} {depth : Nat}
  {item : Reader Value}

theorem Document.begins (h : Document t) : Begins t := by
  cases h with
  | scalar h =>
    obtain ⟨c, cs, rfl, hspace, hbracket, -, -⟩ := h.head
    exact ⟨c, cs, rfl, hspace, hbracket⟩
  | list => exact ⟨'[', _, rfl, by decide, by decide⟩
  | object => exact ⟨'{', _, rfl, by decide, by decide⟩

theorem answers_spacedList {result : Padded → Except Fault Value} (hinner : Blanks inner)
    (hbegins : ∀ i ∈ is, Begins i.core) (hitem : ∀ i ∈ is, Answers item i.core (result i)) :
    Answers (valueWith (some item)) (spacedList inner is) ((is.mapM result).map .array) := by
  intro rest _
  have hread : items item (inner ++ (commaJoin (is.map Padded.text) ++ ']' :: rest)) = _ :=
    items_padded id hinner hbegins hitem rest
  rw [spacedList_append, valueWith_array, hread]
  cases is.mapM result <;> rfl

/-- What is read of the value of a member is put to the members before it. -/
def putMember (result : Member → Except Fault Value) (before : List (String × Value))
    (m : Member) : Except Fault (List (String × Value)) :=
  (result m).map fun v => insertMember m.key v before

theorem colon_append_blanks {blanks : List Char} (h : Blanks blanks) (s : List Char) :
    colon (blanks ++ ':' :: s) = .ok s := by
  rw [colon, skipSpace_append_blanks h, skipSpace_cons (by decide)]
  rfl

theorem colon_inside (m : Member) (rest : List Char) :
    colon (m.inside ++ rest) = .ok (m.value.before ++ (m.value.core ++ rest)) := by
  rw [Member.inside, List.append_assoc, List.cons_append, List.append_assoc,
    colon_append_blanks m.name.blanks_after]

theorem answers_spacedObject {result : Member → Except Fault Value} (hinner : Blanks inner)
    (hskip : ∀ s, item (skipSpace s) = item s)
    (hitem : ∀ m ∈ ms, Answers item m.value.core (result m)) :
    Answers (valueWith (some item)) (spacedObject inner ms)
      ((ms.foldlM (putMember result) []).map .object) := by
  intro rest _
  have hstep : ∀ m ∈ ms, ∀ before,
      Answers (memberReader item before m.key) m.inside (putMember result before m) := by
    intro m hm before rest hrest
    have hread := hitem m hm rest hrest
    rw [← hskip, ← skipSpace_append_blanks m.value.blanks_before, hskip] at hread
    simp only [memberReader, colon_inside, bind, Except.bind, hread, putMember]
    cases result m <;> rfl
  have hread : members (memberReader item) []
      (inner ++ (commaJoin (ms.map Member.text) ++ '}' :: rest)) = _ :=
    members_padded id hinner hstep [] rest
  rw [spacedObject_append, valueWith_object, hread]
  cases ms.foldlM (putMember result) [] <;> rfl

theorem valueWith_of_head {read : Option (Reader Value)} {c : Char} (hspace : isSpace c = false)
    (hlist : c ≠ '[') (hobject : c ≠ '{') (s : List Char) :
    valueWith read (c :: s) = scalar (c :: s) := by
  unfold valueWith
  rw [skipSpace_cons hspace]
  split <;> simp_all

theorem ScalarText.answers_valueWith {read : Option (Reader Value)} (h : ScalarText t) :
    ∃ result, Answers (valueWith read) t result := by
  obtain ⟨result, hresult⟩ := h.answers
  refine ⟨result, fun rest hrest => ?_⟩
  have hread := hresult rest hrest
  obtain ⟨c, cs, rfl, hspace, -, hlist, hobject⟩ := h.head
  rw [List.cons_append] at hread ⊢
  rw [valueWith_of_head hspace hlist hobject, hread]

/-- The reader of values finds the end of every document. -/
theorem Document.answers (h : Document t) (depth : Nat) :
    Answers (value depth) t (whole (value depth) t) := by
  suffices hresult : ∃ result, Answers (value depth) t result from hresult.elim fun _ => .whole
  induction h generalizing depth with
  | scalar h =>
    obtain ⟨read, hread⟩ := exists_valueWith depth
    rw [hread]
    exact h.answers_valueWith
  | list hinner hitems ih =>
    cases depth with
    | zero => exact ⟨.error .nestingTooDeep, fun rest _ => rfl⟩
    | succ depth =>
      exact ⟨_, answers_spacedList hinner (fun i hi => (hitems i hi).begins)
        fun i hi => (ih i hi depth).elim fun _ => .whole⟩
  | object hinner hmembers ih =>
    cases depth with
    | zero => exact ⟨.error .nestingTooDeep, fun rest _ => rfl⟩
    | succ depth =>
      exact ⟨_, answers_spacedObject hinner (value_skipSpace depth)
        fun m hm => (ih m hm depth).elim fun _ => .whole⟩

theorem whole_value_list (hinner : Blanks inner) (h : ∀ i ∈ is, Document i.core) :
    whole (value (depth + 1)) (spacedList inner is) =
      (is.mapM fun i => whole (value depth) i.core).map .array :=
  (answers_spacedList hinner (fun i hi => (h i hi).begins)
    fun i hi => (h i hi).answers depth).whole_eq

theorem whole_value_object (hinner : Blanks inner) (h : ∀ m ∈ ms, Document m.value.core) :
    whole (value (depth + 1)) (spacedObject inner ms) =
      (ms.foldlM (putMember fun m => whole (value depth) m.value.core) []).map .object :=
  (answers_spacedObject hinner (value_skipSpace depth)
    fun m hm => (h m hm).answers depth).whole_eq

end Documents

theorem StringText.append_escapeChar {cs : List Char} (h : StringText cs) (c : Char) :
    StringText (escapeChar c ++ cs) := by
  unfold escapeChar
  split
  case h_8 hquote hbackslash _ _ _ _ _ =>
    split_ifs with hc
    · exact .digits (hexValue4?_control hc) h
    · exact .plain hquote hbackslash hc h
  all_goals exact .letter rfl h

theorem stringText_flatMap (cs : List Char) : StringText (cs.flatMap escapeChar) := by
  induction cs with
  | nil => exact .nil
  | cons c cs ih => exact ih.append_escapeChar c

theorem document_quoteChars (s : String) : Document (quoteChars s) :=
  .scalar (.string (stringText_flatMap s.toList))

theorem numberText_toDigits (n : Nat) : NumberText (Nat.toDigits 10 n) := by
  have hdigits : Digits (Nat.toDigits 10 n) :=
    ⟨Nat.toDigits_ne_nil, fun c hc => Nat.isDigit_of_mem_toDigits (by decide) (by decide) hc⟩
  have hzero : (Nat.toDigits 10 n).head? = some '0' → Nat.toDigits 10 n = ['0'] := by
    intro hhead
    rcases Nat.eq_zero_or_pos n with rfl | hpos
    · rfl
    · exact absurd hhead (head?_toDigits_ne_zero hpos)
  simpa using NumberText.mk hdigits hzero .none .none

theorem document_integer (n : Int) : Document (toString n).toList := by
  rw [toList_toString_int]
  split_ifs
  · exact .scalar (.number (numberText_toDigits _))
  · exact .scalar (.negative (numberText_toDigits _))

end MarketFeed.Json

import MarketFeed.Json.Reader
import MarketFeed.Numeral
import Mathlib.Data.List.Basic
import Mathlib.Data.List.TakeDrop
import Mathlib.Data.List.TakeWhile
import Mathlib.Tactic.IntervalCases

/-!
# Reading back what was written

Strings and integers are read back from their text, and so are lists and objects with any reader of
items and members that does so on the texts between their commas. A number has no mark at its end,
so a reader is asked about a text together with what closes it, and has to leave exactly that.
-/
namespace MarketFeed.Json

/-- What may follow a value: nothing by which a number before it would go on. -/
def Closes (rest : List Char) : Prop :=
  ∀ c ∈ rest.head?, c.isDigit = false ∧ c ≠ '.' ∧ c ≠ 'e' ∧ c ≠ 'E'

theorem closes_nil : Closes [] := by simp [Closes]

theorem closes_cons {c : Char} {rest : List Char} :
    Closes (c :: rest) ↔ c.isDigit = false ∧ c ≠ '.' ∧ c ≠ 'e' ∧ c ≠ 'E' := by
  simp [Closes]

/-- On a text, whatever closes it, the reader has a result and leaves what follows. -/
def Answers {α : Type} (reader : Reader α) (t : List Char) (result : Except Fault α) : Prop :=
  ∀ rest, Closes rest → reader (t ++ rest) = result.map (·, rest)

theorem Answers.parseWith {α : Type} {reader : Reader α} {t : List Char} {a : α}
    (h : Answers reader t (.ok a)) : parseWith reader (String.ofList t) = .ok a := by
  have hread := h [] closes_nil
  rw [List.append_nil] at hread
  simp only [Json.parseWith, String.toList_ofList, hread, bind, Except.bind, Except.map]
  rfl

/-- A text that begins a value: no blank comes first and no bracket that closes a list. -/
def Begins (t : List Char) : Prop :=
  ∃ c cs, t = c :: cs ∧ isSpace c = false ∧ c ≠ ']'

theorem skipSpace_cons {c : Char} {s : List Char} (h : isSpace c = false) :
    skipSpace (c :: s) = c :: s := by
  simp [skipSpace, h]

/-- Blanks, which may stand around every value and every name. -/
def Blanks (s : List Char) : Prop := ∀ c ∈ s, isSpace c = true

theorem blanks_nil : Blanks [] := by simp [Blanks]

theorem skipSpace_append_blanks {blanks : List Char} (h : Blanks blanks) (s : List Char) :
    skipSpace (blanks ++ s) = skipSpace s := List.dropWhile_append_of_pos h

/-- A blank closes a value like anything that may come behind it. -/
theorem closes_append_blanks {blanks rest : List Char} (h : Blanks blanks) (hrest : Closes rest) :
    Closes (blanks ++ rest) := by
  cases blanks with
  | nil => exact hrest
  | cons c cs =>
    have hc := h c List.mem_cons_self
    simp only [isSpace, Bool.or_eq_true, beq_iff_eq] at hc
    rcases hc with ((rfl | rfl) | rfl) | rfl <;> exact closes_cons.mpr (by decide)

theorem Blanks.closes {blanks : List Char} (h : Blanks blanks) : Closes blanks := by
  rw [← List.append_nil blanks]
  exact closes_append_blanks h closes_nil

theorem Blanks.skipSpace_eq {blanks : List Char} (h : Blanks blanks) : skipSpace blanks = [] := by
  rw [← List.append_nil blanks]
  exact skipSpace_append_blanks h []

structure Padded where
  before : List Char
  core : List Char
  after : List Char
  blanks_before : Blanks before
  blanks_after : Blanks after

namespace Padded

def text (p : Padded) : List Char := p.before ++ (p.core ++ p.after)

def bare (t : List Char) : Padded := ⟨[], t, [], blanks_nil, blanks_nil⟩

@[simp] theorem text_bare (t : List Char) : (bare t).text = t := List.append_nil t

end Padded

section Strings

variable {c : Char} {cs s rest : List Char}

theorem value?_hexDigit (n : Nat) : Text.Hex.value? (hexDigit n) = some (n % 16) := by
  have hn : n % 16 < 16 := Nat.mod_lt n (by decide)
  unfold hexDigit
  generalize n % 16 = m at hn
  interval_cases m <;> rfl

theorem hexValue4?_control {n : Nat} (h : n < 0x20) :
    hexValue4? '0' '0' (hexDigit (n / 16)) (hexDigit n) = some n := by
  have hzero : Text.Hex.value? '0' = some 0 := rfl
  simp only [hexValue4?, Text.Hex.number?, List.foldlM_cons, List.foldlM_nil, hzero,
    value?_hexDigit, Option.map_some, Option.bind_eq_bind, Option.bind_some, Option.pure_def,
    Option.some.injEq]
  omega

theorem stringChars_control (hc : c.toNat < 0x20) (h : stringChars none s = .ok (cs, rest)) :
    stringChars none
      ('\\' :: 'u' :: '0' :: '0' :: hexDigit (c.toNat / 16) :: hexDigit c.toNat :: s) =
        .ok (c :: cs, rest) := by
  have hlow : isLowSurrogate c.toNat = false := by simp [isLowSurrogate]; omega
  have hhigh : isHighSurrogate c.toNat = false := by simp [isHighSurrogate]; omega
  simp [stringChars, hexValue4?_control hc, hlow, hhigh, h, bind, Except.bind, pure, Except.pure]

theorem stringChars_letter {letter : Char} (hu : letter ≠ 'u') (hc : escaped? letter = some c)
    (h : stringChars none s = .ok (cs, rest)) :
    stringChars none ('\\' :: letter :: s) = .ok (c :: cs, rest) := by
  simp [stringChars, hc, h, bind, Except.bind, pure, Except.pure]

theorem stringChars_plain (hquote : c ≠ '"') (hbackslash : c ≠ '\\') (hc : ¬ c.toNat < 0x20)
    (h : stringChars none s = .ok (cs, rest)) :
    stringChars none (c :: s) = .ok (c :: cs, rest) := by
  simp [stringChars, hbackslash, hc, h, bind, Except.bind, pure, Except.pure]

theorem stringChars_escapeChar (h : stringChars none s = .ok (cs, rest)) :
    stringChars none (escapeChar c ++ s) = .ok (c :: cs, rest) := by
  unfold escapeChar
  split
  case h_8 hquote hbackslash _ _ _ _ _ =>
    split_ifs with hc
    · exact stringChars_control hc h
    · exact stringChars_plain hquote hbackslash hc h
  all_goals exact stringChars_letter (by decide) rfl h

theorem stringChars_flatMap (cs rest : List Char) :
    stringChars none (cs.flatMap escapeChar ++ '"' :: rest) = .ok (cs, rest) := by
  induction cs with
  | nil => simp [stringChars]
  | cons c cs ih =>
    rw [List.flatMap_cons, List.append_assoc]
    exact stringChars_escapeChar ih

theorem stringBody_quoted (text : String) (rest : List Char) :
    stringBody (text.toList.flatMap escapeChar ++ '"' :: rest) = .ok (text, rest) := by
  unfold stringBody
  rw [stringChars_flatMap]
  exact congrArg (fun t => Except.ok (t, rest)) String.ofList_toList

end Strings

section Numbers

variable {ds rest : List Char} {n : Nat}

theorem head?_toDigits_ne_zero (hn : 0 < n) : (Nat.toDigits 10 n).head? ≠ some '0' := by
  induction n using Nat.strongRecOn with
  | ind n ih =>
    rcases Nat.lt_or_ge n 10 with hlt | hge
    · rw [Nat.toDigits_of_lt_base hlt]
      interval_cases n <;> decide
    · rw [Nat.toDigits_of_base_le (by decide) hge,
        List.head?_append_of_ne_nil _ Nat.toDigits_ne_nil]
      exact ih (n / 10) (by omega) (by omega)

/-- A text is cut behind the longest run of characters that have a property. -/
theorem span_eq_iff {p : Char → Bool} {cs s : List Char} : s.span p = (cs, rest) ↔
    s = cs ++ rest ∧ (∀ c ∈ cs, p c = true) ∧ ∀ c ∈ rest.head?, p c = false := by
  rw [List.span_eq_takeWhile_dropWhile]
  constructor
  · intro h
    obtain ⟨rfl, rfl⟩ := Prod.mk.inj h
    refine ⟨List.takeWhile_append_dropWhile.symm, fun c hc => List.mem_takeWhile_imp hc, ?_⟩
    intro c hc
    have hhead := List.head?_dropWhile_not p s
    rw [Option.mem_def.mp hc] at hhead
    exact hhead
  · rintro ⟨rfl, hcs, hrest⟩
    rw [List.takeWhile_append_of_pos hcs, List.dropWhile_append_of_pos hcs]
    cases rest with
    | nil => simp
    | cons c rest => simp [hrest c rfl]

namespace Written

variable {atEnd : Fault} {negative : Bool}

/-- Digits are taken as far as they go, and at least one of them. -/
theorem digits_eq_ok {s : List Char} : digits atEnd s = .ok (ds, rest) ↔
    ds ≠ [] ∧ s = ds ++ rest ∧ (∀ c ∈ ds, c.isDigit = true) ∧
      ∀ c ∈ rest.head?, c.isDigit = false := by
  rw [← span_eq_iff]
  unfold digits
  rcases s.span Char.isDigit with ⟨_ | ⟨d, taken⟩, left⟩
  · cases s <;> simp +contextual
  · constructor
    · intro h
      cases h
      simp
    · rintro ⟨-, h⟩
      cases h
      rfl

theorem digits_append (hne : ds ≠ []) (hds : ∀ c ∈ ds, c.isDigit = true) (hrest : Closes rest) :
    digits atEnd (ds ++ rest) = .ok (ds, rest) :=
  digits_eq_ok.mpr ⟨hne, rfl, hds, fun c hc => (hrest c hc).1⟩

/-- A number that begins with a zero has no other digit before the point. -/
theorem scanWhole_eq_ok {s : List Char} : scanWhole atEnd s = .ok (ds, rest) ↔
    digits atEnd s = .ok (ds, rest) ∧ (ds.head? = some '0' → ds = ['0']) := by
  have hhead : ∀ {c s}, digits atEnd (c :: s) = .ok (ds, rest) → ds.head? = some c := by
    intro c s h
    obtain ⟨hne, hs, -, -⟩ := digits_eq_ok.mp h
    rw [← List.head?_append_of_ne_nil _ hne, ← hs, List.head?_cons]
  unfold scanWhole
  split
  next c s =>
    have hzero : digits atEnd ('0' :: c :: s) = .ok (['0'], c :: s) ↔ c.isDigit = false := by
      simp [digits_eq_ok]
    split_ifs with hc
    · simp only [false_iff, not_and]
      intro h hds
      obtain rfl := hds (hhead h)
      obtain ⟨-, hs, -, -⟩ := digits_eq_ok.mp h
      obtain rfl : c :: s = rest := (List.cons.inj hs).2
      exact absurd hc (by simp [hzero.mp h])
    · constructor
      · intro h
        cases h
        exact ⟨hzero.mpr (by simpa using hc), fun _ => rfl⟩
      · rintro ⟨h, hds⟩
        obtain rfl := hds (hhead h)
        obtain ⟨-, hs, -, -⟩ := digits_eq_ok.mp h
        rw [(List.cons.inj hs).2]
        rfl
  next hzero =>
    refine ⟨fun h => ⟨h, fun hds => ?_⟩, And.left⟩
    obtain ⟨-, hs, -, -⟩ := digits_eq_ok.mp h
    obtain ⟨ds, rfl⟩ := List.head?_eq_some_iff.mp hds
    cases ds with
    | nil => rfl
    | cons d ds => exact absurd hs (hzero d (ds ++ rest))

theorem scanWhole_toDigits (n : Nat) (hrest : Closes rest) :
    scanWhole atEnd (Nat.toDigits 10 n ++ rest) = .ok (Nat.toDigits 10 n, rest) := by
  have hdigits : digits atEnd (Nat.toDigits 10 n ++ rest) = .ok (Nat.toDigits 10 n, rest) :=
    digits_append Nat.toDigits_ne_nil
      (fun c hc => Nat.isDigit_of_mem_toDigits (by decide) (by decide) hc) hrest
  refine scanWhole_eq_ok.mpr ⟨hdigits, fun hzero => ?_⟩
  rcases Nat.eq_zero_or_pos n with rfl | hpos
  · rfl
  · exact absurd hzero (head?_toDigits_ne_zero hpos)

theorem scan_toDigits (n : Nat) (hrest : Closes rest) :
    scan atEnd negative (Nat.toDigits 10 n ++ rest) =
      .ok (⟨negative, Nat.toDigits 10 n, none, none⟩, rest) := by
  have hfraction : scanFraction atEnd rest = .ok (none, rest) := by
    cases rest with
    | nil => rfl
    | cons c rest =>
      rw [scanFraction]
      exact fun s hs => (closes_cons.mp hrest).2.1 (List.cons.inj hs).1
  have hexponent : scanExponent atEnd rest = .ok (none, rest) := by
    cases rest with
    | nil => rfl
    | cons c rest => simp [scanExponent, (closes_cons.mp hrest).2.2]
  unfold scan
  rw [scanWhole_toDigits n hrest]
  simp only [bind, Except.bind, hfraction, hexponent]
  rfl

theorem le_ofDigitChars (ds : List Char) (acc : Nat) : acc ≤ Nat.ofDigitChars 10 ds acc := by
  induction ds generalizing acc with
  | nil => simp
  | cons c ds ih =>
    have hnext := ih (10 * acc + (c.toNat - '0'.toNat))
    rw [Nat.ofDigitChars_cons]
    omega

theorem accumulate_of_le {acc : Nat} (h : Nat.ofDigitChars 10 ds acc ≤ significandLimit) :
    accumulate acc ds = (Nat.ofDigitChars 10 ds acc, []) := by
  induction ds generalizing acc with
  | nil => simp [accumulate]
  | cons c ds ih =>
    rw [Nat.ofDigitChars_cons, Nat.mul_comm] at h
    have hnext := Nat.le_trans (le_ofDigitChars ds _) h
    rw [accumulate, if_pos hnext, ih h, Nat.ofDigitChars_cons, Nat.mul_comm]

theorem accumulate_toDigits (hn : n ≤ significandLimit) :
    accumulate 0 (Nat.toDigits 10 n) = (n, []) := by
  have hvalue := Nat.ofDigitChars_ten_toDigits (n := n)
  rw [accumulate_of_le (hvalue.trans_le hn), hvalue]

end Written

theorem number_toDigits (hn : n ≤ Written.significandLimit) (hrest : Closes rest) :
    number false (Nat.toDigits 10 n ++ rest) = .ok (.integer n, rest) := by
  simp only [number, Written.scan_toDigits n hrest, bind, Except.bind, Written.value,
    Written.accumulate_toDigits hn]
  rfl

theorem number_negative (hpos : 0 < n) (hn : n ≤ 0x8000000000000000) (hrest : Closes rest) :
    number true (Nat.toDigits 10 n ++ rest) = .ok (.integer (-n), rest) := by
  have hlimit : n ≤ Written.significandLimit := Nat.le_trans hn (by decide)
  simp only [number, Written.scan_toDigits n hrest, bind, Except.bind, Written.value,
    Written.accumulate_toDigits hlimit, if_true, Written.negativeInteger, hpos, hn, and_self]
  rfl

def Number.Legible : Number → Prop
  | .integer n => -0x8000000000000000 ≤ n ∧ n ≤ 0xffffffffffffffff
  | .double _ => False

theorem ne_of_isDigit {c d : Char} (hc : c.isDigit = true) (hd : d.isDigit = false) : c ≠ d := by
  rintro rfl
  simp [hc] at hd

theorem isSpace_of_isDigit {c : Char} (hc : c.isDigit = true) : isSpace c = false := by
  have hne : ∀ d : Char, d.isDigit = false → c ≠ d := fun d hd => ne_of_isDigit hc hd
  simp [isSpace, hne ' ' (by decide), hne '\n' (by decide), hne '\t' (by decide),
    hne '\r' (by decide)]

/-- Digits, or a minus sign and the digits of the absolute value. -/
theorem toList_toString_int (n : Int) :
    (toString n).toList =
      if 0 ≤ n then Nat.toDigits 10 n.toNat else '-' :: Nat.toDigits 10 (-n).toNat := by
  rw [Int.toString_eq_repr, Int.repr_eq_if]
  split_ifs <;> simp

theorem toDigits_eq_cons (n : Nat) :
    ∃ c cs, Nat.toDigits 10 n = c :: cs ∧ c.isDigit = true := by
  obtain ⟨c, cs, hdigits⟩ := List.exists_cons_of_ne_nil (Nat.toDigits_ne_nil (n := n) (b := 10))
  have hc : c ∈ Nat.toDigits 10 n := by simp [hdigits]
  exact ⟨c, cs, hdigits, Nat.isDigit_of_mem_toDigits (by decide) (by decide) hc⟩

/-- An integer is read behind its minus sign, or from its first digit on. -/
theorem number_integer {n : Int} (h : (Number.integer n).Legible) (hrest : Closes rest) :
    (∃ s, (toString n).toList ++ rest = '-' :: s ∧ number true s = .ok (.integer n, rest)) ∨
      ∃ c s, (toString n).toList ++ rest = c :: s ∧ c.isDigit = true ∧
        number false (c :: s) = .ok (.integer n, rest) := by
  obtain ⟨hlow, hhigh⟩ := h
  rw [toList_toString_int]
  split_ifs with hn
  · right
    obtain ⟨c, cs, hdigits, hc⟩ := toDigits_eq_cons n.toNat
    have hlimit : n.toNat ≤ Written.significandLimit := by unfold Written.significandLimit; omega
    have hread := number_toDigits hlimit hrest
    rw [hdigits, List.cons_append, Int.toNat_of_nonneg hn] at hread
    exact ⟨c, cs ++ rest, by rw [hdigits, List.cons_append], hc, hread⟩
  · left
    have hread := number_negative (n := (-n).toNat) (by omega) (by omega) hrest
    rw [Int.toNat_of_nonneg (by omega), Int.neg_neg] at hread
    exact ⟨_, List.cons_append, hread⟩

/-- A minus sign or a digit comes first. -/
theorem toList_toString_int_eq_cons (n : Int) :
    ∃ c cs, (toString n).toList = c :: cs ∧ (c = '-' ∨ c.isDigit = true) := by
  rw [toList_toString_int]
  split_ifs with hn
  · obtain ⟨c, cs, hdigits, hc⟩ := toDigits_eq_cons n.toNat
    exact ⟨c, cs, hdigits, .inr hc⟩
  · exact ⟨'-', _, rfl, .inl rfl⟩

end Numbers

theorem commaJoin_cons (t : List Char) (ts : List (List Char)) :
    commaJoin (t :: ts) = t ++ ts.flatMap (',' :: ·) := by
  induction ts generalizing t with
  | nil => simp [commaJoin]
  | cons u us ih => simp [commaJoin, ih]

theorem length_le_flatMap_comma {ι : Type} (is : List ι) (text : ι → List Char) :
    is.length ≤ (is.flatMap (',' :: text ·)).length := by
  induction is with
  | nil => simp
  | cons i is ih =>
    rw [List.flatMap_cons, List.length_append, List.length_cons, List.length_cons]
    omega

/-- A list as it is written. The blanks inside it are all there is when it is empty. -/
def spacedList (inner : List Char) (is : List Padded) : List Char :=
  '[' :: (inner ++ (commaJoin (is.map Padded.text) ++ [']']))

theorem spacedList_append (inner : List Char) (is : List Padded) (rest : List Char) :
    spacedList inner is ++ rest =
      '[' :: (inner ++ (commaJoin (is.map Padded.text) ++ ']' :: rest)) := by
  simp [spacedList]

def listText (ts : List (List Char)) : List Char := '[' :: commaJoin ts ++ [']']

theorem listText_append (ts : List (List Char)) (rest : List Char) :
    listText ts ++ rest = '[' :: (commaJoin ts ++ ']' :: rest) := by
  simp [listText]

section Items

variable {ι α : Type} {item : Reader α} {text : ι → List Char} {padded : ι → Padded}
  {result : ι → Except Fault α} {blanks inner t s : List Char} {steps : Nat}

theorem items_append_blanks (h : Blanks blanks) (s : List Char) :
    items item (blanks ++ s) = items item s := by
  rw [items, items, skipSpace_append_blanks h]

theorem moreItems_append_blanks (h : Blanks blanks) (s : List Char) :
    moreItems item steps (blanks ++ s) = moreItems item steps s := by
  cases steps with
  | zero => rfl
  | succ steps => rw [moreItems, moreItems, skipSpace_append_blanks h]

theorem items_of_begins (h : Begins t) :
    items item (t ++ s) = do
      let (a, rest) ← item (t ++ s)
      let (as, rest) ← moreItems item (rest.length + 1) rest
      return (a :: as, rest) := by
  obtain ⟨c, cs, rfl, hspace, hbracket⟩ := h
  rw [List.cons_append, items, skipSpace_cons hspace]
  split <;> simp_all

theorem moreItems_of_begins (hblanks : Blanks blanks) (h : Begins t) :
    moreItems item (steps + 1) (',' :: (blanks ++ (t ++ s))) = do
      let (a, rest) ← item (t ++ s)
      let (as, rest) ← moreItems item steps rest
      return (a :: as, rest) := by
  obtain ⟨c, cs, rfl, hspace, hbracket⟩ := h
  rw [List.cons_append, moreItems, skipSpace_cons (by decide)]
  simp only [skipSpace_append_blanks hblanks, skipSpace_cons hspace]
  split <;> simp_all

theorem moreItems_close (rest : List Char) :
    moreItems item (steps + 1) (']' :: rest) = .ok ([], rest) := by
  simp [moreItems, skipSpace_cons, isSpace]

theorem items_close (rest : List Char) : items item (']' :: rest) = .ok ([], rest) := by
  simp [items, skipSpace_cons, isSpace]

theorem closes_moreItems (is : List ι) (text : ι → List Char) (rest : List Char) :
    Closes (is.flatMap (',' :: text ·) ++ ']' :: rest) := by
  cases is <;> simp [closes_cons]

/-- An item is read, then the items behind it. -/
theorem read_cons (more : Reader (List α)) {first : Except Fault α}
    {others : Except Fault (List α)} {rest : List Char} (hfirst : item t = first.map (·, s))
    (hothers : more s = others.map (·, rest)) :
    (do
      let (a, s) ← item t
      let (as, rest) ← more s
      return (a :: as, rest)) =
      (do
        let a ← first
        let as ← others
        return a :: as).map (·, rest) := by
  rw [hfirst]
  cases first with
  | error fault => rfl
  | ok a =>
    simp only [Except.map, bind, Except.bind, hothers]
    cases others <;> rfl

theorem moreItems_flatMap {is : List ι} (hsteps : is.length < steps) (hblanks : Blanks blanks)
    (hbegins : ∀ i ∈ is, Begins (padded i).core)
    (hitem : ∀ i ∈ is, Answers item (padded i).core (result i)) (rest : List Char) :
    moreItems item steps (blanks ++ ((is.flatMap fun i => ',' :: (padded i).text) ++ ']' :: rest)) =
      (is.mapM result).map (·, rest) := by
  induction is generalizing steps blanks with
  | nil =>
    obtain ⟨steps, rfl⟩ := Nat.exists_eq_add_of_lt hsteps
    rw [moreItems_append_blanks hblanks]
    exact moreItems_close rest
  | cons i is ih =>
    obtain ⟨steps, rfl⟩ := Nat.exists_eq_add_of_le' (Nat.zero_lt_of_lt hsteps)
    have hfirst := hitem i (by simp) _ (closes_append_blanks (padded i).blanks_after
      (closes_moreItems is (fun j => (padded j).text) rest))
    have hothers := ih (Nat.lt_of_succ_lt_succ hsteps) (padded i).blanks_after
      (fun j hj => hbegins j (by simp [hj])) (fun j hj => hitem j (by simp [hj]))
    rw [moreItems_append_blanks hblanks, List.flatMap_cons, List.append_assoc, List.cons_append,
      Padded.text, List.append_assoc, List.append_assoc,
      moreItems_of_begins (padded i).blanks_before (hbegins i (by simp)), List.mapM_cons]
    exact read_cons (moreItems item steps) hfirst hothers

theorem items_padded (padded : ι → Padded) {is : List ι} (hinner : Blanks inner)
    (hbegins : ∀ i ∈ is, Begins (padded i).core)
    (hitem : ∀ i ∈ is, Answers item (padded i).core (result i)) (rest : List Char) :
    items item (inner ++ (commaJoin (is.map fun i => (padded i).text) ++ ']' :: rest)) =
      (is.mapM result).map (·, rest) := by
  rw [items_append_blanks hinner]
  cases is with
  | nil => exact items_close rest
  | cons i is =>
    have hfirst := hitem i (by simp) _ (closes_append_blanks (padded i).blanks_after
      (closes_moreItems is (fun j => (padded j).text) rest))
    have hsteps : is.length < ((padded i).after ++
        ((is.flatMap fun i => ',' :: (padded i).text) ++ ']' :: rest)).length + 1 := by
      have hlength := length_le_flatMap_comma is (fun j => (padded j).text)
      rw [List.length_append, List.length_append]
      omega
    have hothers := moreItems_flatMap hsteps (padded i).blanks_after
      (fun j hj => hbegins j (by simp [hj])) (fun j hj => hitem j (by simp [hj])) rest
    rw [List.map_cons, commaJoin_cons, List.flatMap_map, Padded.text, List.append_assoc,
      List.append_assoc, List.append_assoc, items_append_blanks (padded i).blanks_before,
      items_of_begins (hbegins i (by simp)), List.mapM_cons]
    exact read_cons (fun s => moreItems item (s.length + 1) s) hfirst hothers

/-- A list without blanks is read back when each of its items is. -/
theorem items_commaJoin {is : List ι} (hbegins : ∀ i ∈ is, Begins (text i))
    (hitem : ∀ i ∈ is, Answers item (text i) (result i)) (rest : List Char) :
    items item (commaJoin (is.map text) ++ ']' :: rest) = (is.mapM result).map (·, rest) := by
  have hread := items_padded (fun i => .bare (text i)) blanks_nil hbegins hitem rest
  simpa only [Padded.text_bare, List.nil_append] using hread

end Items

/-- A member of an object as it is written, with the key that its name stands for. -/
structure Member where
  key : String
  name : Padded
  value : Padded
  named : ∃ spelled, name.core = '"' :: spelled ∧
    ∀ rest, stringBody (spelled ++ rest) = .ok (key, rest)

theorem quoteChars_append (name : String) (s : List Char) :
    quoteChars name ++ s = '"' :: (name.toList.flatMap escapeChar ++ '"' :: s) := by
  simp [quoteChars]

def memberText (key : String) (t : List Char) : List Char := quoteChars key ++ ':' :: t

namespace Member

/-- What stands behind the name, up to the end of the value. -/
def inside (m : Member) : List Char := m.name.after ++ ':' :: (m.value.before ++ m.value.core)

def text (m : Member) : List Char :=
  m.name.before ++ (m.name.core ++ (m.inside ++ m.value.after))

/-- A member without blanks, its name written as names are here. -/
def bare (key : String) (t : List Char) : Member where
  key
  name := .bare (quoteChars key)
  value := .bare t
  named := by
    refine ⟨key.toList.flatMap escapeChar ++ ['"'], rfl, fun rest => ?_⟩
    rw [List.append_assoc]
    exact stringBody_quoted key rest

@[simp] theorem text_bare (key : String) (t : List Char) :
    (bare key t).text = memberText key t := by
  simp [text, inside, bare, Padded.bare, memberText]

end Member

/-- An object as it is written. The blanks inside it are all there is when it is empty. -/
def spacedObject (inner : List Char) (ms : List Member) : List Char :=
  '{' :: (inner ++ (commaJoin (ms.map Member.text) ++ ['}']))

theorem spacedObject_append (inner : List Char) (ms : List Member) (rest : List Char) :
    spacedObject inner ms ++ rest =
      '{' :: (inner ++ (commaJoin (ms.map Member.text) ++ '}' :: rest)) := by
  simp [spacedObject]

def objectText (ms : List (String × List Char)) : List Char :=
  '{' :: commaJoin (ms.map fun m => memberText m.1 m.2) ++ ['}']

theorem objectText_append (ms : List (String × List Char)) (rest : List Char) :
    objectText ms ++ rest =
      '{' :: (commaJoin (ms.map fun m => memberText m.1 m.2) ++ '}' :: rest) := by
  simp [objectText]

section Members

variable {ι σ : Type} {step : σ → String → Reader σ} {key : ι → String} {text : ι → List Char}
  {member : ι → Member} {next : σ → ι → Except Fault σ} {state : σ} {blanks inner s : List Char}
  {steps : Nat}

theorem members_append_blanks (h : Blanks blanks) (s : List Char) :
    members step state (blanks ++ s) = members step state s := by
  rw [members, members, skipSpace_append_blanks h]

theorem moreMembers_append_blanks (h : Blanks blanks) (s : List Char) :
    moreMembers step steps state (blanks ++ s) = moreMembers step steps state s := by
  cases steps with
  | zero => rfl
  | succ steps => rw [moreMembers, moreMembers, skipSpace_append_blanks h]

theorem members_name (m : Member) :
    members step state (m.name.core ++ s) =
      (do
        let (state, rest) ← step state m.key s
        moreMembers step (rest.length + 1) state rest) := by
  obtain ⟨spelled, hcore, hread⟩ := m.named
  rw [hcore, List.cons_append, members, skipSpace_cons (by decide)]
  simp only [hread, bind, Except.bind]

theorem moreMembers_name (m : Member) :
    moreMembers step (steps + 1) state (',' :: (m.name.before ++ (m.name.core ++ s))) =
      (do
        let (state, rest) ← step state m.key s
        moreMembers step steps state rest) := by
  obtain ⟨spelled, hcore, hread⟩ := m.named
  rw [hcore, List.cons_append, moreMembers, skipSpace_cons (by decide)]
  simp only [skipSpace_append_blanks m.name.blanks_before, skipSpace_cons (c := '"') (by decide),
    hread, bind, Except.bind]

theorem moreMembers_close (rest : List Char) :
    moreMembers step (steps + 1) state ('}' :: rest) = .ok (state, rest) := by
  simp [moreMembers, skipSpace_cons, isSpace]

theorem members_close (rest : List Char) :
    members step state ('}' :: rest) = .ok (state, rest) := by
  simp [members, skipSpace_cons, isSpace]

theorem closes_moreMembers (is : List ι) (text : ι → List Char) (rest : List Char) :
    Closes (is.flatMap (',' :: text ·) ++ '}' :: rest) := by
  cases is <;> simp [closes_cons]

theorem moreMembers_flatMap (is : List ι) (hsteps : is.length < steps) (hblanks : Blanks blanks)
    (hstep : ∀ i ∈ is, ∀ state,
      Answers (step state (member i).key) (member i).inside (next state i))
    (state : σ) (rest : List Char) :
    moreMembers step steps state
        (blanks ++ ((is.flatMap fun i => ',' :: (member i).text) ++ '}' :: rest)) =
      (is.foldlM next state).map (·, rest) := by
  induction is generalizing steps blanks state with
  | nil =>
    obtain ⟨steps, rfl⟩ := Nat.exists_eq_add_of_lt hsteps
    rw [moreMembers_append_blanks hblanks]
    exact moreMembers_close rest
  | cons i is ih =>
    obtain ⟨steps, rfl⟩ := Nat.exists_eq_add_of_le' (Nat.zero_lt_of_lt hsteps)
    have hfirst := hstep i (by simp) state _ (closes_append_blanks (member i).value.blanks_after
      (closes_moreMembers is (fun j => (member j).text) rest))
    rw [moreMembers_append_blanks hblanks, List.flatMap_cons, List.append_assoc, List.cons_append,
      Member.text, List.append_assoc, List.append_assoc, List.append_assoc, moreMembers_name,
      hfirst, List.foldlM_cons]
    cases next state i with
    | error fault => rfl
    | ok state =>
      exact ih (Nat.lt_of_succ_lt_succ hsteps) (member i).value.blanks_after
        (fun j hj => hstep j (by simp [hj])) state

/-- An object is read when each of its members is, one after the other; the first member that is
refused decides. -/
theorem members_padded (member : ι → Member) {is : List ι} (hinner : Blanks inner)
    (hstep : ∀ i ∈ is, ∀ state,
      Answers (step state (member i).key) (member i).inside (next state i))
    (state : σ) (rest : List Char) :
    members step state
        (inner ++ (commaJoin (is.map fun i => (member i).text) ++ '}' :: rest)) =
      (is.foldlM next state).map (·, rest) := by
  rw [members_append_blanks hinner]
  cases is with
  | nil => exact members_close rest
  | cons i is =>
    have hfirst := hstep i (by simp) state _ (closes_append_blanks (member i).value.blanks_after
      (closes_moreMembers is (fun j => (member j).text) rest))
    rw [List.map_cons, commaJoin_cons, List.flatMap_map, Member.text, List.append_assoc,
      List.append_assoc, List.append_assoc, List.append_assoc,
      members_append_blanks (member i).name.blanks_before, members_name, hfirst, List.foldlM_cons]
    cases next state i with
    | error fault => rfl
    | ok state =>
      have hlength := length_le_flatMap_comma is (fun j => (member j).text)
      refine moreMembers_flatMap is ?_ (member i).value.blanks_after
        (fun j hj => hstep j (by simp [hj])) state rest
      rw [List.length_append, List.length_append]
      omega

/-- An object without blanks is read back when each of its members is. -/
theorem members_commaJoin {is : List ι}
    (hstep : ∀ i ∈ is, ∀ state, Answers (step state (key i)) (':' :: text i) (next state i))
    (state : σ) (rest : List Char) :
    members step state
        (commaJoin (is.map fun i => memberText (key i) (text i)) ++ '}' :: rest) =
      (is.foldlM next state).map (·, rest) := by
  have hread := members_padded (fun i => .bare (key i) (text i)) blanks_nil hstep state rest
  simpa only [Member.text_bare, List.nil_append] using hread

end Members

end MarketFeed.Json

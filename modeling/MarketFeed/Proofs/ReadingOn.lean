import MarketFeed.Proofs.Attempts
import MarketFeed.Proofs.DocumentReading
import Mathlib.Data.List.DropRight

/-!
# Texts that go on

What a reader takes off the front of a text it takes off every text that goes on behind it, and the
rest is longer by what was added. The one exception is a number at the very end, which more digits
would change, so what is added there has to close it. Brackets that may be opened beyond those that
are needed change nothing either, and both facts are shown together: a reader is compared with one
that may open more.
-/
namespace MarketFeed.Json

variable {α β σ : Type} {s rest more : List Char}

/-- What the first reader takes off a text, the second one takes off every text that goes on. -/
def Extends (reader wider : Reader α) : Prop :=
  ∀ {s a rest}, reader s = .ok (a, rest) → ∀ more, (rest = [] → Closes more) →
    wider (s ++ more) = .ok (a, rest ++ more)

theorem isSpace_of_skipSpace {c : Char} (h : skipSpace s = c :: rest) : isSpace c = false := by
  have hhead := List.head?_dropWhile_not isSpace s
  have hs : s.dropWhile isSpace = c :: rest := h
  rw [hs] at hhead
  exact hhead

theorem skipSpace_skipSpace (s : List Char) : skipSpace (skipSpace s) = skipSpace s :=
  List.dropWhile_idempotent isSpace s

theorem skipSpace_append {c : Char} (h : skipSpace s = c :: rest) (more : List Char) :
    skipSpace (s ++ more) = c :: (rest ++ more) := by
  unfold skipSpace at h ⊢
  rw [List.dropWhile_append, h]
  rfl

theorem word_append {letters : List Char} (h : word letters s = .ok rest) (more : List Char) :
    word letters (s ++ more) = .ok (rest ++ more) := by
  induction letters generalizing s with
  | nil =>
    obtain rfl := Except.ok.inj h
    rfl
  | cons letter letters ih =>
    cases s with
    | nil => cases h
    | cons c s =>
      rw [word] at h
      rw [List.cons_append, word]
      split_ifs at h ⊢ with hc
      exact ih h

theorem readThen_eq_ok {read : Except Fault (α × List Char)} {f : α → β} {b : β} :
    (do
      let (a, rest) ← read
      return (f a, rest)) = .ok (b, rest) ↔ ∃ a, read = .ok (a, rest) ∧ b = f a := by
  constructor
  · intro h
    obtain ⟨⟨a, rest'⟩, hread, hb⟩ := Attempts.bind_eq_ok.mp h
    cases hb
    exact ⟨a, hread, rfl⟩
  · rintro ⟨a, hread, rfl⟩
    exact Attempts.bind_eq_ok.mpr ⟨_, hread, rfl⟩

theorem stringChars_append {high : Option Nat} {cs : List Char}
    (h : stringChars high s = .ok (cs, rest)) (more : List Char) :
    stringChars high (s ++ more) = .ok (cs, rest ++ more) := by
  fun_induction stringChars high s generalizing cs rest
  -- the second half of a surrogate pair, the end, the first half, and the other escapes
  case case3 hhex hlow ih =>
    obtain ⟨cs, hcs, rfl⟩ := readThen_eq_ok.mp h
    simp only [List.cons_append, stringChars, hhex, hlow, if_true]
    exact readThen_eq_ok.mpr ⟨cs, ih hcs, rfl⟩
  case case8 =>
    cases h
    rfl
  case case11 hhex hlow hhigh ih =>
    simp only [List.cons_append, stringChars, hhex, hlow, hhigh, if_true]
    exact ih h
  case case12 hhex hlow hhigh ih =>
    obtain ⟨cs, hcs, rfl⟩ := readThen_eq_ok.mp h
    simp only [List.cons_append, stringChars, hhex, hlow, hhigh]
    exact readThen_eq_ok.mpr ⟨cs, ih hcs, rfl⟩
  case case15 hu _ hletter ih =>
    obtain ⟨cs, hcs, rfl⟩ := readThen_eq_ok.mp h
    exact stringChars_letter hu hletter (ih hcs)
  case case18 c s hquote hlast hescape hbackslash hcontrol ih =>
    obtain ⟨cs, hcs, rfl⟩ := readThen_eq_ok.mp h
    have hplain : c ≠ '\\' := by
      intro hc
      cases s with
      | nil => exact hlast hc rfl
      | cons e s => exact hbackslash e s hc rfl
    exact stringChars_plain hquote hplain hcontrol (ih hcs)
  all_goals cases h

theorem stringBody_append {text : String} (h : stringBody s = .ok (text, rest))
    (more : List Char) : stringBody (s ++ more) = .ok (text, rest ++ more) := by
  obtain ⟨cs, hcs, rfl⟩ := readThen_eq_ok.mp h
  exact readThen_eq_ok.mpr ⟨cs, stringChars_append hcs more, rfl⟩

namespace Written

variable {atEnd : Fault} {negative : Bool} {ds : List Char}

theorem digits_extends : Extends (digits atEnd) (digits atEnd) := by
  intro s ds rest h more hmore
  obtain ⟨hne, rfl, hds, hrest⟩ := digits_eq_ok.mp h
  refine digits_eq_ok.mpr ⟨hne, List.append_assoc .., hds, ?_⟩
  cases rest with
  | nil => exact fun c hc => (hmore rfl c hc).1
  | cons c rest => exact hrest

theorem scanWhole_extends : Extends (scanWhole atEnd) (scanWhole atEnd) := by
  intro s ds rest h more hmore
  obtain ⟨hdigits, hzero⟩ := scanWhole_eq_ok.mp h
  exact scanWhole_eq_ok.mpr ⟨digits_extends hdigits more hmore, hzero⟩

theorem scanFraction_extends : Extends (scanFraction atEnd) (scanFraction atEnd) := by
  intro s fraction rest h more hmore
  unfold scanFraction at h
  split at h
  next s =>
    obtain ⟨ds, hds, rfl⟩ := readThen_eq_ok.mp h
    exact readThen_eq_ok.mpr ⟨ds, digits_extends hds more hmore, rfl⟩
  next hpoint =>
    cases h
    rw [scanFraction]
    intro t ht
    cases s with
    | nil =>
      obtain rfl : more = '.' :: t := ht
      exact (closes_cons.mp (hmore rfl)).2.1 rfl
    | cons c s => exact hpoint s (congrArg (· :: s) (List.cons.inj ht).1)

theorem scanExponent_of_ne {c : Char} (hc : ¬(c = 'e' ∨ c = 'E')) (s : List Char) :
    scanExponent atEnd (c :: s) = .ok (none, c :: s) := by
  unfold scanExponent
  exact if_neg hc

theorem scanExponent_end {c : Char} (hc : c = 'e' ∨ c = 'E') :
    scanExponent atEnd [c] = .error atEnd := by
  unfold scanExponent
  exact if_pos hc

/-- Behind the letter of an exponent stand digits, perhaps behind a sign. -/
theorem scanExponent_of_letter (atEnd : Fault) {c : Char} (hc : c = 'e' ∨ c = 'E') (hs : s ≠ []) :
    ∃ (sign : Int) (t : List Char), ∀ more, scanExponent atEnd (c :: (s ++ more)) =
      (digits atEnd (t ++ more)).map fun (ds, rest) =>
        (some (sign * (Nat.ofDigitChars 10 ds 0 : Int)), rest) := by
  have hread : ∀ (sign : Int) t, (do
      let (ds, rest) ← digits atEnd t
      return (some (sign * (Nat.ofDigitChars 10 ds 0 : Int)), rest)) =
        (digits atEnd t).map fun (ds, rest) =>
          (some (sign * (Nat.ofDigitChars 10 ds 0 : Int)), rest) := by
    intro sign t
    cases digits atEnd t <;> rfl
  obtain ⟨d, s, rfl⟩ := List.exists_cons_of_ne_nil hs
  unfold scanExponent
  simp only [List.cons_append, if_pos hc]
  by_cases hplus : d = '+'
  · subst hplus
    exact ⟨1, s, fun more => hread 1 (s ++ more)⟩
  · by_cases hminus : d = '-'
    · subst hminus
      exact ⟨-1, s, fun more => hread (-1) (s ++ more)⟩
    · refine ⟨1, d :: s, fun more => ?_⟩
      rw [← hread]
      split
      next heq => exact absurd (List.cons.inj heq).1 hplus
      next heq => exact absurd (List.cons.inj heq).1 hminus
      next => rfl

theorem scanExponent_extends : Extends (scanExponent atEnd) (scanExponent atEnd) := by
  intro s exponent rest h more hmore
  cases s with
  | nil =>
    cases h
    cases more with
    | nil => rfl
    | cons c more =>
      obtain ⟨-, -, he, hE⟩ := closes_cons.mp (hmore rfl)
      exact scanExponent_of_ne (not_or.mpr ⟨he, hE⟩) more
  | cons c s =>
    by_cases hc : c = 'e' ∨ c = 'E'
    · have hs : s ≠ [] := by
        rintro rfl
        rw [scanExponent_end hc] at h
        cases h
      obtain ⟨sign, t, hread⟩ := scanExponent_of_letter atEnd hc hs
      have hfirst := hread []
      rw [List.append_nil, List.append_nil, h] at hfirst
      obtain ⟨⟨ds, rest⟩, hds, heq⟩ := Attempts.map_eq_ok.mp hfirst.symm
      cases heq
      rw [List.cons_append, hread, digits_extends hds more hmore]
      rfl
    · rw [scanExponent_of_ne hc] at h
      cases h
      exact scanExponent_of_ne hc (s ++ more)

theorem scan_extends : Extends (scan atEnd negative) (scan atEnd negative) := by
  intro s w rest h more hmore
  obtain ⟨⟨whole, s₁⟩, hwhole, h⟩ := Attempts.bind_eq_ok.mp h
  obtain ⟨⟨fraction, s₂⟩, hfraction, h⟩ := Attempts.bind_eq_ok.mp h
  obtain ⟨⟨exponent, s₃⟩, hexponent, h⟩ := Attempts.bind_eq_ok.mp h
  cases h
  have hend₂ : s₂ = [] → rest = [] := by
    rintro rfl
    cases hexponent
    rfl
  have hend₁ : s₁ = [] → rest = [] := by
    rintro rfl
    cases hfraction
    exact hend₂ rfl
  refine Attempts.bind_eq_ok.mpr ⟨_, scanWhole_extends hwhole more (hmore ∘ hend₁), ?_⟩
  refine Attempts.bind_eq_ok.mpr ⟨_, scanFraction_extends hfraction more (hmore ∘ hend₂), ?_⟩
  exact Attempts.bind_eq_ok.mpr ⟨_, scanExponent_extends hexponent more hmore, rfl⟩

end Written

theorem number_extends {negative : Bool} : Extends (number negative) (number negative) := by
  intro s n rest h more hmore
  obtain ⟨⟨w, rest⟩, hscan, h⟩ := Attempts.bind_eq_ok.mp h
  obtain ⟨n, hvalue, h⟩ := Attempts.bind_eq_ok.mp h
  cases h
  refine Attempts.bind_eq_ok.mpr ⟨_, Written.scan_extends hscan more hmore, ?_⟩
  exact Attempts.bind_eq_ok.mpr ⟨n, hvalue, rfl⟩

theorem scalar_extends : Extends scalar scalar := by
  intro s v rest h more hmore
  unfold scalar at h
  split at h
  case h_1 => cases h
  case h_2 | h_3 | h_4 =>
    obtain ⟨rest, hword, h⟩ := Attempts.bind_eq_ok.mp h
    cases h
    exact Attempts.bind_eq_ok.mpr ⟨_, word_append hword more, rfl⟩
  case h_5 =>
    obtain ⟨text, hbody, rfl⟩ := readThen_eq_ok.mp h
    exact readThen_eq_ok.mpr ⟨text, stringBody_append hbody more, rfl⟩
  case h_6 =>
    obtain ⟨n, hnumber, rfl⟩ := readThen_eq_ok.mp h
    exact readThen_eq_ok.mpr ⟨n, number_extends hnumber more hmore, rfl⟩
  case h_7 c s _ _ _ _ _ =>
    split_ifs at h with hc
    obtain ⟨n, hnumber, rfl⟩ := readThen_eq_ok.mp h
    have hmoreNumber := number_extends hnumber more hmore
    rw [List.cons_append] at hmoreNumber ⊢
    rw [scalar_of_isDigit hc, hmoreNumber]
    rfl

theorem begins_skipSpace {c : Char} (h : skipSpace s = c :: rest) (hc : c ≠ ']') :
    Begins (skipSpace s) :=
  ⟨c, rest, h, isSpace_of_skipSpace h, hc⟩

theorem Begins.skipSpace_append (h : Begins (skipSpace s)) (more : List Char) :
    skipSpace (s ++ more) = skipSpace s ++ more := by
  obtain ⟨c, t, hs, -, -⟩ := h
  rw [Json.skipSpace_append hs, hs, List.cons_append]

theorem not_begins_bracket : ¬Begins (']' :: rest) := by
  rintro ⟨c, cs, heq, -, hc⟩
  exact hc (List.cons.inj heq).1.symm

theorem Begins.append {t : List Char} (h : Begins t) (more : List Char) : Begins (t ++ more) := by
  obtain ⟨c, cs, rfl, hspace, hbracket⟩ := h
  exact ⟨c, cs ++ more, rfl, hspace, hbracket⟩

section Items

variable {item wider : Reader α} {steps steps' : Nat} {as : List α}

theorem readItems_eq_ok {t : List Char} (more : Reader (List α)) :
    (do
      let (a, rest) ← item t
      let (as, rest) ← more rest
      return (a :: as, rest)) = .ok (as, rest) ↔
      ∃ a s others, item t = .ok (a, s) ∧ more s = .ok (others, rest) ∧ as = a :: others := by
  constructor
  · intro h
    obtain ⟨⟨a, s⟩, ha, h⟩ := Attempts.bind_eq_ok.mp h
    obtain ⟨⟨others, rest⟩, hothers, h⟩ := Attempts.bind_eq_ok.mp h
    cases h
    exact ⟨a, s, others, ha, hothers, rfl⟩
  · rintro ⟨a, s, others, ha, hothers, rfl⟩
    exact Attempts.bind_eq_ok.mpr ⟨_, ha, Attempts.bind_eq_ok.mpr ⟨_, hothers, rfl⟩⟩

/-- Behind an item the list is closed, or a comma and another item stand there. -/
theorem moreItems_eq_ok :
    moreItems item (steps + 1) s = .ok (as, rest) ↔
      skipSpace s = ']' :: rest ∧ as = [] ∨
        ∃ inner, skipSpace s = ',' :: inner ∧ Begins (skipSpace inner) ∧
          ∃ a t others, item (skipSpace inner) = .ok (a, t) ∧
            moreItems item steps t = .ok (others, rest) ∧ as = a :: others := by
  rw [moreItems]
  split
  next hs => simp [hs]
  next hs => simp [hs, and_comm, eq_comm]
  next inner hs =>
    split
    next hinner => simp [hs, hinner, Begins]
    next hinner => simp [hs, hinner, Begins]
    next hempty hbracket =>
      obtain ⟨c, t, hinner⟩ := List.exists_cons_of_ne_nil hempty
      have hc : c ≠ ']' := fun h => hbracket t (h ▸ hinner)
      simp only [readItems_eq_ok, hs, List.cons.injEq, Char.reduceEq, false_and, false_or,
        true_and, exists_eq_left', begins_skipSpace hinner hc]
  next hclose hcomma => simp_all

theorem moreItems_extends (hitem : Extends item wider) (hsteps : steps ≤ steps') :
    Extends (moreItems item steps) (moreItems wider steps') := by
  intro s as rest h more _
  induction steps generalizing steps' s as with
  | zero => cases h
  | succ steps ih =>
    obtain ⟨steps', rfl⟩ := Nat.exists_eq_add_of_lt hsteps
    refine moreItems_eq_ok.mpr ?_
    rcases moreItems_eq_ok.mp h with ⟨hs, rfl⟩ | ⟨inner, hs, hbegins, a, t, as, ha, has, rfl⟩
    · exact .inl ⟨skipSpace_append hs more, rfl⟩
    · -- what is left behind an item is not nothing, for the list still has to be closed
      have ht : t ≠ [] := by
        rintro rfl
        cases steps <;> cases has
      refine .inr ⟨inner ++ more, skipSpace_append hs more, ?_⟩
      rw [hbegins.skipSpace_append more]
      refine ⟨hbegins.append more, a, t ++ more, as, ?_, ?_, rfl⟩
      · exact hitem ha more fun hnil => absurd hnil ht
      · exact ih (by omega) has

theorem items_eq_ok :
    items item s = .ok (as, rest) ↔
      skipSpace s = ']' :: rest ∧ as = [] ∨
        Begins (skipSpace s) ∧ ∃ a t others, item (skipSpace s) = .ok (a, t) ∧
          moreItems item (t.length + 1) t = .ok (others, rest) ∧ as = a :: others := by
  rw [items]
  split
  next hs => simp [hs, Begins]
  next hs => simp [hs, not_begins_bracket, and_comm, eq_comm]
  next hempty hbracket =>
    obtain ⟨c, t, hs⟩ := List.exists_cons_of_ne_nil hempty
    have hc : c ≠ ']' := fun h => hbracket t (h ▸ hs)
    simp only [readItems_eq_ok fun s => moreItems item (s.length + 1) s, hs,
      List.cons.injEq, hc, false_and, false_or, hs ▸ begins_skipSpace hs hc, true_and]

theorem items_extends (hitem : Extends item wider) : Extends (items item) (items wider) := by
  intro s as rest h more hmore
  refine items_eq_ok.mpr ?_
  rcases items_eq_ok.mp h with ⟨hs, rfl⟩ | ⟨hbegins, a, t, as, ha, has, rfl⟩
  · exact .inl ⟨skipSpace_append hs more, rfl⟩
  · have ht : t ≠ [] := by
      rintro rfl
      cases has
    rw [hbegins.skipSpace_append more]
    refine .inr ⟨hbegins.append more, a, t ++ more, as, ?_, ?_, rfl⟩
    · exact hitem ha more fun hnil => absurd hnil ht
    · have hsteps : t.length + 1 ≤ (t ++ more).length + 1 := by simp
      exact moreItems_extends hitem hsteps has more hmore

end Items

section Members

variable {step wider : σ → String → Reader σ} {steps steps' : Nat} {state out : σ}

theorem readMembers_eq_ok {t : List Char} (more : σ → Reader σ) :
    (do
      let (key, rest) ← stringBody t
      let (state, rest) ← step state key rest
      more state rest) = .ok (out, rest) ↔
      ∃ key s next s', stringBody t = .ok (key, s) ∧ step state key s = .ok (next, s') ∧
        more next s' = .ok (out, rest) := by
  simp only [Attempts.bind_eq_ok, Prod.exists]
  constructor
  · rintro ⟨key, s, hkey, next, s', hnext, hmore⟩
    exact ⟨key, s, next, s', hkey, hnext, hmore⟩
  · rintro ⟨key, s, next, s', hkey, hnext, hmore⟩
    exact ⟨key, s, hkey, next, s', hnext, hmore⟩

/-- Behind a member the object is closed, or a comma and another member stand there. -/
theorem moreMembers_eq_ok :
    moreMembers step (steps + 1) state s = .ok (out, rest) ↔
      skipSpace s = '}' :: rest ∧ out = state ∨
        ∃ inner body, skipSpace s = ',' :: inner ∧ skipSpace inner = '"' :: body ∧
          ∃ key t next t', stringBody body = .ok (key, t) ∧ step state key t = .ok (next, t') ∧
            moreMembers step steps next t' = .ok (out, rest) := by
  rw [moreMembers]
  split
  next hs => simp [hs]
  next hs => simp [hs, and_comm, eq_comm]
  next inner hs =>
    split
    next hinner => simp [hs, hinner]
    next hinner => simp [hs, hinner]
    next body hinner => simp [readMembers_eq_ok, hs, hinner]
    next => simp_all
  next => simp_all

theorem moreMembers_extends (hstep : ∀ state key, Extends (step state key) (wider state key))
    (hsteps : steps ≤ steps') :
    Extends (moreMembers step steps state) (moreMembers wider steps' state) := by
  intro s out rest h more _
  induction steps generalizing steps' s state with
  | zero => cases h
  | succ steps ih =>
    obtain ⟨steps', rfl⟩ := Nat.exists_eq_add_of_lt hsteps
    refine moreMembers_eq_ok.mpr ?_
    rcases moreMembers_eq_ok.mp h with
      ⟨hs, rfl⟩ | ⟨inner, body, hs, hinner, key, t, next, t', hkey, hnext, hmore⟩
    · exact .inl ⟨skipSpace_append hs more, rfl⟩
    · have ht' : t' ≠ [] := by
        rintro rfl
        cases steps <;> cases hmore
      refine .inr ⟨inner ++ more, body ++ more, skipSpace_append hs more,
        skipSpace_append hinner more, key, t ++ more, next, t' ++ more, ?_, ?_, ?_⟩
      · exact stringBody_append hkey more
      · exact hstep state key hnext more fun hnil => absurd hnil ht'
      · exact ih (by omega) hmore

theorem members_eq_ok :
    members step state s = .ok (out, rest) ↔
      skipSpace s = '}' :: rest ∧ out = state ∨
        ∃ body, skipSpace s = '"' :: body ∧
          ∃ key t next t', stringBody body = .ok (key, t) ∧ step state key t = .ok (next, t') ∧
            moreMembers step (t'.length + 1) next t' = .ok (out, rest) := by
  rw [members]
  split
  next hs => simp [hs]
  next hs => simp [hs, and_comm, eq_comm]
  next body hs =>
    simp [readMembers_eq_ok fun state s => moreMembers step (s.length + 1) state s, hs]
  next => simp_all

theorem members_extends (hstep : ∀ state key, Extends (step state key) (wider state key)) :
    Extends (members step state) (members wider state) := by
  intro s out rest h more hmore
  refine members_eq_ok.mpr ?_
  rcases members_eq_ok.mp h with
    ⟨hs, rfl⟩ | ⟨body, hs, key, t, next, t', hkey, hnext, hothers⟩
  · exact .inl ⟨skipSpace_append hs more, rfl⟩
  · have ht' : t' ≠ [] := by
      rintro rfl
      cases hothers
    refine .inr ⟨body ++ more, skipSpace_append hs more, key, t ++ more, next, t' ++ more, ?_⟩
    have hsteps : t'.length + 1 ≤ (t' ++ more).length + 1 := by simp
    exact ⟨stringBody_append hkey more, hstep state key hnext more fun hnil => absurd hnil ht',
      moreMembers_extends hstep hsteps hothers more hmore⟩

end Members

section Documents

variable {item wider : Reader Value} {inner inner' : Option (Reader Value)} {depth depth' : Nat}

theorem colon_append (h : colon s = .ok rest) (more : List Char) :
    colon (s ++ more) = .ok (rest ++ more) := by
  unfold colon at h ⊢
  cases hs : skipSpace s with
  | nil =>
    rw [hs] at h
    cases h
  | cons c t =>
    rw [hs] at h
    rw [skipSpace_append hs]
    split at h <;> cases h
    next heq => 
      cases heq
      rfl

theorem memberReader_extends (hitem : Extends item wider) (before : List (String × Value))
    (key : String) : Extends (memberReader item before key) (memberReader wider before key) := by
  intro s ms rest h more hmore
  obtain ⟨t, hcolon, h⟩ := Attempts.bind_eq_ok.mp h
  obtain ⟨⟨v, rest⟩, hv, h⟩ := Attempts.bind_eq_ok.mp h
  cases h
  refine Attempts.bind_eq_ok.mpr ⟨_, colon_append hcolon more, ?_⟩
  exact Attempts.bind_eq_ok.mpr ⟨_, hitem hv more hmore, rfl⟩

theorem valueWith_skipSpace : valueWith inner (skipSpace s) = valueWith inner s := by
  unfold valueWith
  rw [skipSpace_skipSpace]

/-- A value is a list, an object or neither, and its first character tells which. -/
theorem valueWith_eq_ok {v : Value} :
    valueWith inner s = .ok (v, rest) ↔
      (∃ c t, skipSpace s = c :: t ∧ c ≠ '[' ∧ c ≠ '{' ∧ scalar (c :: t) = .ok (v, rest)) ∨
      (∃ item ∈ inner, ∃ t vs, skipSpace s = '[' :: t ∧ items item t = .ok (vs, rest) ∧
        v = .array vs) ∨
      ∃ item ∈ inner, ∃ t ms, skipSpace s = '{' :: t ∧
        members (memberReader item) [] t = .ok (ms, rest) ∧ v = .object ms := by
  rw [← valueWith_skipSpace]
  cases hs : skipSpace s with
  | nil => simp [valueWith, skipSpace, scalar]
  | cons c t =>
    by_cases hlist : c = '['
    · subst hlist
      cases inner with
      | none => simp [valueWith, hs ▸ skipSpace_skipSpace s]
      | some item => simp [valueWith_array, Attempts.map_eq_ok, @eq_comm _ v]
    · by_cases hobject : c = '{'
      · subst hobject
        cases inner with
        | none => simp [valueWith, hs ▸ skipSpace_skipSpace s]
        | some item => simp [valueWith_object, Attempts.map_eq_ok, @eq_comm _ v]
      · simp [valueWith, hs ▸ skipSpace_skipSpace s, hlist, hobject]

theorem valueWith_extends (hinner : ∀ item ∈ inner, ∃ wider ∈ inner', Extends item wider) :
    Extends (valueWith inner) (valueWith inner') := by
  intro s v rest h more hmore
  refine valueWith_eq_ok.mpr ?_
  rcases valueWith_eq_ok.mp h with ⟨c, t, hs, hlist, hobject, hv⟩ |
    ⟨item, hitem, t, vs, hs, hvs, rfl⟩ | ⟨item, hitem, t, ms, hs, hms, rfl⟩
  · have hread := scalar_extends hv more hmore
    exact .inl ⟨c, t ++ more, skipSpace_append hs more, hlist, hobject, hread⟩
  · obtain ⟨wider, hwider, hextends⟩ := hinner item hitem
    have hread := items_extends hextends hvs more hmore
    exact .inr (.inl ⟨wider, hwider, t ++ more, vs, skipSpace_append hs more, hread, rfl⟩)
  · obtain ⟨wider, hwider, hextends⟩ := hinner item hitem
    have hread := members_extends (memberReader_extends hextends) hms more hmore
    exact .inr (.inr ⟨wider, hwider, t ++ more, ms, skipSpace_append hs more, hread, rfl⟩)

theorem exists_valueWith (depth : Nat) : ∃ inner, value depth = valueWith inner := by
  cases depth with
  | zero => exact ⟨none, rfl⟩
  | succ depth => exact ⟨some (value depth), rfl⟩

theorem value_skipSpace (depth : Nat) (s : List Char) :
    value depth (skipSpace s) = value depth s := by
  obtain ⟨inner, hinner⟩ := exists_valueWith depth
  rw [hinner, valueWith_skipSpace]

/-- What is read of a text is read of every text that goes on, also when more brackets may be
opened. -/
theorem value_extends (hdepth : depth ≤ depth') : Extends (value depth) (value depth') := by
  induction depth generalizing depth' with
  | zero =>
    cases depth' with
    | zero => exact @valueWith_extends none _ nofun
    | succ depth' => exact @valueWith_extends none _ nofun
  | succ depth ih =>
    obtain ⟨depth', rfl⟩ := Nat.exists_eq_add_of_lt hdepth
    refine @valueWith_extends (some (value depth)) _ ?_
    intro item hitem
    obtain rfl := Option.mem_some_iff.mp hitem
    exact ⟨_, rfl, ih (by omega)⟩

end Documents

end MarketFeed.Json

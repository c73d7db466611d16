import MarketFeed.Proofs.ReadingBack

/-!
# Documents read back

Every document whose numbers are integers is read back from its text as far as brackets may be
opened, with its members in the order of their keys. What kind of document stands at the front of a
text is told by one character.
-/
namespace MarketFeed.Json

/-- Members in the order of their keys; of two with one key the later one counts. -/
def merged (members : List (String × Value)) : List (String × Value) :=
  members.foldl (fun done member => insertMember member.1 member.2 done) []

theorem insertMember_perm {key : String} {v : Value} {ms : List (String × Value)}
    (h : key ∉ ms.map Prod.fst) : (insertMember key v ms).Perm ((key, v) :: ms) := by
  induction ms with
  | nil => exact .refl _
  | cons m ms ih =>
    obtain ⟨k, w⟩ := m
    rw [List.map_cons, List.mem_cons, not_or] at h
    rw [insertMember, if_neg h.1]
    split_ifs
    · exact .refl _
    · exact ((ih h.2).cons (k, w)).trans (.swap _ _ _)

theorem foldl_insertMember_perm {ms done : List (String × Value)}
    (h : ((ms ++ done).map Prod.fst).Nodup) :
    (ms.foldl (fun done member => insertMember member.1 member.2 done) done).Perm
      (ms ++ done) := by
  induction ms generalizing done with
  | nil => exact .refl _
  | cons m ms ih =>
    have hnodup := h
    rw [List.cons_append, List.map_cons, List.nodup_cons, List.map_append, List.mem_append,
      not_or] at hnodup
    have hinsert := insertMember_perm (v := m.2) hnodup.1.2
    have hmoved : (ms ++ insertMember m.1 m.2 done).Perm (m :: ms ++ done) :=
      (hinsert.append_left ms).trans List.perm_middle
    have hkeys := (hmoved.map Prod.fst).nodup_iff.mpr h
    exact (ih hkeys).trans hmoved

/-- No member is lost when the keys differ. -/
theorem merged_perm {ms : List (String × Value)} (h : (ms.map Prod.fst).Nodup) :
    (merged ms).Perm ms := by
  rw [← List.append_nil ms] at h
  exact (foldl_insertMember_perm h).trans (.of_eq (List.append_nil ms))

namespace Value

/-- A document that is read back where so many brackets may be opened. Doubles are left out. -/
def Legible : Nat → Value → Prop
  | _, null => True
  | _, bool _ => True
  | _, number n => n.Legible
  | _, string _ => True
  | 0, array _ => False
  | 0, object _ => False
  | depth + 1, array items => ∀ v ∈ items, Legible depth v
  | depth + 1, object members => ∀ member ∈ members, Legible depth member.2

theorem legible_null (depth : Nat) : null.Legible depth := by cases depth <;> trivial

theorem legible_string (depth : Nat) (text : String) : (string text).Legible depth := by
  cases depth <;> trivial

theorem legible_number {depth : Nat} {n : Number} : (number n).Legible depth ↔ n.Legible := by
  cases depth <;> rfl

theorem legible_ofOption {α : Type} {depth : Nat} {write : α → Value}
    (h : ∀ a, (write a).Legible depth) (a : Option α) : (ofOption (a.map write)).Legible depth := by
  cases a with
  | none => exact legible_null depth
  | some a => exact h a

theorem legible_int_bounded {low high : Int} (hlow : -0x8000000000000000 ≤ low)
    (hhigh : high ≤ 0xffffffffffffffff) (depth : Nat) (b : Bounded low high) :
    (int b.value).Legible depth :=
  legible_number.mpr ⟨Int.le_trans hlow b.low_le, Int.le_trans b.le_high hhigh⟩

mutual

/-- A document as it is read back. -/
def sorted : Value → Value
  | null => null
  | bool b => bool b
  | number n => number n
  | string s => string s
  | array items => array (sortedItems items)
  | object members => object (merged (sortedMembers members))

def sortedItems : List Value → List Value
  | [] => []
  | v :: rest => sorted v :: sortedItems rest

def sortedMembers : List (String × Value) → List (String × Value)
  | [] => []
  | (key, v) :: rest => (key, sorted v) :: sortedMembers rest

end

theorem itemChars_eq_map (items : List Value) : itemChars items = items.map chars := by
  induction items with
  | nil => rfl
  | cons v items ih => rw [itemChars, ih, List.map_cons]

theorem memberChars_eq_map (members : List (String × Value)) :
    memberChars members = members.map fun member => memberText member.1 member.2.chars := by
  induction members with
  | nil => rfl
  | cons member members ih => rw [memberChars, ih, List.map_cons, memberText]

theorem chars_array (items : List Value) : (array items).chars = listText (items.map chars) := by
  rw [chars, itemChars_eq_map, listText]

theorem chars_object (members : List (String × Value)) :
    (object members).chars = objectText (members.map fun member => (member.1, member.2.chars)) := by
  rw [chars, memberChars_eq_map, objectText, List.map_map, Function.comp_def]

@[simp] theorem sortedItems_eq_map (items : List Value) : sortedItems items = items.map sorted := by
  induction items with
  | nil => rfl
  | cons v items ih => rw [sortedItems, ih, List.map_cons]

@[simp] theorem sortedMembers_eq_map (members : List (String × Value)) :
    sortedMembers members = members.map fun member => (member.1, member.2.sorted) := by
  induction members with
  | nil => rfl
  | cons member members ih => rw [sortedMembers, ih, List.map_cons]

end Value

section Documents

variable {depth : Nat} {v : Value} {t rest : List Char}

theorem scalar_of_isDigit {c : Char} {s : List Char} (hc : c.isDigit = true) :
    scalar (c :: s) = (number false (c :: s)).map fun (n, rest) => (.number n, rest) := by
  have hne : ∀ d : Char, d.isDigit = false → c ≠ d := fun d hd => ne_of_isDigit hc hd
  rw [scalar]
  · rw [if_pos hc]
    cases number false (c :: s) <;> rfl
  all_goals exact hne _ (by decide)

theorem answers_integer {n : Int} (h : (Number.integer n).Legible) :
    Answers scalar (toString n).toList (.ok (Value.int n)) := by
  intro rest hrest
  rcases number_integer h hrest with ⟨s, htext, hread⟩ | ⟨c, s, htext, hc, hread⟩
  · rw [htext, scalar, hread]
    rfl
  · rw [htext, scalar_of_isDigit hc, hread]
    rfl

def Value.Initial : Value → Char → Prop
  | null, c => c = 'n'
  | bool b, c => c = if b then 't' else 'f'
  | number _, c => c = '-' ∨ c.isDigit = true
  | string _, c => c = '"'
  | array _, c => c = '['
  | object _, c => c = '{'

theorem chars_eq_cons (h : v.Legible depth) : ∃ c cs, v.chars = c :: cs ∧ v.Initial c := by
  cases v with
  | null => exact ⟨'n', ['u', 'l', 'l'], rfl, rfl⟩
  | bool b =>
    cases b
    · exact ⟨'f', ['a', 'l', 's', 'e'], rfl, rfl⟩
    · exact ⟨'t', ['r', 'u', 'e'], rfl, rfl⟩
  | number n =>
    cases n with
    | double x => exact absurd h (by simp [Value.Legible, Number.Legible])
    | integer n => exact toList_toString_int_eq_cons n
  | string s => exact ⟨'"', _, rfl, rfl⟩
  | array items => exact ⟨'[', _, rfl, rfl⟩
  | object ms => exact ⟨'{', _, rfl, rfl⟩

theorem Value.Initial.not_blank {c : Char} (h : v.Initial c) : isSpace c = false ∧ c ≠ ']' := by
  cases v with
  | number n =>
    rcases h with rfl | hc
    · decide
    · exact ⟨isSpace_of_isDigit hc, ne_of_isDigit hc (by decide)⟩
  | bool b => cases b <;> obtain rfl := h <;> decide
  | _ => obtain rfl := h; decide

theorem Value.Initial.not_bracket {c : Char} (h : v.Initial c) (hv : v.Legible 0) :
    c ≠ '[' ∧ c ≠ '{' := by
  cases v with
  | number n =>
    rcases h with rfl | hc
    · decide
    · exact ⟨ne_of_isDigit hc (by decide), ne_of_isDigit hc (by decide)⟩
  | bool b => cases b <;> obtain rfl := h <;> decide
  | array items => exact absurd hv (by simp [Legible])
  | object ms => exact absurd hv (by simp [Legible])
  | _ => obtain rfl := h; decide

theorem Value.Initial.eq_null (h : v.Initial 'n') : v = .null := by
  cases v with
  | null => rfl
  | bool b => cases b <;> simp [Initial] at h
  | _ => simp [Initial] at h

theorem begins_chars (h : v.Legible depth) : Begins v.chars := by
  obtain ⟨c, cs, hchars, hinitial⟩ := chars_eq_cons h
  exact ⟨c, cs, hchars, hinitial.not_blank⟩

theorem answers_string {text : String} : Answers scalar (quoteChars text) (.ok (.string text)) := by
  intro rest _
  rw [quoteChars_append, scalar, stringBody_quoted]
  rfl

theorem colon_cons (s : List Char) : colon (':' :: s) = .ok s := by
  simp [colon, skipSpace_cons, isSpace]

theorem valueWith_array (item : Reader Value) (s : List Char) :
    valueWith (some item) ('[' :: s) = (items item s).map fun (vs, rest) => (.array vs, rest) := by
  simp only [valueWith, skipSpace_cons (c := '[') (by decide)]
  cases items item s <;> rfl

theorem answers_array {items : List Value} {item : Reader Value}
    (hbegins : ∀ v ∈ items, Begins v.chars)
    (hitem : ∀ v ∈ items, Answers item v.chars (.ok v.sorted)) :
    Answers (valueWith (some item)) (Value.array items).chars (.ok (Value.array items).sorted) := by
  intro rest _
  have hall : items.mapM (fun v => Except.ok (ε := Fault) v.sorted) =
      .ok (items.map Value.sorted) := List.mapM_pure
  have hread := items_commaJoin hbegins hitem rest
  rw [Value.chars_array, listText_append, valueWith_array, hread, hall, Value.sorted,
    Value.sortedItems_eq_map]
  rfl

/-- How a member of a document is put to those before it. -/
def memberReader (item : Reader Value) (before : List (String × Value)) (key : String) :
    Reader (List (String × Value)) := fun s => do
  let (v, rest) ← item (← colon s)
  return (insertMember key v before, rest)

theorem valueWith_object (item : Reader Value) (s : List Char) :
    valueWith (some item) ('{' :: s) =
      (members (memberReader item) [] s).map fun (ms, rest) => (.object ms, rest) := by
  simp only [valueWith, skipSpace_cons (c := '{') (by decide)]
  change (members (memberReader item) [] s >>= fun p => pure (Value.object p.1, p.2)) = _
  cases members (memberReader item) [] s <;> rfl

theorem answers_object {ms : List (String × Value)} {item : Reader Value}
    (hitem : ∀ member ∈ ms, Answers item member.2.chars (.ok member.2.sorted)) :
    Answers (valueWith (some item)) (Value.object ms).chars (.ok (Value.object ms).sorted) := by
  intro rest _
  have hstep : ∀ member ∈ ms, ∀ before, Answers (memberReader item before member.1)
      (':' :: member.2.chars) (.ok (insertMember member.1 member.2.sorted before)) := by
    intro member hmember before rest hrest
    have hread := hitem member hmember rest hrest
    simp only [memberReader, List.cons_append, colon_cons, bind, Except.bind, hread]
    rfl
  have hall : ms.foldlM (fun before member => Except.ok (ε := Fault)
      (insertMember member.1 member.2.sorted before)) [] =
        .ok (merged (Value.sortedMembers ms)) := by
    rw [merged, Value.sortedMembers_eq_map, List.foldl_map]
    exact List.foldlM_pure
  have hread := members_commaJoin hstep [] rest
  rw [Value.chars_object, objectText_append, valueWith_object, List.map_map, Function.comp_def,
    hread, hall]
  rfl

theorem answers_scalar (h : v.Legible 0) : Answers scalar v.chars (.ok v.sorted) := by
  intro rest hrest
  cases v with
  | null => rfl
  | bool b => cases b <;> rfl
  | number n =>
    cases n with
    | integer n => exact answers_integer h rest hrest
    | double x => exact absurd h (by simp [Value.Legible, Number.Legible])
  | string s => exact answers_string rest hrest
  | array items => exact absurd h (by simp [Value.Legible])
  | object ms => exact absurd h (by simp [Value.Legible])

theorem answers_valueWith_scalar {inner : Option (Reader Value)} (h : v.Legible 0) :
    Answers (valueWith inner) v.chars (.ok v.sorted) := by
  intro rest hrest
  obtain ⟨c, cs, hchars, hinitial⟩ := chars_eq_cons h
  have hbracket := hinitial.not_bracket h
  rw [← answers_scalar h rest hrest, hchars, List.cons_append]
  unfold valueWith
  rw [skipSpace_cons hinitial.not_blank.1]
  split <;> simp_all

/-- A document that can be read back is read back, its members in the order of their keys. -/
theorem value_chars (h : v.Legible depth) : Answers (value depth) v.chars (.ok v.sorted) := by
  induction depth generalizing v with
  | zero => exact answers_valueWith_scalar h
  | succ depth ih =>
    cases v with
    | array items =>
      refine answers_array (fun v hv => ?_) (fun v hv => ih ?_)
      · exact begins_chars (h v hv)
      · exact h v hv
    | object ms => exact answers_object fun member hmember => ih (h member hmember)
    | null => exact answers_valueWith_scalar trivial
    | bool b => exact answers_valueWith_scalar trivial
    | string s => exact answers_valueWith_scalar trivial
    | number n => exact answers_valueWith_scalar h

end Documents
end MarketFeed.Json

import MarketFeed.Json.Reader
import MarketFeed.Proofs.DocumentGrammar

/-!
# Documents passed over

The value of a key that nobody asked for is passed over and not read. Every document is passed over,
however deep it is nested and whatever its numbers and strings are, and what is behind it is left.
The brackets that are open around it do not matter: in as many steps as the document needs, the
stack is back where it was.
-/
namespace MarketFeed.Json.Skip

variable {cs s t rest blanks : List Char} {stack : List Bracket} {steps : Nat}

theorem string_of_text (h : StringText cs) (rest : List Char) :
    string (cs ++ '"' :: rest) = .ok rest := by
  induction h with
  | nil => rfl
  | plain hquote hbackslash hcontrol h ih => simp [string, hbackslash, hcontrol, ih]
  | @letter e c cs he h ih =>
    have hu : e ≠ 'u' := by
      rintro rfl
      cases he
    simp [string, he, ih]
  | digits hn h ih => simp [string, hn, ih]

theorem string_of_stringChars {high : Option Nat} (h : stringChars high s = .ok (cs, rest)) :
    string s = .ok rest := by
  fun_induction stringChars high s generalizing cs rest
  case case3 hhex _ ih =>
    obtain ⟨cs, hcs, rfl⟩ := readThen_eq_ok.mp h
    simp [string, hhex, ih hcs]
  case case8 =>
    cases h
    rfl
  case case11 hhex _ _ ih => simp [string, hhex, ih h]
  case case12 hhex _ _ ih =>
    obtain ⟨cs, hcs, rfl⟩ := readThen_eq_ok.mp h
    simp [string, hhex, ih hcs]
  case case15 hletter ih =>
    obtain ⟨cs, hcs, rfl⟩ := readThen_eq_ok.mp h
    simp [string, hletter, ih hcs]
  case case18 hcontrol ih =>
    obtain ⟨cs, hcs, rfl⟩ := readThen_eq_ok.mp h
    simp [string, hcontrol, ih hcs]
  all_goals cases h

theorem number_of_text (h : NumberText t) (hrest : Closes rest) :
    number (t ++ rest) = .ok rest := by
  obtain ⟨parts, hscan⟩ := h.exists_scan
  rw [number, hscan .invalidNumber false rest hrest]
  rfl

theorem scalar_of_text (h : ScalarText t) (hrest : Closes rest) :
    scalar (t ++ rest) = .ok rest := by
  cases h with
  | null => rfl
  | yes => rfl
  | no => rfl
  | string h =>
    rw [List.cons_append, List.append_assoc, scalar]
    exact string_of_text h rest
  | number h =>
    have hread := number_of_text h hrest
    obtain ⟨c, cs, rfl, hc⟩ := h.head_isDigit
    have hne : ∀ d : Char, d.isDigit = false → c ≠ d := fun d hd => ne_of_isDigit hc hd
    rw [List.cons_append] at hread ⊢
    rw [scalar]
    · rw [if_pos hc, hread]
    all_goals exact hne _ (by decide)
  | negative h =>
    rw [List.cons_append, scalar]
    exact number_of_text h hrest

/-- The steps behind a complete value. -/
def resume (steps : Nat) : Except Fault Next → Except Fault (List Char)
  | .ok (.finished rest) => .ok rest
  | .ok (.value stack rest) => run steps stack rest
  | .error fault => .error fault

theorem run_succ (steps : Nat) (stack : List Bracket) (s : List Char) :
    run (steps + 1) stack s = resume steps (enter stack s) := by
  rw [run]
  cases enter stack s with
  | error fault => rfl
  | ok next => cases next <;> rfl

theorem run_append_blanks (h : Blanks blanks) (s : List Char) :
    run steps stack (blanks ++ s) = run steps stack s := by
  cases steps with
  | zero => rfl
  | succ steps => rw [run_succ, run_succ, enter, enter, skipSpace_append_blanks h]

/-- The text is passed over in some steps, whatever is open around it and whatever closes it. -/
def Passes (t : List Char) : Prop :=
  ∃ n ≤ t.length, ∀ steps stack rest, Closes rest →
    run (n + steps) stack (t ++ rest) = resume steps (settle stack rest)

theorem Passes.value (h : Passes t) (hblanks : Blanks blanks) (hrest : Closes rest) :
    value (blanks ++ (t ++ rest)) = .ok rest := by
  obtain ⟨n, hn, hpass⟩ := h
  have hlength : n ≤ (blanks ++ (t ++ rest)).length + 1 := by
    rw [List.length_append, List.length_append]
    omega
  obtain ⟨steps, hsteps⟩ := Nat.exists_eq_add_of_le hlength
  rw [Skip.value, run_append_blanks hblanks, hsteps, hpass steps [] rest hrest]
  rfl

theorem passes_scalar (h : ScalarText t) : Passes t := by
  obtain ⟨c, cs, htext, hspace, -, hlist, hobject⟩ := h.head
  refine ⟨1, by rw [htext]; simp, fun steps stack rest hrest => ?_⟩
  have henter : enter stack (t ++ rest) = scalar (t ++ rest) >>= settle stack := by
    rw [htext, List.cons_append, enter, skipSpace_cons hspace]
    split <;> simp_all
  rw [Nat.add_comm, run_succ, henter, scalar_of_text h hrest]
  rfl

theorem settle_append_blanks {bracket : Bracket} (h : Blanks blanks) (s : List Char) :
    settle (bracket :: stack) (blanks ++ s) = settle (bracket :: stack) s := by
  cases bracket <;> rw [settle, settle, skipSpace_append_blanks h]

theorem key_append_blanks (h : Blanks blanks) (s : List Char) : key (blanks ++ s) = key s := by
  rw [key, key, skipSpace_append_blanks h]

theorem key_name (m : Member) (s : List Char) :
    key (m.name.before ++ (m.name.core ++ (m.inside ++ s))) =
      .ok (m.value.before ++ (m.value.core ++ s)) := by
  obtain ⟨spelled, hcore, hread⟩ := m.named
  have hbody := hread (m.inside ++ s)
  obtain ⟨cs, hcs, -⟩ := readThen_eq_ok.mp hbody
  rw [key_append_blanks m.name.blanks_before, hcore, List.cons_append, key,
    skipSpace_cons (by decide)]
  simp only [string_of_stringChars hcs, bind, Except.bind, colon_inside]

section Sequence

variable {ι : Type} {bracket : Bracket} {close : Char} {i : ι} {is : List ι}

/-- What stands between brackets is passed over value by value. A comma announces the next value,
and what closes the brackets takes them from the stack. -/
theorem passes_sequence (text : ι → List Char) (value : ι → Padded) (hclosed : Closes [close])
    (hclose : ∀ stack rest, settle (bracket :: stack) (close :: rest) = settle stack rest)
    (hcomma : ∀ stack j s, settle (bracket :: stack) (',' :: (text j ++ s)) =
      .ok (.value (bracket :: stack) ((value j).text ++ s)))
    (htext : ∀ j, (value j).core.length ≤ (text j).length)
    (hpass : ∀ j ∈ i :: is, Passes (value j).core) :
    ∃ n ≤ (value i).core.length + (is.flatMap fun j => ',' :: text j).length,
      ∀ steps stack rest, run (n + steps) (bracket :: stack)
        ((value i).text ++ ((is.flatMap fun j => ',' :: text j) ++ close :: rest)) =
          resume steps (settle stack rest) := by
  -- on the values behind the first one: the step that ends a value also takes the comma behind it
  induction is generalizing i with
  | nil =>
    obtain ⟨n, hn, hpass⟩ := hpass i List.mem_cons_self
    refine ⟨n, hn, fun steps stack rest => ?_⟩
    have hend : Closes ((value i).after ++ close :: rest) :=
      closes_append_blanks (value i).blanks_after fun c hc => hclosed c hc
    rw [Padded.text, List.append_assoc, run_append_blanks (value i).blanks_before,
      List.append_assoc, List.flatMap_nil, List.nil_append, hpass _ _ _ hend,
      settle_append_blanks (value i).blanks_after, hclose]
  | cons j is ih =>
    obtain ⟨n, hn, hfirst⟩ := hpass i List.mem_cons_self
    obtain ⟨m, hm, hothers⟩ := ih fun k hk => hpass k (List.mem_cons_of_mem i hk)
    have hj := htext j
    refine ⟨n + m, ?_, fun steps stack rest => ?_⟩
    · rw [List.flatMap_cons, List.length_append, List.length_cons]
      omega
    · have hend : ∀ s, Closes ((value i).after ++ ',' :: s) := fun s =>
        closes_append_blanks (value i).blanks_after (closes_cons.mpr (by decide))
      rw [Padded.text, List.append_assoc, run_append_blanks (value i).blanks_before,
        List.append_assoc, List.flatMap_cons, List.append_assoc, List.cons_append, Nat.add_assoc,
        hfirst _ _ _ (hend _), settle_append_blanks (value i).blanks_after, hcomma, resume,
        hothers]

end Sequence

theorem settle_close_list (stack : List Bracket) (rest : List Char) :
    settle (.list :: stack) (']' :: rest) = settle stack rest := by
  simp [settle, skipSpace_cons, isSpace]

theorem settle_close_object (stack : List Bracket) (rest : List Char) :
    settle (.object :: stack) ('}' :: rest) = settle stack rest := by
  simp [settle, skipSpace_cons, isSpace]

theorem settle_comma_list (stack : List Bracket) (s : List Char) :
    settle (.list :: stack) (',' :: s) = .ok (.value (.list :: stack) s) := by
  simp [settle, skipSpace_cons, isSpace]

theorem settle_comma_object (stack : List Bracket) (m : Member) (s : List Char) :
    settle (.object :: stack) (',' :: (m.text ++ s)) =
      .ok (.value (.object :: stack) (m.value.text ++ s)) := by
  have hkey := key_name m (m.value.after ++ s)
  simp only [settle, skipSpace_cons (c := ',') (by decide), Member.text, Padded.text,
    List.append_assoc, hkey, bind, Except.bind]
  rfl

theorem enter_empty_list {inner : List Char} (h : Blanks inner) (stack : List Bracket)
    (rest : List Char) : enter stack ('[' :: (inner ++ ']' :: rest)) = settle stack rest := by
  simp [enter, skipSpace_append_blanks h, skipSpace_cons, isSpace]

theorem enter_empty_object {inner : List Char} (h : Blanks inner) (stack : List Bracket)
    (rest : List Char) : enter stack ('{' :: (inner ++ '}' :: rest)) = settle stack rest := by
  simp [enter, skipSpace_append_blanks h, skipSpace_cons, isSpace]

theorem enter_list {inner : List Char} (h : Blanks inner) (ht : Begins t) (stack : List Bracket)
    (s : List Char) :
    enter stack ('[' :: (inner ++ (t ++ s))) = .ok (.value (.list :: stack) (t ++ s)) := by
  obtain ⟨c, cs, rfl, hspace, hbracket⟩ := ht
  rw [enter, skipSpace_cons (by decide)]
  simp only [skipSpace_append_blanks h, List.cons_append, skipSpace_cons hspace]
  split <;> simp_all

theorem enter_object {inner : List Char} (h : Blanks inner) (m : Member) (stack : List Bracket)
    (s : List Char) : enter stack ('{' :: (inner ++ (m.text ++ s))) =
      .ok (.value (.object :: stack) (m.value.text ++ s)) := by
  have hkey := key_name m (m.value.after ++ s)
  obtain ⟨spelled, hcore, -⟩ := m.named
  rw [key_append_blanks m.name.blanks_before, hcore, List.cons_append] at hkey
  rw [enter, skipSpace_cons (by decide)]
  simp only [skipSpace_append_blanks h, Member.text, Padded.text, List.append_assoc,
    skipSpace_append_blanks m.name.blanks_before, hcore, List.cons_append,
    skipSpace_cons (c := '"') (by decide)]
  change (key _ >>= fun rest => pure (Next.value (.object :: stack) rest)) = _
  rw [hkey]
  rfl

theorem passes_list {inner : List Char} {is : List Padded} (hinner : Blanks inner)
    (hbegins : ∀ i ∈ is, Begins i.core) (hpass : ∀ i ∈ is, Passes i.core) :
    Passes (spacedList inner is) := by
  cases is with
  | nil =>
    refine ⟨1, by simp [spacedList], fun steps stack rest _ => ?_⟩
    rw [spacedList_append, Nat.add_comm, run_succ]
    exact congrArg (resume steps) (enter_empty_list hinner stack rest)
  | cons i is =>
    obtain ⟨n, hn, hsequence⟩ := passes_sequence Padded.text id (closes_cons.mpr (by decide))
      settle_close_list (fun stack j s => settle_comma_list stack (j.text ++ s)) (fun j => by
        rw [Padded.text, List.length_append, List.length_append, id]
        omega) hpass
    have hblanks : Blanks (inner ++ i.before) := by
      intro c hc
      exact (List.mem_append.mp hc).elim (hinner c) (i.blanks_before c)
    refine ⟨n + 1, ?_, fun steps stack rest _ => ?_⟩
    · simp only [spacedList, List.map_cons, commaJoin_cons, List.flatMap_map, Padded.text,
        List.length_cons, List.length_append, id] at hn ⊢
      omega
    · have htext : spacedList inner (i :: is) ++ rest = '[' :: ((inner ++ i.before) ++ (i.core ++
          (i.after ++ ((is.flatMap fun j => ',' :: j.text) ++ ']' :: rest)))) := by
        simp [spacedList, commaJoin_cons, List.flatMap_map, Padded.text]
      have hread := hsequence steps stack rest
      rw [id, Padded.text, List.append_assoc, run_append_blanks i.blanks_before,
        List.append_assoc] at hread
      rw [htext, Nat.add_right_comm, run_succ,
        enter_list hblanks (hbegins i List.mem_cons_self), resume]
      exact hread

theorem passes_object {inner : List Char} {ms : List Member} (hinner : Blanks inner)
    (hpass : ∀ m ∈ ms, Passes m.value.core) : Passes (spacedObject inner ms) := by
  cases ms with
  | nil =>
    refine ⟨1, by simp [spacedObject], fun steps stack rest _ => ?_⟩
    rw [spacedObject_append, Nat.add_comm, run_succ]
    exact congrArg (resume steps) (enter_empty_object hinner stack rest)
  | cons m ms =>
    obtain ⟨n, hn, hsequence⟩ := passes_sequence Member.text Member.value
      (closes_cons.mpr (by decide)) settle_close_object settle_comma_object (fun j => by
        simp only [Member.text, Member.inside, List.length_append, List.length_cons]
        omega) hpass
    refine ⟨n + 1, ?_, fun steps stack rest _ => ?_⟩
    · simp only [spacedObject, List.map_cons, commaJoin_cons, List.flatMap_map, Member.text,
        Member.inside, List.length_cons, List.length_append] at hn ⊢
      omega
    · rw [spacedObject_append, List.map_cons, commaJoin_cons, List.flatMap_map, List.append_assoc,
        Nat.add_right_comm, run_succ, enter_object hinner, resume]
      exact hsequence steps stack rest

theorem passes_of_document (h : Document t) : Passes t := by
  induction h with
  | scalar h => exact passes_scalar h
  | list hinner hitems ih => exact passes_list hinner (fun i hi => (hitems i hi).begins) ih
  | object hinner hmembers ih => exact passes_object hinner ih

end MarketFeed.Json.Skip

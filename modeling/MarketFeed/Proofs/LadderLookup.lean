import MarketFeed.Book
import Mathlib.Tactic.SplitIfs

/-!
# What a ladder holds

A ladder is seen through the level at each rank. Putting and emptying a rank are told by what they
do to this view, and so is a list of changes made one after the other: each rank then has what the
last change to it left there, or what it had before. As the ranks of a ladder ascend, two ladders
with the same levels at all ranks are the same.
-/
namespace MarketFeed

section
variable {α β : Type} [DecidableEq α]

theorem lookup_cons (key : α) (entry : α × β) (rest : List (α × β)) :
    (entry :: rest).lookup key = if key = entry.1 then some entry.2 else rest.lookup key := by
  obtain ⟨name, value⟩ := entry
  by_cases h : key = name
  · simp [h]
  · have hother : (key == name) = false := by simpa using h
    rw [List.lookup_cons, hother, if_neg h]

/-- An entry that is left out is missed under its own key only. -/
theorem lookup_filter_ne (key other : α) (entries : List (α × β)) :
    (entries.filter fun entry => entry.1 != other).lookup key =
      if key = other then none else entries.lookup key := by
  induction entries with
  | nil => simp
  | cons entry rest ih =>
    rw [List.filter_cons]
    split_ifs with hkept hkey hkey
    all_goals simp only [lookup_cons, ih]
    all_goals grind

end

theorem lookup_putRung (rank r : Int) (level : PriceLevel) (rungs : List Rung) :
    (putRung rank level rungs).lookup r = if r = rank then some level else rungs.lookup r := by
  induction rungs with
  | nil => exact lookup_cons r (rank, level) []
  | cons rung rest ih =>
    rw [putRung]
    split_ifs with hlt heq hr hr hr
    all_goals simp only [lookup_cons, ih]
    all_goals grind

theorem filter_rank_of_ascending {rungs : List Rung} (h : rungs.Pairwise fun a b => a.1 < b.1)
    (r : Int) :
    (rungs.filter fun rung => rung.1 = r).map Prod.snd = (rungs.lookup r).toList := by
  induction rungs with
  | nil => rfl
  | cons rung rest ih =>
    obtain ⟨hfirst, hrest⟩ := List.pairwise_cons.mp h
    rw [lookup_cons]
    split_ifs with hr
    · have hnone : rest.filter (fun rung => rung.1 = r) = [] := by
        rw [List.filter_eq_nil_iff]
        intro later hlater
        have hlt := hfirst later hlater
        simp only [decide_eq_true_eq]
        omega
      rw [List.filter_cons_of_pos (by simpa using hr.symm), hnone]
      rfl
    · rw [List.filter_cons_of_neg (by simpa using Ne.symm hr)]
      exact ih hrest

namespace Ladder

variable {ladder other : Ladder} {rank r : Int} {level : PriceLevel}

@[simp] theorem at?_empty (r : Int) : Ladder.empty.at? r = none := rfl

theorem at?_put (ladder : Ladder) (rank r : Int) (level : PriceLevel) :
    (ladder.put rank level).at? r = if r = rank then some level else ladder.at? r :=
  lookup_putRung rank r level ladder.rungs

theorem at?_drop (ladder : Ladder) (rank r : Int) :
    (ladder.drop rank).at? r = if r = rank then none else ladder.at? r :=
  lookup_filter_ne r rank ladder.rungs

theorem at?_apply (ladder : Ladder) (side : Side) (change : Change) (p : Decimal) :
    (ladder.apply side change).at? (side.rank p) =
      if change.price = p then change.level else ladder.at? (side.rank p) := by
  unfold apply
  cases hl : change.level with
  | none => simp only [at?_drop, Side.rank_inj, eq_comm]
  | some level => simp only [at?_put, Side.rank_inj, eq_comm]

/-- Of the changes to one price only the last one is left. -/
theorem at?_foldl_apply (side : Side) (changes : List Change) (ladder : Ladder) (p : Decimal) :
    (changes.foldl (Ladder.apply side) ladder).at? (side.rank p) =
      ((changes.filter fun change => change.price = p).getLast?.map Change.level).getD
        (ladder.at? (side.rank p)) := by
  induction changes generalizing ladder with
  | nil => rfl
  | cons change rest ih =>
    rw [List.foldl_cons, ih, at?_apply]
    by_cases h : change.price = p
    · simp only [h, decide_true, List.filter_cons_of_pos, List.getLast?_cons, if_true]
      cases (rest.filter fun change => change.price = p).getLast? <;> rfl
    · simp [h]

theorem nodup_rungs (ladder : Ladder) : ladder.rungs.Nodup := by
  apply ladder.ascending.imp
  intro a b hab he
  rw [he] at hab
  exact Int.lt_irrefl _ hab

theorem filter_rank (ladder : Ladder) (r : Int) :
    (ladder.rungs.filter fun rung => rung.1 = r).map Prod.snd = (ladder.at? r).toList :=
  filter_rank_of_ascending ladder.ascending r

theorem mem_rungs_iff : (r, level) ∈ ladder.rungs ↔ ladder.at? r = some level := by
  have hrank := ladder.filter_rank r
  constructor
  · intro hmem
    have hlevel : level ∈ (ladder.at? r).toList := by
      rw [← hrank, List.mem_map]
      exact ⟨(r, level), List.mem_filter.mpr ⟨hmem, by simp⟩, rfl⟩
    exact Option.mem_toList.mp hlevel
  · intro hat
    have hlevel : level ∈ (ladder.rungs.filter fun rung => rung.1 = r).map Prod.snd := by
      rw [hrank, hat]
      exact List.mem_singleton_self level
    obtain ⟨⟨s, found⟩, hrung, rfl⟩ := List.mem_map.mp hlevel
    obtain ⟨hmem, hs⟩ := List.mem_filter.mp hrung
    obtain rfl : s = r := of_decide_eq_true hs
    exact hmem

/-- A ladder is told by its levels at all ranks. -/
theorem ext_at? (h : ∀ r, ladder.at? r = other.at? r) : ladder = other := by
  have hperm : ladder.rungs.Perm other.rungs := by
    apply (List.perm_ext_iff_of_nodup ladder.nodup_rungs other.nodup_rungs).mpr
    rintro ⟨r, level⟩
    rw [mem_rungs_iff, mem_rungs_iff, h]
  have hrungs : ladder.rungs = other.rungs := by
    refine hperm.eq_of_pairwise ?_ ladder.ascending other.ascending
    intro a b _ _ hab hba
    omega
  obtain ⟨rungs, _⟩ := ladder
  obtain rfl : rungs = other.rungs := hrungs
  rfl

end Ladder
end MarketFeed

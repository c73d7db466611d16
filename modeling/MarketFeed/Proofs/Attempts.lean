import Mathlib.Data.List.Basic
import Mathlib.Data.List.Forall2
import Mathlib.Data.List.Perm.Basic

/-!
# Attempts in a row and side by side

An attempt either yields a value or fails. Attempts in a row succeed when each of them does, and
then yield the values in their order; otherwise they fail as the first of them that fails. Seen
through `toOption`, which forgets why an attempt fails, steps that may be exchanged in pairs may be
made in every order.

Two attempts go the same way when they fail for the same reason or both yield something, and what
they yield may be related without being the same. Steps that go the same way from related states
lead to related states, and attempts in a row that go the same way yield lists that are related.
-/
namespace MarketFeed

namespace Attempts

variable {ε ε' α β γ σ : Type}

theorem toOption_eq_some {x : Except ε α} {a : α} : x.toOption = some a ↔ x = .ok a := by
  cases x <;> simp [Except.toOption]

theorem map_eq_ok {x : Except ε α} {f : α → β} {b : β} :
    x.map f = .ok b ↔ ∃ a, x = .ok a ∧ f a = b := by
  cases x <;> simp [Except.map]

theorem map_eq_error {x : Except ε α} {f : α → β} {e : ε} : x.map f = .error e ↔ x = .error e := by
  cases x <;> simp [Except.map]

theorem bind_eq_ok {x : Except ε α} {f : α → Except ε β} {b : β} :
    x >>= f = .ok b ↔ ∃ a, x = .ok a ∧ f a = .ok b := by
  cases x <;> simp [bind, Except.bind]

theorem bind_eq_error {x : Except ε α} {f : α → Except ε β} {e : ε} :
    x >>= f = .error e ↔ x = .error e ∨ ∃ a, x = .ok a ∧ f a = .error e := by
  cases x <;> simp [bind, Except.bind]

theorem mapM_eq_ok {f : α → Except ε β} {xs : List α} {ys : List β} :
    xs.mapM f = .ok ys ↔ xs.map f = ys.map .ok := by
  induction xs generalizing ys with
  | nil => cases ys <;> simp [pure, Except.pure]
  | cons x xs ih =>
    rw [List.mapM_cons, bind_eq_ok]
    constructor
    · rintro ⟨y, hy, h⟩
      obtain ⟨rest, hrest, hys⟩ := bind_eq_ok.mp h
      obtain rfl : y :: rest = ys := Except.ok.inj hys
      simp [hy, ih.mp hrest]
    · intro h
      cases ys with
      | nil => simp at h
      | cons y rest =>
        obtain ⟨hy, hrest⟩ := List.cons.inj h
        exact ⟨y, hy, bind_eq_ok.mpr ⟨rest, ih.mpr hrest, rfl⟩⟩

/-- Attempts in a row succeed exactly when each of them does. -/
theorem mapM_eq_ok_iff_forall₂ {f : α → Except ε β} {xs : List α} {ys : List β} :
    xs.mapM f = .ok ys ↔ List.Forall₂ (fun x y => f x = .ok y) xs ys := by
  rw [mapM_eq_ok, ← List.forall₂_eq_eq_eq, List.forall₂_map_left_iff, List.forall₂_map_right_iff]

theorem mapM_congr {f : α → Except ε γ} {g : β → Except ε γ} {xs : List α} {ys : List β}
    (h : List.Forall₂ (fun x y => f x = g y) xs ys) : xs.mapM f = ys.mapM g := by
  induction h with
  | nil => rfl
  | cons hxy _ ih => rw [List.mapM_cons, List.mapM_cons, hxy, ih]

theorem mapM_map {f : α → Except ε β} {g : β → γ} (xs : List α) :
    xs.mapM (fun x => (f x).map g) = (xs.mapM f).map (List.map g) := by
  induction xs with
  | nil => rfl
  | cons x xs ih =>
    rw [List.mapM_cons, List.mapM_cons, ih]
    cases f x with
    | error e => rfl
    | ok y => cases xs.mapM f <;> rfl

theorem mapM_mapError {f : α → Except ε β} {g : ε → ε'} (xs : List α) :
    xs.mapM (fun x => (f x).mapError g) = (xs.mapM f).mapError g := by
  induction xs with
  | nil => rfl
  | cons x xs ih =>
    rw [List.mapM_cons, List.mapM_cons, ih]
    cases f x with
    | error e => rfl
    | ok y => cases xs.mapM f <;> rfl

theorem exists_mapM_eq_ok {f : α → Except ε β} {xs : List α} :
    (∃ ys, xs.mapM f = .ok ys) ↔ ∀ x ∈ xs, ∃ y, f x = .ok y := by
  simp only [mapM_eq_ok_iff_forall₂]
  constructor
  · rintro ⟨ys, h⟩ x hx
    induction h with
    | nil => cases hx
    | cons hxy _ ih =>
      rcases List.mem_cons.mp hx with rfl | hx
      · exact ⟨_, hxy⟩
      · exact ih hx
  · intro h
    induction xs with
    | nil => exact ⟨[], .nil⟩
    | cons x xs ih =>
      obtain ⟨⟨y, hy⟩, hmore⟩ := List.forall_mem_cons.mp h
      obtain ⟨ys, hys⟩ := ih hmore
      exact ⟨y :: ys, .cons hy hys⟩

/-- The first attempt that fails decides, and what comes behind it does not matter. -/
theorem mapM_eq_error {f : α → Except ε β} {xs : List α} {e : ε} :
    xs.mapM f = .error e ↔
      ∃ before x after, xs = before ++ x :: after ∧ (∀ y ∈ before, ∃ z, f y = .ok z) ∧
        f x = .error e := by
  induction xs with
  | nil => simp [pure, Except.pure]
  | cons x xs ih =>
    rw [List.mapM_cons, bind_eq_error]
    constructor
    · rintro (hx | ⟨z, hz, h⟩)
      · exact ⟨[], x, xs, rfl, by simp, hx⟩
      · have hrest : xs.mapM f = .error e := by
          rcases bind_eq_error.mp h with hrest | ⟨_, _, hdone⟩
          · exact hrest
          · cases hdone
        obtain ⟨before, first, after, rfl, hbefore, hfirst⟩ := ih.mp hrest
        refine ⟨x :: before, first, after, rfl, ?_, hfirst⟩
        exact List.forall_mem_cons.mpr ⟨⟨z, hz⟩, hbefore⟩
    · rintro ⟨_ | ⟨y, before⟩, first, after, heq, hbefore, hfirst⟩
      · obtain ⟨rfl, -⟩ := List.cons.inj heq
        exact .inl hfirst
      · obtain ⟨rfl, rfl⟩ := List.cons.inj heq
        obtain ⟨⟨z, hz⟩, hmore⟩ := List.forall_mem_cons.mp hbefore
        have hrest := ih.mpr ⟨before, first, after, rfl, hmore, hfirst⟩
        exact .inr ⟨z, hz, bind_eq_error.mpr (.inl hrest)⟩

theorem toOption_map {f : α → β} (x : Except ε α) : (x.map f).toOption = x.toOption.map f := by
  cases x <;> rfl

theorem toOption_bind {f : α → Except ε β} (x : Except ε α) :
    (x >>= f).toOption = x.toOption.bind fun a => (f a).toOption := by
  cases x <;> rfl

/-- Attempts of which each succeeds like its partner succeed alike in a row. -/
theorem toOption_mapM_congr {f : α → Except ε β} {as bs : List α}
    (h : List.Forall₂ (fun a b => (f a).toOption = (f b).toOption) as bs) :
    (as.mapM f).toOption = (bs.mapM f).toOption := by
  induction h with
  | nil => rfl
  | cons hab _ ih =>
    rw [List.mapM_cons, List.mapM_cons, toOption_bind, toOption_bind, hab]
    refine congrArg _ (funext fun first => ?_)
    rw [toOption_bind, toOption_bind, ih]

/-- Steps of which each succeeds like its partner succeed alike one after the other. -/
theorem toOption_foldlM_congr {f : σ → α → Except ε σ} {as bs : List α}
    (h : List.Forall₂ (fun a b => ∀ s, (f s a).toOption = (f s b).toOption) as bs) (s : σ) :
    (as.foldlM f s).toOption = (bs.foldlM f s).toOption := by
  induction h generalizing s with
  | nil => rfl
  | cons hab _ ih =>
    rw [List.foldlM_cons, List.foldlM_cons, toOption_bind, toOption_bind, hab]
    exact congrArg _ (funext ih)

/-- Steps that may be exchanged succeed alike in every order. -/
theorem toOption_foldlM_perm {f : σ → α → Except ε σ} {R : α → α → Prop} [Std.Symm R]
    (hswap : ∀ a b, R a b → ∀ s, (f s a >>= fun s => f s b).toOption =
      (f s b >>= fun s => f s a).toOption)
    {as bs : List α} (hperm : as.Perm bs) (hpairs : as.Pairwise R) (s : σ) :
    (as.foldlM f s).toOption = (bs.foldlM f s).toOption := by
  induction hperm generalizing s with
  | nil => rfl
  | cons a hperm ih =>
    rw [List.foldlM_cons, List.foldlM_cons, toOption_bind, toOption_bind]
    exact congrArg _ (funext (ih (List.pairwise_cons.mp hpairs).2))
  | swap a b as =>
    have hba : R b a := (List.pairwise_cons.mp hpairs).1 a List.mem_cons_self
    have hboth : ∀ x y, (x :: y :: as).foldlM f s =
        (f s x >>= fun s => f s y) >>= fun s => as.foldlM f s := by
      intro x y
      rw [List.foldlM_cons, bind_assoc]
      rfl
    rw [hboth b a, hboth a b, toOption_bind, hswap b a hba, ← toOption_bind]
  | trans hperm _ ih ih' =>
    have hpairs' := hperm.pairwise hpairs fun h => Std.Symm.symm _ _ h
    exact (ih hpairs s).trans (ih' hpairs' s)

end Attempts

/-- Two lists that differ at one place, counted from the front. -/
inductive DiffersAt {α : Type} (R : α → α → Prop) : Nat → List α → List α → Prop
  | here {a b : α} (h : R a b) (after : List α) : DiffersAt R 0 (a :: after) (b :: after)
  | there {n : Nat} {as bs : List α} (a : α) (h : DiffersAt R n as bs) :
    DiffersAt R (n + 1) (a :: as) (a :: bs)

namespace DiffersAt

variable {α : Type} {R : α → α → Prop} {n : Nat} {as bs : List α}

theorem append {a b : α} (h : R a b) (before after : List α) :
    DiffersAt R before.length (before ++ a :: after) (before ++ b :: after) := by
  induction before with
  | nil => exact .here h after
  | cons c before ih => exact .there c ih

theorem forall₂ (hrefl : ∀ a, R a a) (h : DiffersAt R n as bs) : List.Forall₂ R as bs := by
  induction h with
  | here h after => exact .cons h (List.forall₂_same.mpr fun a _ => hrefl a)
  | there a _ ih => exact .cons (hrefl a) ih

theorem length_eq (h : DiffersAt R n as bs) : as.length = bs.length := by
  induction h with
  | here => rfl
  | there a _ ih => exact congrArg (· + 1) ih

end DiffersAt

namespace Attempts

variable {ε α β γ δ σ τ : Type} {R : α → β → Prop} {x : Except ε α} {y : Except ε β}

/-- Two attempts that fail for the same reason, or yield values that are related. -/
inductive Both (R : α → β → Prop) : Except ε α → Except ε β → Prop
  | ok {a : α} {b : β} (h : R a b) : Both R (.ok a) (.ok b)
  | error (e : ε) : Both R (.error e) (.error e)

namespace Both

theorem refl {R : α → α → Prop} (h : ∀ a, R a a) (x : Except ε α) : Both R x x := by
  cases x with
  | error e => exact .error e
  | ok a => exact .ok (h a)

theorem trans {R : α → α → Prop} {x y z : Except ε α} (htrans : ∀ a b c, R a b → R b c → R a c)
    (h : Both R x y) (h' : Both R y z) : Both R x z := by
  cases h with
  | error e => exact h'
  | ok hab =>
    cases h' with
    | ok hbc => exact .ok (htrans _ _ _ hab hbc)

theorem bind {S : γ → δ → Prop} {f : α → Except ε γ} {g : β → Except ε δ} (h : Both R x y)
    (hnext : ∀ a b, R a b → Both S (f a) (g b)) : Both S (x >>= f) (y >>= g) := by
  cases h with
  | error e => exact .error e
  | ok hab => exact hnext _ _ hab

theorem map {S : γ → δ → Prop} {f : α → γ} {g : β → δ} (h : Both R x y)
    (hfg : ∀ a b, R a b → S (f a) (g b)) : Both S (x.map f) (y.map g) := by
  cases h with
  | error e => exact .error e
  | ok hab => exact .ok (hfg _ _ hab)

theorem imp_of_ok {S : α → β → Prop} (h : Both R x y)
    (hRS : ∀ a b, x = .ok a → y = .ok b → R a b → S a b) : Both S x y := by
  cases h with
  | error e => exact .error e
  | ok hab => exact .ok (hRS _ _ rfl rfl hab)

theorem imp {S : α → β → Prop} (h : Both R x y) (hRS : ∀ a b, R a b → S a b) : Both S x y :=
  h.imp_of_ok fun a b _ _ => hRS a b

theorem foldlM {S : σ → τ → Prop} {f : σ → α → Except ε σ} {g : τ → β → Except ε τ} {as : List α}
    {bs : List β} (h : List.Forall₂ (fun a b => ∀ s t, S s t → Both S (f s a) (g t b)) as bs)
    {s : σ} {t : τ} (hstart : S s t) : Both S (as.foldlM f s) (bs.foldlM g t) := by
  induction h generalizing s t with
  | nil => exact .ok hstart
  | cons hab _ ih =>
    rw [List.foldlM_cons, List.foldlM_cons]
    exact (hab s t hstart).bind fun _ _ => ih

/-- Rows of attempts that differ at one place yield lists that differ there. -/
theorem mapM {R : β → β → Prop} {f : α → Except ε β} {n : Nat} {as bs : List α}
    (h : DiffersAt (fun a b => Both R (f a) (f b)) n as bs) :
    Both (DiffersAt R n) (as.mapM f) (bs.mapM f) := by
  induction h with
  | here h after =>
    rw [List.mapM_cons, List.mapM_cons]
    refine h.bind fun a b hab => ?_
    cases after.mapM f with
    | error e => exact .error e
    | ok rest => exact .ok (.here hab rest)
  | there a _ ih =>
    rw [List.mapM_cons, List.mapM_cons]
    cases f a with
    | error e => exact .error e
    | ok b => exact ih.bind fun _ _ h => .ok (.there b h)

end Both
end Attempts
end MarketFeed

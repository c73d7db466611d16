import MarketFeed.Proofs.Attempts
import MarketFeed.Proofs.DocumentGrammar
import Mathlib.Data.String.Basic

/-!
# Documents with their members in another order

An object whose keys are all different is read as the same value whatever the order of its members
is, and it does not matter how deep inside a document that object is. Only the complaint about a
document that cannot be read may be another one, for the first of several faults is found.
-/
namespace MarketFeed

namespace Json

/-- Members with different keys may be put in either order. -/
theorem insertMember_comm {k l : String} (h : k ≠ l) (v w : Value) (ms : List (String × Value)) :
    insertMember k v (insertMember l w ms) = insertMember l w (insertMember k v ms) := by
  induction ms with
  | nil =>
    simp only [insertMember]
    grind
  | cons m ms ih =>
    -- both keys are compared with the first one, and where both come behind it with each other
    obtain ⟨n, u⟩ := m
    simp only [insertMember]
    grind [insertMember, String.lt_trans, String.lt_irrefl]

theorem putMember_comm {result : Member → Except Fault Value} {m n : Member} (h : m.key ≠ n.key)
    (before : List (String × Value)) :
    (putMember result before m >>= fun ms => putMember result ms n).toOption =
      (putMember result before n >>= fun ms => putMember result ms m).toOption := by
  simp only [putMember]
  cases result m with
  | error fault => cases result n <;> rfl
  | ok v =>
    cases result n with
    | error fault => rfl
    | ok w => exact congrArg some (insertMember_comm h.symm w v before)

def Padded.replace (i : Padded) (t : List Char) : Padded := { i with core := t }

def Member.replace (m : Member) (t : List Char) : Member := { m with value := m.value.replace t }

/-- The second document is the first one with the members of some of its objects in another order,
each of them an object whose keys are all different. -/
inductive Reordered : List Char → List Char → Prop
  | refl {t : List Char} (h : Document t) : Reordered t t
  | members {inner inner' : List Char} {ms ms' : List Member} (hinner : Blanks inner)
    (hinner' : Blanks inner') (hms : ∀ m ∈ ms, Document m.value.core)
    (hkeys : (ms.map Member.key).Nodup) (hperm : ms.Perm ms') :
    Reordered (spacedObject inner ms) (spacedObject inner' ms')
  | item {inner t : List Char} {before after : List Padded} {i : Padded} (hinner : Blanks inner)
    (hothers : ∀ j ∈ before ++ after, Document j.core) (h : Reordered i.core t) :
    Reordered (spacedList inner (before ++ i :: after))
      (spacedList inner (before ++ i.replace t :: after))
  | member {inner t : List Char} {before after : List Member} {m : Member} (hinner : Blanks inner)
    (hothers : ∀ n ∈ before ++ after, Document n.value.core) (h : Reordered m.value.core t) :
    Reordered (spacedObject inner (before ++ m :: after))
      (spacedObject inner (before ++ m.replace t :: after))
  | trans {t u w : List Char} (h : Reordered t u) (h' : Reordered u w) : Reordered t w

theorem forall₂_replace {α : Type} {R : α → α → Prop} {before after : List α} {a b : α}
    (hrefl : ∀ c, R c c) (h : R a b) :
    List.Forall₂ R (before ++ a :: after) (before ++ b :: after) :=
  List.rel_append (List.forall₂_same.mpr fun c _ => hrefl c)
    (.cons h (List.forall₂_same.mpr fun c _ => hrefl c))

theorem forall_mem_replace {α : Type} {P : α → Prop} {before after : List α} {a : α}
    (hothers : ∀ c ∈ before ++ after, P c) (h : P a) : ∀ c ∈ before ++ a :: after, P c := by
  intro c hc
  rcases List.mem_append.mp hc with hc | hc
  · exact hothers c (List.mem_append_left after hc)
  · rcases List.mem_cons.mp hc with rfl | hc
    · exact h
    · exact hothers c (List.mem_append_right before hc)

theorem documents_item {inner t : List Char} {before after : List Padded} {i : Padded}
    (hinner : Blanks inner) (hothers : ∀ j ∈ before ++ after, Document j.core)
    (h : Document i.core ∧ Document t) : Document (spacedList inner (before ++ i :: after)) ∧
      Document (spacedList inner (before ++ i.replace t :: after)) :=
  ⟨.list hinner (forall_mem_replace hothers h.1), .list hinner (forall_mem_replace hothers h.2)⟩

theorem documents_member {inner t : List Char} {before after : List Member} {m : Member}
    (hinner : Blanks inner) (hothers : ∀ n ∈ before ++ after, Document n.value.core)
    (h : Document m.value.core ∧ Document t) :
    Document (spacedObject inner (before ++ m :: after)) ∧
      Document (spacedObject inner (before ++ m.replace t :: after)) :=
  ⟨.object hinner (forall_mem_replace hothers h.1), .object hinner (forall_mem_replace hothers h.2)⟩

namespace Reordered

variable {t u : List Char}

theorem documents (h : Reordered t u) : Document t ∧ Document u := by
  induction h with
  | refl h => exact ⟨h, h⟩
  | members hinner hinner' hms hkeys hperm =>
    exact ⟨.object hinner hms, .object hinner' fun m hm => hms m (hperm.mem_iff.mpr hm)⟩
  | item hinner hothers h ih => exact documents_item hinner hothers ih
  | member hinner hothers h ih => exact documents_member hinner hothers ih
  | trans h h' ih ih' => exact ⟨ih.1, ih'.2⟩

/-- Both documents are read as the same value, or neither is read. -/
theorem value_eq (h : Reordered t u) (depth : Nat) :
    (whole (value depth) t).toOption = (whole (value depth) u).toOption := by
  induction h generalizing depth with
  | refl => rfl
  | @members inner inner' ms ms' hinner hinner' hms hkeys hperm =>
    have hms' : ∀ m ∈ ms', Document m.value.core := fun m hm => hms m (hperm.mem_iff.mpr hm)
    cases depth with
    | zero => rfl
    | succ depth =>
      have hpairs : ms.Pairwise fun m n => m.key ≠ n.key := List.pairwise_map.mp hkeys
      have : Std.Symm fun m n : Member => m.key ≠ n.key := ⟨fun _ _ => Ne.symm⟩
      rw [whole_value_object hinner hms, whole_value_object hinner' hms', Attempts.toOption_map,
        Attempts.toOption_map,
        Attempts.toOption_foldlM_perm (fun m n hmn => putMember_comm hmn) hperm hpairs]
  | @item inner t before after i hinner hothers h ih =>
    cases depth with
    | zero => rfl
    | succ depth =>
      have hitems : List.Forall₂ (fun j k : Padded =>
          (whole (value depth) j.core).toOption = (whole (value depth) k.core).toOption)
          (before ++ i :: after) (before ++ i.replace t :: after) :=
        forall₂_replace (fun _ => rfl) (ih depth)
      rw [whole_value_list hinner (forall_mem_replace hothers h.documents.1),
        whole_value_list hinner (forall_mem_replace hothers h.documents.2), Attempts.toOption_map,
        Attempts.toOption_map, Attempts.toOption_mapM_congr hitems]
  | @member inner t before after m hinner hothers h ih =>
    cases depth with
    | zero => rfl
    | succ depth =>
      have hmembers : List.Forall₂ (fun m n : Member => ∀ done,
          (putMember (fun m => whole (value depth) m.value.core) done m).toOption =
            (putMember (fun m => whole (value depth) m.value.core) done n).toOption)
          (before ++ m :: after) (before ++ m.replace t :: after) := by
        refine forall₂_replace (fun _ _ => rfl) fun done => ?_
        rw [putMember, putMember, Attempts.toOption_map, Attempts.toOption_map, ih depth]
        rfl
      rw [whole_value_object hinner (forall_mem_replace hothers h.documents.1),
        whole_value_object hinner (forall_mem_replace hothers h.documents.2),
        Attempts.toOption_map, Attempts.toOption_map, Attempts.toOption_foldlM_congr hmembers]
  | trans h h' ih ih' => exact (ih depth).trans (ih' depth)

end Reordered
end Json
end MarketFeed

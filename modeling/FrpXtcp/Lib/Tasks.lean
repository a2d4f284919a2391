import Mathlib.Algebra.GroupWithZero.Nat
import Mathlib.Data.List.Perm.Basic

/-!
# A list of tasks, one of which moves

The program counters of any number of goroutines as a list. When one of them moves, whatever
is counted or collected over the list changes by its share alone.
-/
namespace FrpXtcp.Lib

open scoped List

universe u v

variable {α : Type u} {β : Type v} {l : List α} {i : Nat} {a : α}

/-- The tasks beside task `i` stay what they are when it moves. -/
theorem exists_others (h : l[i]? = some a) :
    ∃ others, l ~ a :: others ∧ ∀ b, l.set i b ~ b :: others := by
  obtain ⟨hi, rfl⟩ := List.getElem?_eq_some_iff.mp h
  exact ⟨l.eraseIdx i, (List.getElem_cons_eraseIdx_perm hi).symm, fun b =>
    List.set_perm_cons_eraseIdx hi b⟩

/-- A count over the tasks, when one moves. -/
theorem countP_set (p : α → Bool) (h : l[i]? = some a) (b : α) :
    (l.set i b).countP p + (if p a then 1 else 0) = l.countP p + (if p b then 1 else 0) := by
  obtain ⟨others, hl, hset⟩ := exists_others h
  rw [hl.countP_eq, (hset b).countP_eq, List.countP_cons, List.countP_cons]
  omega

/-- A sum over the tasks, when one moves. -/
theorem sum_map_set (f : α → Nat) (h : l[i]? = some a) (b : α) :
    ((l.set i b).map f).sum + f a = (l.map f).sum + f b := by
  obtain ⟨others, hl, hset⟩ := exists_others h
  rw [(hl.map f).sum_nat, ((hset b).map f).sum_nat]
  simp only [List.map_cons, List.sum_cons]
  omega

/-- What the tasks hold, when one moves. -/
theorem flatMap_set (f : α → List β) (h : l[i]? = some a) (b : α) :
    f a ++ (l.set i b).flatMap f ~ f b ++ l.flatMap f := by
  obtain ⟨others, hl, hset⟩ := exists_others h
  calc f a ++ (l.set i b).flatMap f
      ~ f a ++ (b :: others).flatMap f := ((hset b).flatMap_right f).append_left _
    _ = (f a ++ f b) ++ others.flatMap f := by rw [List.flatMap_cons, List.append_assoc]
    _ ~ (f b ++ f a) ++ others.flatMap f := List.perm_append_comm.append_right _
    _ = f b ++ (a :: others).flatMap f := by rw [List.flatMap_cons, List.append_assoc]
    _ ~ f b ++ l.flatMap f := (hl.symm.flatMap_right f).append_left _

/-- The same for tasks that hold one thing at most. -/
theorem filterMap_set (f : α → Option β) (h : l[i]? = some a) (b : α) :
    (f a).toList ++ (l.set i b).filterMap f ~ (f b).toList ++ l.filterMap f := by
  rw [List.filterMap_eq_flatMap_toList, List.filterMap_eq_flatMap_toList]
  exact flatMap_set (fun a => (f a).toList) h b

end FrpXtcp.Lib

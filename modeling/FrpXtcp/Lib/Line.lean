import Mathlib.Data.List.Perm.Basic
import FrpXtcp.Lib.Transition

/-!
# A line that keeps the order of what it carries

One direction of a connection: items are put in at one end and come out at the other in the
same order, unless the line loses them on the way. Nothing comes out that was not put in,
and nothing comes out twice.
-/
namespace FrpXtcp.Lib

open scoped List

universe u

/-- What was put in, what is under way, what came out and what was lost. -/
structure Line (M : Type u) where
  accepted : List M
  queue : List M
  delivered : List M
  lost : List M

namespace Line

variable {M : Type u}

inductive Act (M : Type u) where
  | put (m : M)
  | get
  | lose (i : Nat)

def init : Line M := ⟨[], [], [], []⟩

def step (l : Line M) : Act M → Option (Line M)
  | .put m => some { l with accepted := l.accepted ++ [m], queue := l.queue ++ [m] }
  | .get =>
    match l.queue with
    | [] => none
    | m :: rest => some { l with queue := rest, delivered := l.delivered ++ [m] }
  | .lose i =>
    match l.queue[i]? with
    | none => none
    | some m => some { l with queue := l.queue.eraseIdx i, lost := l.lost ++ [m] }

def system (M : Type u) : System (Line M) (Act M) := ⟨init, step⟩

variable {l l' : Line M}

/-- An item between two others goes. -/
theorem step_lose {q q' : List M} {m : M} (h : l.queue = q ++ m :: q') :
    l.step (.lose q.length) = some { l with queue := q ++ q', lost := l.lost ++ [m] } := by
  simp [step, h, List.eraseIdx_append_of_length_le]

theorem step_get {m : M} {q : List M} (h : l.queue = m :: q) :
    l.step .get = some { l with queue := q, delivered := l.delivered ++ [m] } := by
  simp [step, h]

/-- Order and origin: what came out, followed by what is under way, is what was put in
with some items left out, and these are the lost ones. -/
structure Inv (l : Line M) : Prop where
  sublist : l.delivered ++ l.queue <+ l.accepted
  perm : l.delivered ++ l.queue ++ l.lost ~ l.accepted

theorem inv_init : Inv (init : Line M) := ⟨List.Sublist.refl _, List.Perm.refl _⟩

theorem Inv.put (h : Inv l) (m : M) :
    Inv { l with accepted := l.accepted ++ [m], queue := l.queue ++ [m] } := by
  constructor
  · show l.delivered ++ (l.queue ++ [m]) <+ l.accepted ++ [m]
    rw [← List.append_assoc]
    exact h.sublist.append (List.Sublist.refl _)
  · show l.delivered ++ (l.queue ++ [m]) ++ l.lost ~ l.accepted ++ [m]
    calc l.delivered ++ (l.queue ++ [m]) ++ l.lost
        = (l.delivered ++ l.queue) ++ ([m] ++ l.lost) := by simp
      _ ~ (l.delivered ++ l.queue) ++ (l.lost ++ [m]) := List.perm_append_comm.append_left _
      _ = (l.delivered ++ l.queue ++ l.lost) ++ [m] := by simp
      _ ~ l.accepted ++ [m] := h.perm.append_right _

theorem inv_step {a : Act M} (h : Inv l) (hs : l.step a = some l') : Inv l' := by
  cases a with
  | put m =>
    cases hs
    exact h.put m
  | get =>
    cases hq : l.queue with
    | nil => simp [step, hq] at hs
    | cons m rest =>
      rw [step_get hq] at hs
      cases hs
      have hmove : l.delivered ++ [m] ++ rest = l.delivered ++ l.queue := by simp [hq]
      exact ⟨hmove ▸ h.sublist, by simpa only [hmove] using h.perm⟩
  | lose i =>
    simp only [step] at hs
    split at hs
    · cases hs
    · rename_i m hm
      cases hs
      obtain ⟨hi, rfl⟩ := List.getElem?_eq_some_iff.mp hm
      constructor
      · exact ((List.eraseIdx_sublist l.queue i).append_left _).trans h.sublist
      · show l.delivered ++ l.queue.eraseIdx i ++ (l.lost ++ [l.queue[i]]) ~ l.accepted
        have hout : l.queue.eraseIdx i ++ [l.queue[i]] ~ l.queue :=
          List.perm_append_comm.trans (List.getElem_cons_eraseIdx_perm hi)
        calc l.delivered ++ l.queue.eraseIdx i ++ (l.lost ++ [l.queue[i]])
            ~ l.delivered ++ l.queue.eraseIdx i ++ ([l.queue[i]] ++ l.lost) :=
              List.perm_append_comm.append_left _
          _ = l.delivered ++ (l.queue.eraseIdx i ++ [l.queue[i]]) ++ l.lost := by simp
          _ ~ l.delivered ++ l.queue ++ l.lost := (hout.append_left _).append_right _
          _ ~ l.accepted := h.perm

theorem reachable_inv (h : (system M).Reachable l) : Inv l :=
  System.invariant (I := Inv) inv_init (fun _ _ _ _ hi hs => inv_step hi hs) h

/-- A line that has lost nothing holds exactly what has not come out yet. -/
theorem Inv.exact (h : Inv l) (hlost : l.lost = []) : l.accepted = l.delivered ++ l.queue := by
  have hlen := h.perm.length_eq
  rw [hlost, List.append_nil] at hlen
  exact (h.sublist.eq_of_length hlen).symm

end Line

end FrpXtcp.Lib

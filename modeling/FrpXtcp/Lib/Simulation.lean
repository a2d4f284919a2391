import FrpXtcp.Lib.Transition

/-!
# Simulation of one transition system by another

A system refines another if each of its steps is, seen through a map of the states, a run of
the other one, possibly an empty one. What holds in every reachable state of the abstract
system then holds in the image of every reachable state of the concrete one.
-/
namespace FrpXtcp.Lib

universe u v w x

/-- A map from the states of `C` to those of `A` under which the steps of `C` from its
reachable states are runs of `A`. -/
structure Simulation {σ : Type u} {α : Type v} {τ : Type w} {β : Type x} (C : System σ α)
    (A : System τ β) where
  abs : σ → τ
  init : abs C.init = A.init
  step : ∀ s a s', C.Reachable s → C.step s a = some s' → A.Reaches (abs s) (abs s')

namespace Simulation

variable {σ : Type u} {α : Type v} {τ : Type w} {β : Type x} {C : System σ α} {A : System τ β}

theorem reachable (S : Simulation C A) {s : σ} (h : C.Reachable s) : A.Reachable (S.abs s) := by
  refine C.invariant (I := fun s => A.Reachable (S.abs s)) ?_ ?_ h
  · rw [S.init]
    exact System.reachable_init
  · intro s a s' hr hs hstep
    exact (S.step s a s' hr hstep).reachable hs

end Simulation

end FrpXtcp.Lib

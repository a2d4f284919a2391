import Mathlib.Tactic.Common

/-!
# A chain of deadlines

Something happens again and again: it is due `gap` after it happened the last time, and it
happens at most `slack` after it is due. A chain starts at a time `b`, goes through the times
of a list and ends in the time at which it is due next.
-/
namespace FrpXtcp.Lib

/-- From `b` through the times of the list to the next due time. -/
def Chain (gap slack : Int) (due : Int) : Int → List Int → Prop
  | b, [] => due ≤ b + gap
  | b, u :: l => u ≤ b + gap + slack ∧ Chain gap slack due u l

variable {gap slack due b t : Int} {l : List Int}

/-- It happens in time. -/
theorem Chain.snoc (h : Chain gap slack due b l) (ht : t ≤ due + slack) :
    Chain gap slack (t + gap) b (l ++ [t]) := by
  induction l generalizing b with
  | nil =>
    simp only [Chain] at h
    refine ⟨by omega, ?_⟩
    simp only [Chain]
    omega
  | cons u l ih => exact ⟨h.1, ih h.2⟩

/-- The first times of a chain are dropped: it starts from the last of them. -/
theorem Chain.tail {u : Int} (h : Chain gap slack due b (u :: l)) : Chain gap slack due u l := h.2

/-- A time that keeps the deadline of the first element, or of the next one, is near `b`: `D` is
how long an element may stay in the list. -/
theorem Chain.near {D : Int} (h : Chain gap slack due b l) (hD : 0 ≤ D)
    (hhead : ∀ u ∈ l.head?, t ≤ u + D) (hdue : t ≤ due + slack) : t ≤ b + gap + slack + D := by
  cases l with
  | nil =>
    simp only [Chain] at h
    omega
  | cons u l =>
    have hu := hhead u rfl
    obtain ⟨hle, -⟩ := h
    omega

end FrpXtcp.Lib

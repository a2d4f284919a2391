import Mathlib.Logic.Function.Basic
import Mathlib.Tactic.Common

/-!
# Mutexes held by program counters

`owner` is the lock word of every mutex and `held` the at most one mutex that a
thread's program counter says it holds. `Exclusive` says that the two agree;
acquiring, releasing and moving on without touching a mutex keep the agreement.
-/
namespace FrpXtcp.Lib

universe u v

variable {γ : Type u} {τ : Type v}

/-- The lock words and the threads' own view of what they hold agree. -/
def Exclusive (owner : γ → Option τ) (held : τ → Option γ) : Prop :=
  ∀ g t, owner g = some t ↔ held t = some g

namespace Exclusive

variable {owner : γ → Option τ} {held : τ → Option γ}

/-- Two holders of one mutex are the same thread. -/
theorem unique (h : Exclusive owner held) {g : γ} {t t' : τ} (ht : held t = some g)
    (ht' : held t' = some g) : t = t' := by
  have h1 := (h g t).mpr ht
  have h2 := (h g t').mpr ht'
  exact Option.some.inj (h1.symm.trans h2)

theorem ne_of_free (h : Exclusive owner held) {g : γ} (hf : owner g = none) (t : τ) :
    held t ≠ some g := by
  intro ht
  rw [← h g t, hf] at ht
  cases ht

variable [DecidableEq τ]

/-- A move that keeps what the thread holds. -/
theorem keep (h : Exclusive owner held) {t : τ} {x : Option γ} (hx : held t = x) :
    Exclusive owner (Function.update held t x) := by
  rw [← hx, Function.update_eq_self]
  exact h

variable [DecidableEq γ]

/-- Locking a free mutex by a thread that holds none. -/
theorem acquire (h : Exclusive owner held) {g : γ} {t : τ} (hf : owner g = none)
    (hn : held t = none) :
    Exclusive (Function.update owner g (some t)) (Function.update held t (some g)) := by
  intro g' t'
  by_cases hg : g' = g
  · subst hg
    by_cases ht : t' = t
    · simp [ht]
    · have := h.ne_of_free hf t'
      simp [ht, Ne.symm ht, this]
  · by_cases ht : t' = t
    · subst ht
      have hno : owner g' ≠ some t' := by rw [Ne, h g' t', hn]; simp
      simp [hg, Ne.symm hg, hno]
    · simpa [hg, ht] using h g' t'

/-- Unlocking what the thread holds. -/
theorem release (h : Exclusive owner held) {g : γ} {t : τ} (hg : held t = some g) :
    Exclusive (Function.update owner g none) (Function.update held t none) := by
  intro g' t'
  by_cases he : g' = g
  · subst he
    by_cases ht : t' = t
    · simp [ht]
    · have hne : held t' ≠ some g' := fun h' => ht (h.unique h' hg)
      simp [ht, hne]
  · by_cases ht : t' = t
    · subst ht
      have hno : owner g' ≠ some t' := by
        rw [Ne, h g' t', hg]
        simpa using Ne.symm he
      simp [he, hno]
    · simpa [he, ht] using h g' t'

end Exclusive

end FrpXtcp.Lib

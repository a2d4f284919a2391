import Mathlib.Tactic.Common

/-!
# Address translation

A socket behind a translator sends from an address that depends on the destination, or does
not. It receives a datagram that comes to such an address if it has sent something itself, and
if the filter of what it has sent lets the source of the datagram in.
-/
namespace FrpXtcp.Lib

universe u

/-- `mapping d` is the address from which a datagram to `d` seems to come, and `lets d src` says
whether a datagram to `d` opens the way for datagrams from `src`. -/
structure Translator (α : Type u) where
  mapping : α → α
  lets : α → α → Bool
  lets_self : ∀ d, lets d d = true

namespace Translator

variable {α : Type u} (t : Translator α) {opened : List α} {src dst d : α}

/-- A datagram is let in after datagrams to the addresses `opened` have been sent. -/
def accepts [DecidableEq α] (opened : List α) (src dst : α) : Bool :=
  opened.any fun d => decide (t.mapping d = dst) && t.lets d src

variable {t}

theorem accepts_iff [DecidableEq α] :
    t.accepts opened src dst = true ↔ ∃ d ∈ opened, t.mapping d = dst ∧ t.lets d src = true := by
  simp [accepts]

/-- An answer from the address that one has sent to is let in. -/
theorem accepts_answer [DecidableEq α] (h : d ∈ opened) : t.accepts opened d (t.mapping d) = true :=
  accepts_iff.mpr ⟨d, h, rfl, t.lets_self d⟩

/-- What comes from behind `t` to `d` and is let in by `t'` can be answered: an answer comes
from `d`. -/
def Answers (t t' : Translator α) : Prop :=
  ∀ d e, t'.mapping e = d → t'.lets e (t.mapping d) = true → t'.mapping (t.mapping d) = d

/-- This is so if the mapping does not depend on the destination. -/
theorem answers_of_const {t' : Translator α} {a : α} (h : ∀ d, t'.mapping d = a) :
    Answers t t' := by
  intro d e he _
  rw [h] at he ⊢
  exact he

/-- And it is so if the filter goes by address and port. -/
theorem answers_of_exact {t' : Translator α} (h : ∀ d src, t'.lets d src = true → d = src) :
    Answers t t' := by
  intro d e he hlets
  rw [← h e _ hlets]
  exact he

end Translator

end FrpXtcp.Lib

import Mathlib.Algebra.Group.Int.Defs
import Mathlib.Data.List.Infix
import Mathlib.Tactic.Common

/-!
# An allowance that is refilled at most once in a window

Events spend from an allowance or refill it, and a refill is possible only after a cutoff that
each refill moves one window on. Between two refills no more is spent than the allowance holds
when full, and refills are more than a window apart, so what is spent in an interval of time is
bounded by the length of the interval.
-/
namespace FrpXtcp.Lib

inductive Use where
  | spend
  | refill
  | idle
  deriving DecidableEq

/-- `left` more can be spent, and it can be refilled after `cutoff`. -/
structure Allowance where
  left : Nat
  cutoff : Int

namespace Allowance

/-- One event, at a time. -/
inductive Step (size : Nat) (window : Int) : Allowance → Int × Use → Allowance → Prop
  | spend {n : Nat} {cutoff t : Int} :
      Step size window ⟨n + 1, cutoff⟩ (t, .spend) ⟨n, cutoff⟩
  | refill {n : Nat} {cutoff t : Int} :
      cutoff < t → Step size window ⟨n, cutoff⟩ (t, .refill) ⟨size, t + window⟩
  | idle {a : Allowance} {t : Int} : Step size window a (t, .idle) a

/-- Events one after the other. -/
inductive Run (size : Nat) (window : Int) : Allowance → List (Int × Use) → Allowance → Prop
  | nil {a : Allowance} : Run size window a [] a
  | cons {a a' a'' : Allowance} {e : Int × Use} {l : List (Int × Use)} :
      Step size window a e a' → Run size window a' l a'' → Run size window a (e :: l) a''

def spends (l : List (Int × Use)) : Nat := l.countP fun e => e.2 = .spend

def refills (l : List (Int × Use)) : Nat := l.countP fun e => e.2 = .refill

variable {size : Nat} {window : Int} {a a' : Allowance} {e : Int × Use} {l : List (Int × Use)}

theorem spends_cons (t : Int) (u : Use) (l : List (Int × Use)) :
    spends ((t, u) :: l) = spends l + if u = .spend then 1 else 0 := by
  simp [spends, List.countP_cons]

theorem refills_cons (t : Int) (u : Use) (l : List (Int × Use)) :
    refills ((t, u) :: l) = refills l + if u = .refill then 1 else 0 := by
  simp [refills, List.countP_cons]

theorem Step.left_le (h : Step size window a e a') (ha : a.left ≤ size) : a'.left ≤ size := by
  cases h with
  | spend => exact Nat.le_of_succ_le ha
  | refill _ => exact Nat.le_refl size
  | idle => exact ha

theorem Run.left_le (h : Run size window a l a') (ha : a.left ≤ size) : a'.left ≤ size := by
  induction h with
  | nil => exact ha
  | cons hstep _ ih => exact ih (hstep.left_le ha)

theorem Run.append_inv {k : List (Int × Use)} (h : Run size window a (l ++ k) a') :
    ∃ b, Run size window a l b ∧ Run size window b k a' := by
  induction l generalizing a with
  | nil => exact ⟨a, .nil, h⟩
  | cons e l ih =>
    cases h with
    | cons hstep hrest =>
      obtain ⟨b, hl, hk⟩ := ih hrest
      exact ⟨b, .cons hstep hl, hk⟩

/-- Everything spent was there at the beginning or came with a refill. -/
theorem Run.spends_le (h : Run size window a l a') :
    spends l ≤ a.left + size * refills l := by
  induction h with
  | nil => simp [spends]
  | cons hstep _ ih =>
    cases hstep with
    | spend =>
      simp only [spends_cons, refills_cons, reduceCtorEq, if_true, if_false, Nat.add_zero] at ih ⊢
      omega
    | refill _ =>
      simp only [spends_cons, refills_cons, reduceCtorEq, if_true, if_false, Nat.mul_succ] at ih ⊢
      omega
    | idle =>
      simp only [spends_cons, refills_cons, reduceCtorEq, if_false] at ih ⊢
      exact ih

/-- The last refill of a run comes after the cutoff, by a window for each one before it. -/
theorem Run.refills_before (h : Run size window a l a') {stop : Int} (hstop : ∀ e ∈ l, e.1 ≤ stop) :
    refills l = 0 ∨ a.cutoff + window * ((refills l : Int) - 1) < stop := by
  induction h with
  | nil => exact Or.inl rfl
  | cons hstep _ ih =>
    have hrest := ih fun e he => hstop e (List.mem_cons_of_mem _ he)
    cases hstep with
    | spend => simpa only [refills_cons, reduceCtorEq, if_false, Nat.add_zero] using hrest
    | idle => simpa only [refills_cons, reduceCtorEq, if_false, Nat.add_zero] using hrest
    | @refill n cutoff t hlt =>
      have ht : t ≤ stop := hstop _ List.mem_cons_self
      right
      rw [refills_cons, if_pos rfl, Int.natCast_succ, Int.add_sub_cancel]
      dsimp only at hrest ⊢
      rcases hrest with hnone | hsome
      · rw [hnone, Int.natCast_zero, Int.mul_zero]
        omega
      · rw [Int.mul_sub, Int.mul_one] at hsome
        omega

/-- In an interval: the first refill may come at its beginning. -/
theorem Run.refills_le (h : Run size window a l a') (hwindow : 0 < window) {start T : Int}
    (hT : 0 ≤ T) (hl : ∀ e ∈ l, start ≤ e.1 ∧ e.1 ≤ start + T) :
    (refills l : Int) ≤ T / window + 1 := by
  have hdiv : 0 ≤ T / window := Int.ediv_nonneg hT (Int.le_of_lt hwindow)
  induction h with
  | nil => simpa [refills] using Int.le_add_one hdiv
  | @cons _ _ _ _ l hstep hrun ih =>
    have hrest := ih fun e he => hl e (List.mem_cons_of_mem _ he)
    cases hstep with
    | spend => simpa only [refills_cons, reduceCtorEq, if_false, Nat.add_zero] using hrest
    | idle => simpa only [refills_cons, reduceCtorEq, if_false, Nat.add_zero] using hrest
    | @refill n cutoff t hlt =>
      have ht : start ≤ t := (hl _ List.mem_cons_self).1
      have hbefore := hrun.refills_before fun e he => (hl e (List.mem_cons_of_mem _ he)).2
      have hcount : (refills l : Int) ≤ T / window := by
        rw [Int.le_ediv_iff_mul_le hwindow, Int.mul_comm]
        rcases hbefore with hnone | hsome
        · rw [hnone, Int.natCast_zero, Int.mul_zero]
          exact hT
        · dsimp only at hsome
          rw [Int.mul_sub, Int.mul_one] at hsome
          omega
      rw [refills_cons, if_pos rfl, Int.natCast_succ]
      exact Int.add_le_add_right hcount 1

/-- In time order, the events from `start` on are the end of the list. -/
theorem isSuffix_filter_ge (h : l.Pairwise fun e e' => e.1 ≤ e'.1) (start : Int) :
    l.filter (fun e => start ≤ e.1) <:+ l := by
  induction l with
  | nil => exact List.suffix_refl _
  | cons e l ih =>
    obtain ⟨hfirst, hl⟩ := List.pairwise_cons.mp h
    by_cases he : start ≤ e.1
    · have hall : (e :: l).filter (fun e => start ≤ e.1) = e :: l := by
        apply List.filter_eq_self.mpr
        intro e' he'
        rcases List.mem_cons.mp he' with rfl | hmem
        · simpa using he
        · simpa using Int.le_trans he (hfirst e' hmem)
      rw [hall]
    · rw [List.filter_cons_of_neg (by simpa using he)]
      exact (ih hl).trans (List.suffix_cons e l)

theorem isPrefix_filter_le (h : l.Pairwise fun e e' => e.1 ≤ e'.1) (stop : Int) :
    l.filter (fun e => e.1 ≤ stop) <+: l := by
  induction l with
  | nil => exact List.prefix_refl _
  | cons e l ih =>
    obtain ⟨hfirst, hl⟩ := List.pairwise_cons.mp h
    by_cases he : e.1 ≤ stop
    · rw [List.filter_cons_of_pos (by simpa using he)]
      exact List.cons_prefix_cons.mpr ⟨rfl, ih hl⟩
    · have hnone : (e :: l).filter (fun e => e.1 ≤ stop) = [] := by
        apply List.filter_eq_nil_iff.mpr
        intro e' he'
        rcases List.mem_cons.mp he' with rfl | hmem
        · simpa using he
        · have := hfirst e' hmem
          simp
          omega
      rw [hnone]
      exact List.nil_prefix

/-- The events of an interval, in time order, are a part of the list. -/
theorem filter_interval (h : l.Pairwise fun e e' => e.1 ≤ e'.1) (start stop : Int) :
    ∃ before after,
      l = before ++ (l.filter (fun e => start ≤ e.1 ∧ e.1 ≤ stop) ++ after) := by
  obtain ⟨before, hbefore⟩ := isSuffix_filter_ge h start
  obtain ⟨after, hafter⟩ := isPrefix_filter_le (h.sublist List.filter_sublist) stop
    (l := l.filter fun e => start ≤ e.1)
  have hboth : (l.filter fun e => start ≤ e.1).filter (fun e => e.1 ≤ stop) =
      l.filter (fun e => start ≤ e.1 ∧ e.1 ≤ stop) := by
    rw [List.filter_filter]
    simp only [Bool.decide_and, Bool.and_comm]
  rw [hboth] at hafter
  refine ⟨before, after, ?_⟩
  rw [hafter, hbefore]

/-- What is spent in an interval of length `T`. -/
theorem Run.spends_interval (h : Run size window a l a') (ha : a.left ≤ size)
    (hwindow : 0 < window) (hl : l.Pairwise fun e e' => e.1 ≤ e'.1) (start : Int) {T : Int}
    (hT : 0 ≤ T) :
    (spends (l.filter fun e => start ≤ e.1 ∧ e.1 ≤ start + T) : Int) ≤
      size * (T / window + 2) := by
  obtain ⟨before, after, hsplit⟩ := filter_interval hl start (start + T)
  rw [hsplit] at h
  obtain ⟨b, hbefore, hrest⟩ := h.append_inv
  obtain ⟨c, hin, -⟩ := hrest.append_inv
  have hspends := hin.spends_le
  have hrefills := hin.refills_le hwindow hT (by
    intro e he
    simpa using (List.mem_filter.mp he).2)
  have hleft := hbefore.left_le ha
  generalize l.filter (fun e => start ≤ e.1 ∧ e.1 ≤ start + T) = k at hspends hrefills ⊢
  calc (spends k : Int) ≤ size + size * refills k := by omega
    _ = size * ((refills k : Int) + 1) := by rw [Int.mul_add, Int.mul_one, Int.add_comm]
    _ ≤ size * (T / window + 2) := by
      apply Int.mul_le_mul_of_nonneg_left
      · omega
      · exact Int.natCast_nonneg size

end Allowance

end FrpXtcp.Lib

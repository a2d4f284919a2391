import Mathlib.Algebra.Group.Int.Defs
import Mathlib.Algebra.Group.Nat.Defs
import Mathlib.Tactic.Common

/-!
# 64-bit integers as integers

`int` arithmetic in terms of the integers: every result is the exact one up to a multiple of
`2 ^ 64`, and which multiple follows from the bounds of a word.
-/
namespace FrpXtcp.Lib.Word

theorem bounds (a : Int64) : -2 ^ 63 ≤ a.toInt ∧ a.toInt < 2 ^ 63 := ⟨a.le_toInt, a.toInt_lt⟩

theorem bmod_eq (x : Int) : ∃ k : Int, x.bmod (2 ^ 64) = x + 2 ^ 64 * k := by
  refine ⟨(x.bmod (2 ^ 64) - x) / 2 ^ 64, ?_⟩
  have h : (x.bmod (2 ^ 64) - x) % 2 ^ 64 = 0 := by
    rw [Int.bmod_def]
    omega
  omega

theorem toInt_add (a b : Int64) : ∃ k : Int, (a + b).toInt = a.toInt + b.toInt + 2 ^ 64 * k := by
  rw [Int64.toInt_add]
  exact bmod_eq _

theorem toInt_sub (a b : Int64) : ∃ k : Int, (a - b).toInt = a.toInt - b.toInt + 2 ^ 64 * k := by
  rw [Int64.toInt_sub]
  exact bmod_eq _

theorem toInt_mul (a b : Int64) : ∃ k : Int, (a * b).toInt = a.toInt * b.toInt + 2 ^ 64 * k := by
  rw [Int64.toInt_mul]
  exact bmod_eq _

/-- A result not too far out of range has wrapped once at most. -/
theorem wrapped_once {a : Int64} {x k : Int} (h : a.toInt = x + 2 ^ 64 * k)
    (hx : -3 * 2 ^ 63 ≤ x ∧ x < 3 * 2 ^ 63) :
    a.toInt = x ∨ a.toInt = x - 2 ^ 64 ∨ a.toInt = x + 2 ^ 64 := by
  have ha := bounds a
  omega

/-- A result that fits is exact, and only such a one. -/
theorem exact_iff {a : Int64} {x k : Int} (h : a.toInt = x + 2 ^ 64 * k) :
    a.toInt = x ↔ -2 ^ 63 ≤ x ∧ x < 2 ^ 63 := by
  have ha := bounds a
  omega

theorem toInt_sub_eq_iff (a b : Int64) :
    (a - b).toInt = a.toInt - b.toInt ↔
      -2 ^ 63 ≤ a.toInt - b.toInt ∧ a.toInt - b.toInt < 2 ^ 63 := by
  obtain ⟨k, hk⟩ := toInt_sub a b
  exact exact_iff hk

theorem toInt_add_eq_iff (a b : Int64) :
    (a + b).toInt = a.toInt + b.toInt ↔
      -2 ^ 63 ≤ a.toInt + b.toInt ∧ a.toInt + b.toInt < 2 ^ 63 := by
  obtain ⟨k, hk⟩ := toInt_add a b
  exact exact_iff hk

theorem toInt_mul_eq_iff (a b : Int64) :
    (a * b).toInt = a.toInt * b.toInt ↔
      -2 ^ 63 ≤ a.toInt * b.toInt ∧ a.toInt * b.toInt < 2 ^ 63 := by
  obtain ⟨k, hk⟩ := toInt_mul a b
  exact exact_iff hk

theorem ofInt_eq_iff {x : Int} {a : Int64} (hx : -2 ^ 63 ≤ x ∧ x < 2 ^ 63) :
    Int64.ofInt x = a ↔ a.toInt = x := by
  rw [← Int64.toInt_inj, Int64.toInt_ofInt_of_le hx.1 hx.2]
  exact eq_comm

theorem max_eq_or (a b : Int64) : max a b = a ∨ max a b = b := by
  show (if a ≤ b then b else a) = a ∨ (if a ≤ b then b else a) = b
  split <;> simp

theorem min_eq_or (a b : Int64) : min a b = a ∨ min a b = b := by
  show (if a ≤ b then a else b) = a ∨ (if a ≤ b then a else b) = b
  split <;> simp

theorem toInt_max (a b : Int64) : (max a b).toInt = max a.toInt b.toInt := by
  show (if a ≤ b then b else a).toInt = _
  by_cases h : a ≤ b
  · have hle := Int64.le_iff_toInt_le.mp h
    rw [if_pos h]
    omega
  · have hle := mt Int64.le_iff_toInt_le.mpr h
    rw [if_neg h]
    omega

theorem toInt_min (a b : Int64) : (min a b).toInt = min a.toInt b.toInt := by
  show (if a ≤ b then a else b).toInt = _
  by_cases h : a ≤ b
  · have hle := Int64.le_iff_toInt_le.mp h
    rw [if_pos h]
    omega
  · have hle := mt Int64.le_iff_toInt_le.mpr h
    rw [if_neg h]
    omega

end FrpXtcp.Lib.Word

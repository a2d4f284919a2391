import Mathlib.Order.Lattice
import Mathlib.Tactic.Common

/-!
# The first of the largest elements

`firstMax key l` is the position that a left-to-right scan with a strict comparison
ends at, as `slices.MaxFunc` does. `IsFirstMax` says which position that is, without
the scan; it determines the position.
-/
namespace FrpXtcp.Lib

universe u v

variable {α : Type u} {β : Type v} [LinearOrder β] (key : α → β)

/-- The scan from position `i` on, with the best position so far and its key. -/
def firstMaxFrom (best : Nat) (v : β) (i : Nat) : List α → Nat
  | [] => best
  | a :: l => if v < key a then firstMaxFrom i (key a) (i + 1) l else firstMaxFrom best v (i + 1) l

def firstMax : List α → Option Nat
  | [] => none
  | a :: l => some (firstMaxFrom key 0 (key a) 1 l)

/-- `a` stands at position `i` of `l`, no element has a larger key, and every element
before it has a smaller one. -/
structure IsFirstMax (l : List α) (i : Nat) (a : α) : Prop where
  get : l[i]? = some a
  le : ∀ b ∈ l, key b ≤ key a
  lt : ∀ j b, j < i → l[j]? = some b → key b < key a

variable {key}

theorem IsFirstMax.unique {l : List α} {i j : Nat} {a b : α} (h : IsFirstMax key l i a)
    (h' : IsFirstMax key l j b) : i = j := by
  rcases Nat.lt_trichotomy i j with hij | hij | hij
  · have hlt := h'.lt i a hij h.get
    exact absurd (h.le b (List.mem_of_getElem? h'.get)) (not_le_of_gt hlt)
  · exact hij
  · have hlt := h.lt j b hij h'.get
    exact absurd (h'.le a (List.mem_of_getElem? h.get)) (not_le_of_gt hlt)

/-- An element after the scanned part that is not larger leaves the best one in place. -/
theorem IsFirstMax.append_le {pre : List α} {i : Nat} {a b : α} (h : IsFirstMax key pre i a)
    (hb : key b ≤ key a) : IsFirstMax key (pre ++ [b]) i a := by
  have hi : i < pre.length := (List.getElem?_eq_some_iff.mp h.get).1
  refine ⟨?_, ?_, ?_⟩
  · rw [List.getElem?_append_left hi]
    exact h.get
  · intro c hc
    rcases List.mem_append.mp hc with hc | hc
    · exact h.le c hc
    · rw [List.mem_singleton.mp hc]
      exact hb
  · intro j c hj hc
    rw [List.getElem?_append_left (by omega)] at hc
    exact h.lt j c hj hc

/-- A larger one becomes the best. -/
theorem IsFirstMax.append_lt {pre : List α} {i : Nat} {a b : α} (h : IsFirstMax key pre i a)
    (hb : key a < key b) : IsFirstMax key (pre ++ [b]) pre.length b := by
  refine ⟨?_, ?_, ?_⟩
  · simp
  · intro c hc
    rcases List.mem_append.mp hc with hc | hc
    · exact le_of_lt (lt_of_le_of_lt (h.le c hc) hb)
    · rw [List.mem_singleton.mp hc]
  · intro j c hj hc
    rw [List.getElem?_append_left hj] at hc
    exact lt_of_le_of_lt (h.le c (List.mem_of_getElem? hc)) hb

/-- The scan continues from the best position of the part before it. -/
theorem firstMaxFrom_spec (l pre : List α) {i : Nat} {a : α} (h : IsFirstMax key pre i a) :
    ∃ b, IsFirstMax key (pre ++ l) (firstMaxFrom key i (key a) pre.length l) b := by
  induction l generalizing pre i a with
  | nil =>
    rw [List.append_nil]
    exact ⟨a, h⟩
  | cons b l ih =>
    have hlen : (pre ++ [b]).length = pre.length + 1 := by simp
    have hpre : pre ++ b :: l = (pre ++ [b]) ++ l := by simp
    rw [hpre, firstMaxFrom, ← hlen]
    by_cases hab : key a < key b
    · rw [if_pos hab]
      exact ih (pre ++ [b]) (h.append_lt hab)
    · rw [if_neg hab]
      exact ih (pre ++ [b]) (h.append_le (le_of_not_gt hab))

theorem firstMax_spec {l : List α} {i : Nat} (h : firstMax key l = some i) :
    ∃ a, IsFirstMax key l i a := by
  cases l with
  | nil => cases h
  | cons a l =>
    have h0 : IsFirstMax key [a] 0 a := by
      refine ⟨rfl, ?_, fun j _ hj => absurd hj (Nat.not_lt_zero j)⟩
      intro b hb
      rw [List.mem_singleton.mp hb]
    obtain rfl := Option.some.inj h
    exact firstMaxFrom_spec l [a] h0

theorem firstMax_eq_none {l : List α} (h : firstMax key l = none) : l = [] := by
  cases l with
  | nil => rfl
  | cons a l => cases h

/-- The scan finds the position that `IsFirstMax` describes. -/
theorem IsFirstMax.firstMax {l : List α} {i : Nat} {a : α} (h : IsFirstMax key l i a) :
    firstMax key l = some i := by
  cases hf : Lib.firstMax key l with
  | none =>
    have hg := h.get
    rw [firstMax_eq_none hf] at hg
    simp at hg
  | some j =>
    obtain ⟨b, hb⟩ := firstMax_spec hf
    rw [hb.unique h]

end FrpXtcp.Lib

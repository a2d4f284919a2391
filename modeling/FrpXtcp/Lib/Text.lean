import Mathlib.Data.List.Infix
import Mathlib.Tactic.Common

/-!
# Texts around tags, and as bytes

A text that holds a tag between two parts of arbitrary content can be cut at that tag. If no tag
begins inside another one, two ways to cut a text either agree, or each tag lies in a part of the
other cut. The bytes of a string determine it, and those of two strings one after the other
are those of both together.
-/
namespace FrpXtcp.Lib

universe u

variable {α : Type u}

/-- No tag is empty, begins inside another one or is the beginning of another one. -/
structure Separates (T : List (List α)) : Prop where
  ne_nil : ∀ t ∈ T, t ≠ []
  inside : ∀ t ∈ T, ∀ t' ∈ T, t'.head? ∉ t.tail.map some
  beginning : ∀ t ∈ T, ∀ t' ∈ T, t <+: t' → t = t'

namespace Separates

variable {T : List (List α)} {t t' x x' y y' : List α}

theorem append_inj (h : Separates T) (ht : t ∈ T) (ht' : t' ∈ T) (he : t ++ y = t' ++ y') :
    t = t' ∧ y = y' := by
  have heq : t = t' := by
    have hbegin : t' <+: t ++ y := he ▸ List.prefix_append t' y'
    rcases List.prefix_or_prefix_of_prefix (List.prefix_append t y) hbegin with hp | hp
    · exact h.beginning t ht t' ht' hp
    · exact (h.beginning t' ht' t ht hp).symm
  subst heq
  exact ⟨rfl, List.append_cancel_left he⟩

/-- The cut on the right begins after a non-empty text `a`: then `a` holds the whole left tag. -/
theorem tag_inside (h : Separates T) (ht : t ∈ T) (ht' : t' ∈ T) {a : List α} (ha : a ≠ [])
    (he : t ++ y = a ++ (t' ++ y')) : ∃ z, a = t ++ z ∧ y = z ++ (t' ++ y') := by
  rcases List.append_eq_append_iff.mp he with ⟨z, hz, hy⟩ | ⟨c, hc, hy⟩
  · exact ⟨z, hz, hy⟩
  · cases c with
    | nil =>
      refine ⟨[], ?_, ?_⟩
      · simpa using hc.symm
      · simpa using hy.symm
    | cons b c =>
      -- the right tag would begin inside the left one
      exfalso
      have hhead : t'.head? = some b := by
        cases htt : t' with
        | nil => exact absurd htt (h.ne_nil t' ht')
        | cons b' r =>
          rw [htt] at hy
          simpa using (List.cons.inj hy).1
      apply h.inside t ht t' ht'
      cases a with
      | nil => exact absurd rfl ha
      | cons a₀ a =>
        rw [hhead, hc]
        simp

/-- Two cuts of one text. -/
theorem split (h : Separates T) (ht : t ∈ T) (ht' : t' ∈ T)
    (he : x ++ (t ++ y) = x' ++ (t' ++ y')) :
    (x = x' ∧ t = t' ∧ y = y') ∨
    (∃ z, x' = x ++ (t ++ z) ∧ y = z ++ (t' ++ y')) ∨
    (∃ z, x = x' ++ (t' ++ z) ∧ y' = z ++ (t ++ y)) := by
  rcases List.append_eq_append_iff.mp he with ⟨a, ha, hy⟩ | ⟨a, ha, hy⟩
  · by_cases hnil : a = []
    · subst hnil
      obtain ⟨htag, hrest⟩ := h.append_inj ht ht' hy
      exact Or.inl ⟨by simpa using ha.symm, htag, hrest⟩
    · obtain ⟨z, hz, hy⟩ := h.tag_inside ht ht' hnil hy
      exact Or.inr (Or.inl ⟨z, by rw [ha, hz], hy⟩)
  · by_cases hnil : a = []
    · subst hnil
      obtain ⟨htag, hrest⟩ := h.append_inj ht' ht hy
      exact Or.inl ⟨by simpa using ha, htag.symm, hrest.symm⟩
    · obtain ⟨z, hz, hy⟩ := h.tag_inside ht' ht hnil hy
      exact Or.inr (Or.inr ⟨z, by rw [ha, hz], hy⟩)

/-- A tag at the end of a text is determined. -/
theorem split_last (h : Separates T) (ht : t ∈ T) (ht' : t' ∈ T) (he : x ++ t = x' ++ t') :
    x = x' ∧ t = t' := by
  have he' : x ++ (t ++ []) = x' ++ (t' ++ []) := by simpa using he
  rcases h.split ht ht' he' with ⟨hx, htag, -⟩ | ⟨z, -, hy⟩ | ⟨z, -, hy⟩
  · exact ⟨hx, htag⟩
  · exact absurd (by simpa using hy.symm) (fun hnil => h.ne_nil t' ht' (And.right hnil))
  · exact absurd (by simpa using hy.symm) (fun hnil => h.ne_nil t ht (And.right hnil))

end Separates

theorem toList_loop (bs : ByteArray) (i : Nat) (r : List UInt8) :
    ByteArray.toList.loop bs i r = r.reverse ++ bs.data.toList.drop i := by
  fun_induction ByteArray.toList.loop bs i r with
  | case1 i r hlt ih =>
    have hi : i < bs.data.toList.length := hlt
    have hget : bs.get! i = bs.data.toList[i] := getElem!_pos bs.data i hlt
    rw [ih, hget, List.drop_eq_getElem_cons hi]
    simp
  | case2 i r hge =>
    have hi : bs.data.toList.length ≤ i := Nat.le_of_not_lt hge
    rw [List.drop_eq_nil_of_le hi, List.append_nil]

theorem toList_eq (bs : ByteArray) : bs.toList = bs.data.toList := by
  rw [ByteArray.toList, toList_loop]
  simp

theorem toUTF8_append (a b : String) :
    (a ++ b).toUTF8.toList = a.toUTF8.toList ++ b.toUTF8.toList := by
  simp only [toList_eq, String.toUTF8, String.toByteArray_append, ByteArray.toList_data_append]

theorem toUTF8_inj {a b : String} (h : a.toUTF8.toList = b.toUTF8.toList) : a = b := by
  rw [toList_eq, toList_eq] at h
  exact String.toByteArray_inj.mp (ByteArray.ext (Array.toList_inj.mp h))

end FrpXtcp.Lib

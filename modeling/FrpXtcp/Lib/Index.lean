import Mathlib.Logic.Function.Basic
import Mathlib.Tactic.Common

/-!
# Tables that index live objects by a key

A table indexes the live objects when its entries are exactly the live objects,
each under its own key. Two live objects then never share a key, and removing by
key removes the one object that is meant.
-/
namespace FrpXtcp.Lib

universe u v

variable {κ : Type u} {ν : Type v}

/-- The entries of `m` are the live objects, each under its key. -/
def Indexes (m : κ → Option ν) (key : ν → κ) (live : ν → Prop) : Prop :=
  ∀ k v, m k = some v ↔ key v = k ∧ live v

namespace Indexes

variable {m m' : κ → Option ν} {key key' : ν → κ} {live live' : ν → Prop}

theorem get (h : Indexes m key live) {v : ν} (hv : live v) : m (key v) = some v :=
  (h (key v) v).mpr ⟨rfl, hv⟩

theorem unique (h : Indexes m key live) {v w : ν} (hv : live v) (hw : live w)
    (hk : key v = key w) : v = w := by
  have hg := h.get hv
  rw [hk, h.get hw] at hg
  exact (Option.some.inj hg).symm

theorem isSome_iff (h : Indexes m key live) (k : κ) :
    (m k).isSome = true ↔ ∃ v, key v = k ∧ live v := by
  simp only [Option.isSome_iff_exists, h k]

theorem empty (hm : ∀ k, m k = none) (hlive : ∀ v, ¬ live v) : Indexes m key live := by
  intro k v
  simp [hm k, hlive v]

/-- Objects that are not live may change their keys. -/
theorem congr (h : Indexes m key live) (hm : ∀ k, m' k = m k) (hlive : ∀ v, live' v ↔ live v)
    (hkey : ∀ v, live v → key' v = key v) : Indexes m' key' live' := by
  intro k v
  rw [hm k, h k v, hlive v]
  constructor
  · rintro ⟨hk, hv⟩
    exact ⟨(hkey v hv).trans hk, hv⟩
  · rintro ⟨hk, hv⟩
    exact ⟨(hkey v hv).symm.trans hk, hv⟩

/-- Liveness that is read off a status, of which one object changes its own. -/
theorem keep_at {α : Type*} [DecidableEq ν] {status : ν → α} {P : α → Prop} {v : ν} {x : α}
    (h : Indexes m key (fun w => P (status w))) (hx : P x ↔ P (status v)) :
    Indexes m key (fun w => P (Function.update status v x w)) := by
  refine h.congr (fun _ => rfl) (fun w => ?_) (fun _ _ => rfl)
  by_cases hw : w = v
  · subst hw
    simpa using hx
  · simp [hw]

variable [DecidableEq κ]

/-- An object becomes live under a key that was free. -/
theorem insert (h : Indexes m key live) {v : ν} (hfree : m (key v) = none)
    (hm : ∀ k, m' k = if k = key v then some v else m k)
    (hlive : ∀ w, live' w ↔ w = v ∨ live w) : Indexes m' key live' := by
  intro k w
  rw [hm k, hlive w]
  split
  · rename_i hk
    subst hk
    constructor
    · intro hw
      obtain rfl := Option.some.inj hw
      exact ⟨rfl, Or.inl rfl⟩
    · rintro ⟨hk, rfl | hw⟩
      · rfl
      · rw [← hk, h.get hw] at hfree
        cases hfree
  · rename_i hk
    rw [h k w]
    constructor
    · rintro ⟨hkw, hw⟩
      exact ⟨hkw, Or.inr hw⟩
    · rintro ⟨hkw, rfl | hw⟩
      · exact absurd hkw.symm hk
      · exact ⟨hkw, hw⟩

/-- A live object is removed by its key. -/
theorem erase (h : Indexes m key live) {v : ν} (hv : live v)
    (hm : ∀ k, m' k = if k = key v then none else m k)
    (hlive : ∀ w, live' w ↔ live w ∧ w ≠ v) : Indexes m' key live' := by
  intro k w
  rw [hm k, hlive w]
  split
  · rename_i hk
    subst hk
    simp only [reduceCtorEq, false_iff]
    rintro ⟨hk, hw, hne⟩
    exact hne (h.unique hw hv hk)
  · rename_i hk
    rw [h k w]
    constructor
    · rintro ⟨hkw, hw⟩
      refine ⟨hkw, hw, ?_⟩
      rintro rfl
      exact hk hkw.symm
    · rintro ⟨hkw, hw, -⟩
      exact ⟨hkw, hw⟩

section Status

variable {α : Type*} [DecidableEq ν] {status : ν → α} {P : α → Prop} {v : ν} {x : α}

theorem insert_at (h : Indexes m key (fun w => P (status w))) (hfree : m (key v) = none)
    (hx : P x) (hm : ∀ k, m' k = if k = key v then some v else m k) :
    Indexes m' key (fun w => P (Function.update status v x w)) := by
  refine h.insert hfree hm (fun w => ?_)
  by_cases hw : w = v
  · subst hw
    simpa using hx
  · simp [hw]

theorem erase_at (h : Indexes m key (fun w => P (status w))) (hv : P (status v)) (hx : ¬ P x)
    (hm : ∀ k, m' k = if k = key v then none else m k) :
    Indexes m' key (fun w => P (Function.update status v x w)) := by
  refine h.erase hv hm (fun w => ?_)
  by_cases hw : w = v
  · subst hw
    simpa using hx
  · simp [hw]

end Status

end Indexes

end FrpXtcp.Lib

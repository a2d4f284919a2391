import Mathlib.Data.List.Nodup
import Mathlib.Data.List.Perm.Basic
import Mathlib.Tactic.Common

/-!
# Finite maps with distinct keys

A map is its list of entries together with the proof that no key occurs twice.
Operations are described through `get?` alone, so that clients never look at the
order of the entries; `toList` is there for code that ranges over a map, where
any permutation of the entries is an admissible iteration order.
-/
namespace FrpXtcp.Lib

universe u v

/-- A finite map; its entries have pairwise distinct keys. -/
structure GoMap (κ : Type u) (ν : Type v) where
  toList : List (κ × ν)
  nodup : (toList.map Prod.fst).Nodup

namespace GoMap

variable {κ : Type u} {ν : Type v}

/-- `make(map[κ]ν)` -/
def empty : GoMap κ ν := ⟨[], List.nodup_nil⟩

variable [DecidableEq κ]

/-- `v, ok := m[k]` -/
def get? (m : GoMap κ ν) (k : κ) : Option ν := m.toList.lookup k

/-- `delete(m, k)` -/
def erase (m : GoMap κ ν) (k : κ) : GoMap κ ν where
  toList := m.toList.filter (fun p => p.1 ≠ k)
  nodup := m.nodup.sublist (List.filter_sublist.map Prod.fst)

/-- `m[k] = v` -/
def insert (m : GoMap κ ν) (k : κ) (v : ν) : GoMap κ ν where
  toList := (k, v) :: m.toList.filter (fun p => p.1 ≠ k)
  nodup := by
    rw [List.map_cons, List.nodup_cons]
    refine ⟨?_, (m.erase k).nodup⟩
    simp

/-- A loop over the map that deletes the entries for which `p` fails. -/
def filter (m : GoMap κ ν) (p : κ → ν → Bool) : GoMap κ ν where
  toList := m.toList.filter (fun e => p e.1 e.2)
  nodup := m.nodup.sublist (List.filter_sublist.map Prod.fst)

theorem lookup_cons_ite (l : List (κ × ν)) (a k : κ) (b : ν) :
    ((a, b) :: l).lookup k = if k = a then some b else l.lookup k := by
  rw [List.lookup_cons]
  by_cases hk : k = a
  · simp [hk]
  · rw [beq_eq_false_iff_ne.mpr hk, if_neg hk]

theorem lookup_filter_ne (l : List (κ × ν)) (k k' : κ) :
    (l.filter (fun p => p.1 ≠ k)).lookup k' = if k' = k then none else l.lookup k' := by
  induction l with
  | nil => simp
  | cons p l ih =>
    obtain ⟨a, b⟩ := p
    by_cases ha : a = k
    · rw [List.filter_cons_of_neg (by simp [ha]), ih, lookup_cons_ite, ha]
      split <;> rfl
    · rw [List.filter_cons_of_pos (by simp [ha]), lookup_cons_ite, lookup_cons_ite, ih]
      by_cases hk : k' = k
      · rw [if_neg (fun h => ha (h.symm.trans hk)), if_pos hk, if_pos hk]
      · rw [if_neg hk, if_neg hk]

@[simp] theorem get?_empty (k : κ) : (empty : GoMap κ ν).get? k = none := rfl

@[simp] theorem get?_erase (m : GoMap κ ν) (k k' : κ) :
    (m.erase k).get? k' = if k' = k then none else m.get? k' :=
  lookup_filter_ne m.toList k k'

@[simp] theorem get?_insert (m : GoMap κ ν) (k k' : κ) (v : ν) :
    (m.insert k v).get? k' = if k' = k then some v else m.get? k' := by
  simp only [get?, insert, lookup_cons_ite, lookup_filter_ne]
  split <;> rfl

/-- The entries are exactly what the lookups return. -/
theorem mem_toList_iff (m : GoMap κ ν) (k : κ) (v : ν) :
    (k, v) ∈ m.toList ↔ m.get? k = some v := by
  obtain ⟨l, hl⟩ := m
  simp only [get?]
  induction l with
  | nil => simp
  | cons p l ih =>
    obtain ⟨a, b⟩ := p
    simp only [List.map_cons, List.nodup_cons] at hl
    rw [List.mem_cons, lookup_cons_ite]
    by_cases hk : k = a
    · subst hk
      have hn : (k, v) ∉ l := fun hm => hl.1 (List.mem_map_of_mem hm)
      simp [hn, eq_comm]
    · simp [hk, ih hl.2]

/-- Of several values with one key the last one counts. -/
theorem get?_foldl_insert (f : ν → κ) (l : List ν) (m : GoMap κ ν) (k : κ) :
    (l.foldl (fun m v => m.insert (f v) v) m).get? k =
      (l.reverse.find? fun v => f v = k).or (m.get? k) := by
  induction l generalizing m with
  | nil => rfl
  | cons v l ih =>
    rw [List.foldl_cons, ih, get?_insert, List.reverse_cons, List.find?_append]
    by_cases hk : k = f v
    · simp [hk]
    · simp [hk, Ne.symm hk]

/-- What a loop over the values of the map visits, in some order. -/
def values (m : GoMap κ ν) : List ν := m.toList.map Prod.snd

theorem perm_of_get? {m m' : GoMap κ ν} (h : ∀ k, m.get? k = m'.get? k) :
    m.toList.Perm m'.toList := by
  apply (List.perm_ext_iff_of_nodup m.nodup.of_map m'.nodup.of_map).mpr
  intro ⟨k, v⟩
  rw [mem_toList_iff, mem_toList_iff, h]

/-- Every value stands under the key that `f` gives it. -/
def KeyedBy (f : ν → κ) (m : GoMap κ ν) : Prop := ∀ k v, m.get? k = some v → f v = k

theorem keyedBy_empty (f : ν → κ) : KeyedBy f (empty : GoMap κ ν) := by
  intro k v h
  cases h

theorem KeyedBy.insert {f : ν → κ} {m : GoMap κ ν} (h : KeyedBy f m) {k : κ} {v : ν}
    (hv : f v = k) : KeyedBy f (m.insert k v) := by
  intro k' v' hget
  rw [get?_insert] at hget
  split at hget
  · obtain rfl := Option.some.inj hget
    rw [hv, ‹k' = k›]
  · exact h k' v' hget

theorem KeyedBy.foldl_insert {f : ν → κ} {m : GoMap κ ν} (h : KeyedBy f m) (l : List ν) :
    KeyedBy f (l.foldl (fun m v => m.insert (f v) v) m) := by
  induction l generalizing m with
  | nil => exact h
  | cons v l ih => exact ih (h.insert rfl)

theorem mem_values_iff {f : ν → κ} {m : GoMap κ ν} (h : KeyedBy f m) (v : ν) :
    v ∈ m.values ↔ m.get? (f v) = some v := by
  rw [values, List.mem_map]
  constructor
  · intro ⟨⟨k, v'⟩, hmem, he⟩
    obtain rfl : v' = v := he
    have hget := (mem_toList_iff m k v').mp hmem
    rw [h k v' hget]
    exact hget
  · intro hget
    exact ⟨(f v, v), (mem_toList_iff m _ _).mpr hget, rfl⟩

/-- Values taken out of a keyed map in any order, and put into a map again, are found under
their keys. -/
theorem get?_foldl_insert_values {f : ν → κ} {m : GoMap κ ν} (h : KeyedBy f m) {p : ν → Bool}
    {l : List ν} (hl : ∀ v, v ∈ l ↔ v ∈ m.values ∧ p v = true) (m₀ : GoMap κ ν) (k : κ) :
    (l.foldl (fun m v => m.insert (f v) v) m₀).get? k =
      ((m.get? k).filter p).or (m₀.get? k) := by
  rw [get?_foldl_insert]
  congr 1
  apply Option.ext
  intro v
  rw [Option.filter_eq_some_iff]
  constructor
  · intro hfind
    have hmem := (hl v).mp (List.mem_reverse.mp (List.mem_of_find?_eq_some hfind))
    have hkey : f v = k := by simpa using List.find?_some hfind
    rw [mem_values_iff h, hkey] at hmem
    exact hmem
  · intro ⟨hget, hp⟩
    have hkey := h k v hget
    have hmem : v ∈ l := (hl v).mpr ⟨(mem_values_iff h v).mpr (by rw [hkey]; exact hget), hp⟩
    cases hfind : l.reverse.find? fun v => f v = k with
    | none =>
      rw [List.find?_eq_none] at hfind
      exact absurd hkey (by simpa using hfind v (List.mem_reverse.mpr hmem))
    | some v' =>
      -- two values with one key are the same value of the map
      have hmem' := (hl v').mp (List.mem_reverse.mp (List.mem_of_find?_eq_some hfind))
      have hkey' : f v' = k := by simpa using List.find?_some hfind
      rw [mem_values_iff h, hkey', hget] at hmem'
      exact hmem'.1.symm

theorem get?_filter_eq_some (m : GoMap κ ν) (p : κ → ν → Bool) (k : κ) (v : ν) :
    (m.filter p).get? k = some v ↔ m.get? k = some v ∧ p k v = true := by
  rw [← mem_toList_iff, ← mem_toList_iff]
  exact List.mem_filter

end GoMap

end FrpXtcp.Lib

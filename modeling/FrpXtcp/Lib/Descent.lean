import Mathlib.Data.List.Basic
import Mathlib.Data.Nat.ModEq
import Mathlib.Logic.Function.Iterate
import FrpXtcp.Lib.FirstMax

/-!
# Lowering the first of the largest elements, again and again

One step takes the first of the largest elements and lowers its key by one. How often other
positions are taken before a given one is a sum over the list, since a step that takes
another position lowers that sum by exactly one. From equal keys the positions are taken in
turn.
-/
namespace FrpXtcp.Lib

universe u

variable {α : Type u} (key : α → Int) (lower : α → α)

def descend (l : List α) : List α :=
  match firstMax key l with
  | none => l
  | some i => l.modify i lower

/-- How many steps take other positions before one takes position `i`, where `b` stands. -/
def ahead (l : List α) (i : Nat) (b : α) : Nat :=
  ((l.take i).map fun a => (key a - key b + 1).toNat).sum +
    ((l.drop (i + 1)).map fun a => (key a - key b).toNat).sum

variable {key lower} {l : List α} {i : Nat} {b : α}

theorem IsFirstMax.descend {j : Nat} {a : α} (h : IsFirstMax key l j a) :
    descend key lower l = l.modify j lower := by
  rw [Lib.descend, h.firstMax]

@[simp] theorem length_descend (l : List α) : (descend key lower l).length = l.length := by
  unfold descend
  split
  · rfl
  · rw [List.length_modify]

theorem length_descend_iterate (l : List α) (k : Nat) :
    ((descend key lower)^[k] l).length = l.length := by
  induction k with
  | zero => rfl
  | succ k ih => rw [Function.iterate_succ_apply', length_descend, ih]

theorem exists_isFirstMax (key : α → Int) (h : l[i]? = some b) : ∃ j a, IsFirstMax key l j a := by
  cases hf : firstMax key l with
  | none =>
    rw [firstMax_eq_none hf] at h
    cases h
  | some j =>
    obtain ⟨a, ha⟩ := firstMax_spec hf
    exact ⟨j, a, ha⟩

theorem sum_map_eq_zero {f : α → Nat} {l : List α} :
    (l.map f).sum = 0 ↔ ∀ (j : Nat) (a : α), l[j]? = some a → f a = 0 := by
  rw [List.sum_eq_zero_iff_forall_eq_nat]
  constructor
  · intro h j a ha
    exact h _ (List.mem_map_of_mem (List.mem_of_getElem? ha))
  · intro h n hn
    obtain ⟨a, ha, rfl⟩ := List.mem_map.mp hn
    obtain ⟨j, hj⟩ := List.mem_iff_getElem?.mp ha
    exact h j a hj

theorem ahead_eq_zero_iff (h : l[i]? = some b) : ahead key l i b = 0 ↔ IsFirstMax key l i b := by
  have hbefore : ((l.take i).map fun a => (key a - key b + 1).toNat).sum = 0 ↔
      ∀ j a, j < i → l[j]? = some a → key a < key b := by
    rw [sum_map_eq_zero]
    constructor
    · intro hzero j a hj ha
      have hle := hzero j a (by rw [List.getElem?_take, if_pos hj]; exact ha)
      omega
    · intro hlt j a ha
      rw [List.getElem?_take] at ha
      split at ha
      · have := hlt j a ‹_› ha
        omega
      · cases ha
  have hafter : ((l.drop (i + 1)).map fun a => (key a - key b).toNat).sum = 0 ↔
      ∀ j a, i < j → l[j]? = some a → key a ≤ key b := by
    rw [sum_map_eq_zero]
    constructor
    · intro hzero j a hj ha
      have hle := hzero (j - (i + 1)) a
        (by rw [List.getElem?_drop, Nat.add_sub_cancel' hj]; exact ha)
      omega
    · intro hle j a ha
      rw [List.getElem?_drop] at ha
      have := hle _ a (by omega) ha
      omega
  rw [ahead, Nat.add_eq_zero_iff, hbefore, hafter]
  constructor
  · intro ⟨hlt, hle⟩
    refine ⟨h, ?_, hlt⟩
    intro a ha
    obtain ⟨j, hj⟩ := List.mem_iff_getElem?.mp ha
    rcases Nat.lt_trichotomy j i with hji | rfl | hij
    · exact le_of_lt (hlt j a hji hj)
    · obtain rfl := Option.some.inj (hj.symm.trans h)
      exact le_refl _
    · exact hle j a hij hj
  · intro hmax
    exact ⟨hmax.lt, fun j a _ ha => hmax.le a (List.mem_of_getElem? ha)⟩

/-- Changing one element changes a sum by what the element contributes. -/
theorem sum_map_modify (lower : α → α) {f : α → Nat} {j : Nat} {a : α} (h : l[j]? = some a)
    (hf : f a = f (lower a) + 1) :
    (l.map f).sum = ((l.modify j lower).map f).sum + 1 := by
  induction l generalizing j with
  | nil => cases h
  | cons c l ih =>
    cases j with
    | zero =>
      obtain rfl := Option.some.inj h
      simp only [List.modify_zero_cons, List.map_cons, List.sum_cons]
      omega
    | succ j =>
      have := ih h
      simp only [List.modify_succ_cons, List.map_cons, List.sum_cons]
      omega

section Step

variable (hlower : ∀ a, key (lower a) = key a - 1)

include hlower

/-- A step that takes another position brings position `i` one step closer. -/
theorem ahead_descend (h : l[i]? = some b) (hpos : ahead key l i b ≠ 0) :
    (descend key lower l)[i]? = some b ∧
      ahead key l i b = ahead key (descend key lower l) i b + 1 := by
  obtain ⟨j, a, hmax⟩ := exists_isFirstMax key h
  have hne : j ≠ i := by
    rintro rfl
    obtain rfl := Option.some.inj (hmax.get.symm.trans h)
    exact hpos ((ahead_eq_zero_iff h).mpr hmax)
  have hle := hmax.le b (List.mem_of_getElem? h)
  have hl := hlower a
  rw [hmax.descend]
  constructor
  · rw [List.getElem?_modify_ne _ _ hne]
    exact h
  · unfold ahead
    rcases Nat.lt_or_gt_of_ne hne with hji | hij
    · rw [List.drop_modify_of_lt _ _ _ _ (by omega), List.take_modify]
      have hsum := sum_map_modify lower (l := l.take i)
        (f := fun a => (key a - key b + 1).toNat) (j := j) (a := a)
        (by rw [List.getElem?_take, if_pos hji]; exact hmax.get) (by omega)
      omega
    · have hlt := hmax.lt i b hij h
      rw [List.drop_modify_of_ge _ _ _ _ (by omega), List.take_modify,
        List.modify_eq_self (by rw [List.length_take]; omega)]
      have hsum := sum_map_modify lower (l := l.drop (i + 1))
        (f := fun a => (key a - key b).toNat) (j := j - (i + 1)) (a := a)
        (by rw [List.getElem?_drop, Nat.add_sub_cancel' hij]; exact hmax.get) (by omega)
      omega

/-- The run, up to the step that takes position `i`. -/
theorem ahead_iterate (h : l[i]? = some b) {m : Nat} (hm : m ≤ ahead key l i b) :
    ((descend key lower)^[m] l)[i]? = some b ∧
      ahead key l i b = ahead key ((descend key lower)^[m] l) i b + m := by
  induction m with
  | zero => exact ⟨h, rfl⟩
  | succ m ih =>
    obtain ⟨hget, hahead⟩ := ih (by omega)
    obtain ⟨hget', hstep⟩ := ahead_descend hlower hget (by omega)
    rw [Function.iterate_succ_apply']
    exact ⟨hget', by omega⟩

/-- Position `i` is taken after exactly `ahead` steps, with its element as it was, and not
earlier. -/
theorem descend_first (h : l[i]? = some b) :
    IsFirstMax key ((descend key lower)^[ahead key l i b] l) i b ∧
      ∀ m < ahead key l i b, firstMax key ((descend key lower)^[m] l) ≠ some i := by
  constructor
  · obtain ⟨hget, hahead⟩ := ahead_iterate hlower h (le_refl _)
    exact (ahead_eq_zero_iff hget).mp (by omega)
  · intro m hm htaken
    obtain ⟨hget, hahead⟩ := ahead_iterate hlower h (le_of_lt hm)
    obtain ⟨a, ha⟩ := firstMax_spec htaken
    obtain rfl := Option.some.inj (ha.get.symm.trans hget)
    have := (ahead_eq_zero_iff hget).mpr ha
    omega

end Step

/-- The first `m` keys are one below the others, which are `s`. -/
structure Stair (key : α → Int) (l : List α) (m : Nat) (s : Int) : Prop where
  lt : m < l.length
  low : ∀ j a, j < m → l[j]? = some a → key a = s - 1
  high : ∀ j a, m ≤ j → l[j]? = some a → key a = s

theorem Stair.isFirstMax {m : Nat} {s : Int} (h : Stair key l m s) :
    ∃ a, IsFirstMax key l m a ∧ key a = s := by
  have hget : l[m]? = some (l.get ⟨m, h.lt⟩) := List.getElem?_eq_getElem h.lt
  have hkey := h.high m _ (le_refl m) hget
  refine ⟨_, ⟨hget, ?_, ?_⟩, hkey⟩
  · intro a ha
    obtain ⟨j, hj⟩ := List.mem_iff_getElem?.mp ha
    rw [hkey]
    rcases Nat.lt_or_ge j m with hjm | hjm
    · have := h.low j a hjm hj
      omega
    · exact le_of_eq (h.high j a hjm hj)
  · intro j a hjm hj
    have := h.low j a hjm hj
    omega

section Turn

variable (hlower : ∀ a, key (lower a) = key a - 1)

include hlower

theorem Stair.descend {m : Nat} {s : Int} (h : Stair key l m s) :
    ∃ s', Stair key (descend key lower l) ((m + 1) % l.length) s' := by
  obtain ⟨c, hmax, hc⟩ := h.isFirstMax
  have hlt := h.lt
  have hlow := hlower c
  -- where the element of a position comes from
  have hget : ∀ j a, (l.modify m lower)[j]? = some a →
      (j = m ∧ a = lower c) ∨ (j ≠ m ∧ l[j]? = some a) := by
    intro j a hj
    by_cases hjm : m = j
    · subst hjm
      rw [List.getElem?_modify_eq, hmax.get] at hj
      exact Or.inl ⟨rfl, (Option.some.inj hj).symm⟩
    · rw [List.getElem?_modify_ne _ _ hjm] at hj
      exact Or.inr ⟨fun he => hjm he.symm, hj⟩
  rw [hmax.descend]
  rcases Nat.lt_or_ge (m + 1) l.length with hm | hm
  · rw [Nat.mod_eq_of_lt hm]
    refine ⟨s, by rw [List.length_modify]; exact hm, ?_, ?_⟩
    · intro j a hj ha
      rcases hget j a ha with ⟨-, rfl⟩ | ⟨hne, ha⟩
      · omega
      · exact h.low j a (by omega) ha
    · intro j a hj ha
      rcases hget j a ha with ⟨rfl, -⟩ | ⟨-, ha⟩
      · omega
      · exact h.high j a (by omega) ha
  · have hend : m + 1 = l.length := by omega
    rw [hend, Nat.mod_self]
    refine ⟨s - 1, ?_, ?_, ?_⟩
    · rw [List.length_modify]
      omega
    · intro j _ hj
      exact absurd hj (Nat.not_lt_zero j)
    · intro j a _ ha
      rcases hget j a ha with ⟨-, rfl⟩ | ⟨hne, ha⟩
      · omega
      · have hj := (List.getElem?_eq_some_iff.mp ha).1
        exact h.low j a (by omega) ha

/-- From equal keys, step `k` takes position `k` modulo the number of elements. -/
theorem descend_turns {s : Int} (hne : l ≠ []) (h : ∀ a ∈ l, key a = s) (k : Nat) :
    ∃ s', Stair key ((Lib.descend key lower)^[k] l) (k % l.length) s' := by
  induction k with
  | zero =>
    refine ⟨s, ?_, fun j _ hj => absurd hj (by simp), fun j a _ ha => h a (List.mem_of_getElem? ha)⟩
    rw [Nat.zero_mod]
    exact List.length_pos_of_ne_nil hne
  | succ k ih =>
    obtain ⟨s', hs'⟩ := ih
    obtain ⟨s'', hs''⟩ := hs'.descend hlower
    refine ⟨s'', ?_⟩
    rw [length_descend_iterate, Nat.mod_add_mod] at hs''
    rw [Function.iterate_succ_apply']
    exact hs''

end Turn

end FrpXtcp.Lib

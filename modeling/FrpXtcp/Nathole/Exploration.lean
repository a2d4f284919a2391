import Mathlib.Data.List.Rotate
import Mathlib.Order.Bounds.Defs
import FrpXtcp.Lib.Descent
import FrpXtcp.Nathole.Analysis

/-!
# The order in which strategies are tried

Calls of `recommand` with no success reported in between. Each takes the first of the best
entries and lowers it, so the list of scores goes down step by step, and the call that first
returns an entry can be read off the scores.
-/
namespace FrpXtcp.Nathole

open FrpXtcp.Lib

def BehaviorScore.lower (b : BehaviorScore) : BehaviorScore := { b with score := b.score - 1 }

theorem recommand_scores (r : MakeHoleRecords) (now : Int) :
    (r.recommand now).1.scores = descend BehaviorScore.score BehaviorScore.lower r.scores := by
  by_cases hne : r.scores = []
  · simp [MakeHoleRecords.recommand, descend, hne, firstMax]
  · obtain ⟨i, b, hb, hr⟩ := recommand_spec hne now
    rw [hr, hb.descend]
    apply List.ext_getElem?
    intro j
    by_cases hj : i = j
    · subst hj
      have hi := (List.getElem?_eq_some_iff.mp hb.get).1
      rw [List.getElem?_set_self hi, List.getElem?_modify_eq, hb.get]
      rfl
    · rw [List.getElem?_set_ne hj, List.getElem?_modify_ne _ _ hj]

/-- The record after `k` calls of `recommand`, the first of them at the time `now 0`. -/
def recommands (r : MakeHoleRecords) (now : Nat → Int) : Nat → MakeHoleRecords
  | 0 => r
  | k + 1 => ((recommands r now k).recommand (now k)).1

/-- The mode and the index that the call after `k` calls returns. -/
def recommended (r : MakeHoleRecords) (now : Nat → Int) (k : Nat) : Int × Int :=
  ((recommands r now k).recommand (now k)).2

/-- Call number `n`, counted from 1, returns the entry at position `i`: its mode and its index
are the result, and its score is the one that goes down. -/
def ReturnedBy (r : MakeHoleRecords) (now : Nat → Int) (i n : Nat) : Prop :=
  ∃ k b, n = k + 1 ∧ (recommands r now k).scores[i]? = some b ∧
    (recommands r now k).recommand (now k) =
      (⟨(recommands r now k).scores.set i { b with score := b.score - 1 }, now k⟩,
        b.mode, b.index)

section

variable {r : MakeHoleRecords} {now : Nat → Int}

theorem recommands_scores (r : MakeHoleRecords) (now : Nat → Int) (k : Nat) :
    (recommands r now k).scores =
      (descend BehaviorScore.score BehaviorScore.lower)^[k] r.scores := by
  induction k with
  | zero => rfl
  | succ k ih => rw [recommands, recommand_scores, ih, Function.iterate_succ_apply']

theorem recommands_rows (r : MakeHoleRecords) (now : Nat → Int) (k : Nat) :
    (recommands r now k).scores.map BehaviorScore.row = r.scores.map BehaviorScore.row := by
  induction k with
  | zero => rfl
  | succ k ih => rw [recommands, recommand_rows, ih]

theorem recommands_add (r : MakeHoleRecords) (now : Nat → Int) (m k : Nat) :
    recommands (recommands r now m) (fun j => now (m + j)) k = recommands r now (m + k) := by
  induction k with
  | zero => rfl
  | succ k ih => rw [recommands, ih, ← Nat.add_assoc, recommands]

/-- A call returns the entry at the first of the best positions. -/
theorem returnedBy_iff {i k : Nat} :
    ReturnedBy r now i (k + 1) ↔
      firstMax BehaviorScore.score (recommands r now k).scores = some i := by
  constructor
  · intro ⟨k', b, hk, hget, heq⟩
    obtain rfl := Nat.succ.inj hk
    have hne : (recommands r now k).scores ≠ [] := by
      intro hnil
      rw [hnil] at hget
      cases hget
    obtain ⟨j, c, hmax, hspec⟩ := recommand_spec hne (now k)
    -- the score at `i` went down, so `i` is the position that was taken
    rw [hmax.firstMax]
    by_contra hji
    have hji : j ≠ i := fun he => hji (by rw [he])
    have hscores := congrArg (fun x => x.1.scores[i]?) (hspec.symm.trans heq)
    dsimp only at hscores
    have hi := (List.getElem?_eq_some_iff.mp hget).1
    rw [List.getElem?_set_ne hji, List.getElem?_set_self hi, hget, Option.some.injEq] at hscores
    have hscore := congrArg BehaviorScore.score hscores
    dsimp only at hscore
    omega
  · intro hfirst
    obtain ⟨c, hc⟩ := firstMax_spec hfirst
    have hne : (recommands r now k).scores ≠ [] := by
      intro hnil
      rw [hnil] at hfirst
      cases hfirst
    obtain ⟨j, b, hmax, hspec⟩ := recommand_spec hne (now k)
    obtain rfl := hmax.unique hc
    exact ⟨k, b, rfl, hmax.get, hspec⟩

theorem returnedBy_zero (i : Nat) : ¬ ReturnedBy r now i 0 := by
  intro ⟨k, _, hk, _⟩
  cases hk

/-- What a call returns is the row of its position, as it was at first. -/
theorem ReturnedBy.recommended_eq {i k : Nat} {b : BehaviorScore} (h : ReturnedBy r now i (k + 1))
    (hb : r.scores[i]? = some b) : recommended r now k = b.row := by
  obtain ⟨k', c, hk, hget, heq⟩ := h
  obtain rfl := Nat.succ.inj hk
  have hrows := congrArg (fun l : List (Int × Int) => l[i]?) (recommands_rows r now k)
  simp only [List.getElem?_map, hget, hb, Option.map_some, Option.some.injEq] at hrows
  rw [recommended, heq, ← hrows]
  rfl

theorem lower_score (b : BehaviorScore) : b.lower.score = b.score - 1 := rfl

theorem first_returned (now : Nat → Int) {i : Nat} {b : BehaviorScore} (h : r.scores[i]? = some b) :
    IsLeast {n | ReturnedBy r now i n} (1 + ahead BehaviorScore.score r.scores i b) := by
  obtain ⟨hmax, hearlier⟩ := descend_first lower_score h
  constructor
  · show ReturnedBy r now i (1 + _)
    rw [Nat.add_comm, returnedBy_iff, recommands_scores]
    exact hmax.firstMax
  · intro n hn
    cases n with
    | zero => exact absurd hn (returnedBy_zero i)
    | succ k =>
      have hfirst := returnedBy_iff.mp hn
      rw [recommands_scores] at hfirst
      by_contra hlt
      exact hearlier k (by omega) hfirst

/-- After any number of calls there is a further one that returns the entry. -/
theorem returned_again {i : Nat} {b : BehaviorScore} (h : r.scores[i]? = some b) (m : Nat) :
    ∃ n, m < n ∧ ReturnedBy r now i n := by
  have hlen : i < (recommands r now m).scores.length := by
    have hlen := congrArg List.length (recommands_rows r now m)
    rw [List.length_map, List.length_map] at hlen
    rw [hlen]
    exact (List.getElem?_eq_some_iff.mp h).1
  have hleast := (first_returned (r := recommands r now m) (fun j => now (m + j))
    (List.getElem?_eq_getElem hlen)).1
  obtain ⟨k, c, -, hget, heq⟩ := hleast
  rw [recommands_add] at hget heq
  exact ⟨m + k + 1, by omega, m + k, c, rfl, hget, heq⟩

theorem returned_in_turn {s : Int} (hne : r.scores ≠ []) (hs : ∀ a ∈ r.scores, a.score = s)
    (k : Nat) : ReturnedBy r now (k % r.scores.length) (k + 1) := by
  obtain ⟨s', hstair⟩ := descend_turns lower_score hne hs k
  obtain ⟨a, hmax, -⟩ := hstair.isFirstMax
  rw [returnedBy_iff, recommands_scores]
  exact hmax.firstMax

/-- As many calls in a row as there are entries give the list of rows, from some entry on. -/
theorem recommended_round {s : Int} (hne : r.scores ≠ []) (hs : ∀ a ∈ r.scores, a.score = s)
    (k : Nat) : (List.range r.scores.length).map (fun m => recommended r now (k + m)) =
      (r.scores.map BehaviorScore.row).rotate k := by
  apply List.ext_getElem
  · simp
  · intro m hm hm'
    have hlt : (k + m) % r.scores.length < r.scores.length :=
      Nat.mod_lt _ (List.length_pos_of_ne_nil hne)
    rw [List.getElem_map, List.getElem_range, List.getElem_rotate,
      (returned_in_turn hne hs (k + m)).recommended_eq (List.getElem?_eq_getElem hlt)]
    simp [Nat.add_comm]

end

/-- The schedule: with scores `s 0`, `s 1`, … entry `i` is first returned by call number
`1 + ∑ j < i, max 0 (s j - s i + 1) + ∑ j > i, max 0 (s j - s i)`, and again after any number
of calls; from equal scores the entries take turns in the order of the list. -/
theorem exploration_schedule (r : MakeHoleRecords) (now : Nat → Int) {i : Nat}
    {b : BehaviorScore} (h : r.scores[i]? = some b) :
    IsLeast {n | ReturnedBy r now i n}
      (1 + (((r.scores.take i).map fun a => (max 0 (a.score - b.score + 1)).toNat).sum +
        ((r.scores.drop (i + 1)).map fun a => (max 0 (a.score - b.score)).toNat).sum)) ∧
    (∀ m, ∃ n, m < n ∧ ReturnedBy r now i n) ∧
    ((∀ a ∈ r.scores, a.score = b.score) → ∀ k,
      ReturnedBy r now (k % r.scores.length) (k + 1) ∧
      (List.range r.scores.length).map (fun m => recommended r now (k + m)) =
        (r.scores.map BehaviorScore.row).rotate k) := by
  have hne : r.scores ≠ [] := by
    intro hnil
    rw [hnil] at h
    cases h
  have hmax : ∀ x : Int, (max 0 x).toNat = x.toNat := by
    intro x
    omega
  refine ⟨?_, returned_again h, fun hs k => ⟨returned_in_turn hne hs k, recommended_round hne hs k⟩⟩
  simp only [hmax]
  exact first_returned now h

/-- Three entries with scores 1, 0 and 2: the second is first returned by call number 5. -/
theorem exploration_schedule_three :
    IsLeast {n | ReturnedBy ⟨[⟨0, 0, 1⟩, ⟨0, 1, 0⟩, ⟨0, 2, 2⟩], 0⟩ (fun k => k) 1 n} 5 :=
  (exploration_schedule ⟨[⟨0, 0, 1⟩, ⟨0, 1, 0⟩, ⟨0, 2, 2⟩], 0⟩ (fun k => k) (i := 1) rfl).1

end FrpXtcp.Nathole

import Mathlib.Logic.Relation
import FrpXtcp.Nathole.AnalyzerRuns

/-!
# A strategy that works is kept

A recommendation lowers its entry by one, and a success raises it by two, but not above 10.
No score is ever above 10, so one report brings the entry back at least to where it was when
it was the best; the entries of a record stand for different rows, so the report raises that
entry and no other.
-/
namespace FrpXtcp.Nathole.AnalyzerRuns

open FrpXtcp.Lib

/-- No score is above the cap, and no row has two entries. -/
structure Sound (r : MakeHoleRecords) : Prop where
  le : ∀ b ∈ r.scores, b.score ≤ 10
  nodup : (r.scores.map BehaviorScore.row).Nodup

theorem mode0Scores_rows (c v : NatFeature) :
    (mode0Scores c v).map BehaviorScore.row =
      (getBehaviorScoresByMode 0 0).map BehaviorScore.row := by
  unfold mode0Scores
  split_ifs <;> decide

theorem newScores_nodup (c v : NatFeature) : ((newScores c v).map BehaviorScore.row).Nodup := by
  unfold newScores
  dsimp only
  split_ifs
  · rw [mode0Scores_rows]
    decide
  · rw [List.map_append, mode0Scores_rows]
    decide
  · rw [List.map_append, mode0Scores_rows]
    decide
  all_goals decide

theorem Sound.new (c v : NatFeature) (now : Int) : Sound (newMakeHoleRecordsWithClock c v now) := by
  constructor
  · intro b hb
    have := (newScores_mem c v b hb).2.2
    omega
  · exact newScores_nodup c v

theorem Sound.recommand {r : MakeHoleRecords} (h : Sound r) (now : Int) :
    Sound (r.recommand now).1 := by
  constructor
  · by_cases hne : r.scores = []
    · simp [MakeHoleRecords.recommand, hne, firstMax]
    · obtain ⟨i, b, hb, hr⟩ := recommand_spec hne now
      rw [hr]
      intro x hx
      rcases List.mem_or_eq_of_mem_set hx with hx | rfl
      · exact h.le x hx
      · have := h.le b (List.mem_of_getElem? hb.get)
        dsimp only
        omega
  · rw [recommand_rows]
    exact h.nodup

theorem Sound.reportSuccess {r : MakeHoleRecords} (h : Sound r) (mode index now : Int) :
    Sound (r.reportSuccess mode index now) := by
  constructor
  · intro x hx
    rcases mem_raise hx with hx | ⟨b, -, rfl⟩
    · exact h.le x hx
    · dsimp only
      omega
  · rw [MakeHoleRecords.reportSuccess, raise_rows]
    exact h.nodup

theorem reachable_sound {D : Int} {a : Analyzer} (h : (system D).Reachable a) :
    ∀ key r, a.records.get? key = some r → Sound r :=
  reachable_records Sound.new (fun _ now hr => hr.recommand now)
    (fun _ mode index now hr => hr.reportSuccess mode index now) h

theorem raise_of_notMem {mode index : Int} {l : List BehaviorScore}
    (h : (mode, index) ∉ l.map BehaviorScore.row) : raise mode index l = l := by
  induction l with
  | nil => rfl
  | cons b l ih =>
    rw [List.map_cons, List.mem_cons, not_or] at h
    have hne : b.mode ≠ mode ∨ b.index ≠ index := by
      by_contra hc
      rw [not_or, not_not, not_not] at hc
      exact h.1 (by rw [BehaviorScore.row, hc.1, hc.2])
    rw [raise, if_pos hne, ih h.2]

/-- With different rows the entry that is raised is the one of the given row. -/
theorem raise_eq_set {l : List BehaviorScore} {i : Nat} {b : BehaviorScore}
    (hnodup : (l.map BehaviorScore.row).Nodup) (hget : l[i]? = some b) :
    raise b.mode b.index l = l.set i { b with score := min (b.score + 2) 10 } := by
  induction l generalizing i with
  | nil => cases hget
  | cons c l ih =>
    rw [List.map_cons, List.nodup_cons] at hnodup
    cases i with
    | zero =>
      obtain rfl := Option.some.inj hget
      rw [raise, if_neg (by simp)]
      rfl
    | succ i =>
      have hmem : b.row ∈ l.map BehaviorScore.row :=
        List.mem_map_of_mem (List.mem_of_getElem? (i := i) hget)
      have hne : c.mode ≠ b.mode ∨ c.index ≠ b.index := by
        by_contra hc
        rw [not_or, not_not, not_not] at hc
        exact hnodup.1 (by rw [BehaviorScore.row, hc.1, hc.2]; exact hmem)
      rw [raise, if_pos hne, ih hnodup.2 hget]
      rfl

section Rounds

/-- A call between two recommendations for `key` that reports no other entry of its record
and does not remove the record. -/
def Quiet (key : String) (mode index : Int) (a : Analyzer) : Call → Prop
  | .getRecommandBehaviors key' _ _ _ => key' ≠ key
  | .reportSuccess key' mode' index' _ =>
    key' = key → (mode', index') ≠ (mode, index) →
      ∀ r ∈ a.records.get? key, (mode', index') ∉ r.scores.map BehaviorScore.row
  | .clean now => (a.clean now).1.records.get? key ≠ none

instance (key : String) (mode index : Int) (a : Analyzer) :
    (call : Call) → Decidable (Quiet key mode index a call)
  | .getRecommandBehaviors _ _ _ _ => inferInstanceAs (Decidable (_ ≠ _))
  | .reportSuccess _ _ _ _ => inferInstanceAs (Decidable (_ → _))
  | .clean _ => inferInstanceAs (Decidable (_ ≠ _))

/-- A recommendation for `key` and then quiet calls, with at least one report that `mode` and
`index` worked. -/
inductive Round (D : Int) (key : String) (mode index : Int) : Analyzer → Analyzer → Prop
  | intro {a a' : Analyzer} (c v : NatFeature) (now : Int) (calls : List Call)
    (quiet : (system D).Along (Quiet key mode index)
      (next a (.getRecommandBehaviors key c v now)) calls)
    (success : ∃ t, .reportSuccess key mode index t ∈ calls)
    (run : (system D).run (next a (.getRecommandBehaviors key c v now)) calls = some a') :
    Round D key mode index a a'

/-- The record of `key` is `l` except that the entry `b` at position `i` has the score `x`. -/
def Held (key : String) (l : List BehaviorScore) (i : Nat) (b : BehaviorScore) (x : Int)
    (a : Analyzer) : Prop :=
  ∃ r, a.records.get? key = some r ∧ r.scores = l.set i { b with score := x }

variable {D : Int} {key : String} {l : List BehaviorScore} {i : Nat} {b : BehaviorScore} {x : Int}

theorem set_rows (hget : l[i]? = some b) (x : Int) :
    (l.set i { b with score := x }).map BehaviorScore.row = l.map BehaviorScore.row := by
  obtain ⟨hi, rfl⟩ := List.getElem?_eq_some_iff.mp hget
  apply List.ext_getElem
  · simp
  · intro j hj hj'
    rw [List.getElem_map, List.getElem_map, List.getElem_set]
    split
    · subst j
      rfl
    · rfl

/-- A quiet call raises the entry or leaves the record as it is. -/
theorem Held.next {a : Analyzer} {call : Call} (hnodup : (l.map BehaviorScore.row).Nodup)
    (hget : l[i]? = some b) (h : Held key l i b x a) (hquiet : Quiet key b.mode b.index a call) :
    (∃ t, call = .reportSuccess key b.mode b.index t ∧
      Held key l i b (min (x + 2) 10) (next a call)) ∨
    ((∀ t, call ≠ .reportSuccess key b.mode b.index t) ∧ Held key l i b x (next a call)) := by
  obtain ⟨r, hr, hscores⟩ := h
  cases call with
  | getRecommandBehaviors key' c v now =>
    refine Or.inr ⟨by simp, r, ?_, hscores⟩
    simp only [AnalyzerRuns.next, Analyzer.getRecommandBehaviors, GoMap.get?_insert]
    rw [if_neg (Ne.symm hquiet)]
    exact hr
  | clean now =>
    refine Or.inr ⟨by simp, r, ?_, hscores⟩
    obtain ⟨r', hr'⟩ := Option.ne_none_iff_exists'.mp hquiet
    have hsame := ((GoMap.get?_filter_eq_some _ _ _ _).mp hr').1
    obtain rfl := Option.some.inj (hr.symm.trans hsame)
    exact hr'
  | reportSuccess key' mode index now =>
    by_cases hkey : key' = key
    · subst hkey
      have hnext : (AnalyzerRuns.next a (.reportSuccess key' mode index now)).records.get? key' =
          some (r.reportSuccess mode index now) := by
        simp [AnalyzerRuns.next, Analyzer.reportSuccess, hr]
      by_cases hrow : (mode, index) = (b.mode, b.index)
      · obtain ⟨rfl, rfl⟩ := Prod.mk.inj hrow
        have hi := (List.getElem?_eq_some_iff.mp hget).1
        refine Or.inl ⟨now, rfl, _, hnext, ?_⟩
        have hraise := raise_eq_set (l := l.set i { b with score := x }) (i := i)
          (by rw [set_rows hget]; exact hnodup) (List.getElem?_set_self hi)
        rw [MakeHoleRecords.reportSuccess, hscores, hraise, List.set_set]
      · refine Or.inr ⟨?_, _, hnext, ?_⟩
        · intro t ht
          obtain ⟨-, rfl, rfl, -⟩ := Call.reportSuccess.inj ht
          exact hrow rfl
        · rw [MakeHoleRecords.reportSuccess, raise_of_notMem (hquiet rfl hrow r hr)]
          exact hscores
    · refine Or.inr ⟨?_, r, ?_, hscores⟩
      · intro t ht
        exact hkey (Call.reportSuccess.inj ht).1
      · simp only [AnalyzerRuns.next, Analyzer.reportSuccess]
        split
        · exact hr
        · rw [GoMap.get?_insert, if_neg (Ne.symm hkey)]
          exact hr

/-- Along quiet calls an entry that is at most one below its old score, and is reported if it
is below, ends at its old score or above. -/
theorem Held.run {calls : List Call} {a a' : Analyzer} (hnodup : (l.map BehaviorScore.row).Nodup)
    (hget : l[i]? = some b) (hcap : b.score ≤ 10) (h : Held key l i b x a)
    (hx : b.score - 1 ≤ x)
    (hreport : b.score ≤ x ∨ ∃ t, .reportSuccess key b.mode b.index t ∈ calls)
    (hquiet : (system D).Along (Quiet key b.mode b.index) a calls)
    (hrun : (system D).run a calls = some a') :
    ∃ x', b.score ≤ x' ∧ Held key l i b x' a' := by
  induction calls generalizing a x with
  | nil =>
    obtain rfl := Option.some.inj hrun
    rcases hreport with hx | ⟨t, ht⟩
    · exact ⟨x, hx, h⟩
    · cases ht
  | cons call calls ih =>
    have htail := hquiet.2 _ rfl
    rcases h.next hnodup hget hquiet.1 with ⟨t, -, hnext⟩ | ⟨hother, hnext⟩
    · exact ih hnext (by omega) (Or.inl (by omega)) htail hrun
    · refine ih hnext hx ?_ htail hrun
      rcases hreport with hx | ⟨t, ht⟩
      · exact Or.inl hx
      · rcases List.mem_cons.mp ht with rfl | ht
        · exact absurd rfl (hother t)
        · exact Or.inr ⟨t, ht⟩

/-- The best entry of the record of `key` stands for `mode` and `index`. -/
def Best (key : String) (mode index : Int) (a : Analyzer) : Prop :=
  ∃ r i b, a.records.get? key = some r ∧ IsFirstMax BehaviorScore.score r.scores i b ∧
    b.mode = mode ∧ b.index = index

theorem isFirstMax_set (h : IsFirstMax BehaviorScore.score l i b) (hx : b.score ≤ x) :
    IsFirstMax BehaviorScore.score (l.set i { b with score := x }) i { b with score := x } := by
  have hi := (List.getElem?_eq_some_iff.mp h.get).1
  constructor
  · exact List.getElem?_set_self hi
  · intro c hc
    rcases List.mem_or_eq_of_mem_set hc with hc | rfl
    · exact le_trans (h.le c hc) hx
    · exact le_refl _
  · intro j c hj hc
    rw [List.getElem?_set_ne (by omega)] at hc
    exact lt_of_lt_of_le (h.lt j c hj hc) hx

theorem Best.round {mode index : Int} {a a' : Analyzer} (hreach : (system D).Reachable a)
    (h : Best key mode index a) (hround : Round D key mode index a a') :
    (system D).Reachable a' ∧ Best key mode index a' := by
  obtain ⟨r, i, b, hr, hmax, rfl, rfl⟩ := h
  obtain ⟨c, v, now, calls, hquiet, hsuccess, hrun⟩ := hround
  have hsound := reachable_sound hreach key r hr
  have hne : r.scores ≠ [] := (reachable_wellFormed hreach key r hr).ne_nil
  constructor
  · exact (hreach.next (a := .getRecommandBehaviors key c v now) rfl).run hrun
  · obtain ⟨j, b', hmax', hspec⟩ := recommand_spec hne now
    obtain rfl := hmax.unique hmax'
    obtain rfl := Option.some.inj (hmax.get.symm.trans hmax'.get)
    -- the recommendation takes one off the best entry
    have hheld : Held key r.scores i b (b.score - 1)
        (next a (.getRecommandBehaviors key c v now)) := by
      refine ⟨(r.recommand now).1, ?_, by rw [hspec]⟩
      simp [next, Analyzer.getRecommandBehaviors, Analyzer.recordFor, hr]
    obtain ⟨x, hx, r', hr', hscores⟩ := hheld.run hsound.nodup hmax.get
      (hsound.le b (List.mem_of_getElem? hmax.get)) (le_refl _) (Or.inr hsuccess) hquiet hrun
    refine ⟨r', i, { b with score := x }, hr', ?_, rfl, rfl⟩
    rw [hscores]
    exact isFirstMax_set hmax hx

/-- A recommendation for an existing record is its best entry. -/
theorem best_iff {a : Analyzer} {r : MakeHoleRecords} (hr : a.records.get? key = some r)
    (hne : r.scores ≠ []) (c v : NatFeature) (now mode index : Int) :
    Best key mode index a ↔ (a.getRecommandBehaviors key c v now).2.1 = mode ∧
      (a.getRecommandBehaviors key c v now).2.2.1 = index := by
  obtain ⟨i, b, hmax, hspec⟩ := recommand_spec hne now
  simp only [Analyzer.getRecommandBehaviors, Analyzer.recordFor, hr, Option.getD_some, hspec]
  constructor
  · rintro ⟨r', i', b', hr', hmax', hmode, hindex⟩
    obtain rfl := Option.some.inj (hr.symm.trans hr')
    obtain rfl := hmax.unique hmax'
    obtain rfl := Option.some.inj (hmax.get.symm.trans hmax'.get)
    exact ⟨hmode, hindex⟩
  · rintro ⟨hmode, hindex⟩
    exact ⟨r, i, b, hr, hmax, hmode, hindex⟩

/-- If a recommendation for an existing record is `mode` and `index`, then after any number of
rounds of recommending and succeeding so is the next one. -/
theorem success_kept {a a' : Analyzer} (h : (system D).Reachable a) {r : MakeHoleRecords}
    (hr : a.records.get? key = some r) {c v : NatFeature} {now mode index : Int}
    (hmode : (a.getRecommandBehaviors key c v now).2.1 = mode)
    (hindex : (a.getRecommandBehaviors key c v now).2.2.1 = index)
    (hrounds : Relation.ReflTransGen (Round D key mode index) a a') (c' v' : NatFeature)
    (now' : Int) :
    (a'.getRecommandBehaviors key c' v' now').2.1 = mode ∧
      (a'.getRecommandBehaviors key c' v' now').2.2.1 = index := by
  have hwf := (reachable_wellFormed h key r hr).ne_nil
  have hall : (system D).Reachable a' ∧ Best key mode index a' := by
    induction hrounds with
    | refl => exact ⟨h, (best_iff hr hwf c v now mode index).mpr ⟨hmode, hindex⟩⟩
    | tail _ hround ih => exact ih.2.round ih.1 hround
  obtain ⟨hreach, hbest⟩ := hall
  have hbest' := hbest
  obtain ⟨r', _, _, hr', -⟩ := hbest'
  have hwf' := (reachable_wellFormed hreach key r' hr').ne_nil
  exact (best_iff hr' hwf' c' v' now' mode index).mp hbest

/-- One recommendation for "k" has been made, and the next strategy, number 1, works. Meanwhile
another pair is served and old records are cleaned. -/
def worked : List Call :=
  [.getRecommandBehaviors "l" easy regular 1, .reportSuccess "l" 1 0 2,
    .reportSuccess "k" 0 1 2, .clean 3]

theorem success_kept_once :
    ∃ a a', (system 5).Reachable a ∧ Round 5 "k" 0 1 a a' ∧
      (a.getRecommandBehaviors "k" easy easy 1).2.1 = 0 ∧
      (a'.getRecommandBehaviors "k" easy easy 4).2.2.1 = 1 := by
  let a := next (newAnalyzerWithClock 5) (.getRecommandBehaviors "k" easy easy 0)
  have ha : (system 5).Reachable a :=
    System.reachable_init.next (a := .getRecommandBehaviors "k" easy easy 0) rfl
  have hround : Round 5 "k" 0 1 a
      (worked.foldl next (next a (.getRecommandBehaviors "k" easy easy 1))) :=
    .intro easy easy 1 worked (by decide +kernel) ⟨2, by simp [worked]⟩ rfl
  have hr : a.records.get? "k" =
      some ((newMakeHoleRecordsWithClock easy easy 0).recommand 0).1 := by
    simp [a, next, Analyzer.getRecommandBehaviors, Analyzer.recordFor, newAnalyzerWithClock]
  have hmode : (a.getRecommandBehaviors "k" easy easy 1).2.1 = 0 := by decide +kernel
  have hindex : (a.getRecommandBehaviors "k" easy easy 1).2.2.1 = 1 := by decide +kernel
  exact ⟨a, _, ha, hround, hmode, (success_kept ha hr hmode hindex (.single hround) easy easy 4).2⟩

end Rounds

end FrpXtcp.Nathole.AnalyzerRuns

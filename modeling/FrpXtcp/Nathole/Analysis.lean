import Mathlib.Data.Int.Order.Basic
import FrpXtcp.Lib.FirstMax
import FrpXtcp.Lib.GoMap
import FrpXtcp.Nathole.Classify

/-!
# Recommended behaviours

`pkg/nathole/analysis.go`: the tables of behaviours for the five modes, the scores of
one pair of peers and the analyzer's calls. A call is a function of the analyzer; the
clock's reading is an argument. Scores are unbounded integers.
-/
namespace FrpXtcp.Nathole

open FrpXtcp.Lib

/-- `DetectRoleSender`, `DetectRoleReceiver` and the empty string of a zero value. -/
inductive DetectRole where
  | unset
  | sender
  | receiver
  deriving DecidableEq

structure RecommandBehavior where
  role : DetectRole := .unset
  ttl : Int64 := 0
  sendDelayMs : Int64 := 0
  portsRangeNumber : Int64 := 0
  portsRandomNumber : Int64 := 0
  listenRandomPorts : Int64 := 0
  deriving DecidableEq

/-- A row of a table: the behaviours of the client and of the visitor. -/
abbrev Row := RecommandBehavior × RecommandBehavior

def mode0Behaviors : List Row :=
  [({ role := .sender }, { role := .receiver, ttl := 7 }),
   ({ role := .receiver, ttl := 7 }, { role := .sender }),
   ({ role := .sender }, { role := .receiver, ttl := 4 }),
   ({ role := .receiver, ttl := 4 }, { role := .sender }),
   ({ role := .sender }, { role := .receiver }),
   ({ role := .receiver }, { role := .sender }),
   ({ role := .sender, sendDelayMs := 5000 }, { role := .receiver }),
   ({ role := .sender, sendDelayMs := 10000 }, { role := .receiver }),
   ({ role := .receiver }, { role := .sender, sendDelayMs := 5000 }),
   ({ role := .receiver }, { role := .sender, sendDelayMs := 10000 })]

def mode1Behaviors : List Row :=
  [({ role := .sender }, { role := .receiver, ttl := 7, portsRangeNumber := 10 }),
   ({ role := .sender, sendDelayMs := 2000 },
     { role := .receiver, ttl := 7, portsRangeNumber := 10 }),
   ({ role := .sender }, { role := .receiver, ttl := 4, portsRangeNumber := 10 }),
   ({ role := .sender, sendDelayMs := 2000 },
     { role := .receiver, ttl := 4, portsRangeNumber := 10 }),
   ({ role := .sender }, { role := .receiver, portsRangeNumber := 10 }),
   ({ role := .sender, sendDelayMs := 2000 }, { role := .receiver, portsRangeNumber := 10 })]

def mode2Behaviors : List Row :=
  [({ role := .sender, portsRandomNumber := 1000, sendDelayMs := 3000 },
     { role := .receiver, listenRandomPorts := 256, ttl := 7 }),
   ({ role := .sender, portsRandomNumber := 1000, sendDelayMs := 3000 },
     { role := .receiver, listenRandomPorts := 256, ttl := 4 }),
   ({ role := .sender, portsRandomNumber := 1000, sendDelayMs := 3000 },
     { role := .receiver, listenRandomPorts := 256 })]

def mode3Behaviors : List Row :=
  [({ role := .sender, portsRangeNumber := 10 },
     { role := .receiver, ttl := 7, portsRangeNumber := 10 }),
   ({ role := .sender, portsRangeNumber := 10 },
     { role := .receiver, ttl := 4, portsRangeNumber := 10 }),
   ({ role := .sender, portsRangeNumber := 10 }, { role := .receiver, portsRangeNumber := 10 }),
   ({ role := .receiver, ttl := 7, portsRangeNumber := 10 },
     { role := .sender, portsRangeNumber := 10 }),
   ({ role := .receiver, ttl := 4, portsRangeNumber := 10 },
     { role := .sender, portsRangeNumber := 10 }),
   ({ role := .receiver, portsRangeNumber := 10 }, { role := .sender, portsRangeNumber := 10 })]

def mode4Behaviors : List Row :=
  [({ role := .sender, portsRandomNumber := 1000, sendDelayMs := 3000 },
     { role := .receiver, listenRandomPorts := 256, ttl := 7, portsRangeNumber := 2 }),
   ({ role := .sender, portsRandomNumber := 1000, sendDelayMs := 3000 },
     { role := .receiver, listenRandomPorts := 256, ttl := 4, portsRangeNumber := 2 }),
   ({ role := .sender, portsRandomNumber := 1000, sendDelayMs := 3000 },
     { role := .receiver, listenRandomPorts := 256, portsRangeNumber := 2 })]

def getBehaviorByMode (mode : Int) : List Row :=
  if mode = 0 then mode0Behaviors
  else if mode = 1 then mode1Behaviors
  else if mode = 2 then mode2Behaviors
  else if mode = 3 then mode3Behaviors
  else if mode = 4 then mode4Behaviors
  else mode0Behaviors

/-- `none` where the index expression panics. -/
def getBehaviorByModeAndIndex (mode index : Int) : Option Row :=
  let behaviors := getBehaviorByMode mode
  if (behaviors.length : Int) ≤ index then some ({}, {})
  else if index < 0 then none
  else behaviors[index.toNat]?

/-- The score is an `int` in the source, far from where it could wrap. -/
structure BehaviorScore where
  mode : Int
  index : Int
  score : Int
  deriving DecidableEq

def getBehaviorScoresByMode2 (mode senderScore receiverScore : Int) : List BehaviorScore :=
  (getBehaviorByMode mode).zipIdx.map fun (row, i) =>
    ⟨mode, i, if row.1.role = .sender then senderScore else receiverScore⟩

def getBehaviorScoresByMode (mode defaultScore : Int) : List BehaviorScore :=
  getBehaviorScoresByMode2 mode defaultScore defaultScore

structure MakeHoleRecords where
  scores : List BehaviorScore
  lastUpdateTime : Int
  deriving DecidableEq

/-- The closure `appendMode0` of `newMakeHoleRecordsWithClock`, as what it appends. -/
def mode0Scores (c v : NatFeature) : List BehaviorScore :=
  if c.publicNetwork then getBehaviorScoresByMode2 0 0 1
  else if v.publicNetwork then getBehaviorScoresByMode2 0 1 0
  else getBehaviorScoresByMode 0 0

def newScores (c v : NatFeature) : List BehaviorScore :=
  let n := classifyFeatureCount [c, v]
  if n.easyCount = 2 then mode0Scores c v
  else if n.hardCount = 1 ∧ n.portsChangedRegularCount = 1 then
    getBehaviorScoresByMode 1 0 ++ getBehaviorScoresByMode 2 0 ++ mode0Scores c v
  else if n.hardCount = 1 ∧ n.portsChangedRegularCount = 0 then
    getBehaviorScoresByMode 2 0 ++ getBehaviorScoresByMode 1 0 ++ mode0Scores c v
  else if n.hardCount = 2 ∧ n.portsChangedRegularCount = 2 then
    getBehaviorScoresByMode 3 0 ++ getBehaviorScoresByMode 4 0
  else if n.hardCount = 2 ∧ n.portsChangedRegularCount = 1 then getBehaviorScoresByMode 4 0
  else
    -- hard to make hole, just trying it out
    getBehaviorScoresByMode 0 1 ++ getBehaviorScoresByMode 1 1 ++ getBehaviorScoresByMode 3 1

def newMakeHoleRecordsWithClock (c v : NatFeature) (now : Int) : MakeHoleRecords :=
  ⟨newScores c v, now⟩

/-- The loop of `reportSuccess`: the first entry that fits is raised. -/
def raise (mode index : Int) : List BehaviorScore → List BehaviorScore
  | [] => []
  | b :: bs =>
    if b.mode ≠ mode ∨ b.index ≠ index then b :: raise mode index bs
    else { b with score := min (b.score + 2) 10 } :: bs

namespace MakeHoleRecords

def reportSuccess (r : MakeHoleRecords) (mode index now : Int) : MakeHoleRecords :=
  ⟨raise mode index r.scores, now⟩

/-- The record afterwards, the mode and the index. -/
def recommand (r : MakeHoleRecords) (now : Int) : MakeHoleRecords × Int × Int :=
  match firstMax BehaviorScore.score r.scores with
  | none => (r, 0, 0)
  | some i =>
    let maxScore := r.scores.getD i ⟨0, 0, 0⟩
    (⟨r.scores.set i { maxScore with score := maxScore.score - 1 }, now⟩,
      maxScore.mode, maxScore.index)

end MakeHoleRecords

/-- The last part of `GetRecommandBehaviors`: the row, with its sides swapped where the
mode ties a role to a kind of NAT. -/
def assignBehaviors (mode index : Int) (c : NatFeature) : Option Row :=
  (getBehaviorByModeAndIndex mode index).map fun row =>
    if mode = 1 then if c.natType = .easyNAT then row.swap else row
    else if mode = 2 then if c.natType = .hardNAT then row.swap else row
    else if mode = 4 then if !c.regularPortsChange then row.swap else row
    else row

structure Analyzer where
  records : GoMap String MakeHoleRecords
  dataReserveDuration : Int

def newAnalyzerWithClock (dataReserveDuration : Int) : Analyzer := ⟨.empty, dataReserveDuration⟩

namespace Analyzer

/-- The record that the first section of `GetRecommandBehaviors` finds or creates. -/
def recordFor (a : Analyzer) (key : String) (c v : NatFeature) (now : Int) : MakeHoleRecords :=
  (a.records.get? key).getD (newMakeHoleRecordsWithClock c v now)

/-- The analyzer afterwards, the mode, the index and the two behaviours. -/
def getRecommandBehaviors (a : Analyzer) (key : String) (c v : NatFeature) (now : Int) :
    Analyzer × Int × Int × Option Row :=
  let (r, mode, index) := (a.recordFor key c v now).recommand now
  ({ a with records := a.records.insert key r }, mode, index, assignBehaviors mode index c)

def reportSuccess (a : Analyzer) (key : String) (mode index now : Int) : Analyzer :=
  match a.records.get? key with
  | none => a
  | some r => { a with records := a.records.insert key (r.reportSuccess mode index now) }

/-- The test of the loop of `Clean`. -/
def stale (dataReserveDuration now : Int) (r : MakeHoleRecords) : Bool :=
  decide (dataReserveDuration < now - r.lastUpdateTime)

/-- The analyzer afterwards, the number of deleted records and the number before. -/
def clean (a : Analyzer) (now : Int) : Analyzer × Nat × Nat :=
  let kept := a.records.filter fun _ r => !stale a.dataReserveDuration now r
  ({ a with records := kept }, a.records.toList.length - kept.toList.length,
    a.records.toList.length)

end Analyzer

/-- The mode and the index that an entry stands for. -/
def BehaviorScore.row (b : BehaviorScore) : Int × Int := (b.mode, b.index)

/-- The row that an entry stands for is in the table of its mode. -/
def BehaviorScore.Names (b : BehaviorScore) : Prop :=
  0 ≤ b.mode ∧ b.mode ≤ 4 ∧ 0 ≤ b.index ∧ b.index < (getBehaviorByMode b.mode).length

instance (b : BehaviorScore) : Decidable b.Names := inferInstanceAs (Decidable (_ ∧ _))

section

variable {mode index now : Int} {r : MakeHoleRecords}

theorem mem_raise {l : List BehaviorScore} {b : BehaviorScore} (h : b ∈ raise mode index l) :
    b ∈ l ∨ ∃ b₀ ∈ l, b = { b₀ with score := min (b₀.score + 2) 10 } := by
  induction l with
  | nil => cases h
  | cons b₁ l ih =>
    simp only [raise] at h
    split at h
    · rcases List.mem_cons.mp h with rfl | h
      · exact Or.inl List.mem_cons_self
      · rcases ih h with h | ⟨b₀, h₀, rfl⟩
        · exact Or.inl (List.mem_cons_of_mem _ h)
        · exact Or.inr ⟨b₀, List.mem_cons_of_mem _ h₀, rfl⟩
    · rcases List.mem_cons.mp h with rfl | h
      · exact Or.inr ⟨b₁, List.mem_cons_self, rfl⟩
      · exact Or.inl (List.mem_cons_of_mem _ h)

theorem raise_rows (l : List BehaviorScore) :
    (raise mode index l).map BehaviorScore.row = l.map BehaviorScore.row := by
  induction l with
  | nil => rfl
  | cons b l ih =>
    simp only [raise]
    split
    · rw [List.map_cons, List.map_cons, ih]
    · rfl

/-- `recommand` on a record with entries lowers the first of the best ones and returns
the row that it stands for. -/
theorem recommand_spec (h : r.scores ≠ []) (now : Int) :
    ∃ i b, IsFirstMax BehaviorScore.score r.scores i b ∧
      r.recommand now =
        (⟨r.scores.set i { b with score := b.score - 1 }, now⟩, b.mode, b.index) := by
  cases hf : firstMax BehaviorScore.score r.scores with
  | none => exact absurd (firstMax_eq_none hf) h
  | some i =>
    obtain ⟨b, hb⟩ := firstMax_spec hf
    have hget : r.scores.getD i ⟨0, 0, 0⟩ = b := by
      rw [List.getD_eq_getElem?_getD, hb.get]
      rfl
    refine ⟨i, b, hb, ?_⟩
    simp only [MakeHoleRecords.recommand, hf, hget]

/-- `recommand` changes scores only. -/
theorem recommand_rows (r : MakeHoleRecords) (now : Int) :
    (r.recommand now).1.scores.map BehaviorScore.row = r.scores.map BehaviorScore.row := by
  by_cases hne : r.scores = []
  · simp [MakeHoleRecords.recommand, hne, firstMax]
  · obtain ⟨i, b, hb, hr⟩ := recommand_spec hne now
    rw [hr]
    apply List.ext_getElem?
    intro j
    by_cases hj : i = j
    · subst hj
      obtain ⟨hi, hget⟩ := List.getElem?_eq_some_iff.mp hb.get
      simp [hi, hget, BehaviorScore.row]
    · simp [hj]

theorem mode0Scores_mem (c v : NatFeature) :
    ∀ b ∈ mode0Scores c v, b.Names ∧ 0 ≤ b.score ∧ b.score ≤ 1 := by
  unfold mode0Scores
  split_ifs <;> decide

/-- A new record has entries for existing rows, with scores 0 and 1. -/
theorem newScores_mem (c v : NatFeature) :
    ∀ b ∈ newScores c v, b.Names ∧ 0 ≤ b.score ∧ b.score ≤ 1 := by
  have hall : ∀ m ∈ [0, 1, 2, 3, 4], ∀ p ∈ [0, 1],
      ∀ b ∈ getBehaviorScoresByMode m p, b.Names ∧ 0 ≤ b.score ∧ b.score ≤ 1 := by
    decide
  have hzero := mode0Scores_mem c v
  have h1 := hall 1 (by decide) 0 (by decide)
  have h2 := hall 2 (by decide) 0 (by decide)
  have h3 := hall 3 (by decide) 0 (by decide)
  have h4 := hall 4 (by decide) 0 (by decide)
  unfold newScores
  dsimp only
  split_ifs
  · exact hzero
  · exact List.forall_mem_append.mpr ⟨List.forall_mem_append.mpr ⟨h1, h2⟩, hzero⟩
  · exact List.forall_mem_append.mpr ⟨List.forall_mem_append.mpr ⟨h2, h1⟩, hzero⟩
  · exact List.forall_mem_append.mpr ⟨h3, h4⟩
  · exact h4
  · decide

theorem newScores_ne_nil (c v : NatFeature) : newScores c v ≠ [] := by
  have hzero : mode0Scores c v ≠ [] := by
    unfold mode0Scores
    split_ifs <;> decide
  unfold newScores
  dsimp only
  split_ifs
  · exact hzero
  · exact List.append_ne_nil_of_right_ne_nil _ hzero
  · exact List.append_ne_nil_of_right_ne_nil _ hzero
  all_goals decide

end

end FrpXtcp.Nathole

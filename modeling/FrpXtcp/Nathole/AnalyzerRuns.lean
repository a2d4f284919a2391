import FrpXtcp.Lib.Transition
import FrpXtcp.Nathole.Analysis

/-!
# Runs of the analyzer

Any sequence of `GetRecommandBehaviors`, `ReportSuccess` and `Clean`. Entries keep naming
rows of the tables, so that every recommendation is one sender and one receiver. Two
rules of the source hold only as long as the scores allow: `recommand` lowers a score
without a bound, and the rule that the public side receives is kept by initial scores
alone.
-/
namespace FrpXtcp.Nathole.AnalyzerRuns

open FrpXtcp.Lib

inductive Call where
  | getRecommandBehaviors (key : String) (c v : NatFeature) (now : Int)
  | reportSuccess (key : String) (mode index now : Int)
  | clean (now : Int)

def next (a : Analyzer) : Call → Analyzer
  | .getRecommandBehaviors key c v now => (a.getRecommandBehaviors key c v now).1
  | .reportSuccess key mode index now => a.reportSuccess key mode index now
  | .clean now => (a.clean now).1

def system (dataReserveDuration : Int) : System Analyzer Call :=
  ⟨newAnalyzerWithClock dataReserveDuration, fun a call => some (next a call)⟩

/-- Where a record of the next state comes from. -/
theorem next_record {a : Analyzer} {call : Call} {key : String} {r : MakeHoleRecords}
    (h : (next a call).records.get? key = some r) :
    a.records.get? key = some r ∨
    (∃ c v now, call = .getRecommandBehaviors key c v now ∧
      r = ((a.recordFor key c v now).recommand now).1) ∨
    (∃ mode index now r₀, call = .reportSuccess key mode index now ∧
      a.records.get? key = some r₀ ∧ r = r₀.reportSuccess mode index now) := by
  cases call with
  | getRecommandBehaviors key' c v now =>
    simp only [next, Analyzer.getRecommandBehaviors, GoMap.get?_insert] at h
    split at h
    · rename_i hk
      subst hk
      exact Or.inr (Or.inl ⟨c, v, now, rfl, (Option.some.inj h).symm⟩)
    · exact Or.inl h
  | reportSuccess key' mode index now =>
    simp only [next, Analyzer.reportSuccess] at h
    split at h
    · exact Or.inl h
    · rename_i r₀ hr
      rw [GoMap.get?_insert] at h
      split at h
      · rename_i hk
        subst hk
        exact Or.inr (Or.inr ⟨mode, index, now, r₀, rfl, hr, (Option.some.inj h).symm⟩)
      · exact Or.inl h
  | clean now => exact Or.inl ((GoMap.get?_filter_eq_some _ _ _ _).mp h).1

section Records

variable {P : MakeHoleRecords → Prop} (hnew : ∀ c v now, P (newMakeHoleRecordsWithClock c v now))
  (hrecommand : ∀ r now, P r → P (r.recommand now).1)
  (hreport : ∀ r mode index now, P r → P (r.reportSuccess mode index now))

include hnew hrecommand hreport

/-- What holds of a new record and is kept by its two calls is kept by every call of the
analyzer. -/
theorem next_records {a : Analyzer} (h : ∀ key r, a.records.get? key = some r → P r)
    (call : Call) : ∀ key r, (next a call).records.get? key = some r → P r := by
  intro key r hr
  rcases next_record hr with hr | ⟨c, v, now, -, rfl⟩ | ⟨mode, index, now, r₀, -, hr₀, rfl⟩
  · exact h key r hr
  · apply hrecommand
    unfold Analyzer.recordFor
    cases hr : a.records.get? key with
    | none => exact hnew c v now
    | some r => exact h key r hr
  · exact hreport r₀ mode index now (h key r₀ hr₀)

theorem reachable_records {D : Int} {a : Analyzer} (h : (system D).Reachable a) :
    ∀ key r, a.records.get? key = some r → P r := by
  refine System.invariant (I := fun a => ∀ key r, a.records.get? key = some r → P r)
    (fun key r hr => by cases hr) ?_ h
  intro s call s' _ hs hstep
  obtain rfl := Option.some.inj hstep
  exact next_records hnew hrecommand hreport hs call

end Records

/-- The record has entries, and each stands for a row of its mode's table. -/
structure WellFormed (r : MakeHoleRecords) : Prop where
  ne_nil : r.scores ≠ []
  names : ∀ b ∈ r.scores, b.Names

theorem WellFormed.new (c v : NatFeature) (now : Int) :
    WellFormed (newMakeHoleRecordsWithClock c v now) :=
  ⟨newScores_ne_nil c v, fun b hb => (newScores_mem c v b hb).1⟩

theorem WellFormed.of_rows {r r' : MakeHoleRecords} (h : WellFormed r)
    (he : r'.scores.map BehaviorScore.row = r.scores.map BehaviorScore.row) : WellFormed r' := by
  refine ⟨?_, ?_⟩
  · intro hnil
    rw [hnil] at he
    exact h.ne_nil (List.map_eq_nil_iff.mp he.symm)
  · intro b hb
    have hrow : b.row ∈ r.scores.map BehaviorScore.row := he ▸ List.mem_map_of_mem hb
    obtain ⟨b₀, hb₀, heq⟩ := List.mem_map.mp hrow
    obtain ⟨hmode, hindex⟩ := Prod.mk.inj heq
    have hn := h.names b₀ hb₀
    rw [BehaviorScore.Names, hmode, hindex] at hn
    exact hn

theorem WellFormed.recommand {r : MakeHoleRecords} (h : WellFormed r) (now : Int) :
    WellFormed (r.recommand now).1 :=
  h.of_rows (recommand_rows r now)

theorem WellFormed.reportSuccess {r : MakeHoleRecords} (h : WellFormed r) (mode index now : Int) :
    WellFormed (r.reportSuccess mode index now) :=
  h.of_rows (raise_rows r.scores)

def AllWellFormed (a : Analyzer) : Prop :=
  ∀ key r, a.records.get? key = some r → WellFormed r

theorem AllWellFormed.recordFor {a : Analyzer} (h : AllWellFormed a) (key : String)
    (c v : NatFeature) (now : Int) : WellFormed (a.recordFor key c v now) := by
  unfold Analyzer.recordFor
  cases hr : a.records.get? key with
  | none => exact .new c v now
  | some r => exact h key r hr

theorem AllWellFormed.next {a : Analyzer} (h : AllWellFormed a) (call : Call) :
    AllWellFormed (next a call) :=
  next_records WellFormed.new (fun _ now hr => hr.recommand now)
    (fun _ mode index now hr => hr.reportSuccess mode index now) h call

theorem reachable_wellFormed {D : Int} {a : Analyzer} (h : (system D).Reachable a) :
    AllWellFormed a :=
  reachable_records WellFormed.new (fun _ now hr => hr.recommand now)
    (fun _ mode index now hr => hr.reportSuccess mode index now) h

section Roles

/-- One side sends and the other receives. -/
def Opposite (row : Row) : Prop :=
  (row.1.role = .sender ∧ row.2.role = .receiver) ∨
    (row.1.role = .receiver ∧ row.2.role = .sender)

instance (row : Row) : Decidable (Opposite row) := inferInstanceAs (Decidable (_ ∨ _))

/-- The rows of the modes that tie a role to a kind of NAT list the sender first. -/
theorem getBehaviorByMode_roles (mode : Int) :
    ∀ row ∈ getBehaviorByMode mode, Opposite row ∧
      (mode = 1 ∨ mode = 2 ∨ mode = 4 → row.1.role = .sender ∧ row.2.role = .receiver) := by
  unfold getBehaviorByMode
  split_ifs with h0 h1 h2 h3 h4
  · subst h0
    decide
  · subst h1
    decide
  · subst h2
    decide
  · subst h3
    decide
  · subst h4
    decide
  · intro row hrow
    refine ⟨?_, fun h => by omega⟩
    revert row
    decide

theorem getBehaviorByModeAndIndex_names {b : BehaviorScore} (h : b.Names) :
    ∃ row ∈ getBehaviorByMode b.mode, getBehaviorByModeAndIndex b.mode b.index = some row := by
  obtain ⟨-, -, h0, hlt⟩ := h
  have hi : b.index.toNat < (getBehaviorByMode b.mode).length := by omega
  refine ⟨(getBehaviorByMode b.mode).get ⟨b.index.toNat, hi⟩, List.get_mem _ _, ?_⟩
  simp only [getBehaviorByModeAndIndex]
  rw [if_neg (by omega), if_neg (by omega)]
  exact List.getElem?_eq_getElem hi

/-- What the roles of a recommendation must be. -/
structure RolesFit (mode : Int) (c v : NatFeature) (row : Row) : Prop where
  opposite : Opposite row
  mode1_client : mode = 1 → c.natType = .hardNAT → v.natType ≠ .hardNAT → row.1.role = .sender
  mode1_visitor : mode = 1 → v.natType = .hardNAT → c.natType ≠ .hardNAT → row.2.role = .sender
  mode2_client : mode = 2 → c.natType = .hardNAT → v.natType ≠ .hardNAT → row.1.role = .receiver
  mode2_visitor : mode = 2 → v.natType = .hardNAT → c.natType ≠ .hardNAT → row.2.role = .receiver
  mode4_client : mode = 4 → c.regularPortsChange = true → v.regularPortsChange = false →
    row.1.role = .sender
  mode4_visitor : mode = 4 → v.regularPortsChange = true → c.regularPortsChange = false →
    row.2.role = .sender

theorem Opposite.swap {row : Row} (h : Opposite row) : Opposite row.swap := by
  rcases h with ⟨h1, h2⟩ | ⟨h1, h2⟩
  · exact Or.inr ⟨h2, h1⟩
  · exact Or.inl ⟨h2, h1⟩

theorem easyNAT_or_hardNAT (t : NatType) : t = .easyNAT ∨ t = .hardNAT := by
  cases t
  · exact Or.inl rfl
  · exact Or.inr rfl

/-- The swap puts the tied role on the side that the mode asks for, whatever features
the record was created with. -/
theorem assignBehaviors_fit {b : BehaviorScore} (h : b.Names) (c v : NatFeature) :
    ∃ row, assignBehaviors b.mode b.index c = some row ∧ RolesFit b.mode c v row := by
  obtain ⟨row, hrow, hget⟩ := getBehaviorByModeAndIndex_names h
  obtain ⟨hopp, htied⟩ := getBehaviorByMode_roles b.mode row hrow
  refine ⟨_, by rw [assignBehaviors, hget]; rfl, ?_⟩
  split_ifs with h1 hc h2 hc h4 hc
  · obtain ⟨hs, -⟩ := htied (Or.inl h1)
    exact ⟨hopp.swap, by simp [hc], fun _ _ _ => hs, by omega, by omega, by omega, by omega⟩
  · obtain ⟨hs, -⟩ := htied (Or.inl h1)
    have hhard := (easyNAT_or_hardNAT c.natType).resolve_left hc
    exact ⟨hopp, fun _ _ _ => hs, fun _ _ hn => absurd hhard hn, by omega, by omega, by omega,
      by omega⟩
  · obtain ⟨-, hr⟩ := htied (Or.inr (Or.inl h2))
    exact ⟨hopp.swap, by omega, by omega, fun _ _ _ => hr, fun _ _ hn => absurd hc hn, by omega,
      by omega⟩
  · obtain ⟨-, hr⟩ := htied (Or.inr (Or.inl h2))
    exact ⟨hopp, by omega, by omega, fun _ hh => absurd hh hc, fun _ _ _ => hr, by omega, by omega⟩
  · obtain ⟨hs, -⟩ := htied (Or.inr (Or.inr h4))
    exact ⟨hopp.swap, by omega, by omega, by omega, by omega, by simp_all, fun _ _ _ => hs⟩
  · obtain ⟨hs, -⟩ := htied (Or.inr (Or.inr h4))
    exact ⟨hopp, by omega, by omega, by omega, by omega, fun _ _ _ => hs, by simp_all⟩
  · exact ⟨hopp, by omega, by omega, by omega, by omega, by omega, by omega⟩

/-- With well-formed records a recommendation never leaves the tables. -/
theorem getRecommandBehaviors_wellFormed {a : Analyzer} (h : AllWellFormed a) (key : String)
    (c v : NatFeature) (now : Int) :
    ∃ (b : BehaviorScore) (row : Row), a.getRecommandBehaviors key c v now =
        (next a (.getRecommandBehaviors key c v now), b.mode, b.index, some row) ∧
      b.Names ∧ RolesFit b.mode c v row := by
  have hwf := h.recordFor key c v now
  obtain ⟨i, b, hb, hr⟩ := recommand_spec hwf.ne_nil now
  have hn := hwf.names b (List.mem_of_getElem? hb.get)
  obtain ⟨row, hrow, hfit⟩ := assignBehaviors_fit hn c v
  refine ⟨b, row, ?_, hn, hfit⟩
  simp only [next, Analyzer.getRecommandBehaviors, hr, hrow]

/-- Every recommendation names a row of its mode's table and hands out its two roles as
the mode asks. -/
theorem roles_assigned {D : Int} {a : Analyzer} (h : (system D).Reachable a) (key : String)
    (c v : NatFeature) (now : Int) :
    ∃ a' mode index row, a.getRecommandBehaviors key c v now = (a', mode, index, some row) ∧
      BehaviorScore.Names ⟨mode, index, 0⟩ ∧ RolesFit mode c v row := by
  obtain ⟨b, row, hget, hn, hfit⟩ :=
    getRecommandBehaviors_wellFormed (reachable_wellFormed h) key c v now
  exact ⟨_, b.mode, b.index, row, hget, hn, hfit⟩

def easy : NatFeature := ⟨.easyNAT, .noChange, 0, false, false⟩
def easyPublic : NatFeature := { easy with publicNetwork := true }
def regular : NatFeature := ⟨.hardNAT, .portChanged, 3, true, false⟩
def irregular : NatFeature := ⟨.hardNAT, .bothChanged, 0, false, false⟩

/-- A record created for a client behind a regular NAT, asked again with the sides
exchanged: mode 1, and now the visitor sends. -/
theorem roles_assigned_exchanged :
    ∃ a, (system 0).Reachable a ∧
      ∃ a' index row, a.getRecommandBehaviors "k" easy regular 1 = (a', 1, index, some row) ∧
        RolesFit 1 easy regular row ∧ row.2.role = .sender := by
  refine ⟨next (newAnalyzerWithClock 0) (.getRecommandBehaviors "k" regular easy 0),
    System.reachable_init.next rfl, ?_⟩
  obtain ⟨a', mode, index, row, he, -, hfit⟩ :=
    roles_assigned (D := 0) (System.reachable_init.next
      (a := .getRecommandBehaviors "k" regular easy 0) rfl) "k" easy regular 1
  have hmode : mode = 1 := by
    have h := congrArg (fun x => x.2.1) he
    exact h.symm.trans (by decide +kernel)
  subst hmode
  exact ⟨a', index, row, he, hfit, hfit.mode1_visitor rfl rfl (by decide)⟩

end Roles

section Range

/-- The bound that the source gives for `Score`. -/
def InRange (a : Analyzer) : Prop :=
  ∀ key r, a.records.get? key = some r → ∀ b ∈ r.scores, -10 ≤ b.score ∧ b.score ≤ 10

/-- A recommendation finds an entry above the lower bound. -/
def HasSpare (a : Analyzer) : Call → Prop
  | .getRecommandBehaviors key _ _ _ =>
    ∀ r, a.records.get? key = some r → ∃ b ∈ r.scores, -10 < b.score
  | _ => True

/-- A recommendation keeps a record within the bounds exactly when its best score is above
the lower one. -/
theorem recommand_inRange_iff {r : MakeHoleRecords} (hne : r.scores ≠ [])
    (h : ∀ b ∈ r.scores, -10 ≤ b.score ∧ b.score ≤ 10) (now : Int) :
    (∀ b ∈ (r.recommand now).1.scores, -10 ≤ b.score ∧ b.score ≤ 10) ↔
      ∃ b ∈ r.scores, -10 < b.score := by
  obtain ⟨i, b, hb, hr⟩ := recommand_spec hne now
  have hmem := List.mem_of_getElem? hb.get
  have hi : i < r.scores.length := (List.getElem?_eq_some_iff.mp hb.get).1
  rw [hr]
  constructor
  · intro hall
    refine ⟨b, hmem, ?_⟩
    have hlow := (hall _ (List.mem_set hi _)).1
    dsimp only at hlow
    omega
  · rintro ⟨b', hb', hspare⟩ x hx
    have hle := hb.le b' hb'
    rcases List.mem_or_eq_of_mem_set hx with hx | rfl
    · exact h x hx
    · have hbb := h b hmem
      dsimp only
      omega

theorem reportSuccess_inRange {r : MakeHoleRecords}
    (h : ∀ b ∈ r.scores, -10 ≤ b.score ∧ b.score ≤ 10) (mode index now : Int) :
    ∀ b ∈ (r.reportSuccess mode index now).scores, -10 ≤ b.score ∧ b.score ≤ 10 := by
  intro b hb
  rcases mem_raise hb with hb | ⟨b₀, hb₀, rfl⟩
  · exact h b hb
  · have hb := h b₀ hb₀
    dsimp only
    omega

theorem new_inRange (c v : NatFeature) (now : Int) :
    ∀ b ∈ (newMakeHoleRecordsWithClock c v now).scores, -10 ≤ b.score ∧ b.score ≤ 10 := by
  intro b hb
  have h := (newScores_mem c v b hb).2
  omega

theorem inRange_next_iff {a : Analyzer} (hwf : AllWellFormed a) (h : InRange a) (call : Call) :
    InRange (next a call) ↔ HasSpare a call := by
  cases call with
  | getRecommandBehaviors key c v now =>
    constructor
    · intro hnext r hr
      have hrec : a.recordFor key c v now = r := by simp [Analyzer.recordFor, hr]
      refine (recommand_inRange_iff (hwf key r hr).ne_nil (h key r hr) now).mp ?_
      rw [← hrec]
      exact hnext key _ (by simp [next, Analyzer.getRecommandBehaviors])
    · intro hspare key' r' hr'
      rcases next_record hr' with hr' | ⟨c', v', now', he, rfl⟩ | ⟨_, _, _, _, he, -⟩
      · exact h key' r' hr'
      · obtain ⟨rfl, rfl, rfl, rfl⟩ := Call.getRecommandBehaviors.inj he
        cases hr : a.records.get? key with
        | some r =>
          simp only [Analyzer.recordFor, hr, Option.getD_some]
          exact (recommand_inRange_iff (hwf key r hr).ne_nil (h key r hr) now).mpr (hspare r hr)
        | none =>
          simp only [Analyzer.recordFor, hr, Option.getD_none]
          refine (recommand_inRange_iff (newScores_ne_nil c v) (new_inRange c v now) now).mpr ?_
          -- a new record starts at 0 and 1
          obtain ⟨b, hb⟩ := List.exists_mem_of_ne_nil _ (newScores_ne_nil c v)
          have h0 := (newScores_mem c v b hb).2.1
          exact ⟨b, hb, by omega⟩
      · cases he
  | reportSuccess key mode index now =>
    refine iff_of_true ?_ trivial
    intro key' r' hr'
    rcases next_record hr' with hr' | ⟨_, _, _, he, -⟩ | ⟨mode', index', now', r₀, -, hr₀, rfl⟩
    · exact h key' r' hr'
    · cases he
    · exact reportSuccess_inRange (h key' r₀ hr₀) mode' index' now'
  | clean now =>
    refine iff_of_true ?_ trivial
    intro key' r' hr'
    rcases next_record hr' with hr' | ⟨_, _, _, he, -⟩ | ⟨_, _, _, _, he, -⟩
    · exact h key' r' hr'
    · cases he
    · cases he

/-- The scores stay between -10 and 10 after every call of a run exactly when every
recommendation of the run finds an entry above -10. -/
theorem scores_in_range_iff (D : Int) (calls : List Call) :
    (system D).Along (fun a call => InRange (next a call)) (newAnalyzerWithClock D) calls ↔
      (system D).Along HasSpare (newAnalyzerWithClock D) calls := by
  refine System.along_iff_of_inv (I := fun a => AllWellFormed a ∧ InRange a) ?_ ?_ ?_ calls
  · intro a call h
    exact inRange_next_iff h.1 h.2 call
  · intro a call a' h hrange hstep
    obtain rfl := Option.some.inj hstep
    exact ⟨h.1.next call, hrange⟩
  · exact ⟨fun key r hr => (by cases hr), fun key r hr => (by cases hr)⟩

/-- 31 recommendations for one pair of peers in mode 4, whose table has three rows. -/
def failingPair : List Call :=
  List.replicate 31 (.getRecommandBehaviors "k" regular irregular 0)

theorem score_below_range :
    ∃ a, (system 0).Reachable a ∧ ¬ InRange a := by
  obtain ⟨a, ha, hp⟩ := System.reachable_of_run (S := system 0) (l := failingPair)
    (p := fun a => (a.records.get? "k").any fun r => r.scores.any fun b => b.score = -11)
    (by decide +kernel)
  refine ⟨a, ha, fun h => ?_⟩
  cases hr : a.records.get? "k" with
  | none => simp [hr] at hp
  | some r =>
    simp only [hr, Option.any_some, List.any_eq_true, decide_eq_true_eq] at hp
    obtain ⟨b, hb, hs⟩ := hp
    have hlow := (h "k" r hr b hb).1
    omega

end Range

section PublicSide

/-- Both sides are EasyNAT and exactly one of them has `PublicNetwork` set. -/
def OnePublic (c v : NatFeature) : Prop :=
  c.natType = .easyNAT ∧ v.natType = .easyNAT ∧ c.publicNetwork ≠ v.publicNetwork

/-- The role of the public side in a row. -/
def publicRole (c : NatFeature) (row : Row) : DetectRole :=
  if c.publicNetwork then row.1.role else row.2.role

/-- In mode 0 the side with `PublicNetwork` is given the receiver role. -/
def PublicReceives (a : Analyzer) : Call → Prop
  | .getRecommandBehaviors key c v now =>
    OnePublic c v → (a.getRecommandBehaviors key c v now).2.1 = 0 →
      ∀ row, (a.getRecommandBehaviors key c v now).2.2.2 = some row →
        publicRole c row = .receiver
  | _ => True

/-- The entry stands for a row of mode 0 that makes the public side the sender. -/
def SendsPublic (c : NatFeature) (b : BehaviorScore) : Prop :=
  b.mode = 0 ∧ (getBehaviorByModeAndIndex 0 b.index).map (publicRole c) = some .sender

instance (c : NatFeature) (b : BehaviorScore) : Decidable (SendsPublic c b) :=
  inferInstanceAs (Decidable (_ ∧ _))

/-- `b` at position `i` is behind `b'` at `j`: it has a lower score, or the same one and
stands later in the list. -/
def Behind (i : Nat) (b : BehaviorScore) (j : Nat) (b' : BehaviorScore) : Prop :=
  b.score < b'.score ∨ b.score = b'.score ∧ j < i

/-- Every entry of the record that would make the public side the sender is behind one
that would not. -/
def ReceiverLeads (a : Analyzer) : Call → Prop
  | .getRecommandBehaviors key c v now =>
    OnePublic c v → ∀ i b, (a.recordFor key c v now).scores[i]? = some b → SendsPublic c b →
      ∃ j b', (a.recordFor key c v now).scores[j]? = some b' ∧ ¬ SendsPublic c b' ∧
        Behind i b j b'
  | _ => True

/-- The entry that `recommand` takes is behind none, and every other is behind it. -/
theorem firstMax_behind {l : List BehaviorScore} {i : Nat} {b : BehaviorScore}
    (h : IsFirstMax BehaviorScore.score l i b) {j : Nat} {b' : BehaviorScore}
    (hj : l[j]? = some b') : ¬ Behind i b j b' ∧ (j ≠ i → Behind j b' i b) := by
  have hle := h.le b' (List.mem_of_getElem? hj)
  constructor
  · rintro (hlt | ⟨heq, hji⟩)
    · omega
    · have hlt := h.lt j b' hji hj
      omega
  · intro hne
    rcases Nat.lt_or_gt_of_ne hne with hji | hij
    · exact Or.inl (h.lt j b' hji hj)
    · rcases Int.lt_or_eq_of_le hle with hlt | heq
      · exact Or.inl hlt
      · exact Or.inr ⟨heq, hij⟩

/-- A row of mode 0 gives the public side one role or the other. -/
theorem publicRole_mode0 (c : NatFeature) {row : Row} (h : row ∈ getBehaviorByMode 0) :
    publicRole c row = .sender ∨ publicRole c row = .receiver := by
  rcases (getBehaviorByMode_roles 0 row h).1 with ⟨h1, h2⟩ | ⟨h1, h2⟩
  · cases hc : c.publicNetwork with
    | true => exact Or.inl (by simp [publicRole, hc, h1])
    | false => exact Or.inr (by simp [publicRole, hc, h2])
  · cases hc : c.publicNetwork with
    | true => exact Or.inr (by simp [publicRole, hc, h1])
    | false => exact Or.inl (by simp [publicRole, hc, h2])

theorem publicReceives_iff {a : Analyzer} (hwf : AllWellFormed a) (call : Call) :
    PublicReceives a call ↔ ReceiverLeads a call := by
  cases call with
  | reportSuccess key mode index now => exact Iff.rfl
  | clean now => exact Iff.rfl
  | getRecommandBehaviors key c v now =>
    have hr := hwf.recordFor key c v now
    obtain ⟨i, b, hb, hrec⟩ := recommand_spec hr.ne_nil now
    have hn := hr.names b (List.mem_of_getElem? hb.get)
    obtain ⟨row, hrow, hget⟩ := getBehaviorByModeAndIndex_names hn
    -- the recommendation obeys the rule unless its entry makes the public side send
    have hchosen : PublicReceives a (.getRecommandBehaviors key c v now) ↔
        (OnePublic c v → ¬ SendsPublic c b) := by
      simp only [PublicReceives, Analyzer.getRecommandBehaviors, hrec, assignBehaviors, hget]
      refine imp_congr_right fun _ => ?_
      by_cases hm : b.mode = 0
      · rw [hm] at hrow hget
        have hsend : SendsPublic c b ↔ publicRole c row = .sender := by
          simp [SendsPublic, hm, hget]
        simp only [hm, hsend]
        rcases publicRole_mode0 c hrow with hp | hp <;> simp [hp]
      · simp [hm, SendsPublic]
    rw [hchosen]
    refine imp_congr_right fun _ => ?_
    constructor
    · intro hnot j b' hj hsend
      have hne : j ≠ i := by
        rintro rfl
        obtain rfl := Option.some.inj (hj.symm.trans hb.get)
        exact hnot hsend
      exact ⟨i, b, hb.get, hnot, (firstMax_behind hb hj).2 hne⟩
    · intro hlead hsend
      obtain ⟨j, b', hj, -, hbehind⟩ := hlead i b hb.get hsend
      exact (firstMax_behind hb hj).1 hbehind

/-- Along a run the public side always receives in mode 0 exactly when at each
recommendation for such a pair the entries that would make it send are behind. -/
theorem public_receives_iff (D : Int) (calls : List Call) :
    (system D).Along PublicReceives (newAnalyzerWithClock D) calls ↔
      (system D).Along ReceiverLeads (newAnalyzerWithClock D) calls := by
  refine System.along_iff_of_inv (I := AllWellFormed) ?_ ?_ ?_ calls
  · intro a call h
    exact publicReceives_iff h call
  · intro a call a' h _ hstep
    obtain rfl := Option.some.inj hstep
    exact h.next call
  · exact fun key r hr => by cases hr

theorem sendsPublic_congr {c c' : NatFeature} (h : c.publicNetwork = c'.publicNetwork)
    (b : BehaviorScore) : SendsPublic c b ↔ SendsPublic c' b := by
  have hrole : publicRole c = publicRole c' := by
    funext row
    simp only [publicRole, h]
  rw [SendsPublic, SendsPublic, hrole]

/-- A positive entry that lets the public side receive leads, if those that make it send
are at 0. -/
theorem leads_of_zero {c : NatFeature} {l : List BehaviorScore} {j : Nat} {q : BehaviorScore}
    (hzero : ∀ b ∈ l, SendsPublic c b → b.score = 0) (hj : l[j]? = some q)
    (hq : ¬ SendsPublic c q) (hpos : 0 < q.score) (i : Nat) (b : BehaviorScore)
    (hb : l[i]? = some b) (hsend : SendsPublic c b) :
    ∃ j b', l[j]? = some b' ∧ ¬ SendsPublic c b' ∧ Behind i b j b' := by
  have h0 := hzero b (List.mem_of_getElem? hb) hsend
  exact ⟨j, q, hj, hq, Or.inl (by omega)⟩

/-- The rule is built into the scores of a new record: the rows that make the public side
the receiver start at 1 and the others at 0. -/
theorem receiverLeads_new {a : Analyzer} {key : String} (h : a.records.get? key = none)
    (c v : NatFeature) (now : Int) :
    ReceiverLeads a (.getRecommandBehaviors key c v now) := by
  rintro ⟨hc, hv, hpub⟩
  have hnew : (a.recordFor key c v now).scores = mode0Scores c v := by
    simp [Analyzer.recordFor, h, newMakeHoleRecordsWithClock, newScores, classifyFeatureCount,
      FeatureCount.add, hc, hv]
  rw [hnew]
  cases hcp : c.publicNetwork with
  | true =>
    have hsame := sendsPublic_congr (show c.publicNetwork = easyPublic.publicNetwork from hcp)
    have hscores : mode0Scores c v = getBehaviorScoresByMode2 0 0 1 := by simp [mode0Scores, hcp]
    simp only [hscores, hsame]
    exact leads_of_zero (j := 1) (q := ⟨0, 1, 1⟩) (by decide) (by decide) (by decide) (by decide)
  | false =>
    have hvp : v.publicNetwork = true := by
      rw [hcp] at hpub
      simpa using hpub.symm
    have hsame := sendsPublic_congr (show c.publicNetwork = easy.publicNetwork from hcp)
    have hscores : mode0Scores c v = getBehaviorScoresByMode2 0 1 0 := by
      simp [mode0Scores, hcp, hvp]
    simp only [hscores, hsame]
    exact leads_of_zero (j := 0) (q := ⟨0, 0, 1⟩) (by decide) (by decide) (by decide) (by decide)

/-- A public client and a visitor behind an EasyNAT. -/
def askPublic : Call := .getRecommandBehaviors "k" easyPublic easy 0

/-- After five recommendations all scores are equal, and the sixth makes the public
client the sender. -/
theorem public_side_sends : ∃ a, (system 0).Reachable a ∧ ¬ PublicReceives a askPublic := by
  obtain ⟨a, ha, hp⟩ := System.reachable_of_run (S := system 0) (l := List.replicate 5 askPublic)
    (p := fun a =>
      let res := a.getRecommandBehaviors "k" easyPublic easy 0
      decide (res.2.1 = 0 ∧ res.2.2.2.map (publicRole easyPublic) = some .sender))
    (by decide +kernel)
  simp only [decide_eq_true_eq, Option.map_eq_some_iff] at hp
  obtain ⟨hmode, row, hrow, hsend⟩ := hp
  refine ⟨a, ha, fun h => ?_⟩
  have hrecv := h ⟨rfl, rfl, by decide⟩ hmode row hrow
  rw [hsend] at hrecv
  cases hrecv

end PublicSide

end FrpXtcp.Nathole.AnalyzerRuns

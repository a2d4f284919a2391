import FrpXtcp.Server.LifecycleTables

/-!
# How a control ends

The state of a control only moves forward, and a control whose worker was started
is closed by the last statement of that worker and by nothing else.
-/
namespace FrpXtcp.Server.Lifecycle

open FrpXtcp.Lib
open FrpXtcp.Server.Proxy (AnnotationCheck)

section Forward

variable (ctl : Control) (c : Nat)

theorem finishLocked_rank : ctl.state.rank ≤ ctl.finishLocked.state.rank := by
  unfold Control.finishLocked
  split
  · exact Nat.le_refl _
  · cases ctl.state <;> simp [ControlState.rank]

theorem close_rank : ctl.state.rank ≤ ctl.close.state.rank := by
  unfold Control.close
  cases hs : ctl.state <;> simp [hs, Control.finishLocked, ControlState.rank]

theorem markReplaced_rank : ctl.state.rank ≤ (ctl.markReplaced c).1.state.rank := by
  rw [Control.markReplaced_fst]
  exact close_rank ctl

theorem leaveRunning_rank : ctl.state.rank ≤ ctl.leaveRunning.state.rank := by
  unfold Control.leaveRunning
  split
  · rename_i hs
    simp [hs, ControlState.rank]
  · exact Nat.le_refl _

end Forward

theorem start_rank (l : Life) : l.ctl.state.rank ≤ l.start.ctl.state.rank := by
  unfold Life.start Control.startLocked
  by_cases hs : l.ctl.state = .pending ∧ l.ctl.activated = true
  · simp [hs, ControlState.rank]
  · simp [hs]

theorem putConn_state (l : Life) (runID : String) (conn : Nat) :
    (l.putConn runID conn).1.ctl.state = l.ctl.state := by
  rcases l.putConn_cases runID conn with ⟨err, hp⟩ | ⟨-, -, hp⟩ | ⟨ch, -, -, hp⟩ <;> rw [hp]

theorem getConn_state {l l' : Life} (h : l.getConn = some l') : l'.ctl.state = l.ctl.state := by
  obtain ⟨conn, ch, -, rfl⟩ := Life.getConn_some h
  rfl

/-- The worker changes the state at two of its statements only. -/
theorem workerStep_state {check : AnnotationCheck} {c : Nat} {l l' : Life}
    {pxy pxy' : Proxy.State PxyThread} {order : List Nat}
    (h : l.workerStep check c pxy order = some (l', pxy')) :
    l'.ctl.state = l.ctl.state ∨ l'.ctl = l.ctl.leaveRunning ∨
      (l.worker = .finish ∧ l'.ctl = l.ctl.finishLocked) := by
  cases Life.workerMove h with
  | leaveRunning hw => exact Or.inr (Or.inl rfl)
  | finish hw => exact Or.inr (Or.inr ⟨hw, rfl⟩)
  | _ => exact Or.inl rfl

/-- The fields that admission and activation set, and nothing else does. -/
structure SameLogin (ctl ctl' : Control) : Prop where
  controlID : ctl'.controlID = ctl.controlID
  activated : ctl'.activated = ctl.activated
  handoffBarrier : ctl'.handoffBarrier = ctl.handoffBarrier

namespace SameLogin

variable (ctl : Control)

theorem refl : SameLogin ctl ctl := ⟨rfl, rfl, rfl⟩

theorem finishLocked : SameLogin ctl ctl.finishLocked := by
  unfold Control.finishLocked
  split <;> exact ⟨rfl, rfl, rfl⟩

theorem close : SameLogin ctl ctl.close := by
  unfold Control.close
  cases ctl.state <;> exact ⟨rfl, rfl, rfl⟩

theorem markReplaced (c : Nat) : SameLogin ctl (ctl.markReplaced c).1 := by
  rw [Control.markReplaced_fst]
  exact close ctl

theorem leaveRunning : SameLogin ctl ctl.leaveRunning := by
  unfold Control.leaveRunning
  split <;> exact ⟨rfl, rfl, rfl⟩

theorem start (l : Life) : SameLogin l.ctl l.start.ctl := by
  unfold Life.start Control.startLocked
  by_cases hs : l.ctl.state = .pending ∧ l.ctl.activated = true
  · simp only [if_pos hs, if_true]
    exact ⟨rfl, rfl, rfl⟩
  · simp only [if_neg hs, Bool.false_eq_true, if_false]
    exact refl _

theorem putConn (l : Life) (runID : String) (conn : Nat) :
    SameLogin l.ctl (l.putConn runID conn).1.ctl := by
  rcases l.putConn_cases runID conn with ⟨err, hp⟩ | ⟨-, -, hp⟩ | ⟨ch, -, -, hp⟩ <;> rw [hp]
  · exact refl _
  · exact refl _
  · exact ⟨rfl, rfl, rfl⟩

theorem getConn {l l' : Life} (h : l.getConn = some l') : SameLogin l.ctl l'.ctl := by
  obtain ⟨conn, ch, -, rfl⟩ := Life.getConn_some h
  exact ⟨rfl, rfl, rfl⟩

theorem workerStep {check : AnnotationCheck} {c : Nat} {l l' : Life}
    {pxy pxy' : Proxy.State PxyThread} {order : List Nat}
    (h : l.workerStep check c pxy order = some (l', pxy')) : SameLogin l.ctl l'.ctl := by
  cases Life.workerMove h with
  | leaveRunning hw => exact leaveRunning _
  | finish hw => exact finishLocked _
  | _ => exact ⟨rfl, rfl, rfl⟩

end SameLogin

/-- An admitted control keeps its ID. -/
theorem step_controlID {check : AnnotationCheck} {c : Nat} {s s' : State} {a : Action}
    (hs : step check c s a = some s') (hc : s.life.ctl.state ≠ .created) :
    s'.life.ctl.controlID = s.life.ctl.controlID := by
  cases a with
  | admitTo runID id =>
    simp only [step, Control.admitTo, if_pos hc] at hs
    cases hs
    rfl
  | setHandoffBarrier b =>
    cases hs
    rfl
  | activate =>
    simp only [step] at hs
    split at hs <;> cases hs
    rfl
  | start =>
    cases hs
    exact (SameLogin.start _).controlID
  | close =>
    cases hs
    exact (SameLogin.close _).controlID
  | markReplaced =>
    cases hs
    exact (SameLogin.markReplaced _ _).controlID
  | putConn runID conn =>
    cases hs
    exact (SameLogin.putConn _ _ _).controlID
  | getConn =>
    simp only [step, Option.map_eq_some_iff] at hs
    obtain ⟨l, hg, rfl⟩ := hs
    exact (SameLogin.getConn hg).controlID
  | worker order =>
    simp only [step, Option.map_eq_some_iff] at hs
    obtain ⟨⟨l, pxy⟩, hw, rfl⟩ := hs
    exact (SameLogin.workerStep hw).controlID
  | pxy a =>
    simp only [step] at hs
    split at hs
    · simp only [Option.map_eq_some_iff] at hs
      obtain ⟨pxy, -, rfl⟩ := hs
      rfl
    · cases hs

/-- No step moves the state backwards. -/
theorem step_forward {check : AnnotationCheck} {c : Nat} {s s' : State} {a : Action}
    (hs : step check c s a = some s') : s.life.ctl.state.rank ≤ s'.life.ctl.state.rank := by
  cases a with
  | admitTo runID id =>
    simp only [step] at hs
    split at hs <;> cases hs
    · exact Nat.le_refl _
    · rename_i ha
      unfold Control.admitTo at ha
      split at ha <;> cases ha
      rename_i hc
      rw [show s.life.ctl.state = .created by simpa using hc]
      exact Nat.zero_le _
  | setHandoffBarrier b =>
    cases hs
    exact Nat.le_refl _
  | activate =>
    simp only [step] at hs
    split at hs <;> cases hs
    exact Nat.le_refl _
  | start =>
    cases hs
    exact start_rank _
  | close =>
    cases hs
    exact close_rank _
  | markReplaced =>
    cases hs
    exact markReplaced_rank _ _
  | putConn runID conn =>
    cases hs
    exact Nat.le_of_eq (congrArg _ (putConn_state _ _ _).symm)
  | getConn =>
    simp only [step, Option.map_eq_some_iff] at hs
    obtain ⟨l, hg, rfl⟩ := hs
    exact Nat.le_of_eq (congrArg _ (getConn_state hg).symm)
  | worker order =>
    simp only [step, Option.map_eq_some_iff] at hs
    obtain ⟨⟨l, pxy⟩, hw, rfl⟩ := hs
    rcases workerStep_state hw with he | he | ⟨-, he⟩
    · exact Nat.le_of_eq (congrArg _ he.symm)
    · rw [he]
      exact leaveRunning_rank _
    · rw [he]
      exact finishLocked_rank _
  | pxy a =>
    simp only [step] at hs
    split at hs
    · simp only [Option.map_eq_some_iff] at hs
      obtain ⟨pxy, -, rfl⟩ := hs
      exact Nat.le_refl _
    · cases hs

/-- A started control is closed by the last statement of its worker. -/
theorem closed_by_worker {check : AnnotationCheck} {c : Nat} {s s' : State} {a : Action}
    (h : Good c s) (hs : step check c s a = some s') (hon : s.life.worker ≠ .off)
    (hopen : s.life.ctl.state ≠ .closed) (hclosed : s'.life.ctl.state = .closed) :
    (∃ order, a = .worker order) ∧ s.life.worker = .finish := by
  have hst : s.life.ctl.state = .running ∨ s.life.ctl.state = .closing := by
    have hf := h.life.fits
    cases hw : s.life.worker <;> simp_all [Fits]
  cases a with
  | admitTo runID id =>
    simp only [step, Control.admitTo] at hs
    rcases hst with hst | hst <;> simp only [hst] at hs <;> cases hs <;> exact absurd hclosed hopen
  | setHandoffBarrier b =>
    cases hs
    exact absurd hclosed hopen
  | activate =>
    simp only [step] at hs
    split at hs <;> cases hs
    exact absurd hclosed hopen
  | start =>
    cases hs
    rcases hst with hst | hst <;> simp [Life.start, Control.startLocked, hst] at hclosed
  | close =>
    cases hs
    rcases hst with hst | hst <;> simp [Control.close, hst] at hclosed
  | markReplaced =>
    cases hs
    rcases hst with hst | hst <;> simp [Control.markReplaced, hst] at hclosed
  | putConn runID conn =>
    cases hs
    rw [putConn_state] at hclosed
    exact absurd hclosed hopen
  | getConn =>
    simp only [step, Option.map_eq_some_iff] at hs
    obtain ⟨l, hg, rfl⟩ := hs
    rw [getConn_state hg] at hclosed
    exact absurd hclosed hopen
  | worker order =>
    refine ⟨⟨order, rfl⟩, ?_⟩
    simp only [step, Option.map_eq_some_iff] at hs
    obtain ⟨⟨l, pxy⟩, hw, rfl⟩ := hs
    rcases workerStep_state hw with he | he | ⟨he, -⟩
    · rw [he] at hclosed
      exact absurd hclosed hopen
    · rw [he] at hclosed
      rcases hst with hst | hst <;> simp [Control.leaveRunning, hst] at hclosed
    · exact he
  | pxy a =>
    simp only [step] at hs
    split at hs
    · simp only [Option.map_eq_some_iff] at hs
      obtain ⟨pxy, -, rfl⟩ := hs
      exact absurd hclosed hopen
    · cases hs

/-- In every state that a control made by `NewControl` reaches, whoever calls its
methods: no step moves the state backwards; `doneCh` has been closed once if the
state is closed and not at all otherwise; the worker was started at most once; a
started control is closed only by the last statement of that worker, which has
drained the work connections, closed all proxies and called `Remove` by then; and
in the state closed the two client metrics were called equally often, at most once. -/
theorem control_lifecycle {check : AnnotationCheck} {c : Nat} {sess : SessionContext}
    {ctl : Control} (hnew : newControl sess = .ok ctl) {s : State}
    (h : (system check c ctl).Reachable s) :
    (∀ a s', step check c s a = some s' →
      s.life.ctl.state.rank ≤ s'.life.ctl.state.rank) ∧
    s.life.ctl.doneCloses = (if s.life.ctl.state = .closed then 1 else 0) ∧
    s.life.workers ≤ 1 ∧
    (∀ a s', step check c s a = some s' → 0 < s.life.workers → s.life.ctl.state ≠ .closed →
      s'.life.ctl.state = .closed →
      (∃ order, a = .worker order) ∧ CleanedUp c s.life s.pxy ∧ s.life.removes = 1) ∧
    (s.life.ctl.state = .closed →
      s.life.newClients = s.life.closeClients ∧ s.life.newClients ≤ 1) := by
  have hg := reachable_good (newControl_fresh hnew) h
  refine ⟨fun a s' hs => step_forward hs, hg.life.done, ?_, fun a s' hs hon hopen hclosed => ?_,
    fun hclosed => ?_⟩
  · rw [hg.life.workers]
    split <;> omega
  · have hoff : s.life.worker ≠ .off := by
      intro he
      rw [hg.life.workers, if_pos he] at hon
      exact Nat.lt_irrefl 0 hon
    obtain ⟨ha, hw⟩ := closed_by_worker hg hs hoff hopen hclosed
    refine ⟨ha, hg.cleanedUp (by rw [hw]; decide), ?_⟩
    rw [hg.life.removes, hw]
    decide
  · have hf := hg.life.fits
    rw [hclosed] at hf
    have hn := hg.life.newClients
    have hc := hg.life.closeClients
    cases hw : s.life.worker <;> simp_all [Fits, WorkerPc.rank]

/-- A session with a pool of one connection, and its control. -/
def sampleSession : SessionContext :=
  ⟨"run-a", "alice", "laptop", "host", "0.1", "192.0.2.1:7000", "v1", 1, 5⟩

def sampleControl : Control := ⟨.created, 0, false, false, none, 0, 1, .make 11⟩

/-- A whole life but for its last statement: a work connection and a proxy come, the
client leaves, and a second `Close` arrives while the worker cleans up. -/
def wholeLife : List Action :=
  [.admitTo "run-a" 1, .activate, .start, .worker [], .putConn "run-a" 7,
    .pxy (.registerProxy (.handler 0) 0 "alice" ⟨"ssh", "", false, false, [], [], "sk", []⟩),
    .pxy (.next (.handler 0)), .pxy (.next (.handler 0)), .pxy (.next (.handler 0)),
    .pxy (.next (.handler 0)), .close, .worker [], .worker [], .worker [], .worker [], .worker [],
    .close, .worker [0], .worker [], .worker [], .worker [], .worker [], .worker []]

theorem control_lifecycle_whole :
    ∃ s, (system (fun _ => none) 0 sampleControl).Reachable s ∧ s.life.drained = [7] ∧
      s.life.worker = .finish ∧
      ∀ a s', step (fun _ => none) 0 s a = some s' → s'.life.ctl.state = .closed →
        (∃ order, a = .worker order) ∧ CleanedUp 0 s.life s.pxy ∧ s.life.removes = 1 := by
  have hnew : newControl sampleSession = .ok sampleControl := rfl
  obtain ⟨s, hr, ht⟩ := System.reachable_of_run
    (S := system (fun _ => none) 0 sampleControl) (l := wholeLife)
    (p := fun s => decide (s.life.workers = 1 ∧ s.life.ctl.state = .closing ∧
      s.life.drained = [7] ∧ s.life.worker = .finish)) (by decide +kernel)
  obtain ⟨hw, hst, hd, hf⟩ := of_decide_eq_true ht
  refine ⟨s, hr, hd, hf, fun a s' hs hc => ?_⟩
  exact (control_lifecycle hnew hr).2.2.2.1 a s' hs (by omega) (by simp [hst]) hc

end FrpXtcp.Server.Lifecycle

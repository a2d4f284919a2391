import FrpXtcp.Server.Control

/-!
# The life cycle of a control

One control under every interleaving of the methods that change it: admission,
activation, start, close, replacement, work connections coming and going, and the
statements of its own worker. Nothing is assumed about who calls what and when;
the proxy tables are shared with the goroutines of all other controls.
-/
namespace FrpXtcp.Server.Lifecycle

open FrpXtcp.Lib
open FrpXtcp.Server.Proxy (AnnotationCheck)

structure State where
  life : Life
  pxy : Proxy.State PxyThread

inductive Action where
  | admitTo (runID : String) (id : UInt64)
  | setHandoffBarrier (barrier : Option Nat)
  | activate
  | start
  | close
  | markReplaced
  | putConn (runID : String) (conn : Nat)
  | getConn
  | worker (order : List Nat)
  | pxy (a : Proxy.Action PxyThread)

/-- The steps on the proxy tables that other goroutines than the worker of `c` may
take: every thread works for its own control, and the message handlers of `c` run
only while the read loop of `c` does. -/
def pxyAllowed (c : Nat) (w : WorkerPc) : Proxy.Action PxyThread → Bool
  | .registerProxy t d _ _ | .closeProxy t d _ => t = .handler d && (d ≠ c || w = .waitDone)
  | .closeProxies t d _ => t = .worker d && d ≠ c
  | .next (.handler d) => d ≠ c || w = .waitDone
  | .next (.worker d) => d ≠ c

variable (check : AnnotationCheck) (c : Nat)

def step (s : State) : Action → Option State
  | .admitTo runID id =>
    match s.life.ctl.admitTo runID id with
    | .error _ => some s
    | .ok ctl => some { s with life := { s.life with ctl := ctl } }
  | .setHandoffBarrier b =>
    some { s with life := { s.life with ctl := s.life.ctl.setHandoffBarrier b } }
  | .activate =>
    if s.life.ctl.state = .pending then
      some { s with life := { s.life with ctl := s.life.ctl.activate } }
    else none
  | .start => some { s with life := s.life.start }
  | .close => some { s with life := { s.life with ctl := s.life.ctl.close } }
  | .markReplaced => some { s with life := { s.life with ctl := (s.life.ctl.markReplaced c).1 } }
  | .putConn runID conn => some { s with life := (s.life.putConn runID conn).1 }
  | .getConn => s.life.getConn.map fun l => { s with life := l }
  | .worker order =>
    (s.life.workerStep check c s.pxy order).map fun r => { life := r.1, pxy := r.2 }
  | .pxy a =>
    if pxyAllowed c s.life.worker a then
      (Proxy.step check s.pxy a).map fun pxy => { s with pxy := pxy }
    else none

/-- A control just made by `NewControl`. -/
def init (ctl : Control) : State := ⟨.new ctl, Proxy.init⟩

/-- The control as `NewControl` returns it. -/
structure Fresh (ctl : Control) : Prop where
  state : ctl.state = .created
  managed : ctl.managed = false
  doneCloses : ctl.doneCloses = 0
  open_ : ctl.workConnCh.closed = false
  empty : ctl.workConnCh.buf = []

theorem newControl_fresh {sess : SessionContext} {ctl : Control}
    (h : newControl sess = .ok ctl) : Fresh ctl := by
  unfold newControl at h
  split at h
  · cases h
  · split at h
    · cases h
    · dsimp only at h
      split at h
      · cases h
      · cases h
        exact ⟨rfl, rfl, rfl, rfl, rfl⟩

def system (ctl : Control) : System State Action := ⟨init ctl, step check c⟩

/-- The states in which the control can be while its worker is at a statement. -/
def Fits : WorkerPc → ControlState → Prop
  | .off, st => st ≠ .running ∧ st ≠ .closing
  | .newClient, st | .waitDone, st | .leaveRunning, st => st = .running ∨ st = .closing
  | .exited, st => st = .closed
  | _, st => st = .closing

/-- What holds of one control and its worker, whatever happens around them. -/
structure Inv (l : Life) : Prop where
  done : l.ctl.doneCloses = if l.ctl.state = .closed then 1 else 0
  fits : Fits l.worker l.ctl.state
  workers : l.workers = if l.worker = .off then 0 else 1
  newClients : l.newClients = if 2 ≤ l.worker.rank then 1 else 0
  closeClients : l.closeClients = if 9 ≤ l.worker.rank then 1 else 0
  removes : l.removes = if 10 ≤ l.worker.rank then 1 else 0
  managed : (l.ctl.state = .pending ∨ l.worker ≠ .off) → l.ctl.managed = true
  chClosed : l.ctl.workConnCh.closed = true ↔ 5 ≤ l.worker.rank
  chEmpty : 6 ≤ l.worker.rank → l.ctl.workConnCh.buf = []
  conns : l.accepted.Perm (l.taken ++ l.drained ++ l.ctl.workConnCh.buf)
  panicked : l.panicked = false

theorem inv_new {ctl : Control} (h : Fresh ctl) : Inv (.new ctl) := by
  refine ⟨?_, ?_, rfl, rfl, rfl, rfl, ?_, ?_, nofun, ?_, rfl⟩
  · simp [Life.new, h.doneCloses, h.state]
  · simp [Life.new, Fits, h.state]
  · simp [Life.new, h.state]
  · simp [Life.new, h.open_, WorkerPc.rank]
  · simp [Life.new, h.empty]

section Life

variable {l : Life}

/-- The worker has been started exactly when the control is past `startLocked`. -/
theorem Inv.worker_off (h : Inv l)
    (hs : l.ctl.state = .created ∨ l.ctl.state = .pending) : l.worker = .off := by
  have hf := h.fits
  cases hw : l.worker <;> rcases hs with hs | hs <;> simp_all [Fits]

theorem Inv.worker_on (h : Inv l)
    (hs : l.ctl.state = .running ∨ l.ctl.state = .closing) : l.worker ≠ .off := by
  intro hw
  have hf := h.fits
  rcases hs with hs | hs <;> simp [hw, hs, Fits] at hf

/-- A method that leaves the channel alone. -/
theorem Inv.with_ctl (h : Inv l) {ctl : Control} (hch : ctl.workConnCh = l.ctl.workConnCh)
    (hdone : ctl.doneCloses = if ctl.state = .closed then 1 else 0)
    (hfits : Fits l.worker ctl.state)
    (hman : (ctl.state = .pending ∨ l.worker ≠ .off) → ctl.managed = true) :
    Inv { l with ctl := ctl } :=
  { h with
    done := hdone
    fits := hfits
    managed := hman
    chClosed := by simpa only [hch] using h.chClosed
    chEmpty := by simpa only [hch] using h.chEmpty
    conns := by simpa only [hch] using h.conns }

theorem Inv.admitTo (h : Inv l) {runID : String} {id : UInt64} {ctl : Control}
    (ha : l.ctl.admitTo runID id = .ok ctl) : Inv { l with ctl := ctl } := by
  unfold Control.admitTo at ha
  split at ha
  · cases ha
  · rename_i hs
    have hs : l.ctl.state = .created := by simpa using hs
    cases ha
    have hdone := h.done
    have hoff := h.worker_off (Or.inl hs)
    exact h.with_ctl rfl (by simpa [hs] using hdone) (by simp [hoff, Fits]) (fun _ => rfl)

theorem Inv.setHandoffBarrier (h : Inv l) (b : Option Nat) :
    Inv { l with ctl := l.ctl.setHandoffBarrier b } :=
  h.with_ctl rfl h.done h.fits h.managed

theorem Inv.activate (h : Inv l) : Inv { l with ctl := l.ctl.activate } :=
  h.with_ctl rfl h.done h.fits h.managed

/-- Finishing a control that has no worker. -/
theorem Inv.finish_off (h : Inv l) (hs : l.ctl.state = .created ∨ l.ctl.state = .pending) :
    Inv { l with ctl := Control.finishLocked { l.ctl with state := .closing } } := by
  have hoff := h.worker_off hs
  have hdone : l.ctl.doneCloses = 0 := by
    have := h.done
    rcases hs with hs | hs <;> simpa [hs] using this
  exact h.with_ctl rfl (by simp [Control.finishLocked, hdone])
    (by simp [Control.finishLocked, hoff, Fits]) (by simp [Control.finishLocked, hoff])

/-- A running control is left to its worker. -/
theorem Inv.to_closing (h : Inv l) (hs : l.ctl.state = .running) :
    Inv { l with ctl := { l.ctl with state := .closing } } := by
  have hon := h.worker_on (Or.inl hs)
  have hfits := h.fits
  have hdone := h.done
  refine h.with_ctl rfl (by simpa [hs] using hdone) ?_ (fun _ => h.managed (Or.inr hon))
  cases hw : l.worker <;> simp_all [Fits]

theorem Inv.close (h : Inv l) : Inv { l with ctl := l.ctl.close } := by
  unfold Control.close
  cases hs : l.ctl.state with
  | created => exact h.finish_off (Or.inl hs)
  | pending => exact h.finish_off (Or.inr hs)
  | running => exact h.to_closing hs
  | closing => exact h
  | closed => exact h

theorem Inv.markReplaced (h : Inv l) (c : Nat) :
    Inv { l with ctl := (l.ctl.markReplaced c).1 } := by
  rw [Control.markReplaced_fst]
  exact h.close

theorem Inv.start (h : Inv l) : Inv l.start := by
  unfold Life.start Control.startLocked
  by_cases hs : l.ctl.state = .pending ∧ l.ctl.activated = true
  · have hoff := h.worker_off (Or.inr hs.1)
    simp only [if_pos hs, if_true]
    refine ⟨?_, Or.inl rfl, ?_, ?_, ?_, ?_, fun _ => h.managed (Or.inl hs.1), ?_, nofun, h.conns,
      h.panicked⟩
    · simpa [hs.1] using h.done
    · simpa [hoff] using h.workers
    · simpa [hoff, WorkerPc.rank] using h.newClients
    · simpa [hoff, WorkerPc.rank] using h.closeClients
    · simpa [hoff, WorkerPc.rank] using h.removes
    · simpa [hoff, WorkerPc.rank] using h.chClosed
  · simp only [if_neg hs, Bool.false_eq_true, if_false]
    exact h

/-- While the control runs, its channel is open. -/
theorem Inv.open_of_running (h : Inv l) (hs : l.ctl.state = .running) :
    l.ctl.workConnCh.closed = false := by
  have hc := h.chClosed
  have hfits := h.fits
  rw [hs] at hfits
  cases hw : l.worker <;> simp_all [Fits, WorkerPc.rank]

theorem Inv.putConn (h : Inv l) (runID : String) (conn : Nat) : Inv (l.putConn runID conn).1 := by
  rcases l.putConn_cases runID conn with ⟨err, hp⟩ | ⟨hs, hclosed, -⟩ | ⟨ch, hs, hok, hp⟩
  · rw [hp]
    exact h
  · rw [h.open_of_running hs] at hclosed
    cases hclosed
  · have hopen := h.open_of_running hs
    obtain ⟨-, hbuf, hcl, -⟩ := Chan.trySend_ok hok
    have hrank : ¬ 5 ≤ l.worker.rank := fun hr => by
      rw [h.chClosed.mpr hr] at hopen
      cases hopen
    rw [hp]
    refine ⟨h.done, h.fits, h.workers, h.newClients, h.closeClients, h.removes, h.managed,
      by simp [hcl, hrank], fun hr => absurd (Nat.le_trans (by decide) hr) hrank, ?_, h.panicked⟩
    rw [hbuf, ← List.append_assoc]
    exact h.conns.append_right [conn]

theorem Inv.getConn (h : Inv l) {l' : Life} (hg : l.getConn = some l') : Inv l' := by
  obtain ⟨conn, ch, hr, rfl⟩ := Life.getConn_some hg
  obtain ⟨hbuf, hcl, -⟩ := Chan.recv_value hr
  refine ⟨h.done, h.fits, h.workers, h.newClients, h.closeClients, h.removes, h.managed,
    by simpa only [hcl] using h.chClosed, fun hr => ?_, ?_, h.panicked⟩
  · have hempty := h.chEmpty hr
    rw [hbuf] at hempty
    cases hempty
  · have hc := h.conns
    rw [hbuf] at hc
    refine hc.trans ?_
    simp only [List.append_assoc, List.singleton_append]
    refine List.Perm.append_left _ ?_
    exact List.perm_middle

/-- A worker that goes on where nothing is counted and the channel is left alone. -/
theorem Inv.goto_worker (h : Inv l) {w : WorkerPc} (hon : l.worker ≠ .off) (hw : w ≠ .off)
    (hfits : Fits w l.ctl.state)
    (hrank : ∀ n ∈ [2, 5, 6, 9, 10], n ≤ w.rank ↔ n ≤ l.worker.rank) :
    Inv { l with worker := w } := by
  simp only [List.forall_mem_cons, List.not_mem_nil, false_imp_iff, implies_true, and_true] at hrank
  obtain ⟨h2, h5, h6, h9, h10⟩ := hrank
  exact
    { h with
      fits := hfits
      workers := by simpa only [if_neg hon, if_neg hw] using h.workers
      newClients := by simpa only [h2] using h.newClients
      closeClients := by simpa only [h9] using h.closeClients
      removes := by simpa only [h10] using h.removes
      managed := fun _ => h.managed (Or.inr hon)
      chClosed := by simpa only [h5] using h.chClosed
      chEmpty := by simpa only [h6] using h.chEmpty }

end Life

/-- Every statement of the worker keeps the invariant of its control. -/
theorem Inv.workerStep {l l' : Life} {pxy pxy' : Proxy.State PxyThread} {order : List Nat}
    (h : Inv l) (hs : l.workerStep check c pxy order = some (l', pxy')) : Inv l' := by
  have hall := h
  obtain ⟨hdone, hfits, hwk, hnew, hcl, hrm, hman, hch, hbuf, hconns, hpan⟩ := h
  cases Life.workerMove hs with
  | newClient hw => constructor <;> simp_all [Fits, WorkerPc.rank]
  | waitDone hw _ =>
    rw [hw] at hfits
    exact hall.goto_worker (by simp [hw]) (by simp) hfits (by simp [hw, WorkerPc.rank])
  | leaveRunning hw =>
    constructor <;> simp_all [Fits, WorkerPc.rank, Control.leaveRunning] <;> grind
  | closeTwice hw hc => simp_all [Chan.close, WorkerPc.rank]
  | closeCh hw hc =>
    obtain ⟨h1, h2, h3, -⟩ := Chan.close_some hc
    constructor <;> simp_all [Fits, WorkerPc.rank]
  | drained hw hr =>
    obtain ⟨h1, h2⟩ := Chan.recv_closed hr
    constructor <;> simp_all [Fits, WorkerPc.rank]
  | drain hw hr =>
    obtain ⟨h1, h2, -⟩ := Chan.recv_value hr
    constructor <;> simp_all [Fits, WorkerPc.rank]
  | takeProxies hw _ =>
    rw [hw] at hfits
    exact hall.goto_worker (by simp [hw]) (by simp) hfits (by simp [hw, WorkerPc.rank])
  | proxiesClosed hw _ =>
    rw [hw] at hfits
    exact hall.goto_worker (by simp [hw]) (by simp) hfits (by simp [hw, WorkerPc.rank])
  | closeProxies hw _ => exact hall
  | closeClient hw => constructor <;> simp_all [Fits, WorkerPc.rank]
  | remove hw => constructor <;> simp_all [Fits, WorkerPc.rank]
  | finish hw => constructor <;> simp_all [Fits, WorkerPc.rank, Control.finishLocked]

end FrpXtcp.Server.Lifecycle

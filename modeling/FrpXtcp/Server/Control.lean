import Mathlib.Algebra.Group.Int.Defs
import FrpXtcp.Lib.Chan
import FrpXtcp.Server.ProxyOwnership

/-!
# One control and its worker

The fields and methods of `Control` (`server/control.go`) that its life cycle
depends on. Each method is the section it executes under `lifecycleMu`. `Life` adds
the program counter of the worker goroutine and counts what can be observed of it:
worker starts, metric calls, calls of `Remove`, and where each work connection went.
-/
namespace FrpXtcp.Server

open FrpXtcp.Lib

/-- What a login gives to `NewControl`. `remoteAddr` is the address of the control
connection and `maxPoolCount` the server's limit. -/
structure SessionContext where
  runID : String
  user : String
  clientID : String
  hostname : String
  version : String
  remoteAddr : String
  wireProtocol : String
  poolCount : Int
  maxPoolCount : Int

inductive ControlState where
  | created
  | pending
  | running
  | closing
  | closed
  deriving DecidableEq

def ControlState.rank : ControlState → Nat
  | .created => 0
  | .pending => 1
  | .running => 2
  | .closing => 3
  | .closed => 4

/-- `managed` is `manager != nil`; `handoffBarrier` names the control whose `doneCh`
it is; `doneCloses` counts the executions of `close(doneCh)`. -/
structure Control where
  state : ControlState
  controlID : UInt64
  managed : Bool
  activated : Bool
  handoffBarrier : Option Nat
  doneCloses : Nat
  poolCount : Nat
  workConnCh : Chan Nat

def workConnPoolCapacityOffset : Nat := 10

/-- `math.MaxInt` on 64-bit platforms. -/
def maxInt : Int := 2 ^ 63 - 1

/-- `NewControl` -/
def newControl (sess : SessionContext) : Except String Control :=
  if sess.poolCount < 0 then
    .error s!"invalid pool count {sess.poolCount}, must be non-negative"
  else if sess.maxPoolCount < 0 then
    .error s!"invalid max pool count {sess.maxPoolCount}, must be non-negative"
  else
    let effectivePoolCount := min sess.poolCount sess.maxPoolCount
    if effectivePoolCount > maxInt - workConnPoolCapacityOffset then
      .error (s!"invalid effective pool count {effectivePoolCount}, cannot safely add " ++
        s!"{workConnPoolCapacityOffset} for work connection pool capacity")
    else
      let poolCount := effectivePoolCount.toNat
      .ok
        { state := .created, controlID := 0, managed := false, activated := false,
          handoffBarrier := none, doneCloses := 0, poolCount := poolCount,
          workConnCh := .make (poolCount + workConnPoolCapacityOffset) }

namespace Control

/-- `Control.admit` -/
def admitTo (ctl : Control) (runID : String) (id : UInt64) : Except String Control :=
  if ctl.state ≠ .created then .error s!"control [{runID}] is not in created state"
  else .ok { ctl with managed := true, controlID := id, state := .pending }

def setHandoffBarrier (ctl : Control) (barrier : Option Nat) : Control :=
  { ctl with handoffBarrier := barrier }

/-- What `Activate` does to the control once the registry has accepted it. -/
def activate (ctl : Control) : Control := { ctl with activated := true }

/-- `startLocked` up to `go ctl.worker()`, and its result. -/
def startLocked (ctl : Control) : Control × Bool :=
  if ctl.state = .pending ∧ ctl.activated = true then ({ ctl with state := .running }, true)
  else (ctl, false)

def finishLocked (ctl : Control) : Control :=
  if ctl.state = .closed then ctl
  else { ctl with state := .closed, doneCloses := ctl.doneCloses + 1 }

/-- The section of `Close`. -/
def close (ctl : Control) : Control :=
  match ctl.state with
  | .created | .pending => finishLocked { ctl with state := .closing }
  | .running => { ctl with state := .closing }
  | .closing | .closed => ctl

/-- `markReplaced` of the control `self`: the control after it and the barrier. -/
def markReplaced (ctl : Control) (self : Nat) : Control × Option Nat :=
  match ctl.state with
  | .created => (finishLocked { ctl with state := .closing }, none)
  | .pending => (finishLocked { ctl with state := .closing }, ctl.handoffBarrier)
  | .running => ({ ctl with state := .closing }, some self)
  | .closing | .closed => (ctl, some self)

/-- Being replaced does to a control what `Close` does; the barrier is the difference. -/
theorem markReplaced_fst (ctl : Control) (self : Nat) : (ctl.markReplaced self).1 = ctl.close := by
  unfold markReplaced close
  cases ctl.state <;> rfl

/-- The worker's section after `msgDispatcher.Done()`. -/
def leaveRunning (ctl : Control) : Control :=
  if ctl.state = .running then { ctl with state := .closing } else ctl

/-- `doneCh` is closed. -/
def isDone (ctl : Control) : Prop := 0 < ctl.doneCloses

instance (ctl : Control) : Decidable ctl.isDone := inferInstanceAs (Decidable (_ < _))

end Control

/-- The worker goroutine by the statement it executes next. -/
inductive WorkerPc where
  | off
  | newClient
  | waitDone
  | leaveRunning
  | closeCh
  | drain
  | takeProxies
  | closeProxies
  | closeClient
  | remove
  | finish
  | exited
  deriving DecidableEq

namespace WorkerPc

def rank : WorkerPc → Nat
  | .off => 0
  | .newClient => 1
  | .waitDone => 2
  | .leaveRunning => 3
  | .closeCh => 4
  | .drain => 5
  | .takeProxies => 6
  | .closeProxies => 7
  | .closeClient => 8
  | .remove => 9
  | .finish => 10
  | .exited => 11

/-- The worker is past its loop over what was left in `workConnCh`. -/
def HasDrained (w : WorkerPc) : Prop := WorkerPc.takeProxies.rank ≤ w.rank

end WorkerPc

/-- The goroutines of a control that work on the proxy tables: the dispatcher's read
loop, which runs the message handlers one after another, and the worker. -/
inductive PxyThread where
  | handler (c : Nat)
  | worker (c : Nat)
  deriving DecidableEq

def PxyThread.ctl : PxyThread → Nat
  | .handler c => c
  | .worker c => c

/-- `accepted`, `taken` and `drained` are the work connections that
`RegisterWorkConn` put in the channel, that `GetWorkConn` received, and that the
worker received and closed. `panicked` records a send on a closed channel or a
second close of `workConnCh`. -/
structure Life where
  ctl : Control
  worker : WorkerPc
  workers : Nat
  newClients : Nat
  closeClients : Nat
  removes : Nat
  accepted : List Nat
  taken : List Nat
  drained : List Nat
  panicked : Bool

namespace Life

/-- A control that no goroutine works for yet. -/
def new (ctl : Control) : Life := ⟨ctl, .off, 0, 0, 0, 0, [], [], [], false⟩

/-- `startLocked` -/
def start (l : Life) : Life :=
  if l.ctl.startLocked.2 then
    { l with ctl := l.ctl.startLocked.1, worker := .newClient, workers := l.workers + 1 }
  else l

/-- The part of `RegisterWorkConn` under `lifecycleMu`, and its error. -/
def putConn (l : Life) (runID : String) (conn : Nat) : Life × Option String :=
  if l.ctl.state ≠ .running then
    (l, some s!"client control for run id [{runID}] is not running")
  else
    match l.ctl.workConnCh.trySend conn with
    | .panic => ({ l with panicked := true }, none)
    | .full => (l, some "work connection pool is full, discarding")
    | .ok ch =>
      ({ l with ctl := { l.ctl with workConnCh := ch }, accepted := l.accepted ++ [conn] }, none)

/-- A receive of `GetWorkConn` that finds a connection. -/
def getConn (l : Life) : Option Life :=
  match l.ctl.workConnCh.recv with
  | .value conn ch =>
    some { l with ctl := { l.ctl with workConnCh := ch }, taken := l.taken ++ [conn] }
  | _ => none

/-- One statement of the worker of control `c`. The end of the read loop, which
`<-msgDispatcher.Done()` waits for, needs the handler it was in to have returned. -/
def workerStep (check : Proxy.AnnotationCheck) (c : Nat) (l : Life)
    (pxy : Proxy.State PxyThread) (order : List Nat) : Option (Life × Proxy.State PxyThread) :=
  match l.worker with
  | .off | .exited => none
  | .newClient => some ({ l with worker := .waitDone, newClients := l.newClients + 1 }, pxy)
  | .waitDone =>
    if (pxy.ops (.handler c)).resting then some ({ l with worker := .leaveRunning }, pxy) else none
  | .leaveRunning => some ({ l with worker := .closeCh, ctl := l.ctl.leaveRunning }, pxy)
  | .closeCh =>
    match l.ctl.workConnCh.close with
    | none => some ({ l with panicked := true }, pxy)
    | some ch => some ({ l with worker := .drain, ctl := { l.ctl with workConnCh := ch } }, pxy)
  | .drain =>
    match l.ctl.workConnCh.recv with
    | .block => none
    | .closed => some ({ l with worker := .takeProxies }, pxy)
    | .value conn ch =>
      some ({ l with ctl := { l.ctl with workConnCh := ch }, drained := l.drained ++ [conn] }, pxy)
  | .takeProxies =>
    (Proxy.step check pxy (.closeProxies (.worker c) c order)).map fun pxy =>
      ({ l with worker := .closeProxies }, pxy)
  | .closeProxies =>
    if (pxy.ops (.worker c)).resting then some ({ l with worker := .closeClient }, pxy)
    else (Proxy.step check pxy (.next (.worker c))).map fun pxy => (l, pxy)
  | .closeClient => some ({ l with worker := .remove, closeClients := l.closeClients + 1 }, pxy)
  | .remove =>
    let removes := if l.ctl.managed then l.removes + 1 else l.removes
    some ({ l with worker := .finish, removes := removes }, pxy)
  | .finish => some ({ l with worker := .exited, ctl := l.ctl.finishLocked }, pxy)

/-- `RegisterWorkConn` refuses the connection, panics, or puts it in the channel. -/
theorem putConn_cases (l : Life) (runID : String) (conn : Nat) :
    (∃ err, l.putConn runID conn = (l, some err)) ∨
    (l.ctl.state = .running ∧ l.ctl.workConnCh.closed = true ∧
      l.putConn runID conn = ({ l with panicked := true }, none)) ∨
    ∃ ch, l.ctl.state = .running ∧ l.ctl.workConnCh.trySend conn = .ok ch ∧
      l.putConn runID conn =
        ({ l with ctl := { l.ctl with workConnCh := ch }, accepted := l.accepted ++ [conn] },
          none) := by
  unfold putConn
  by_cases hs : l.ctl.state = .running
  · rw [if_neg (not_not.mpr hs)]
    cases hsend : l.ctl.workConnCh.trySend conn with
    | panic => exact Or.inr (Or.inl ⟨hs, Chan.trySend_panic_iff.mp hsend, rfl⟩)
    | full => exact Or.inl ⟨_, rfl⟩
    | ok ch => exact Or.inr (Or.inr ⟨ch, hs, rfl, rfl⟩)
  · rw [if_pos hs]
    exact Or.inl ⟨_, rfl⟩

theorem getConn_some {l l' : Life} (h : l.getConn = some l') :
    ∃ conn ch, l.ctl.workConnCh.recv = .value conn ch ∧
      l' = { l with ctl := { l.ctl with workConnCh := ch }, taken := l.taken ++ [conn] } := by
  unfold getConn at h
  split at h <;> cases h
  rename_i conn ch hr
  exact ⟨conn, ch, hr, rfl⟩

/-- What the statements of the worker do, with what each one needs. -/
inductive WorkerMove (check : Proxy.AnnotationCheck) (c : Nat) (order : List Nat) (l : Life)
    (pxy : Proxy.State PxyThread) : Life → Proxy.State PxyThread → Prop
  | newClient : l.worker = .newClient →
      WorkerMove check c order l pxy
        { l with worker := .waitDone, newClients := l.newClients + 1 } pxy
  | waitDone : l.worker = .waitDone → (pxy.ops (.handler c)).resting = true →
      WorkerMove check c order l pxy { l with worker := .leaveRunning } pxy
  | leaveRunning : l.worker = .leaveRunning →
      WorkerMove check c order l pxy { l with worker := .closeCh, ctl := l.ctl.leaveRunning } pxy
  | closeTwice : l.worker = .closeCh → l.ctl.workConnCh.close = none →
      WorkerMove check c order l pxy { l with panicked := true } pxy
  | closeCh {ch : Chan Nat} : l.worker = .closeCh → l.ctl.workConnCh.close = some ch →
      WorkerMove check c order l pxy
        { l with worker := .drain, ctl := { l.ctl with workConnCh := ch } } pxy
  | drained : l.worker = .drain → l.ctl.workConnCh.recv = .closed →
      WorkerMove check c order l pxy { l with worker := .takeProxies } pxy
  | drain {conn : Nat} {ch : Chan Nat} : l.worker = .drain →
      l.ctl.workConnCh.recv = .value conn ch →
      WorkerMove check c order l pxy
        { l with ctl := { l.ctl with workConnCh := ch }, drained := l.drained ++ [conn] } pxy
  | takeProxies {pxy' : Proxy.State PxyThread} : l.worker = .takeProxies →
      Proxy.step check pxy (.closeProxies (.worker c) c order) = some pxy' →
      WorkerMove check c order l pxy { l with worker := .closeProxies } pxy'
  | proxiesClosed : l.worker = .closeProxies → (pxy.ops (.worker c)).resting = true →
      WorkerMove check c order l pxy { l with worker := .closeClient } pxy
  | closeProxies {pxy' : Proxy.State PxyThread} : l.worker = .closeProxies →
      Proxy.step check pxy (.next (.worker c)) = some pxy' →
      WorkerMove check c order l pxy l pxy'
  | closeClient : l.worker = .closeClient →
      WorkerMove check c order l pxy
        { l with worker := .remove, closeClients := l.closeClients + 1 } pxy
  | remove : l.worker = .remove →
      WorkerMove check c order l pxy
        { l with
          worker := .finish
          removes := if l.ctl.managed then l.removes + 1 else l.removes } pxy
  | finish : l.worker = .finish →
      WorkerMove check c order l pxy { l with worker := .exited, ctl := l.ctl.finishLocked } pxy

theorem workerMove {check : Proxy.AnnotationCheck} {c : Nat} {order : List Nat} {l l' : Life}
    {pxy pxy' : Proxy.State PxyThread} (h : l.workerStep check c pxy order = some (l', pxy')) :
    WorkerMove check c order l pxy l' pxy' := by
  unfold workerStep at h
  cases hw : l.worker <;> rw [hw] at h <;> simp only [reduceCtorEq] at h
  case newClient =>
    cases h
    exact .newClient hw
  case waitDone =>
    split at h <;> cases h
    exact .waitDone hw ‹_›
  case leaveRunning =>
    cases h
    exact .leaveRunning hw
  case closeCh =>
    split at h <;> cases h
    · rw [← hw]
      exact .closeTwice hw ‹_›
    · exact .closeCh hw ‹_›
  case drain =>
    split at h <;> cases h
    · exact .drained hw ‹_›
    · rw [← hw]
      exact .drain hw ‹_›
  case takeProxies =>
    simp only [Option.map_eq_some_iff, Prod.mk.injEq] at h
    obtain ⟨_, hp, rfl, rfl⟩ := h
    exact .takeProxies hw hp
  case closeProxies =>
    split at h
    · cases h
      exact .proxiesClosed hw ‹_›
    · simp only [Option.map_eq_some_iff, Prod.mk.injEq] at h
      obtain ⟨_, hp, rfl, rfl⟩ := h
      exact .closeProxies hw hp
  case closeClient =>
    cases h
    exact .closeClient hw
  case remove =>
    cases h
    exact .remove hw
  case finish =>
    cases h
    exact .finish hw

end Life

end FrpXtcp.Server

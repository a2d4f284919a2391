import FrpXtcp.Lib.Simulation
import FrpXtcp.Lib.Tasks
import FrpXtcp.Server.LifecycleOrder
import FrpXtcp.Server.WorkConns

/-!
# Asking for work connections

A control asks its client for work connections with `ReqWorkConn` messages: `poolCount` of
them when the worker starts, one whenever `GetWorkConn` finds the pool empty, and one for
each connection that `GetWorkConn` hands out. The client answers each request by a connection
of its own, or not at all. The users of the pool are the goroutines that `XTCPProxy.Run`
starts, with the rounds of `GetWorkConnFromPool`.

The control and its worker are those of the life cycle; here they run together with the
requests, the client and the users.
-/
namespace FrpXtcp.Server.WorkConnPool

open FrpXtcp.Lib
open FrpXtcp.Server.Proxy (AnnotationCheck)
open scoped List

/-- Where the goroutine of an XTCP proxy is: at its select, then in round `i` of
`GetWorkConnFromPool` at the first select of `GetWorkConn`, before the `Send` of its default
case, in its second select, before the `Send` that asks for a replacement, before
`Start`, and before `writeNatHoleSid`. -/
inductive Pc where
  | idle
  | polling (i : Nat)
  | demanding (i : Nat)
  | waiting (i : Nat)
  | replacing (i conn : Nat)
  | starting (i conn : Nat)
  | writing (conn : Nat)
  | returned
  deriving DecidableEq

namespace Pc

/-- The connection that a goroutine has received and not closed. -/
def conn? : Pc → Option Nat
  | .replacing _ conn | .starting _ conn | .writing conn => some conn
  | _ => none

def isWaiting : Pc → Bool
  | .waiting _ => true
  | _ => false

def isReplacing : Pc → Bool
  | .replacing _ _ => true
  | _ => false

end Pc

/-- `done` is the `doneCh` of the dispatcher, `toSend` the rounds that the worker's loop of
requests still has to go, `asked` the requests under way to the client, `arriving` the
connections that the client has opened and `RegisterWorkConn` has not decided on, `next` the
name of the next one. The rest is a history: connections closed by `GetWorkConnFromPool` and
by the loop of the proxy, connections that `RegisterWorkConn` refused, calls of `GetWorkConn`
that found no connection and asked for one, requests that the client did not answer, and
connections that nobody asked for. -/
structure State where
  base : Lifecycle.State
  done : Bool
  toSend : Nat
  pcs : List Pc
  asked : Nat
  arriving : List Nat
  next : Nat
  released : List Nat
  refused : List Nat
  demands : Nat
  failed : Nat
  unasked : Nat

namespace State

def pool (s : State) : Chan Nat := s.base.life.ctl.workConnCh

/-- Goroutine `p` goes on at `pc`. -/
def goto (s : State) (p : Nat) (pc : Pc) : State := { s with pcs := s.pcs.set p pc }

def setLife (s : State) (l : Life) : State := { s with base := { s.base with life := l } }

/-- `msgDispatcher.Send(&msg.ReqWorkConn{})`: after the end of the dispatcher it may go either
way, before it cannot fail. -/
def sendReq (s : State) (eof : Bool) : Option State :=
  if eof then (if s.done then some s else none) else some { s with asked := s.asked + 1 }

/-- The connections in the hands of the goroutines. -/
def held (s : State) : List Nat := s.pcs.filterMap Pc.conn?

/-- `GetWorkConn` calls that wait for a connection. -/
def waiters (s : State) : Nat := s.pcs.countP Pc.isWaiting

/-- `GetWorkConn` calls that have a connection and have not asked for a replacement. -/
def owing (s : State) : Nat := s.pcs.countP Pc.isReplacing

end State

inductive Action where
  | life (a : Lifecycle.Action)
  | readFailed
  | request (eof : Bool)
  | newProxy
  | sid (p : Nat)
  | stop (p : Nat)
  | poll (p : Nat)
  | demand (p : Nat) (eof : Bool)
  | receive (p : Nat)
  | timeout (p : Nat)
  | replace (p : Nat) (eof : Bool)
  | start (p : Nat) (ok : Bool)
  | write (p : Nat)
  | answer (ok : Bool)
  | connect
  | refuse (conn : Nat)
  | register (runID : String) (conn : Nat)

/-- The steps of the control that are not taken by the goroutines here: `putConn` and
`getConn` come from `RegisterWorkConn` and `GetWorkConn`, and the worker passes
`<-msgDispatcher.Done()` only after the dispatcher's end. -/
def lifeAllowed (s : State) : Lifecycle.Action → Bool
  | .putConn _ _ | .getConn => false
  | .worker _ => s.base.life.worker ≠ .waitDone || s.done
  | _ => true

variable (check : AnnotationCheck) (c : Nat) (poolCount : Nat)

/-- A receive from `workConnCh` in round `i`: with a connection the call goes on to ask for
its replacement, on a closed channel it returns `ErrCtlClosed`. -/
def onReceive (s : State) (p i : Nat) (block : Option State) : Option State :=
  match s.pool.recv with
  | .value conn _ => s.base.life.getConn.map fun l => (s.setLife l).goto p (.replacing i conn)
  | .closed => some (s.goto p .idle)
  | .block => block

def step (s : State) : Action → Option State
  | .life a =>
    if lifeAllowed s a then (Lifecycle.step check c s.base a).map fun b => { s with base := b }
    else none
  | .readFailed => some { s with done := true }
  | .request eof =>
    if 2 ≤ s.base.life.worker.rank ∧ 0 < s.toSend then
      State.sendReq { s with toSend := s.toSend - 1 } eof
    else none
  | .newProxy => some { s with pcs := s.pcs ++ [.idle] }
  | .sid p => if s.pcs[p]? = some .idle then some (s.goto p (.polling 0)) else none
  | .stop p => if s.pcs[p]? = some .idle then some (s.goto p .returned) else none
  | .poll p =>
    match s.pcs[p]? with
    | some (.polling i) => onReceive s p i (some (s.goto p (.demanding i)))
    | _ => none
  | .demand p eof =>
    match s.pcs[p]? with
    | some (.demanding i) =>
      if eof then (s.sendReq true).map fun s => s.goto p .idle
      else (s.sendReq false).map fun s =>
        State.goto { s with demands := s.demands + 1 } p (.waiting i)
    | _ => none
  | .receive p =>
    match s.pcs[p]? with
    | some (.waiting i) => onReceive s p i none
    | _ => none
  | .timeout p =>
    match s.pcs[p]? with
    | some (.waiting _) => some (s.goto p .idle)
    | _ => none
  | .replace p eof =>
    match s.pcs[p]? with
    | some (.replacing i conn) => (s.sendReq eof).map fun s => s.goto p (.starting i conn)
    | _ => none
  | .start p ok =>
    match s.pcs[p]? with
    | some (.starting i conn) =>
      if ok then some (s.goto p (.writing conn))
      else
        -- the connection is closed and the loop goes to its next round, if there is one
        let s := { s with released := s.released ++ [conn] }
        if i + 1 < poolCount + 1 then some (s.goto p (.polling (i + 1))) else some (s.goto p .idle)
    | _ => none
  | .write p =>
    match s.pcs[p]? with
    | some (.writing conn) =>
      some (State.goto { s with released := s.released ++ [conn] } p .idle)
    | _ => none
  | .answer ok =>
    if 0 < s.asked then
      if ok then
        some { s with asked := s.asked - 1, arriving := s.arriving ++ [s.next], next := s.next + 1 }
      else some { s with asked := s.asked - 1, failed := s.failed + 1 }
    else none
  | .connect =>
    some { s with
      arriving := s.arriving ++ [s.next], next := s.next + 1, unasked := s.unasked + 1 }
  | .refuse conn =>
    if conn ∈ s.arriving then
      some { s with arriving := s.arriving.erase conn, refused := s.refused ++ [conn] }
    else none
  | .register runID conn =>
    if conn ∈ s.arriving then
      let r := s.base.life.putConn runID conn
      match r.2 with
      | none => some (State.setLife { s with arriving := s.arriving.erase conn } r.1)
      | some _ =>
        some { s with arriving := s.arriving.erase conn, refused := s.refused ++ [conn] }
    else none

/-- A control as `NewControl` returns it, before it has been admitted. -/
def init (ctl : Control) : State :=
  ⟨Lifecycle.init ctl, false, ctl.poolCount, [], 0, [], 0, [], [], 0, 0, 0⟩

def system (ctl : Control) : System State Action := ⟨init ctl, step check c ctl.poolCount⟩

variable {check c poolCount} {s s' : State} {a : Action} {ctl : Control}

/-! ## What a step does -/

/-- What the steps do, with what each one needs. `move` is a goroutine that goes on without
touching a connection, `take` a receive, `release` the close of a connection. -/
inductive Effect (check : AnnotationCheck) (c : Nat) (s : State) : State → Prop
  | life {a : Lifecycle.Action} {b : Lifecycle.State} : lifeAllowed s a = true →
      Lifecycle.step check c s.base a = some b → Effect check c s { s with base := b }
  | readFailed : Effect check c s { s with done := true }
  | request {n : Nat} : s.toSend = n + 1 →
      Effect check c s { s with toSend := n, asked := s.asked + 1 }
  | requestEOF {n : Nat} : s.done = true → Effect check c s { s with toSend := n }
  | newProxy : Effect check c s { s with pcs := s.pcs ++ [.idle] }
  | move {p : Nat} {x y : Pc} : s.pcs[p]? = some x → x.conn? = y.conn? →
      x.isReplacing = false → y.isReplacing = false → y.isWaiting = false →
      Effect check c s (s.goto p y)
  | demand {p i : Nat} : s.pcs[p]? = some (.demanding i) →
      Effect check c s
        (State.goto { s with asked := s.asked + 1, demands := s.demands + 1 } p (.waiting i))
  | take {p i conn : Nat} {x : Pc} {l : Life} : s.pcs[p]? = some x → x.conn? = none →
      x.isReplacing = false → s.base.life.getConn = some l → l.taken = s.base.life.taken ++ [conn] →
      Effect check c s ((s.setLife l).goto p (.replacing i conn))
  | replace {p i conn : Nat} : s.pcs[p]? = some (.replacing i conn) →
      Effect check c s (State.goto { s with asked := s.asked + 1 } p (.starting i conn))
  | replaceEOF {p i conn : Nat} : s.pcs[p]? = some (.replacing i conn) → s.done = true →
      Effect check c s (s.goto p (.starting i conn))
  | release {p conn : Nat} {x y : Pc} : s.pcs[p]? = some x → x.conn? = some conn →
      x.isReplacing = false → y.conn? = none → y.isWaiting = false →
      Effect check c s (State.goto { s with released := s.released ++ [conn] } p y)
  | answer {n : Nat} : s.asked = n + 1 →
      Effect check c s
        { s with asked := n, arriving := s.arriving ++ [s.next], next := s.next + 1 }
  | noAnswer {n : Nat} : s.asked = n + 1 →
      Effect check c s { s with asked := n, failed := s.failed + 1 }
  | connect :
      Effect check c s { s with
        arriving := s.arriving ++ [s.next], next := s.next + 1, unasked := s.unasked + 1 }
  | refuse {conn : Nat} : conn ∈ s.arriving →
      Effect check c s
        { s with arriving := s.arriving.erase conn, refused := s.refused ++ [conn] }
  | register {conn : Nat} {runID : String} : conn ∈ s.arriving →
      (s.base.life.putConn runID conn).2 = none →
      Effect check c s
        (State.setLife { s with arriving := s.arriving.erase conn }
          (s.base.life.putConn runID conn).1)

theorem onReceive_effect {p i : Nat} {x : Pc} {block : Option State}
    (hp : s.pcs[p]? = some x) (hconn : x.conn? = none) (hx : x.isReplacing = false)
    (hs : onReceive s p i block = some s') : Effect check c s s' ∨ block = some s' := by
  unfold onReceive at hs
  split at hs
  · rename_i conn ch hr
    simp only [Option.map_eq_some_iff] at hs
    obtain ⟨l, hl, rfl⟩ := hs
    obtain ⟨conn', ch', hr', rfl⟩ := Life.getConn_some hl
    have heq : (Chan.Received.value conn' ch' : Chan.Received Nat) = .value conn ch :=
      hr'.symm.trans hr
    cases heq
    exact Or.inl (.take hp hconn hx hl rfl)
  · cases hs
    exact Or.inl (.move hp hconn hx rfl rfl)
  · exact Or.inr hs

theorem sendReq_some {eof : Bool} (hs : s.sendReq eof = some s') :
    (eof = true ∧ s.done = true ∧ s' = s) ∨
      eof = false ∧ s' = { s with asked := s.asked + 1 } := by
  unfold State.sendReq at hs
  split at hs
  · rename_i he
    split at hs
    · cases hs
      exact Or.inl ⟨he, ‹_›, rfl⟩
    · cases hs
  · rename_i he
    cases hs
    exact Or.inr ⟨by simpa using he, rfl⟩

theorem step_effect (hs : step check c poolCount s a = some s') : Effect check c s s' := by
  cases a with
  | life a =>
    simp only [step] at hs
    split at hs
    · simp only [Option.map_eq_some_iff] at hs
      obtain ⟨b, hb, rfl⟩ := hs
      exact .life ‹_› hb
    · cases hs
  | readFailed =>
    cases hs
    exact .readFailed
  | request eof =>
    simp only [step] at hs
    split at hs
    · rename_i hpos
      obtain ⟨n, hn⟩ := Nat.exists_eq_add_of_lt hpos.2
      rcases sendReq_some hs with ⟨-, hd, rfl⟩ | ⟨-, rfl⟩
      · exact .requestEOF hd
      · exact .request (by simp only; omega)
    · cases hs
  | newProxy =>
    cases hs
    exact .newProxy
  | sid p =>
    simp only [step] at hs
    split at hs <;> cases hs
    rename_i hp
    exact .move hp rfl rfl rfl rfl
  | stop p =>
    simp only [step] at hs
    split at hs <;> cases hs
    rename_i hp
    exact .move hp rfl rfl rfl rfl
  | poll p =>
    simp only [step] at hs
    split at hs
    · rename_i i hp
      rcases onReceive_effect hp rfl rfl hs with he | hb
      · exact he
      · cases hb
        exact .move hp rfl rfl rfl rfl
    · cases hs
  | demand p eof =>
    simp only [step] at hs
    split at hs
    · rename_i i hp
      split at hs
      · simp only [Option.map_eq_some_iff] at hs
        obtain ⟨s₁, h₁, rfl⟩ := hs
        rcases sendReq_some h₁ with ⟨-, -, rfl⟩ | ⟨he, -⟩
        · exact .move hp rfl rfl rfl rfl
        · cases he
      · simp only [Option.map_eq_some_iff] at hs
        obtain ⟨s₁, h₁, rfl⟩ := hs
        rcases sendReq_some h₁ with ⟨he, -, -⟩ | ⟨-, rfl⟩
        · cases he
        · exact .demand hp
    · cases hs
  | receive p =>
    simp only [step] at hs
    split at hs
    · rename_i i hp
      rcases onReceive_effect hp rfl rfl hs with he | hb
      · exact he
      · cases hb
    · cases hs
  | timeout p =>
    simp only [step] at hs
    split at hs <;> cases hs
    rename_i i hp
    exact .move hp rfl rfl rfl rfl
  | replace p eof =>
    simp only [step] at hs
    split at hs
    · rename_i i conn hp
      simp only [Option.map_eq_some_iff] at hs
      obtain ⟨s₁, h₁, rfl⟩ := hs
      rcases sendReq_some h₁ with ⟨-, hd, rfl⟩ | ⟨-, rfl⟩
      · exact .replaceEOF hp hd
      · exact .replace hp
    · cases hs
  | start p ok =>
    simp only [step] at hs
    split at hs
    · rename_i i conn hp
      split at hs
      · cases hs
        exact .move hp rfl rfl rfl rfl
      · split at hs
        · cases hs
          exact .release hp rfl rfl rfl rfl
        · cases hs
          exact .release hp rfl rfl rfl rfl
    · cases hs
  | write p =>
    simp only [step] at hs
    split at hs <;> cases hs
    exact .release ‹_› rfl rfl rfl rfl
  | answer ok =>
    simp only [step] at hs
    split at hs
    · rename_i hpos
      split at hs
      · cases hs
        exact .answer (by omega)
      · cases hs
        exact .noAnswer (by omega)
    · cases hs
  | connect =>
    cases hs
    exact .connect
  | refuse conn =>
    simp only [step] at hs
    split at hs <;> cases hs
    exact .refuse ‹_›
  | register runID conn =>
    simp only [step] at hs
    split at hs
    · rename_i hmem
      split at hs
      · rename_i hr
        cases hs
        exact .register hmem hr
      · cases hs
        exact .refuse hmem
    · cases hs

/-! ## The control underneath -/

/-- Seen from the control, the system takes steps of its life cycle. -/
theorem Effect.base (h : Effect check c s s') :
    (Lifecycle.system check c ctl).Reaches s.base s'.base := by
  cases h with
  | life _ hb => exact System.Reaches.one (S := Lifecycle.system check c ctl) hb
  | take _ _ _ hl _ =>
    refine System.Reaches.one (S := Lifecycle.system check c ctl) (a := .getConn) ?_
    simp [Lifecycle.system, Lifecycle.step, hl, State.setLife, State.goto]
  | @register conn runID _ _ =>
    exact System.Reaches.one (S := Lifecycle.system check c ctl) (a := .putConn runID conn) rfl
  | _ => exact .refl

def lifeSimulation (check : AnnotationCheck) (c : Nat) (ctl : Control) :
    Simulation (system check c ctl) (Lifecycle.system check c ctl) where
  abs s := s.base
  init := rfl
  step _ _ _ _ hs := (step_effect hs).base

theorem reachable_life {sess : SessionContext} (hnew : newControl sess = .ok ctl)
    (h : (system check c ctl).Reachable s) : Lifecycle.Inv s.base.life :=
  (Lifecycle.reachable_good (Lifecycle.newControl_fresh hnew)
    ((lifeSimulation check c ctl).reachable h)).life

/-- Until the dispatcher's end the worker is before or at its wait, and nothing but
`RegisterWorkConn` and `GetWorkConn` touches the channel. -/
theorem life_quiet {a : Lifecycle.Action} {b : Lifecycle.State} (ha : lifeAllowed s a = true)
    (hdone : s.done = false) (hr : s.base.life.worker.rank ≤ 2)
    (hs : Lifecycle.step check c s.base a = some b) :
    b.life.ctl.workConnCh = s.base.life.ctl.workConnCh ∧ b.life.worker.rank ≤ 2 := by
  cases a with
  | putConn => cases ha
  | getConn => cases ha
  | admitTo runID id =>
    simp only [Lifecycle.step] at hs
    split at hs
    · cases hs
      exact ⟨rfl, hr⟩
    · rename_i ctl' hc
      cases hs
      unfold Control.admitTo at hc
      split at hc <;> cases hc
      exact ⟨rfl, hr⟩
  | activate =>
    simp only [Lifecycle.step] at hs
    split at hs <;> cases hs
    exact ⟨rfl, hr⟩
  | start =>
    cases hs
    unfold Life.start Control.startLocked
    by_cases hp : s.base.life.ctl.state = .pending ∧ s.base.life.ctl.activated = true
    · simp [if_pos hp, WorkerPc.rank]
    · simpa [if_neg hp] using hr
  | close =>
    cases hs
    refine ⟨?_, hr⟩
    show s.base.life.ctl.close.workConnCh = _
    unfold Control.close Control.finishLocked
    split <;> (try split) <;> rfl
  | markReplaced =>
    cases hs
    refine ⟨?_, hr⟩
    show (s.base.life.ctl.markReplaced c).1.workConnCh = _
    rw [Control.markReplaced_fst]
    unfold Control.close Control.finishLocked
    split <;> (try split) <;> rfl
  | setHandoffBarrier =>
    cases hs
    exact ⟨rfl, hr⟩
  | worker order =>
    simp only [Lifecycle.step, Option.map_eq_some_iff] at hs
    obtain ⟨⟨l, pxy⟩, hw, rfl⟩ := hs
    simp only [lifeAllowed, hdone, Bool.or_false, decide_eq_true_eq] at ha
    cases Life.workerMove hw with
    | newClient => exact ⟨rfl, Nat.le_refl 2⟩
    | waitDone hpc _ => exact absurd hpc ha
    | _ hpc => simp [hpc, WorkerPc.rank] at hr
  | pxy a =>
    simp only [Lifecycle.step] at hs
    split at hs
    · simp only [Option.map_eq_some_iff] at hs
      obtain ⟨pxy, -, rfl⟩ := hs
      exact ⟨rfl, hr⟩
    · cases hs

/-- Only `RegisterWorkConn` and `GetWorkConn` add to the accepted and the taken. -/
theorem life_conns {a : Lifecycle.Action} {b : Lifecycle.State} (ha : lifeAllowed s a = true)
    (hs : Lifecycle.step check c s.base a = some b) :
    b.life.accepted = s.base.life.accepted ∧ b.life.taken = s.base.life.taken := by
  cases a with
  | putConn => cases ha
  | getConn => cases ha
  | admitTo runID id =>
    simp only [Lifecycle.step] at hs
    split at hs <;> cases hs <;> exact ⟨rfl, rfl⟩
  | activate =>
    simp only [Lifecycle.step] at hs
    split at hs <;> cases hs
    exact ⟨rfl, rfl⟩
  | start =>
    cases hs
    unfold Life.start
    split <;> exact ⟨rfl, rfl⟩
  | worker order =>
    simp only [Lifecycle.step, Option.map_eq_some_iff] at hs
    obtain ⟨⟨l, pxy⟩, hw, rfl⟩ := hs
    obtain ⟨haccepted, htaken, -⟩ := Lifecycle.workerStep_conns hw
    exact ⟨haccepted, htaken⟩
  | pxy a =>
    simp only [Lifecycle.step] at hs
    split at hs
    · simp only [Option.map_eq_some_iff] at hs
      obtain ⟨pxy, -, rfl⟩ := hs
      exact ⟨rfl, rfl⟩
    · cases hs
  | _ =>
    cases hs
    exact ⟨rfl, rfl⟩

/-! ## Requests against connections -/

variable {p : Nat} {x : Pc}

theorem owing_goto (hp : s.pcs[p]? = some x) (y : Pc) :
    (s.goto p y).owing + (if x.isReplacing then 1 else 0) =
      s.owing + (if y.isReplacing then 1 else 0) := countP_set Pc.isReplacing hp y

theorem waiters_goto (hp : s.pcs[p]? = some x) (y : Pc) :
    (s.goto p y).waiters + (if x.isWaiting then 1 else 0) =
      s.waiters + (if y.isWaiting then 1 else 0) := countP_set Pc.isWaiting hp y

theorem held_goto (hp : s.pcs[p]? = some x) (y : Pc) :
    x.conn?.toList ++ (s.goto p y).held ~ y.conn?.toList ++ s.held := filterMap_set Pc.conn? hp y

/-- What `GetWorkConn` receives was the first in the channel. -/
theorem getConn_buf {l l' : Life} (h : l.getConn = some l') :
    l.ctl.workConnCh.buf.length = l'.ctl.workConnCh.buf.length + 1 := by
  obtain ⟨conn, ch, hr, rfl⟩ := Life.getConn_some h
  rw [(Chan.recv_value hr).1, List.length_cons]

/-- A registration without an error puts the connection in the channel. -/
theorem putConn_none {l : Life} (hl : Lifecycle.Inv l) {runID : String} {conn : Nat}
    (h : (l.putConn runID conn).2 = none) :
    (l.putConn runID conn).1.ctl.workConnCh.buf = l.ctl.workConnCh.buf ++ [conn] ∧
      (l.putConn runID conn).1.worker = l.worker ∧
      (l.putConn runID conn).1.accepted = l.accepted ++ [conn] ∧
      (l.putConn runID conn).1.taken = l.taken := by
  rcases l.putConn_cases runID conn with ⟨err, hp⟩ | ⟨hs, hclosed, -⟩ | ⟨ch, hs, hok, hp⟩
  · rw [hp] at h
    cases h
  · rw [hl.open_of_running hs] at hclosed
    cases hclosed
  · rw [hp]
    exact ⟨(Chan.trySend_ok hok).2.1, rfl, rfl, rfl⟩

/-- Up to the dispatcher's end: on the left where the requests are that have been due, on
the right what they were due for. -/
structure Balanced (poolCount : Nat) (s : State) : Prop where
  early : s.base.life.worker.rank ≤ 2
  balance : s.pool.buf.length + s.asked + s.arriving.length + s.owing + s.toSend + s.failed +
    s.refused.length = poolCount + s.demands + s.unasked
  waiting : s.waiters ≤ s.demands

theorem Effect.done (h : Effect check c s s') (hd : s'.done = false) : s.done = false := by
  cases h <;> first | exact hd | cases hd

/-- A goroutine that moves without owing a request before or after. -/
theorem Balanced.goto {y : Pc} (h : Balanced poolCount s) (hp : s.pcs[p]? = some x)
    (hx : x.isReplacing = false) (hy : y.isReplacing = false) (hw : y.isWaiting = false) :
    Balanced poolCount (s.goto p y) := by
  have howing := owing_goto hp y
  have hwaiting := waiters_goto hp y
  simp only [hx, hy, hw, Bool.false_eq_true, if_false, Nat.add_zero] at howing hwaiting
  refine ⟨h.early, ?_, ?_⟩
  · show s.pool.buf.length + s.asked + s.arriving.length + (s.goto p y).owing + s.toSend +
      s.failed + s.refused.length = poolCount + s.demands + s.unasked
    rw [howing]
    exact h.balance
  · show (s.goto p y).waiters ≤ s.demands
    have := h.waiting
    omega

theorem Effect.balanced (h : Effect check c s s') (hl : Lifecycle.Inv s.base.life)
    (hd : s'.done = false) (hb : Balanced poolCount s) : Balanced poolCount s' := by
  have hbalance := hb.balance
  have hwait := hb.waiting
  cases h with
  | life ha hs =>
    obtain ⟨hch, hrank⟩ := life_quiet ha hd hb.early hs
    refine ⟨hrank, ?_, hwait⟩
    simp only [State.pool, State.owing] at hbalance ⊢
    rw [hch]
    exact hbalance
  | readFailed => cases hd
  | @request n hn =>
    refine ⟨hb.early, ?_, hwait⟩
    simp only [State.pool, State.owing] at hbalance ⊢
    omega
  | requestEOF he =>
    rw [show s.done = false from hd] at he
    cases he
  | newProxy =>
    refine ⟨hb.early, ?_, ?_⟩
    · simpa [State.pool, State.owing, Pc.isReplacing] using hbalance
    · simpa [State.waiters, Pc.isWaiting] using hwait
  | move hp _ hx hy hw => exact hb.goto hp hx hy hw
  | @demand p i hp =>
    have howing := owing_goto hp (.waiting i)
    have hwaiting := waiters_goto hp (.waiting i)
    refine ⟨hb.early, ?_, ?_⟩
    · simp only [State.pool, State.owing, State.goto, Pc.isReplacing] at hbalance howing ⊢
      simp only [Bool.false_eq_true, if_false] at howing
      omega
    · simp only [State.waiters, State.goto, Pc.isWaiting] at hwait hwaiting ⊢
      simp only [Bool.false_eq_true, if_false, if_true] at hwaiting
      omega
  | @take p i conn x l hp _ hx hg =>
    have howing := owing_goto hp (.replacing i conn)
    have hwaiting := waiters_goto hp (.replacing i conn)
    have hbuf := getConn_buf hg
    refine ⟨?_, ?_, ?_⟩
    · show l.worker.rank ≤ 2
      rw [Lifecycle.getConn_worker hg]
      exact hb.early
    · simp only [State.pool, State.owing, State.goto, State.setLife, Pc.isReplacing] at *
      simp only [hx, Bool.false_eq_true, if_false, if_true] at howing
      omega
    · simp only [State.waiters, State.goto, State.setLife, Pc.isWaiting] at hwait hwaiting ⊢
      simp only [Bool.false_eq_true, if_false] at hwaiting
      omega
  | @replace p i conn hp =>
    have howing := owing_goto hp (.starting i conn)
    have hwaiting := waiters_goto hp (.starting i conn)
    refine ⟨hb.early, ?_, ?_⟩
    · simp only [State.pool, State.owing, State.goto, Pc.isReplacing] at hbalance howing ⊢
      simp only [Bool.false_eq_true, if_false, if_true] at howing
      omega
    · simp only [State.waiters, State.goto, Pc.isWaiting] at hwait hwaiting ⊢
      simp only [Bool.false_eq_true, if_false] at hwaiting
      omega
  | replaceEOF _ he =>
    rw [show s.done = false from hd] at he
    cases he
  | @release p conn x y hp hconn hx hy hw =>
    have hyr : y.isReplacing = false := by
      cases y <;> first | rfl | cases hy
    have hgoto := hb.goto hp hx hyr hw
    exact ⟨hgoto.early, hgoto.balance, hgoto.waiting⟩
  | @answer n hn =>
    refine ⟨hb.early, ?_, hwait⟩
    simp only [State.pool, State.owing, List.length_append, List.length_singleton] at hbalance ⊢
    omega
  | @noAnswer n hn =>
    refine ⟨hb.early, ?_, hwait⟩
    simp only [State.pool, State.owing] at hbalance ⊢
    omega
  | connect =>
    refine ⟨hb.early, ?_, hwait⟩
    simp only [State.pool, State.owing, List.length_append, List.length_singleton] at hbalance ⊢
    omega
  | @refuse conn hmem =>
    have hlen := List.length_erase_of_mem hmem
    have hpos := List.length_pos_of_mem hmem
    refine ⟨hb.early, ?_, hwait⟩
    simp only [State.pool, State.owing, List.length_append, List.length_singleton] at hbalance ⊢
    omega
  | @register conn runID hmem hok =>
    have hlen := List.length_erase_of_mem hmem
    have hpos := List.length_pos_of_mem hmem
    obtain ⟨hbuf, hworker, -, -⟩ := putConn_none hl hok
    refine ⟨?_, ?_, hwait⟩
    · show (s.base.life.putConn runID conn).1.worker.rank ≤ 2
      rw [hworker]
      exact hb.early
    · simp only [State.pool, State.owing, State.setLife, hbuf, List.length_append,
        List.length_singleton] at hbalance ⊢
      omega

theorem reachable_balanced {sess : SessionContext} (hnew : newControl sess = .ok ctl)
    (h : (system check c ctl).Reachable s) (hd : s.done = false) :
    Balanced ctl.poolCount s := by
  refine System.invariant (S := system check c ctl)
    (I := fun s => s.done = false → Balanced ctl.poolCount s) ?_ ?_ h hd
  · intro _
    have hempty := (Lifecycle.newControl_fresh hnew).empty
    refine ⟨Nat.zero_le _, ?_, Nat.le_refl _⟩
    simp [system, init, State.pool, State.owing, Lifecycle.init, Life.new, hempty]
  · intro s a s' hr hi hs hd
    have he := step_effect hs
    exact he.balanced (reachable_life hnew hr) hd (hi (he.done hd))

/-- The requests of a control balance until its dispatcher ends: what is in the pool, what is
under way and what got lost is `poolCount`, plus one for each call that found the pool empty,
plus what the client brought unasked. Hence a call can wait at an empty pool with nothing under
way only after more than `poolCount` requests have come to nothing. -/
theorem work_conn_requests_balance {sess : SessionContext} (hnew : newControl sess = .ok ctl)
    (h : (system check c ctl).Reachable s) (hd : s.done = false) :
    s.pool.buf.length + s.asked + s.arriving.length + s.owing + s.toSend + s.failed +
        s.refused.length = ctl.poolCount + s.demands + s.unasked ∧
      (0 < s.waiters → s.pool.buf = [] → s.asked = 0 → s.arriving = [] → s.owing = 0 →
        s.toSend = 0 → ctl.poolCount < s.failed + s.refused.length) := by
  obtain ⟨-, hbalance, hwait⟩ := reachable_balanced hnew h hd
  refine ⟨hbalance, ?_⟩
  intro hwaiter hpool hasked harriving howing htoSend
  rw [hpool, hasked, harriving, howing, htoSend] at hbalance
  simp only [List.length_nil] at hbalance
  omega

/-- The control of a session with a pool of one, started. -/
def started : List Action :=
  [.life (.admitTo "run-a" 1), .life .activate, .life .start, .life (.worker [])]

/-- Both requests fail, that of the pool and that of the waiting call. -/
theorem work_conn_requests_balance_starved :
    ∃ s, (system (fun _ => none) 0 Lifecycle.sampleControl).Reachable s ∧ s.waiters = 1 ∧
      s.pool.buf.length + s.asked + s.arriving.length + s.owing + s.toSend + s.failed +
        s.refused.length = 1 + s.demands + s.unasked ∧ 1 < s.failed + s.refused.length := by
  have hnew : newControl Lifecycle.sampleSession = .ok Lifecycle.sampleControl := rfl
  obtain ⟨s, hr, ht⟩ := System.reachable_of_run
    (S := system (fun _ => none) 0 Lifecycle.sampleControl)
    (l := started ++ [.request false, .answer false, .newProxy, .sid 0, .poll 0, .demand 0 false,
      .answer false])
    (p := fun s => decide (s.done = false ∧ s.waiters = 1 ∧ s.pool.buf = [] ∧ s.asked = 0 ∧
      s.arriving = [] ∧ s.owing = 0 ∧ s.toSend = 0)) (by decide +kernel)
  obtain ⟨hd, hw, hpool, hasked, harriving, howing, htoSend⟩ := of_decide_eq_true ht
  obtain ⟨hbalance, hstarved⟩ := work_conn_requests_balance hnew hr hd
  exact ⟨s, hr, hw, hbalance, hstarved (by omega) hpool hasked harriving howing htoSend⟩

/-! ## Where the connections are -/

/-- Every connection that reached the server is on its way in, was put in the channel or was
refused; one that was taken out of the channel is held by one goroutine or was closed by it. -/
structure Placed (s : State) : Prop where
  arrived : List.range s.next ~ s.arriving ++ (s.base.life.accepted ++ s.refused)
  taken : s.base.life.taken ~ s.held ++ s.released

/-- A goroutine that moves with what it holds. -/
theorem Placed.goto {y : Pc} (h : Placed s) (hp : s.pcs[p]? = some x) (hxy : x.conn? = y.conn?) :
    Placed (s.goto p y) := by
  refine ⟨h.arrived, ?_⟩
  have hheld := held_goto hp y
  rw [hxy] at hheld
  exact h.taken.trans (((List.perm_append_left_iff _).mp hheld).symm.append_right _)

theorem perm_erase_middle {arriving accepted refused : List Nat} {conn : Nat}
    (hmem : conn ∈ arriving) :
    arriving ++ (accepted ++ refused) ~ arriving.erase conn ++ (accepted ++ [conn] ++ refused) := by
  calc arriving ++ (accepted ++ refused)
      ~ (conn :: arriving.erase conn) ++ (accepted ++ refused) :=
        (List.perm_cons_erase hmem).append_right _
    _ = [conn] ++ ((arriving.erase conn ++ accepted) ++ refused) := by simp
    _ ~ ((arriving.erase conn ++ accepted) ++ refused) ++ [conn] := List.perm_append_comm
    _ = (arriving.erase conn ++ accepted) ++ (refused ++ [conn]) := by simp
    _ ~ (arriving.erase conn ++ accepted) ++ ([conn] ++ refused) :=
        List.perm_append_comm.append_left _
    _ = arriving.erase conn ++ (accepted ++ [conn] ++ refused) := by simp

theorem Effect.placed (h : Effect check c s s') (hl : Lifecycle.Inv s.base.life)
    (hp : Placed s) : Placed s' := by
  cases h with
  | life ha hs =>
    obtain ⟨haccepted, htaken⟩ := life_conns ha hs
    exact ⟨haccepted ▸ hp.arrived, htaken ▸ hp.taken⟩
  | readFailed => exact ⟨hp.arrived, hp.taken⟩
  | request => exact ⟨hp.arrived, hp.taken⟩
  | requestEOF => exact ⟨hp.arrived, hp.taken⟩
  | newProxy =>
    refine ⟨hp.arrived, ?_⟩
    show s.base.life.taken ~ (s.pcs ++ [Pc.idle]).filterMap Pc.conn? ++ s.released
    rw [List.filterMap_append, show [Pc.idle].filterMap Pc.conn? = [] from rfl, List.append_nil]
    exact hp.taken
  | move hpc hxy => exact hp.goto hpc hxy
  | @demand p i hpc =>
    have hgoto := hp.goto (y := .waiting i) hpc rfl
    exact ⟨hgoto.arrived, hgoto.taken⟩
  | @take p i conn x l hpc hconn _ hg htaken =>
    have hheld := held_goto hpc (.replacing i conn)
    rw [hconn] at hheld
    obtain ⟨haccepted, -, -⟩ := Lifecycle.getConn_conns hg
    constructor
    · show List.range s.next ~ s.arriving ++ (l.accepted ++ s.refused)
      rw [haccepted]
      exact hp.arrived
    · show l.taken ~ (s.goto p (.replacing i conn)).held ++ s.released
      rw [htaken]
      calc s.base.life.taken ++ [conn]
          ~ [conn] ++ s.base.life.taken := List.perm_append_comm
        _ ~ [conn] ++ (s.held ++ s.released) := hp.taken.append_left _
        _ = ([conn] ++ s.held) ++ s.released := by simp
        _ ~ (s.goto p (.replacing i conn)).held ++ s.released := hheld.symm.append_right _
  | @replace p i conn hpc =>
    have hgoto := hp.goto (y := .starting i conn) hpc rfl
    exact ⟨hgoto.arrived, hgoto.taken⟩
  | replaceEOF hpc => exact hp.goto hpc rfl
  | @release p conn x y hpc hconn _ hy =>
    have hheld := held_goto hpc y
    rw [hconn, hy] at hheld
    refine ⟨hp.arrived, ?_⟩
    show s.base.life.taken ~ (s.goto p y).held ++ (s.released ++ [conn])
    calc s.base.life.taken
        ~ s.held ++ s.released := hp.taken
      _ ~ ([conn] ++ (s.goto p y).held) ++ s.released := hheld.symm.append_right _
      _ ~ ((s.goto p y).held ++ [conn]) ++ s.released := List.perm_append_comm.append_right _
      _ = (s.goto p y).held ++ ([conn] ++ s.released) := by simp
      _ ~ (s.goto p y).held ++ (s.released ++ [conn]) := List.perm_append_comm.append_left _
  | answer => exact ⟨arrived_next hp.arrived, hp.taken⟩
  | noAnswer => exact ⟨hp.arrived, hp.taken⟩
  | connect => exact ⟨arrived_next hp.arrived, hp.taken⟩
  | @refuse conn hmem =>
    refine ⟨?_, hp.taken⟩
    show List.range s.next ~
      s.arriving.erase conn ++ (s.base.life.accepted ++ (s.refused ++ [conn]))
    refine (hp.arrived.trans (perm_erase_middle hmem)).trans (List.Perm.append_left _ ?_)
    rw [List.append_assoc]
    exact List.perm_append_comm.append_left _
  | @register conn runID hmem hok =>
    obtain ⟨-, -, haccepted, htaken⟩ := putConn_none hl hok
    constructor
    · show List.range s.next ~
        s.arriving.erase conn ++ ((s.base.life.putConn runID conn).1.accepted ++ s.refused)
      rw [haccepted]
      exact hp.arrived.trans (perm_erase_middle hmem)
    · show (s.base.life.putConn runID conn).1.taken ~ s.held ++ s.released
      rw [htaken]
      exact hp.taken
where
  arrived_next {n : Nat} {l l' : List Nat} (h : List.range n ~ l ++ l') :
      List.range (n + 1) ~ (l ++ [n]) ++ l' := by
    rw [List.range_succ]
    calc List.range n ++ [n]
        ~ (l ++ l') ++ [n] := h.append_right _
      _ = l ++ (l' ++ [n]) := by simp
      _ ~ l ++ ([n] ++ l') := List.perm_append_comm.append_left _
      _ = (l ++ [n]) ++ l' := by simp

theorem reachable_placed {sess : SessionContext} (hnew : newControl sess = .ok ctl)
    (h : (system check c ctl).Reachable s) : Placed s :=
  System.invariant (S := system check c ctl) (I := Placed) ⟨List.Perm.refl _, List.Perm.refl _⟩
    (fun _ _ _ hr hi hs => (step_effect hs).placed (reachable_life hnew hr) hi) h

/-- Each connection that reached the server is in one place: on its way to `RegisterWorkConn`,
in the channel, in the hands of one goroutine, or closed, by the refusal, by the worker's
drain, or by the goroutine that had it. Once the worker has drained the channel and the
goroutines are at rest, all are closed. -/
theorem work_conns_in_one_place {sess : SessionContext} (hnew : newControl sess = .ok ctl)
    (h : (system check c ctl).Reachable s) :
    List.range s.next ~ s.arriving ++ s.pool.buf ++ s.held ++
        (s.refused ++ s.base.life.drained ++ s.released) ∧
      (s.base.life.worker.HasDrained → s.arriving = [] → s.held = [] →
        List.range s.next ~ s.refused ++ s.base.life.drained ++ s.released) := by
  have hplaced := reachable_placed hnew h
  have hlife := reachable_life hnew h
  have hall : List.range s.next ~ s.arriving ++ s.pool.buf ++ s.held ++
      (s.refused ++ s.base.life.drained ++ s.released) := by
    have hmid : s.base.life.accepted ~
        s.held ++ s.released ++ s.base.life.drained ++ s.pool.buf :=
      hlife.conns.trans ((hplaced.taken.append_right _).append_right _)
    have hperm := hplaced.arrived.trans ((hmid.append_right s.refused).append_left s.arriving)
    rw [List.perm_iff_count] at hperm ⊢
    intro n
    have hn := hperm n
    simp only [List.count_append] at hn ⊢
    omega
  refine ⟨hall, ?_⟩
  intro hdrained harriving hheld
  have hpool : s.pool.buf = [] := hlife.chEmpty hdrained
  rw [harriving, hpool, hheld] at hall
  simpa using hall

/-- A sid is written to the connection of the pool while its replacement comes in. -/
theorem work_conns_in_one_place_after_sid :
    ∃ s, (system (fun _ => none) 0 Lifecycle.sampleControl).Reachable s ∧ s.released = [0] ∧
      s.arriving = [1] ∧
      List.range s.next ~ s.arriving ++ s.pool.buf ++ s.held ++
        (s.refused ++ s.base.life.drained ++ s.released) := by
  have hnew : newControl Lifecycle.sampleSession = .ok Lifecycle.sampleControl := rfl
  obtain ⟨s, hr, ht⟩ := System.reachable_of_run
    (S := system (fun _ => none) 0 Lifecycle.sampleControl)
    (l := started ++ [.request false, .answer true, .register "run-a" 0, .newProxy, .sid 0, .poll 0,
      .replace 0 false, .start 0 true, .write 0, .answer true])
    (p := fun s => decide (s.released = [0] ∧ s.arriving = [1])) (by decide +kernel)
  obtain ⟨hreleased, harriving⟩ := of_decide_eq_true ht
  exact ⟨s, hr, hreleased, harriving, (work_conns_in_one_place hnew hr).1⟩

end FrpXtcp.Server.WorkConnPool

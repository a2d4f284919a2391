import FrpXtcp.Server.Registry
import FrpXtcp.Server.LifecycleTables

/-!
# The control manager without its gates

The state behind `ControlManager` (`server/control.go`) and the sections that its
methods execute under `cm.mu`, each as a function. `Core.step` runs these sections
as indivisible operations, with the order of one login and the ownership of the
operations as guards. This is what the manager is meant to be; the run gates that
make the real methods behave like it are added in `ControlManager`.
-/
namespace FrpXtcp.Server

open FrpXtcp.Lib
open FrpXtcp.Server.Registry (ClientRegistry)

/-- What the manager does not decide: the session of each control, the check of proxy
annotations, and the host part that `net.SplitHostPort` returns if it succeeds. -/
structure Env where
  sess : Nat → SessionContext
  check : Proxy.AnnotationCheck
  splitHostPort : String → Option String

def Env.runID (env : Env) (c : Nat) : String := (env.sess c).runID

structure ControlEntry where
  ctl : Nat
  id : UInt64
  runMu : Nat
  registryOnline : Bool
  registryControlID : UInt64

/-- `handedOff c` holds once `WaitForHandoff` of control `c` has returned. Entries and
run gates are pointers, taken from the counters. -/
structure Core where
  life : Nat → Life
  pxy : Proxy.State PxyThread
  handedOff : Nat → Bool
  entries : Nat → ControlEntry
  nextEntry : Nat
  nextGate : Nat
  ctlsByRunID : GoMap String Nat
  closed : Bool
  nextControlID : UInt64
  registry : ClientRegistry

/-- A control that was never made; it stands where a session is refused. -/
def blankControl : Control :=
  ⟨.created, 0, false, false, none, 0, 0, .make workConnPoolCapacityOffset⟩

def Env.control (env : Env) (c : Nat) : Control :=
  (newControl (env.sess c)).toOption.getD blankControl

theorem Env.control_fresh (env : Env) (c : Nat) : Lifecycle.Fresh (env.control c) := by
  unfold Env.control
  cases h : newControl (env.sess c) with
  | error e => exact ⟨rfl, rfl, rfl, rfl, rfl⟩
  | ok ctl => exact Lifecycle.newControl_fresh h

namespace Core

variable (env : Env)

def init : Core :=
  { life := fun c => .new (env.control c), pxy := Proxy.init, handedOff := fun _ => false,
    entries := fun _ => ⟨0, 0, 0, false, 0⟩, nextEntry := 0, nextGate := 0,
    ctlsByRunID := .empty, closed := false, nextControlID := 0,
    registry := Registry.newClientRegistry }

/-- The control that is current for a run ID. -/
def current? (s : Core) (r : String) : Option Nat :=
  (s.ctlsByRunID.get? r).map fun e => (s.entries e).ctl

def setLife (s : Core) (c : Nat) (l : Life) : Core := { s with life := Function.update s.life c l }

def setCtl (s : Core) (c : Nat) (ctl : Control) : Core :=
  s.setLife c { s.life c with ctl := ctl }

/-- The section of `Add` once the manager is known to be open and `old` to be the
entry of the run ID, and its error. -/
def admitEntry (s : Core) (c : Nat) (old : Option Nat) : Core × Option String :=
  let id := s.nextControlID + 1
  let s := { s with nextControlID := id }
  match (s.life c).ctl.admitTo (env.runID c) id with
  | .error err => (s, some err)
  | .ok ctl =>
    let s := s.setCtl c ctl
    match old with
    | none =>
      ({ s with
          entries := Function.update s.entries s.nextEntry ⟨c, id, s.nextGate, false, 0⟩
          nextEntry := s.nextEntry + 1
          nextGate := s.nextGate + 1
          ctlsByRunID := s.ctlsByRunID.insert (env.runID c) s.nextEntry }, none)
    | some e =>
      let old := s.entries e
      let marked := (s.life old.ctl).ctl.markReplaced old.ctl
      let s := s.setCtl old.ctl marked.1
      let s := s.setCtl c ((s.life c).ctl.setHandoffBarrier marked.2)
      ({ s with
          entries := Function.update s.entries s.nextEntry
            ⟨c, id, old.runMu, old.registryOnline, old.registryControlID⟩
          nextEntry := s.nextEntry + 1
          ctlsByRunID := s.ctlsByRunID.insert (env.runID c) s.nextEntry }, none)

/-- The arguments of `RegisterWithControlID` in `Activate`. -/
def registration (c : Nat) (id : UInt64) : Registry.Registration :=
  let sess := env.sess c
  { user := sess.user, rawClientID := sess.clientID, runID := sess.runID,
    hostname := sess.hostname, version := sess.version,
    remoteAddr := (env.splitHostPort sess.remoteAddr).getD sess.remoteAddr,
    wireProtocol := sess.wireProtocol, controlID := id }

/-- `entry.ctl != ctl || entry.id != ctl.controlID` fails. -/
def owns (s : Core) (e c : Nat) : Prop :=
  (s.entries e).ctl = c ∧ (s.entries e).id = (s.life c).ctl.controlID

instance (s : Core) (e c : Nat) : Decidable (s.owns e c) := inferInstanceAs (Decidable (_ ∧ _))

/-- The section of `Activate` under the gate of `e`: the answer is `(active, err)`. -/
def activate (s : Core) (c e now : Nat) : Core × Bool × Option String :=
  if s.closed ∨ s.ctlsByRunID.get? (env.runID c) ≠ some e ∨ ¬ s.owns e c then (s, false, none)
  else if (s.life c).ctl.state ≠ .pending then (s, false, none)
  else if (s.life c).ctl.activated then (s, true, none)
  else
    let id := (s.entries e).id
    let res := Registry.registerWithControlID s.registry (registration env c id) now
    if res.2.2 then
      ({ s with registry := res.1 }, true, some
        s!"client_id [{(env.sess c).clientID}] for user [{(env.sess c).user}] is already online")
    else
      ({ s.setCtl c (s.life c).ctl.activate with
          registry := res.1
          entries := Function.update s.entries e
            { s.entries e with registryOnline := true, registryControlID := id } }, true, none)

/-- The section of `Remove` under the gate of `e`, and its result. -/
def remove (s : Core) (c e now : Nat) : Core × Bool :=
  if s.ctlsByRunID.get? (env.runID c) ≠ some e ∨ ¬ s.owns e c then (s, false)
  else
    ({ s with
        ctlsByRunID := s.ctlsByRunID.erase (env.runID c)
        registry :=
          if (s.entries e).registryOnline then
            Registry.markOfflineByRunIDAndControlID s.registry (env.runID c)
              (s.entries e).registryControlID now
          else s.registry }, true)

/-- The barrier that `WaitForHandoff` waits for is closed. -/
def barrierDone (s : Core) (c : Nat) : Prop :=
  ∀ d ∈ (s.life c).ctl.handoffBarrier, (s.life d).ctl.isDone

instance (s : Core) (c : Nat) : Decidable (s.barrierDone c) := by
  unfold barrierDone
  infer_instance

/-- Message handlers work for their own control while its read loop runs, with the
user of its login. -/
def pxyAllowed (s : Core) : Proxy.Action PxyThread → Bool
  | .registerProxy t c user _ =>
    t = .handler c && (s.life c).worker = .waitDone && user = (env.sess c).user
  | .closeProxy t c _ => t = .handler c && (s.life c).worker = .waitDone
  | .next (.handler c) => (s.life c).worker = .waitDone
  | .closeProxies _ _ _ | .next (.worker _) => false

end Core

/-- The operations as the manager is meant to offer them. -/
inductive CoreAction where
  | add (c : Nat)
  | handoff (c : Nat)
  | activate (c e now : Nat)
  | start (c : Nat)
  | remove (c e now : Nat)
  | close (c : Nat)
  | cmClose
  | putConn (c conn : Nat)
  | getConn (c : Nat)
  | worker (c : Nat) (order : List Nat)
  | pxy (a : Proxy.Action PxyThread)

namespace Core

variable (env : Env)

/-- Who may call `Remove`: a login that failed before its handoff was due or after it
was over, a worker after its cleanup, and the closing of the manager. -/
def mayRemove (s : Core) (c : Nat) : Prop :=
  (s.handedOff c = true ∧ (s.life c).worker = .off) ∨ (s.life c).ctl.state = .created ∨
    (s.life c).worker = .remove ∨ s.closed = true

/-- Who may be closed: a control that was started, and one that is not current. -/
def mayClose (s : Core) (c : Nat) : Prop :=
  (s.life c).worker ≠ .off ∨ s.current? (env.runID c) ≠ some c

instance (s : Core) (c : Nat) : Decidable (s.mayRemove c) :=
  inferInstanceAs (Decidable (_ ∨ _))

instance (s : Core) (c : Nat) : Decidable (s.mayClose env c) :=
  inferInstanceAs (Decidable (_ ∨ _))

def step (s : Core) : CoreAction → Option Core
  | .add c =>
    if s.closed then none
    else some (s.admitEntry env c (s.ctlsByRunID.get? (env.runID c))).1
  | .handoff c =>
    if (s.life c).ctl.state ≠ .created ∧ s.barrierDone c then
      some { s with handedOff := Function.update s.handedOff c true }
    else none
  | .activate c e now =>
    if s.handedOff c then some (s.activate env c e now).1 else none
  | .start c =>
    if s.handedOff c ∧ s.current? (env.runID c) = some c then
      some (s.setLife c (s.life c).start)
    else none
  | .remove c e now => if s.mayRemove c then some (s.remove env c e now).1 else none
  | .close c => if s.mayClose env c then some (s.setCtl c (s.life c).ctl.close) else none
  | .cmClose => some { s with closed := true }
  | .putConn c conn =>
    if s.current? (env.runID c) = some c then
      some (s.setLife c ((s.life c).putConn (env.runID c) conn).1)
    else none
  | .getConn c => (s.life c).getConn.map (s.setLife c)
  | .worker c order =>
    ((s.life c).workerStep env.check c s.pxy order).map fun r =>
      { s.setLife c r.1 with pxy := r.2 }
  | .pxy a =>
    if s.pxyAllowed env a then
      (Proxy.step env.check s.pxy a).map fun pxy => { s with pxy := pxy }
    else none

def system : System Core CoreAction := ⟨init env, step env⟩

end Core

end FrpXtcp.Server

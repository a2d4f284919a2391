import FrpXtcp.Server.ManagerCore

/-!
# The control manager with its run gates

`ControlManager` of `server/control.go` and the goroutines of `server/service.go` that
call it. `runMu` is acquired and released by steps of its own, the lookup before it and
the revalidation after it are steps too, and so is the write of the `LoginResp` under
`lifecycleMu`. A section under `cm.mu`, with the locks nested inside it, is one step.
-/
namespace FrpXtcp.Server

open FrpXtcp.Lib

/-- The goroutine that handles the login of control `c`, the worker of `c`, the one that
handles work connection `n`, and the `n`-th caller of `ControlManager.Close`. -/
inductive Tid where
  | login (c : Nat)
  | worker (c : Nat)
  | conn (n : Nat)
  | closer (n : Nat)
  deriving DecidableEq

/-- The methods that start with `lockCurrentRun`. -/
inductive Method where
  | activate (c : Nat)
  | completeLogin (c : Nat)
  | remove (c : Nat)
  | getByID (runID : String)
  | registerWorkConn (c conn : Nat)
  deriving DecidableEq

/-- Their results. -/
inductive Ret where
  | activate (active : Bool) (err : Option String)
  | completeLogin (committed : Bool) (err : Option String)
  | remove (ok : Bool)
  | getByID (ctl : Option Nat)
  | registerWorkConn (err : Option String)
  deriving DecidableEq

/-- Where one of these methods is. From `revalidate` to `unlock` it holds the gate `g`;
`e` is the entry that `lockCurrentRun` returned. During `writing` and `written`
`completeLogin` holds `lifecycleMu` as well. -/
inductive GatePc where
  | lookup
  | acquire (g : Nat)
  | revalidate (g : Nat)
  | unlockFailed (g : Nat)
  | failed
  | body (e g : Nat)
  | writing (e g : Nat)
  | written (e g : Nat)
  | unlock (e g : Nat) (ret : Ret)
  | returned (ret : Ret)
  deriving DecidableEq

inductive AddOutcome where
  | retry
  | failed (err : String)
  | added
  deriving DecidableEq

/-- Where `Add` is. `old` is the entry it found with its gate, which it holds from
`update` to `unlock`. -/
inductive AddPc where
  | lookup
  | lock (e g : Nat)
  | update (old : Option (Nat × Nat))
  | unlock (old : Option (Nat × Nat)) (out : AddOutcome)
  deriving DecidableEq

inductive Pc where
  | idle
  | add (c : Nat) (p : AddPc)
  | replaced (c e : Nat)
  | waitForHandoff (c : Nat)
  | call (m : Method) (p : GatePc)
  | close (c : Nat)
  | closed
  | done
  deriving DecidableEq

/-- What a step does to the gates. -/
inductive GateOp where
  | keep
  | lock (g : Nat)
  | unlock (g : Nat)

/-- `Lock` waits until the gate is free. -/
def GateOp.apply (t : Tid) (gate : Nat → Option Tid) : GateOp → Option (Nat → Option Tid)
  | .keep => some gate
  | .lock g => if gate g = none then some (Function.update gate g (some t)) else none
  | .unlock g => some (Function.update gate g none)

namespace Method

def runID (env : Env) : Method → String
  | .activate c | .completeLogin c | .remove c | .registerWorkConn c _ => env.runID c
  | .getByID r => r

/-- The argument `allowClosed` of `lockCurrentRun`. -/
def allowClosed : Method → Bool
  | .remove _ => true
  | _ => false

/-- What the method returns when `lockCurrentRun` fails. -/
def lockFailed (env : Env) (closed : Bool) : Method → Ret
  | .activate _ => .activate false none
  | .completeLogin _ => .completeLogin false none
  | .remove _ => .remove false
  | .getByID _ => .getByID none
  | .registerWorkConn c _ =>
    if closed then .registerWorkConn (some "control manager is closed")
    else .registerWorkConn
      (some s!"client control for run id [{env.runID c}] is no longer current")

end Method

namespace ControlManager

section Statements

variable (env : Env) (free : Nat → Bool) (s : Core)

/-- `lockCurrentRun` does not see the manager as closed. -/
def sees (m : Method) : Bool := !s.closed || m.allowClosed

/-- The statements of `Add`. `free` tells which `lifecycleMu` are not held. -/
def execAdd (c : Nat) : AddPc → Option (Core × Pc × GateOp)
  | .lookup =>
    match s.ctlsByRunID.get? (env.runID c) with
    | none => some (s, .add c (.update none), .keep)
    | some e => some (s, .add c (.lock e (s.entries e).runMu), .keep)
  | .lock e g => some (s, .add c (.update (some (e, g))), .lock g)
  | .update old =>
    if s.closed then
      some (s, .add c (.unlock old (.failed "control manager is closed")), .keep)
    else if s.ctlsByRunID.get? (env.runID c) ≠ old.map Prod.fst then
      some (s, .add c (.unlock old .retry), .keep)
    else if free c && old.all (fun o => free (s.entries o.1).ctl) then
      let res := s.admitEntry env c (old.map Prod.fst)
      let out := match res.2 with
        | none => .added
        | some err => .failed err
      some (res.1, .add c (.unlock old out), .keep)
    else none
  | .unlock old out =>
    let next := match out with
      | .retry => .add c .lookup
      -- `handleConnection` removes a control whose registration failed
      | .failed _ => .call (.remove c) .lookup
      | .added =>
        match old with
        | none => .waitForHandoff c
        | some (e, _) => .replaced c e
    some (s, next, match old with
      | none => .keep
      | some (_, g) => .unlock g)

/-- What each method does between `lockCurrentRun` and the release of the gate. -/
def execBody (now e g : Nat) : Method → Option (Core × GatePc)
  | .activate c =>
    if free c then
      let res := s.activate env c e now
      some (res.1, .unlock e g (.activate res.2.1 res.2.2))
    else none
  | .completeLogin c =>
    if ¬ s.owns e c then some (s, .unlock e g (.completeLogin false none))
    else if free c then
      if (s.life c).ctl.state ≠ .pending ∨ (s.life c).ctl.activated = false then
        some (s, .unlock e g (.completeLogin false none))
      else some (s, .writing e g)
    else none
  | .remove c =>
    let res := s.remove env c e now
    some (res.1, .unlock e g (.remove res.2))
  | .getByID _ =>
    let c := (s.entries e).ctl
    if free c then
      if (s.life c).ctl.state ≠ .running then some (s, .unlock e g (.getByID none))
      else some (s, .unlock e g (.getByID (some c)))
    else none
  | .registerWorkConn c conn =>
    if ¬ s.owns e c then
      some (s, .unlock e g (.registerWorkConn
        (some s!"client control for run id [{env.runID c}] is no longer current")))
    else if free c then
      let res := (s.life c).putConn (env.runID c) conn
      some (s.setLife c res.1, .unlock e g (.registerWorkConn res.2))
    else none

/-- The statements of the methods behind a gate. The write of `completeLogin` is an
action of its own, since its outcome is not decided here. -/
def execCall (now : Nat) (m : Method) : GatePc → Option (Core × Pc × GateOp)
  | .lookup =>
    match s.ctlsByRunID.get? (m.runID env) with
    | none => some (s, .call m .failed, .keep)
    | some e =>
      if sees s m then some (s, .call m (.acquire (s.entries e).runMu), .keep)
      else some (s, .call m .failed, .keep)
  | .acquire g => some (s, .call m (.revalidate g), .lock g)
  | .revalidate g =>
    match s.ctlsByRunID.get? (m.runID env) with
    | none => some (s, .call m (.unlockFailed g), .keep)
    | some e =>
      if sees s m && (s.entries e).runMu = g then some (s, .call m (.body e g), .keep)
      else some (s, .call m (.unlockFailed g), .keep)
  | .unlockFailed g => some (s, .call m .failed, .unlock g)
  | .failed => some (s, .call m (.returned (m.lockFailed env s.closed)), .keep)
  | .body e g => (execBody env free s now e g m).map fun r => (r.1, .call m r.2, .keep)
  | .written e g =>
    match m with
    | .completeLogin c =>
      some (s.setLife c (s.life c).start,
        .call m (.unlock e g (.completeLogin (s.life c).ctl.startLocked.2 none)), .keep)
    | _ => none
  | .unlock _ g ret => some (s, .call m (.returned ret), .unlock g)
  | .writing _ _ | .returned _ => none

/-- The next statement of a goroutine inside the manager. -/
def exec (now : Nat) : Pc → Option (Core × Pc × GateOp)
  | .add c p => execAdd env free s c p
  | .replaced c e =>
    let old := (s.entries e).ctl
    if free old then
      some (s.setCtl old ((s.life old).ctl.markReplaced old).1, .waitForHandoff c, .keep)
    else none
  | .waitForHandoff c =>
    if free c ∧ s.barrierDone c then
      some ({ s with handedOff := Function.update s.handedOff c true },
        .call (.activate c) .lookup, .keep)
    else none
  | .call m p => execCall env free s now m p
  | .close c =>
    if free c then some (s.setCtl c (s.life c).ctl.close, .closed, .keep) else none
  | .idle | .closed | .done => none

end Statements

/-- `todo n` are the controls that the `n`-th `Close` has not handled yet. -/
structure State where
  core : Core
  pc : Tid → Pc
  gate : Nat → Option Tid
  todo : Nat → List Nat

inductive Action where
  | next (t : Tid) (now : Nat)
  | resume (t : Tid)
  | write (c : Nat) (err : Option String)
  | newWorkConn (n : Nat) (runID : String)
  | cmClose (n : Nat) (order : List Nat)
  | ctlClose (c : Nat)
  | getWorkConn (c : Nat)
  | worker (c : Nat) (order : List Nat)
  | pxy (a : Proxy.Action PxyThread)

/-- The goroutine that takes a step, if it is one of those that have a program counter. -/
def Action.thread? : Action → Option Tid
  | .next t _ | .resume t => some t
  | .write c _ => some (.login c)
  | .newWorkConn n _ => some (.conn n)
  | .cmClose n _ => some (.closer n)
  | .worker c _ => some (.worker c)
  | .ctlClose _ | .getWorkConn _ | .pxy _ => none

/-- `lifecycleMu` of `c` is not held across steps. -/
def State.lifeFree (s : State) (c : Nat) : Bool :=
  match s.pc (.login c) with
  | .call _ (.writing _ _) | .call _ (.written _ _) => false
  | _ => true

def State.goto (s : State) (t : Tid) (pc : Pc) : State :=
  { s with pc := Function.update s.pc t pc }

/-- The loop of `Close` over the controls that were current. -/
def State.closeNext (s : State) (n : Nat) : List Nat → State
  | [] => s.goto (.closer n) .done
  | c :: rest =>
    { s.goto (.closer n) (.call (.remove c) .lookup) with todo := Function.update s.todo n rest }

variable (env : Env)

/-- What a goroutine does between two methods of the manager: `RegisterControl` and
`handleConnection` for a login, `worker`, `RegisterWorkConn` of the service once its
checks have passed, and `Close`. -/
def resume (s : State) : Tid → Option State
  | .login c =>
    match s.pc (.login c) with
    | .idle =>
      if (newControl (env.sess c)).toOption.isSome then some (s.goto (.login c) (.add c .lookup))
      else none
    | .call (.activate _) (.returned (.activate true none)) =>
      some (s.goto (.login c) (.call (.completeLogin c) .lookup))
    | .call (.activate _) (.returned _) => some (s.goto (.login c) (.call (.remove c) .lookup))
    | .call (.completeLogin _) (.returned (.completeLogin true none)) =>
      some (s.goto (.login c) .done)
    | .call (.completeLogin _) (.returned _) =>
      some (s.goto (.login c) (.call (.remove c) .lookup))
    | .call (.remove _) (.returned _) => some (s.goto (.login c) (.close c))
    | .closed => some (s.goto (.login c) .done)
    | _ => none
  | .worker c =>
    if s.pc (.worker c) = .idle ∧ (s.core.life c).worker = .remove ∧
        (s.core.life c).ctl.managed = true then
      some (s.goto (.worker c) (.call (.remove c) .lookup))
    else none
  | .conn n =>
    match s.pc (.conn n) with
    | .call (.getByID _) (.returned (.getByID (some c))) =>
      some (s.goto (.conn n) (.call (.registerWorkConn c n) .lookup))
    | _ => none
  | .closer n =>
    match s.pc (.closer n) with
    | .call (.remove c) (.returned _) => some (s.goto (.closer n) (.close c))
    | .closed => some (s.closeNext n (s.todo n))
    | _ => none

/-- The worker of `c` is at a statement that it can execute now: `lifecycleMu` is free
where it is needed, and the call of `Remove` has returned. -/
def workerReady (s : State) (c : Nat) : Bool :=
  match (s.core.life c).worker with
  | .leaveRunning | .finish => s.lifeFree c
  | .remove =>
    match s.pc (.worker c) with
    | .call (.remove _) (.returned _) => true
    | _ => !(s.core.life c).ctl.managed
  | _ => true

def step (s : State) : Action → Option State
  | .next t now =>
    (exec env s.lifeFree s.core now (s.pc t)).bind fun r =>
      (r.2.2.apply t s.gate).map fun gate => { s.goto t r.2.1 with core := r.1, gate := gate }
  | .resume t => resume env s t
  | .write c err =>
    match s.pc (.login c) with
    | .call (.completeLogin c') (.writing e g) =>
      match err with
      | none => some (s.goto (.login c) (.call (.completeLogin c') (.written e g)))
      | some err =>
        some (s.goto (.login c)
          (.call (.completeLogin c') (.unlock e g (.completeLogin false (some err)))))
    | _ => none
  | .newWorkConn n r =>
    if s.pc (.conn n) = .idle then some (s.goto (.conn n) (.call (.getByID r) .lookup)) else none
  | .cmClose n order =>
    if s.pc (.closer n) = .idle ∧
        order.Perm (s.core.ctlsByRunID.toList.map fun p => (s.core.entries p.2).ctl) then
      some ({ s with core := { s.core with closed := true } }.closeNext n order)
    else none
  | .ctlClose c =>
    if (s.core.life c).worker ≠ .off ∧ s.lifeFree c then
      some { s with core := s.core.setCtl c (s.core.life c).ctl.close }
    else none
  | .getWorkConn c =>
    (s.core.life c).getConn.map fun l => { s with core := s.core.setLife c l }
  | .worker c order =>
    if workerReady s c then
      ((s.core.life c).workerStep env.check c s.core.pxy order).map fun r =>
        { s with
          core := { s.core.setLife c r.1 with pxy := r.2 }
          pc := if (s.core.life c).worker = .remove then Function.update s.pc (.worker c) .done
            else s.pc }
    else none
  | .pxy a =>
    if s.core.pxyAllowed env a then
      (Proxy.step env.check s.core.pxy a).map fun pxy =>
        { s with core := { s.core with pxy := pxy } }
    else none

def init : State := ⟨Core.init env, fun _ => .idle, fun _ => none, fun _ => []⟩

def system : System State Action := ⟨init env, step env⟩

end ControlManager

end FrpXtcp.Server

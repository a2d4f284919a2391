import FrpXtcp.Lib.LockOrder
import FrpXtcp.Server.ManagerCore

/-!
# The locks of the control manager

The methods of `ControlManager` and `Control` (`server/control.go`) and the two methods of
the registry that they call, statement by statement with every `Lock` and `Unlock`. A
`defer` of the source stands where it takes effect. Any number of goroutines run any of
these methods, in any order and interleaving: what a caller does between two methods is
not assumed.
-/
namespace FrpXtcp.Server.ManagerLocks

open FrpXtcp.Lib

/-- `cm.mu`, and the mutexes of the run gates, the controls and the registry. -/
inductive Lock where
  | runMu (g : Nat)
  | cmMu
  | lifecycleMu (c : Nat)
  | registryMu
  deriving DecidableEq

/-- The global order that `lockCurrentRun` documents. -/
def Lock.rank : Lock → Nat
  | .runMu _ => 0
  | .cmMu => 1
  | .lifecycleMu _ => 2
  | .registryMu => 3

/-- What a goroutine can be made to run. `now` is the registry's clock, and `order` how
`range` goes through a map. -/
inductive Op where
  | add (c : Nat)
  | activate (c now : Nat)
  | completeLogin (c : Nat)
  | remove (c now : Nat)
  | getByID (runID : String)
  | admitVisitorByRunID (runID : String)
  | registerWorkConn (c conn : Nat)
  | cmClose (order : (l : List Nat) → { o : List Nat // o.Perm l }) (now : Nat → Nat)
  | waitForHandoff (c : Nat)
  | close (c : Nat)
  | replaced (c newCtl : Nat)
  | worker (c : Nat) (order : List Nat) (now : Nat)

/-- Code outside returns an error or `none`. -/
abbrev Code (α : Type) := Prog Core Lock (Option String) Op α

abbrev lock (l : Lock) : Code Unit := .acquire .exclusive l
abbrev unlock (l : Lock) : Code Unit := .release .exclusive l
abbrev rlock (l : Lock) : Code Unit := .acquire .shared l
abbrev runlock (l : Lock) : Code Unit := .release .shared l

/-- A section under the `lifecycleMu` of `c`. -/
def locked {α : Type} (c : Nat) (f : Core → α × Core) : Code α := do
  lock (.lifecycleMu c)
  let a ← .modifyGet f
  unlock (.lifecycleMu c)
  return a

/-- `SetReadDeadline` and `Close` of the control connection. -/
def interruptReadAndClose : Code Unit := do
  let _ ← Prog.outside

variable (env : Env)

section Control

/-- `ID` -/
def controlID (c : Nat) : Code UInt64 := locked c fun s => ((s.life c).ctl.controlID, s)

/-- `Control.admit` -/
def admitControl (c : Nat) (id : UInt64) : Code (Option String) :=
  locked c fun s =>
    match (s.life c).ctl.admitTo (env.runID c) id with
    | .error err => (some err, s)
    | .ok ctl => (none, s.setCtl c ctl)

def setHandoffBarrier (c : Nat) (barrier : Option Nat) : Code Unit :=
  locked c fun s => ((), s.setCtl c ((s.life c).ctl.setHandoffBarrier barrier))

/-- The wait for the barrier is a wait outside, with nothing held. -/
def waitForHandoff (c : Nat) : Code Unit := do
  let barrier ← locked c fun s => ((s.life c).ctl.handoffBarrier, s)
  match barrier with
  | none => return ()
  | some _ => let _ ← Prog.outside

def markReplaced (c : Nat) : Code (Option Nat) :=
  locked c fun s =>
    let r := (s.life c).ctl.markReplaced c
    (r.2, s.setCtl c r.1)

/-- `Control.Close` -/
def close (c : Nat) : Code Unit := do
  locked c fun s => ((), s.setCtl c (s.life c).ctl.close)
  interruptReadAndClose

def replaced (c newCtl : Nat) : Code Unit := do
  let _ ← markReplaced c
  let _ ← controlID newCtl
  interruptReadAndClose

end Control

section Registry

/-- The answer is `conflict`. -/
def registerWithControlID (reg : Registry.Registration) (now : Nat) : Code Bool := do
  if reg.runID = "" then return false
  else
    lock .registryMu
    let conflict ← .modifyGet fun s =>
      let res := Registry.registerWithControlID s.registry reg now
      (res.2.2, { s with registry := res.1 })
    unlock .registryMu
    return conflict

def markOfflineByRunIDAndControlID (runID : String) (controlID : UInt64) (now : Nat) :
    Code Unit := do
  lock .registryMu
  .modify fun s =>
    { s with registry := Registry.markOfflineByRunIDAndControlID s.registry runID controlID now }
  unlock .registryMu

end Registry

/-- The entry of a run ID, unless the manager is closed and that counts. -/
def visible? (runID : String) (allowClosed : Bool) (s : Core) : Option Nat :=
  if s.closed && !allowClosed then none else s.ctlsByRunID.get? runID

/-- The answer is the entry with its `runMu`. -/
def lockCurrentRun (runID : String) (allowClosed : Bool) : Code (Option (Nat × Nat)) := do
  rlock .cmMu
  let found ← .gets fun s => (visible? runID allowClosed s).map fun e => (s.entries e).runMu
  runlock .cmMu
  match found with
  | none => return none
  | some runMu =>
    lock (.runMu runMu)
    rlock .cmMu
    let found ← .gets fun s =>
      (visible? runID allowClosed s).filter fun e => (s.entries e).runMu = runMu
    runlock .cmMu
    match found with
    | none =>
      unlock (.runMu runMu)
      return none
    | some e => return some (e, runMu)

section Add

/-- `if old != nil { old.runMu.Lock() }` -/
def lockOld : Option (Nat × Nat) → Code Unit
  | none => return ()
  | some (_, runMu) => lock (.runMu runMu)

def unlockOld : Option (Nat × Nat) → Code Unit
  | none => return ()
  | some (_, runMu) => unlock (.runMu runMu)

/-- The new entry of control `c`. -/
def insertEntry (c : Nat) (id : UInt64) (old : Option (Nat × Nat)) (s : Core) : Core :=
  let s := match old with
    | none =>
      { s with
        entries := Function.update s.entries s.nextEntry ⟨c, id, s.nextGate, false, 0⟩
        nextGate := s.nextGate + 1 }
    | some (e, runMu) =>
      { s with
        entries := Function.update s.entries s.nextEntry
          ⟨c, id, runMu, (s.entries e).registryOnline, (s.entries e).registryControlID⟩ }
  { s with
    nextEntry := s.nextEntry + 1
    ctlsByRunID := s.ctlsByRunID.insert (env.runID c) s.nextEntry }

/-- `Add` from the admission on, with `cm.mu` held and `old` known to be current. -/
def addCurrent (c : Nat) (old : Option (Nat × Nat)) : Code (Option String) := do
  let id ← .modifyGet fun s =>
    (s.nextControlID + 1, { s with nextControlID := s.nextControlID + 1 })
  match ← admitControl env c id with
  | some err =>
    unlock .cmMu
    unlockOld old
    return some err
  | none =>
    match old with
    | none =>
      .modify (insertEntry env c id none)
      unlock .cmMu
      return none
    | some (e, runMu) =>
      let oldCtl ← .gets fun s => (s.entries e).ctl
      let barrier ← markReplaced oldCtl
      setHandoffBarrier c barrier
      .modify (insertEntry env c id (some (e, runMu)))
      unlock .cmMu
      unlock (.runMu runMu)
      replaced oldCtl c
      return none

def add (c : Nat) : Code (Option String) := do
  rlock .cmMu
  let old ← .gets fun s =>
    (s.ctlsByRunID.get? (env.runID c)).map fun e => (e, (s.entries e).runMu)
  runlock .cmMu
  lockOld old
  lock .cmMu
  let closed ← .gets fun s => s.closed
  if closed then
    unlock .cmMu
    unlockOld old
    return some "control manager is closed"
  else
    let current ← .gets fun s => s.ctlsByRunID.get? (env.runID c)
    if current ≠ old.map Prod.fst then
      unlock .cmMu
      unlockOld old
      .jump (.add c)
    else addCurrent env c old

end Add

section Activate

/-- The registration of `Activate` and what follows it. -/
def activateOnline (c e now : Nat) : Code (Bool × Option String) := do
  let id ← .gets fun s => (s.entries e).id
  let conflict ← registerWithControlID (Core.registration env c id) now
  if conflict then
    return (true,
      some s!"client_id [{(env.sess c).clientID}] for user [{(env.sess c).user}] is already online")
  else
    .modify fun s =>
      { s.setCtl c (s.life c).ctl.activate with
        entries := Function.update s.entries e
          { s.entries e with registryOnline := true, registryControlID := id } }
    return (true, none)

/-- The section of `Activate` under `lifecycleMu`. -/
def activateLocked (c e now : Nat) : Code (Bool × Option String) := do
  lock (.lifecycleMu c)
  let ctl ← .gets fun s => (s.life c).ctl
  let res ←
    if ctl.state ≠ .pending then pure (false, none)
    else if ctl.activated then pure (true, none)
    else activateOnline env c e now
  unlock (.lifecycleMu c)
  return res

def activate (c now : Nat) : Code (Bool × Option String) := do
  match ← lockCurrentRun (env.runID c) false with
  | none => return (false, none)
  | some (e, runMu) =>
    lock .cmMu
    let current ← .gets fun s =>
      decide (¬ (s.closed ∨ s.ctlsByRunID.get? (env.runID c) ≠ some e ∨ ¬ s.owns e c))
    let res ← if current then activateLocked env c e now else pure (false, none)
    unlock .cmMu
    unlock (.runMu runMu)
    return res

end Activate

section Methods

/-- The section of `completeLogin` under `lifecycleMu`; `writeSuccess` is code outside. -/
def completeLoginLocked (c : Nat) : Code (Bool × Option String) := do
  lock (.lifecycleMu c)
  let ctl ← .gets fun s => (s.life c).ctl
  let res ←
    if ctl.state ≠ .pending ∨ ctl.activated = false then pure (false, none)
    else do
      let err ← Prog.outside
      match err with
      | some err => pure (false, some err)
      | none =>
        let started ← .modifyGet fun s =>
          ((s.life c).ctl.startLocked.2, s.setLife c (s.life c).start)
        pure (started, none)
  unlock (.lifecycleMu c)
  return res

def completeLogin (c : Nat) : Code (Bool × Option String) := do
  match ← lockCurrentRun (env.runID c) false with
  | none => return (false, none)
  | some (e, runMu) =>
    let owner ← .gets fun s => decide (s.owns e c)
    let res ← if owner then completeLoginLocked c else pure (false, none)
    unlock (.runMu runMu)
    return res

def remove (c now : Nat) : Code Bool := do
  match ← lockCurrentRun (env.runID c) true with
  | none => return false
  | some (e, runMu) =>
    lock .cmMu
    let current ← .gets fun s =>
      decide (s.ctlsByRunID.get? (env.runID c) = some e ∧ s.owns e c)
    if current then
      .modify fun s => { s with ctlsByRunID := s.ctlsByRunID.erase (env.runID c) }
      let entry ← .gets fun s => s.entries e
      if entry.registryOnline then
        markOfflineByRunIDAndControlID (env.runID c) entry.registryControlID now
      else pure ()
    else pure ()
    unlock .cmMu
    unlock (.runMu runMu)
    return current

def getByID (runID : String) : Code (Option Nat) := do
  match ← lockCurrentRun runID false with
  | none => return none
  | some (e, runMu) =>
    let c ← .gets fun s => (s.entries e).ctl
    let running ← locked c fun s => (decide ((s.life c).ctl.state = .running), s)
    unlock (.runMu runMu)
    return if running then some c else none

/-- The callback `admit` is code outside. -/
def admitVisitorByRunID (runID : String) : Code (Bool × Option String) := do
  match ← lockCurrentRun runID false with
  | none => return (false, none)
  | some (e, runMu) =>
    let c ← .gets fun s => (s.entries e).ctl
    lock (.lifecycleMu c)
    let running ← .gets fun s => decide ((s.life c).ctl.state = .running)
    let res ←
      if running then do
        let err ← Prog.outside
        pure (true, err)
      else pure (false, none)
    unlock (.lifecycleMu c)
    unlock (.runMu runMu)
    return res

def registerWorkConn (c conn : Nat) : Code (Option String) := do
  match ← lockCurrentRun (env.runID c) false with
  | none =>
    rlock .cmMu
    let closed ← .gets fun s => s.closed
    runlock .cmMu
    if closed then return some "control manager is closed"
    else return some s!"client control for run id [{env.runID c}] is no longer current"
  | some (e, runMu) =>
    let owner ← .gets fun s => decide (s.owns e c)
    let res ←
      if owner then
        locked c fun s =>
          let r := (s.life c).putConn (env.runID c) conn
          (r.2, s.setLife c r.1)
      else pure (some s!"client control for run id [{env.runID c}] is no longer current")
    unlock (.runMu runMu)
    return res

/-- The loop of `ControlManager.Close`. -/
def closeAll (now : Nat → Nat) : List Nat → Code Unit
  | [] => return ()
  | c :: ctls => do
    let _ ← remove env c (now c)
    close c
    closeAll now ctls

/-- `ControlManager.Close` -/
def cmClose (order : (l : List Nat) → { o : List Nat // o.Perm l }) (now : Nat → Nat) :
    Code Unit := do
  lock .cmMu
  let ctls ← .modifyGet fun s =>
    ((order (s.ctlsByRunID.toList.map fun p => (s.entries p.2).ctl)).val, { s with closed := true })
  unlock .cmMu
  closeAll env now ctls

end Methods

section Worker

/-- The statement that the worker is at; it waits where `workerStep` says it cannot go on. -/
def workerStatement (c : Nat) (order : List Nat) (s : Core) : Core :=
  match (s.life c).workerStep env.check c s.pxy order with
  | none => s
  | some (life, pxy) => { s.setLife c life with pxy := pxy }

/-- `worker` from the statement it is at. -/
def worker (c : Nat) (order : List Nat) (now : Nat) : Code Unit := do
  let life ← .gets fun s => s.life c
  match life.worker with
  | .off | .exited => return ()
  | .leaveRunning | .finish =>
    locked c fun s => ((), workerStatement env c order s)
    .jump (.worker c order now)
  | .remove =>
    if life.ctl.managed then do
      let _ ← remove env c now
    else pure ()
    .modify (workerStatement env c order)
    .jump (.worker c order now)
  | _ =>
    .modify (workerStatement env c order)
    .jump (.worker c order now)

end Worker

/-- The program of each method; nobody looks at its result here. -/
def body : Op → Code Unit
  | .add c => do let _ ← add env c
  | .activate c now => do let _ ← activate env c now
  | .completeLogin c => do let _ ← completeLogin env c
  | .remove c now => do let _ ← remove env c now
  | .getByID r => do let _ ← getByID r
  | .admitVisitorByRunID r => do let _ ← admitVisitorByRunID r
  | .registerWorkConn c conn => do let _ ← registerWorkConn env c conn
  | .cmClose order now => cmClose env order now
  | .waitForHandoff c => waitForHandoff c
  | .close c => close c
  | .replaced c newCtl => replaced c newCtl
  | .worker c order now => worker env c order now

abbrev State := Locks.State Core Lock (Option String) Op Nat

/-- The goroutines are numbered. -/
def system : System State (Locks.Action (Option String) Op Nat) :=
  Locks.system (body env) (Core.init env)

end FrpXtcp.Server.ManagerLocks

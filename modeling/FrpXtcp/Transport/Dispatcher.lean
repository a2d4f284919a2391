import FrpXtcp.Lib.Chan
import FrpXtcp.Lib.Line
import FrpXtcp.Lib.Simulation

/-!
# The message dispatcher

`Dispatcher` of `pkg/msg/handler.go`, at both ends of one control connection. `Send` puts a
message in a channel, `sendLoop` writes what it takes from there, `readLoop` reads and calls
handlers. Every goroutine may call `Send` at any time, so the calls are actions of the
environment; a call that waits is one that has not been taken yet.

Three things can keep the loops waiting. A write waits while the connection takes no more. A
handler that answers waits in `Send`, on the read loop, while the channel is full. And the
client's handler of `NewProxyResp` waits for the locks of the proxy manager and of the proxy,
which other goroutines keep while they wait in `Send` themselves (`client/proxy`).

Each direction of such a connection is a line in the sense of `Lib.Line`.
-/
namespace FrpXtcp.Transport.Dispatch

open FrpXtcp.Lib
open scoped List

/-- Where `sendLoop` is: not started, at its select, in `WriteMsg`, or returned. -/
inductive SendPc (M : Type) where
  | off
  | select
  | writing (m : M)
  | returned
  deriving DecidableEq

/-- Where `readLoop` is: not started, in `ReadMsg`, in a handler, or returned. -/
inductive ReadPc (M : Type) where
  | off
  | reading
  | handling (m : M)
  | returned
  deriving DecidableEq

/-- A handler as it was registered, by how it ends on the read loop: one wrapped by
`AsyncHandler` returns at once, `sync` needs nothing else, `replies` ends in a `Send`, and
`locks` takes the locks of the proxy manager and of the proxy that the message names. -/
inductive Handler where
  | async
  | sync
  | replies
  | locks
  deriving DecidableEq

/-- A goroutine that keeps a lock until it has sent `todo`: without a name the one of the proxy
manager, otherwise the one of that proxy. -/
structure Locker (M : Type) where
  lock : Option String
  todo : List M
  deriving DecidableEq

/-- The last four fields are a history: what `Send` returned nil for, what `WriteMsg` was
called with and whether it succeeded, what `ReadMsg` returned, and what handlers were called
with. -/
structure Dispatcher (M : Type) where
  sendCh : Chan M
  doneCh : Chan Unit
  sendLoop : SendPc M
  readLoop : ReadPc M
  lockers : List (Locker M)
  panicked : Bool
  accepted : List M
  wrote : List (M × Bool)
  read : List M
  called : List M

inductive Side where
  | client
  | server
  deriving DecidableEq

def Side.other : Side → Side
  | .client => .server
  | .server => .client

/-- The dispatchers of one control connection, and what was written at a side and not yet
read at the other one. -/
structure Conn (M : Type) where
  ends : Side → Dispatcher M
  wire : Side → List M

inductive Act (M : Type) where
  | run
  | send (m : M)
  | sendEOF
  | take
  | stop
  | wrote (ok : Bool)
  | read
  | readErr
  | handled
  | reply (r : M)
  | lock (lock : Option String) (todo : List M)
  | lockedSend (i : Nat)
  | lockedEOF (i : Nat)
  | unlock (i : Nat)

variable {M T : Type}

/-- `NewDispatcher` -/
def newDispatcher : Dispatcher M :=
  ⟨.make 100, .make 0, .off, .off, [], false, [], [], [], []⟩

namespace Dispatcher

/-- The case of `Send`'s select that sends; a full channel blocks. -/
def send (d : Dispatcher M) (m : M) : Option (Dispatcher M) :=
  match d.sendCh.trySend m with
  | .ok ch => some { d with sendCh := ch, accepted := d.accepted ++ [m] }
  | .full => none
  | .panic => some { d with panicked := true }

/-- `m := <-d.sendCh` in `sendLoop` -/
def take (d : Dispatcher M) : Option (Dispatcher M) :=
  match d.sendLoop, d.sendCh.recv with
  | .select, .value m ch => some { d with sendCh := ch, sendLoop := .writing m }
  | _, _ => none

/-- `<-d.doneCh` in `sendLoop` -/
def stop (d : Dispatcher M) : Option (Dispatcher M) :=
  match d.sendLoop with
  | .select => if d.doneCh.closed then some { d with sendLoop := .returned } else none
  | _ => none

/-- `readLoop` when `ReadMsg` has returned `m`. -/
def onMsg (handler : M → Option Handler) (d : Dispatcher M) (m : M) : Dispatcher M :=
  match handler m with
  | none => { d with read := d.read ++ [m] }
  | some .async => { d with read := d.read ++ [m], called := d.called ++ [m] }
  | some _ =>
    { d with read := d.read ++ [m], called := d.called ++ [m], readLoop := .handling m }

/-- `readLoop` when `ReadMsg` has failed. -/
def onErr (d : Dispatcher M) : Dispatcher M :=
  match d.doneCh.close with
  | none => { d with panicked := true }
  | some ch => { d with doneCh := ch, readLoop := .returned }

/-- Whether somebody keeps a lock that the handler of a message for proxy `name` needs. -/
def locked (d : Dispatcher M) (name : String) : Bool :=
  d.lockers.any fun k => k.lock = none ∨ k.lock = some name

/-- Whether the handler of `m` can return without a `Send`. -/
def returns (handler : M → Option Handler) (proxyName : M → String) (d : Dispatcher M) (m : M) :
    Bool :=
  match handler m with
  | some .sync => true
  | some .locks => !d.locked (proxyName m)
  | _ => false

/-- The goroutine `i` has its next `Send` behind it. -/
def sentLocked (d : Dispatcher M) (i : Nat) (lock : Option String) (rest : List M) :
    Dispatcher M :=
  { d with lockers := d.lockers.set i ⟨lock, rest⟩ }

/-- What `Send` has accepted and `WriteMsg` has not returned for. -/
def held (d : Dispatcher M) : List M :=
  match d.sendLoop with
  | .writing m => m :: d.sendCh.buf
  | _ => d.sendCh.buf

/-- What `WriteMsg` has failed for; `sendLoop` goes on as if it had been written. -/
def failed (d : Dispatcher M) : List M := (d.wrote.filter fun p => !p.2).map Prod.fst

end Dispatcher

namespace Conn

def setEnd (c : Conn M) (x : Side) (d : Dispatcher M) : Conn M :=
  { c with ends := Function.update c.ends x d }

/-- Side `x` has read the first message on the wire. -/
def dropFirst (c : Conn M) (x : Side) (rest : List M) : Conn M :=
  { c with wire := Function.update c.wire x rest }

/-- A message that was written whole is on the wire. It is assumed that a failed write leaves
nothing there that the peer could take for a message. -/
def putWire (c : Conn M) (x : Side) (m : M) (ok : Bool) : Conn M :=
  if ok then { c with wire := Function.update c.wire x (c.wire x ++ [m]) } else c

end Conn

/-- `reflect.TypeOf`, the handlers that were registered at each side, the proxy that a message
names, and whether the connection takes another message while those of the list are on it. -/
structure Env (M T : Type) where
  typeOf : M → T
  msgHandlers : Side → T → Option Handler
  proxyName : M → String
  room : List M → M → Bool

variable (env : Env M T)

/-- The handler that `readLoop` finds for a message. -/
def Env.handler (x : Side) (m : M) : Option Handler := env.msgHandlers x (env.typeOf m)

def step (c : Conn M) : Side × Act M → Option (Conn M)
  | (x, .run) =>
    let d := c.ends x
    -- `Run` is called once, by the worker of the control
    match d.sendLoop, d.readLoop with
    | .off, .off => some (c.setEnd x { d with sendLoop := .select, readLoop := .reading })
    | _, _ => none
  | (x, .send m) => ((c.ends x).send m).map (c.setEnd x)
  | (x, .sendEOF) => if (c.ends x).doneCh.closed then some c else none
  | (x, .take) => (c.ends x).take.map (c.setEnd x)
  | (x, .stop) => (c.ends x).stop.map (c.setEnd x)
  | (x, .wrote ok) =>
    let d := c.ends x
    match d.sendLoop with
    | .writing m =>
      if ok → env.room (c.wire x) m then
        some ((c.setEnd x { d with sendLoop := .select, wrote := d.wrote ++ [(m, ok)] }).putWire
          x m ok)
      else none
    | _ => none
  | (x, .read) =>
    match (c.ends x).readLoop, c.wire x.other with
    | .reading, m :: rest =>
      some ((c.setEnd x ((c.ends x).onMsg (env.handler x) m)).dropFirst x.other rest)
    | _, _ => none
  | (x, .readErr) =>
    match (c.ends x).readLoop with
    | .reading => some (c.setEnd x (c.ends x).onErr)
    | _ => none
  | (x, .handled) =>
    let d := c.ends x
    match d.readLoop with
    | .handling m =>
      if d.returns (env.handler x) env.proxyName m then
        some (c.setEnd x { d with readLoop := .reading })
      else none
    | _ => none
  | (x, .reply r) =>
    match (c.ends x).readLoop with
    | .handling m =>
      if env.handler x m = some .replies then
        ((c.ends x).send r).map fun d => c.setEnd x { d with readLoop := .reading }
      else none
    | _ => none
  | (x, .lock lock todo) =>
    let d := c.ends x
    if d.lockers.all fun k => k.lock ≠ lock then
      some (c.setEnd x { d with lockers := d.lockers ++ [⟨lock, todo⟩] })
    else none
  | (x, .lockedSend i) =>
    match (c.ends x).lockers[i]? with
    | some ⟨lock, m :: rest⟩ =>
      ((c.ends x).send m).map fun d => c.setEnd x (d.sentLocked i lock rest)
    | _ => none
  | (x, .lockedEOF i) =>
    match (c.ends x).lockers[i]? with
    | some ⟨lock, _ :: rest⟩ =>
      if (c.ends x).doneCh.closed then some (c.setEnd x ((c.ends x).sentLocked i lock rest))
      else none
    | _ => none
  | (x, .unlock i) =>
    match (c.ends x).lockers[i]? with
    | some ⟨_, []⟩ =>
      some (c.setEnd x { c.ends x with lockers := (c.ends x).lockers.eraseIdx i })
    | _ => none

def init : Conn M := ⟨fun _ => newDispatcher, fun _ => []⟩

def system : System (Conn M) (Side × Act M) := ⟨init, step env⟩

variable {env} {c c' : Conn M} {d d' : Dispatcher M} {x y : Side}

/-! ## What a step does -/

@[simp] theorem Side.other_other (x : Side) : x.other.other = x := by cases x <;> rfl

theorem Side.other_ne (x : Side) : x.other ≠ x := by cases x <;> decide

theorem Side.eq_or_other (x y : Side) : y = x ∨ y = x.other := by
  cases x <;> cases y <;> simp [Side.other]

namespace Conn

@[simp] theorem setEnd_ends_self : (c.setEnd x d).ends x = d := Function.update_self ..

theorem setEnd_ends_of_ne (h : y ≠ x) : (c.setEnd x d).ends y = c.ends y :=
  Function.update_of_ne h ..

@[simp] theorem setEnd_ends_other : (c.setEnd x d).ends x.other = c.ends x.other :=
  setEnd_ends_of_ne x.other_ne

@[simp] theorem setEnd_other_ends : (c.setEnd x.other d).ends x = c.ends x :=
  setEnd_ends_of_ne x.other_ne.symm

@[simp] theorem setEnd_wire : (c.setEnd x d).wire = c.wire := rfl

@[simp] theorem dropFirst_ends {q : List M} : (c.dropFirst x q).ends = c.ends := rfl

@[simp] theorem dropFirst_wire_self {q : List M} : (c.dropFirst x q).wire x = q :=
  Function.update_self ..

theorem dropFirst_wire_of_ne {q : List M} (h : y ≠ x) : (c.dropFirst x q).wire y = c.wire y :=
  Function.update_of_ne h ..

@[simp] theorem putWire_ends {m : M} {ok : Bool} : (c.putWire x m ok).ends = c.ends := by
  cases ok <;> rfl

@[simp] theorem putWire_wire_self {m : M} {ok : Bool} :
    (c.putWire x m ok).wire x = c.wire x ++ if ok then [m] else [] := by
  cases ok
  · simp [putWire]
  · simp [putWire]

theorem putWire_wire_of_ne {m : M} {ok : Bool} (h : y ≠ x) :
    (c.putWire x m ok).wire y = c.wire y := by
  cases ok
  · rfl
  · exact Function.update_of_ne h ..

end Conn

/-- What a step does to the dispatcher of the side that takes it, with the wires. -/
inductive Effect (env : Env M T) (c : Conn M) (x : Side) : Act M → Conn M → Prop
  | run : (c.ends x).sendLoop = .off → (c.ends x).readLoop = .off →
      Effect env c x .run
        (c.setEnd x { c.ends x with sendLoop := .select, readLoop := .reading })
  | send {m : M} {d : Dispatcher M} : (c.ends x).send m = some d →
      Effect env c x (.send m) (c.setEnd x d)
  | sendEOF : (c.ends x).doneCh.closed = true → Effect env c x .sendEOF c
  | take {m : M} {ch : Chan M} : (c.ends x).sendLoop = .select →
      (c.ends x).sendCh.recv = .value m ch →
      Effect env c x .take (c.setEnd x { c.ends x with sendCh := ch, sendLoop := .writing m })
  | stop : (c.ends x).sendLoop = .select → (c.ends x).doneCh.closed = true →
      Effect env c x .stop (c.setEnd x { c.ends x with sendLoop := .returned })
  | wrote {m : M} {ok : Bool} : (c.ends x).sendLoop = .writing m →
      (ok = true → env.room (c.wire x) m = true) →
      Effect env c x (.wrote ok)
        ((c.setEnd x { c.ends x with sendLoop := .select, wrote := (c.ends x).wrote ++ [(m, ok)] })
          |>.putWire x m ok)
  | read {m : M} {rest : List M} : (c.ends x).readLoop = .reading →
      c.wire x.other = m :: rest →
      Effect env c x .read
        ((c.setEnd x ((c.ends x).onMsg (env.handler x) m)).dropFirst x.other rest)
  | readErr : (c.ends x).readLoop = .reading →
      Effect env c x .readErr (c.setEnd x (c.ends x).onErr)
  | handled {m : M} : (c.ends x).readLoop = .handling m →
      (c.ends x).returns (env.handler x) env.proxyName m = true →
      Effect env c x .handled (c.setEnd x { c.ends x with readLoop := .reading })
  | reply {m r : M} {d : Dispatcher M} : (c.ends x).readLoop = .handling m →
      env.handler x m = some .replies → (c.ends x).send r = some d →
      Effect env c x (.reply r) (c.setEnd x { d with readLoop := .reading })
  | lock {lock : Option String} {todo : List M} :
      Effect env c x (.lock lock todo)
        (c.setEnd x { c.ends x with lockers := (c.ends x).lockers ++ [⟨lock, todo⟩] })
  | lockedSend {i : Nat} {lock : Option String} {m : M} {rest : List M} {d : Dispatcher M} :
      (c.ends x).send m = some d →
      Effect env c x (.lockedSend i) (c.setEnd x (d.sentLocked i lock rest))
  | lockedEOF {i : Nat} {lock : Option String} {rest : List M} :
      Effect env c x (.lockedEOF i) (c.setEnd x ((c.ends x).sentLocked i lock rest))
  | unlock {i : Nat} :
      Effect env c x (.unlock i)
        (c.setEnd x { c.ends x with lockers := (c.ends x).lockers.eraseIdx i })

theorem step_effect {a : Act M} (h : step env c (x, a) = some c') : Effect env c x a c' := by
  cases a with
  | run =>
    simp only [step] at h
    split at h
    · rename_i hs hr
      cases h
      exact .run hs hr
    · cases h
  | send m =>
    simp only [step, Option.map_eq_some_iff] at h
    obtain ⟨d, hd, rfl⟩ := h
    exact .send hd
  | sendEOF =>
    simp only [step] at h
    split at h
    · cases h
      exact .sendEOF ‹_›
    · cases h
  | take =>
    simp only [step, Option.map_eq_some_iff, Dispatcher.take] at h
    obtain ⟨d, hd, rfl⟩ := h
    split at hd
    · rename_i hs hr
      cases hd
      exact .take hs hr
    · cases hd
  | stop =>
    simp only [step, Option.map_eq_some_iff, Dispatcher.stop] at h
    obtain ⟨d, hd, rfl⟩ := h
    split at hd
    · rename_i hs
      split at hd
      · cases hd
        exact .stop hs ‹_›
      · cases hd
    · cases hd
  | wrote ok =>
    simp only [step] at h
    split at h
    · rename_i m hs
      split at h
      · cases h
        exact .wrote hs ‹_›
      · cases h
    · cases h
  | read =>
    simp only [step] at h
    split at h
    · rename_i m rest hr hw
      cases h
      exact .read hr hw
    · cases h
  | readErr =>
    simp only [step] at h
    split at h
    · rename_i hr
      cases h
      exact .readErr hr
    · cases h
  | handled =>
    simp only [step] at h
    split at h
    · rename_i m hr
      split at h
      · cases h
        exact .handled hr ‹_›
      · cases h
    · cases h
  | reply r =>
    simp only [step] at h
    split at h
    · rename_i m hr
      split at h
      · obtain ⟨d, hd, rfl⟩ := Option.map_eq_some_iff.mp h
        exact .reply hr ‹_› hd
      · cases h
    · cases h
  | lock lock todo =>
    simp only [step] at h
    split at h
    · cases h
      exact .lock
    · cases h
  | lockedSend i =>
    simp only [step] at h
    split at h
    · obtain ⟨d, hd, rfl⟩ := Option.map_eq_some_iff.mp h
      exact .lockedSend hd
    · cases h
  | lockedEOF i =>
    simp only [step] at h
    split at h
    · split at h
      · cases h
        exact .lockedEOF
      · cases h
    · cases h
  | unlock i =>
    simp only [step] at h
    split at h
    · cases h
      exact .unlock
    · cases h

/-! ## Each end on its own -/

/-- What holds of each dispatcher: its send channel is never closed, `doneCh` is closed
exactly by the end of `readLoop`, which waits for synchronous handlers only, and the handlers
were called in the order of reading. -/
structure EndInv (handler : M → Option Handler) (d : Dispatcher M) : Prop where
  sendOpen : d.sendCh.closed = false
  sendCap : d.sendCh.cap = 100
  waits : ∀ m, d.readLoop = .handling m →
    handler m = some .sync ∨ handler m = some .replies ∨ handler m = some .locks
  calm : d.panicked = false
  done : d.doneCh.closed = true ↔ d.readLoop = .returned
  stopped : d.sendLoop = .returned → d.doneCh.closed = true
  calls : d.called = d.read.filter fun m => (handler m).isSome

theorem endInv_new (handler : M → Option Handler) :
    EndInv handler (newDispatcher : Dispatcher M) :=
  ⟨rfl, rfl, by simp [newDispatcher], rfl, by simp [newDispatcher, Chan.make],
    by simp [newDispatcher], rfl⟩

/-- An open channel takes the message or has no room. -/
theorem Dispatcher.send_eq {m : M} (ho : d.sendCh.closed = false) (h : d.send m = some d') :
    ∃ ch, d.sendCh.trySend m = .ok ch ∧
      d' = { d with sendCh := ch, accepted := d.accepted ++ [m] } := by
  unfold send at h
  split at h
  · rename_i ch hch
    exact ⟨ch, hch, (Option.some.inj h).symm⟩
  · cases h
  · rename_i hp
    rw [Chan.trySend_panic_iff, ho] at hp
    cases hp

theorem EndInv.send {handler : M → Option Handler} {m : M} (h : EndInv handler d)
    (hs : d.send m = some d') : EndInv handler d' := by
  obtain ⟨ch, hch, rfl⟩ := Dispatcher.send_eq h.sendOpen hs
  obtain ⟨-, -, hopen, hcap⟩ := Chan.trySend_ok hch
  exact { h with sendOpen := hopen, sendCap := hcap.trans h.sendCap }

/-- The read loop is back in `ReadMsg`. -/
theorem EndInv.returned {handler : M → Option Handler} {m : M} (h : EndInv handler d)
    (hr : d.readLoop = .handling m) : EndInv handler { d with readLoop := .reading } :=
  { h with waits := by simp, done := by simp [h.done, hr] }

/-- Locks do not matter. -/
theorem EndInv.relock {handler : M → Option Handler} (h : EndInv handler d)
    (lockers : List (Locker M)) : EndInv handler { d with lockers := lockers } :=
  { h with waits := h.waits }

theorem Dispatcher.send_readLoop {m : M} (h : d.send m = some d') : d'.readLoop = d.readLoop := by
  unfold send at h
  split at h
  · cases h
    rfl
  · cases h
  · cases h
    rfl

theorem EndInv.onMsg {handler : M → Option Handler} (h : EndInv handler d)
    (hr : d.readLoop = .reading) (m : M) : EndInv handler (d.onMsg handler m) := by
  have hopen : d.doneCh.closed ≠ true := by
    rw [ne_eq, h.done, hr]
    simp
  cases hm : handler m with
  | none =>
    rw [Dispatcher.onMsg, hm]
    exact { h with calls := by simp [h.calls, hm] }
  | some k =>
    have hcalls : d.called ++ [m] = (d.read ++ [m]).filter fun m => (handler m).isSome := by
      simp [h.calls, hm]
    cases k with
    | async =>
      simp only [Dispatcher.onMsg, hm]
      exact { h with calls := hcalls }
    | sync | replies | locks =>
      simp only [Dispatcher.onMsg, hm]
      exact { h with
        calls := hcalls, done := by simp [hopen], waits := fun m' hm' => by
          obtain rfl := ReadPc.handling.inj hm'
          simp [hm] }

/-- The read loop ends once, so `doneCh` is closed once. -/
theorem EndInv.onErr {handler : M → Option Handler} (h : EndInv handler d)
    (hr : d.readLoop = .reading) : EndInv handler d.onErr := by
  unfold Dispatcher.onErr
  split
  · rename_i hc
    have hclosed : d.doneCh.closed = true := by
      by_contra ho
      simp [Chan.close, ho] at hc
    rw [h.done, hr] at hclosed
    cases hclosed
  · rename_i ch hc
    have hclosed := (Chan.close_some hc).2.1
    exact { h with waits := by simp, done := by simp [hclosed], stopped := fun _ => hclosed }

theorem EndInv.step {a : Act M} (h : ∀ x, EndInv (env.handler x) (c.ends x))
    (hs : Effect env c x a c') (y : Side) : EndInv (env.handler y) (c'.ends y) := by
  rcases x.eq_or_other y with rfl | rfl
  · have hy := h y
    cases hs with
    | run _ hr =>
      simpa using { hy with waits := by simp, done := by simp [hy.done, hr], stopped := by simp }
    | send hs => simpa using hy.send hs
    | sendEOF => exact hy
    | take _ hr =>
      have hopen := (Chan.recv_value hr).2.1.trans hy.sendOpen
      have hcap := (Chan.recv_value hr).2.2.trans hy.sendCap
      simpa using { hy with sendOpen := hopen, sendCap := hcap, stopped := by simp }
    | stop _ hc => simpa using { hy with stopped := fun _ => hc }
    | wrote => simpa using { hy with stopped := by simp }
    | read hr => simpa using hy.onMsg hr _
    | readErr hr => simpa using hy.onErr hr
    | handled hr => simpa using hy.returned hr
    | reply hr _ hs =>
      simpa using (hy.send hs).returned ((Dispatcher.send_readLoop hs).trans hr)
    | lock => simpa using hy.relock _
    | lockedSend hs => simpa [Dispatcher.sentLocked] using (hy.send hs).relock _
    | lockedEOF => simpa [Dispatcher.sentLocked] using hy.relock _
    | unlock => simpa using hy.relock _
  · cases hs <;> simpa using h x.other

theorem reachable_endInv (h : (system env).Reachable c) (x : Side) :
    EndInv (env.handler x) (c.ends x) :=
  System.invariant (I := fun c => ∀ x, EndInv (env.handler x) (c.ends x))
    (fun _ => endInv_new _) (fun _ _ _ _ hi hs => EndInv.step hi (step_effect hs)) h x

/-! ## Each direction is a line -/

/-- The direction from `x` as a line: what `Send` accepted at `x`, what is on its way, and
what `ReadMsg` returned at the other side. -/
def Conn.line (c : Conn M) (x : Side) : Line M where
  accepted := (c.ends x).accepted
  queue := c.wire x ++ (c.ends x).held
  delivered := (c.ends x.other).read
  lost := (c.ends x).failed

theorem Dispatcher.onMsg_read (handler : M → Option Handler) (d : Dispatcher M) (m : M) :
    (d.onMsg handler m).read = d.read ++ [m] := by
  unfold onMsg
  split <;> rfl

/-- The read loop does not touch what is to be sent. -/
theorem Dispatcher.onMsg_sending (handler : M → Option Handler) (d : Dispatcher M) (m : M) :
    (d.onMsg handler m).accepted = d.accepted ∧ (d.onMsg handler m).held = d.held ∧
      (d.onMsg handler m).failed = d.failed := by
  unfold onMsg
  split <;> exact ⟨rfl, rfl, rfl⟩

/-- What the lines show of a dispatcher is the same. -/
structure Dispatcher.Same (d d' : Dispatcher M) : Prop where
  accepted : d'.accepted = d.accepted
  held : d'.held = d.held
  failed : d'.failed = d.failed
  read : d'.read = d.read

theorem Dispatcher.onErr_same (d : Dispatcher M) : d.Same d.onErr := by
  unfold onErr
  split <;> exact ⟨rfl, rfl, rfl, rfl⟩

theorem Dispatcher.held_send {m : M} (ho : d.sendCh.closed = false) (h : d.send m = some d') :
    d'.accepted = d.accepted ++ [m] ∧ d'.held = d.held ++ [m] ∧ d'.failed = d.failed ∧
      d'.read = d.read := by
  obtain ⟨ch, hch, rfl⟩ := Dispatcher.send_eq ho h
  have hbuf := (Chan.trySend_ok hch).2.1
  refine ⟨rfl, ?_, rfl, rfl⟩
  unfold held
  cases hl : d.sendLoop <;> simp [hbuf]

/-- A step on a line, for a state that looks like its result. -/
theorem line_step {l l' : Line M} (a : Line.Act M) (h : l.step a = some l') :
    (Line.system M).Reaches l l' := System.Reaches.one (S := Line.system M) h

theorem line_same (h : (c.ends x).Same d) (y : Side) :
    (Line.system M).Reaches (c.line y) ((c.setEnd x d).line y) := by
  have heq : (c.setEnd x d).line y = c.line y := by
    rcases x.eq_or_other y with rfl | rfl
    · simp [Conn.line, h.accepted, h.held, h.failed]
    · simp [Conn.line, h.read]
  exact heq ▸ .refl

/-- A message is accepted, and the rest is not seen. -/
theorem line_put {m : M} (ho : (c.ends x).sendCh.closed = false)
    (hs : (c.ends x).send m = some d) (h : d.Same d') (y : Side) :
    (Line.system M).Reaches (c.line y) ((c.setEnd x d').line y) := by
  obtain ⟨haccepted, hheld, hfailed, hread⟩ := Dispatcher.held_send ho hs
  rcases x.eq_or_other y with rfl | rfl
  · apply line_step (.put m)
    simp [Line.step, Conn.line, h.accepted, h.held, h.failed, haccepted, hheld, hfailed]
  · have heq : (c.setEnd x d').line x.other = c.line x.other := by
      simp [Conn.line, h.read, hread]
    exact heq ▸ .refl

/-- The write of a message, seen in the direction from the side that writes: it moves on, or is
lost. -/
theorem line_wrote {m : M} (hsend : (c.ends x).sendLoop = .writing m) (ok : Bool) :
    (Line.system M).Reaches (c.line x)
      (((c.setEnd x { c.ends x with
        sendLoop := .select, wrote := (c.ends x).wrote ++ [(m, ok)] }).putWire x m ok).line x) := by
  have hqueue : (c.line x).queue = c.wire x ++ m :: (c.ends x).sendCh.buf := by
    simp [Conn.line, Dispatcher.held, hsend]
  cases ok with
  | true =>
    have heq : ((c.setEnd x { c.ends x with
        sendLoop := .select, wrote := (c.ends x).wrote ++ [(m, true)] }).putWire x m true).line x
          = c.line x := by
      simp [Conn.line, Dispatcher.held, Dispatcher.failed, hsend]
    exact heq ▸ .refl
  | false =>
    -- the message leaves the queue behind those that are on the wire already
    apply line_step (.lose (c.wire x).length)
    rw [Line.step_lose hqueue]
    simp [Conn.line, Dispatcher.held, Dispatcher.failed]

/-- What a statement of `x` does in the direction `y`: `Send` puts in and a failed write loses in
the direction from `x`, `ReadMsg` takes out in the other one, and nothing else is seen. -/
theorem line_reaches {a : Act M} (hd : EndInv (env.handler x) (c.ends x))
    (hs : Effect env c x a c') (y : Side) : (Line.system M).Reaches (c.line y) (c'.line y) := by
  cases hs with
  | send hs =>
    apply line_put hd.sendOpen hs
    exact ⟨rfl, rfl, rfl, rfl⟩
  | reply _ _ hs =>
    apply line_put hd.sendOpen hs
    exact ⟨rfl, rfl, rfl, rfl⟩
  | lockedSend hs =>
    apply line_put hd.sendOpen hs
    exact ⟨rfl, rfl, rfl, rfl⟩
  | sendEOF => exact .refl
  | run hsend =>
    apply line_same
    exact ⟨rfl, by simp [Dispatcher.held, hsend], rfl, rfl⟩
  | take hsend hr =>
    apply line_same
    exact ⟨rfl, by simp [Dispatcher.held, hsend, (Chan.recv_value hr).1], rfl, rfl⟩
  | stop hsend =>
    apply line_same
    exact ⟨rfl, by simp [Dispatcher.held, hsend], rfl, rfl⟩
  | @wrote m ok hsend =>
    rcases x.eq_or_other y with rfl | rfl
    · exact line_wrote hsend ok
    · have heq : ((c.setEnd x { c.ends x with
          sendLoop := .select, wrote := (c.ends x).wrote ++ [(m, ok)] }).putWire x m ok).line
            x.other = c.line x.other := by
        simp [Conn.line, Conn.putWire_wire_of_ne x.other_ne]
      exact heq ▸ .refl
  | @read m rest hr hw =>
    rcases x.eq_or_other y with rfl | rfl
    · obtain ⟨haccepted, hheld, hfailed⟩ := (c.ends y).onMsg_sending (env.handler y) m
      have heq : ((c.setEnd y ((c.ends y).onMsg (env.handler y) m)).dropFirst y.other rest).line y
          = c.line y := by
        simp [Conn.line, Conn.dropFirst_wire_of_ne y.other_ne.symm, haccepted, hheld, hfailed]
      exact heq ▸ .refl
    · have hqueue : (c.line x.other).queue = m :: (rest ++ (c.ends x.other).held) := by
        simp [Conn.line, hw]
      apply line_step .get
      rw [Line.step_get hqueue]
      simp [Conn.line, Dispatcher.onMsg_read]
  | readErr => exact line_same (c.ends x).onErr_same y
  | handled | lock | lockedEOF | unlock =>
    apply line_same
    exact ⟨rfl, rfl, rfl, rfl⟩

/-- The control connection refines a line in each direction. -/
def lineSimulation (env : Env M T) (y : Side) : Simulation (system env) (Line.system M) where
  abs c := c.line y
  init := rfl
  step c a c' hr hs := by
    obtain ⟨x, a⟩ := a
    exact line_reaches (reachable_endInv hr x) (step_effect hs) y

theorem reachable_line (h : (system env).Reachable c) (x : Side) : Line.Inv (c.line x) :=
  Line.reachable_inv ((lineSimulation env x).reachable h)

/-- Order, origin and number: the other side has read what `Send` accepted at `x`, in that
order, without the messages that `WriteMsg` failed for; a failed write is taken to leave nothing
that reads as a message. If there are none, what it has not read is on its way. The handlers have
been called with what was read, and `doneCh` is closed once, by a read loop that has returned. -/
theorem handlers_called_in_order_of_send (h : (system env).Reachable c) (x : Side) :
    (c.ends x.other).read <+ (c.ends x).accepted ∧
      ((c.ends x).failed = [] →
        (c.ends x).accepted = (c.ends x.other).read ++ (c.wire x ++ (c.ends x).held)) ∧
      (c.ends x.other).called =
        (c.ends x.other).read.filter (fun m => (env.handler x.other m).isSome) ∧
      (c.ends x).panicked = false ∧
      ((c.ends x).doneCh.closed = true ↔ (c.ends x).readLoop = .returned) := by
  have hline := reachable_line h x
  have hend := reachable_endInv h x
  refine ⟨?_, hline.exact, (reachable_endInv h x.other).calls, hend.calm, hend.done⟩
  exact (List.sublist_append_left _ _).trans hline.sublist

/-- A handler at each side for every type; messages are their own types. -/
def sampleEnv : Env Nat Nat := ⟨id, fun _ _ => some .sync, fun _ => "", fun _ _ => true⟩

theorem handlers_called_after_two_sends :
    ∃ c, (system sampleEnv).Reachable c ∧ (c.ends .server).called = [7] ∧
      ((c.ends .server).read <+ (c.ends .client).accepted ∧
        ((c.ends .client).failed = [] → (c.ends .client).accepted =
          (c.ends .server).read ++ (c.wire .client ++ (c.ends .client).held)) ∧
        (c.ends .server).called =
          (c.ends .server).read.filter (fun m => (sampleEnv.handler .server m).isSome) ∧
        (c.ends .client).panicked = false ∧
        ((c.ends .client).doneCh.closed = true ↔ (c.ends .client).readLoop = .returned)) := by
  obtain ⟨c, hr, hc⟩ := System.reachable_of_run (S := system sampleEnv)
    (l := [(.client, .run), (.server, .run), (.client, .send 7), (.client, .send 8),
      (.client, .take), (.client, .wrote true), (.server, .read)])
    (p := fun c => decide ((c.ends .server).called = [7])) (by decide +kernel)
  exact ⟨c, hr, of_decide_eq_true hc, handlers_called_in_order_of_send hr .client⟩

end FrpXtcp.Transport.Dispatch

import FrpXtcp.Transport.Dispatcher
import FrpXtcp.Wire.Message

/-!
# The dispatchers do not get stuck

Handlers of the server answer on its read loop, so a full send channel stops its reading; then the
connection fills up, and the channel of the client. That does not close a circle, since the
client's handlers never send: the client reads on, and everything behind it moves. They do wait
for locks, though, and a goroutine of the client that keeps such a lock while it waits in `Send`
closes the circle.
-/
namespace FrpXtcp.Transport.Dispatch

open FrpXtcp.Lib
open FrpXtcp.Wire (MsgType)

/-- `registerMsgHandlers` of `client/control.go` and of `server/control.go`. -/
def registerMsgHandlers : Side → MsgType → Option Handler
  | .server, .newProxy => some .replies
  | .server, .ping => some .replies
  | .server, .natHoleVisitor => some .async
  | .server, .natHoleClient => some .async
  | .server, .natHoleReport => some .async
  | .server, .closeProxy => some .sync
  | .client, .reqWorkConn => some .async
  | .client, .newProxyResp => some .locks
  | .client, .natHoleResp => some .sync
  | .client, .pong => some .sync
  | _, _ => none

theorem server_of_replies {x : Side} {t : MsgType} : registerMsgHandlers x t = some .replies →
    x = .server := by
  cases x with
  | server => exact fun _ => rfl
  | client => cases t <;> simp [registerMsgHandlers]

theorem client_of_locks {x : Side} {t : MsgType} : registerMsgHandlers x t = some .locks →
    x = .client := by
  cases x with
  | client => exact fun _ => rfl
  | server => cases t <;> simp [registerMsgHandlers]

variable {M : Type} {env : Env M MsgType} {c c' : Conn M} {d : Dispatcher M} {x : Side}
  {a : Side × Act M}

/-- Both loops have been started and the read loop has not failed. -/
structure Running (d : Dispatcher M) : Prop where
  sendLoop : d.sendLoop ≠ .off
  readLoop : d.readLoop ≠ .off
  open_ : d.doneCh.closed = false

instance [DecidableEq M] (d : Dispatcher M) : Decidable (Running d) :=
  decidable_of_iff (d.sendLoop ≠ .off ∧ d.readLoop ≠ .off ∧ d.doneCh.closed = false)
    ⟨fun h => ⟨h.1, h.2.1, h.2.2⟩, fun h => ⟨h.sendLoop, h.readLoop, h.open_⟩⟩

/-- The statements of the loops and of the handlers that they call; no write fails. -/
inductive Forward : Side × Act M → Prop
  | take (x : Side) : Forward (x, .take)
  | wrote (x : Side) : Forward (x, .wrote true)
  | read (x : Side) : Forward (x, .read)
  | handled (x : Side) : Forward (x, .handled)
  | reply (x : Side) (r : M) : Forward (x, .reply r)

/-- What a message from this side costs once it is read: the handler returns, and the server's may
have sent an answer. -/
def Side.cost : Side → Nat
  | .server => 1
  | .client => 5

/-- How many messages `sendLoop` has in its hands. -/
def SendPc.count : SendPc M → Nat
  | .writing _ => 1
  | _ => 0

/-- How many messages `readLoop` has in its hands. -/
def ReadPc.count : ReadPc M → Nat
  | .handling _ => 1
  | _ => 0

/-- How many statements the messages from `x` are away from the return of their handlers. -/
def Conn.distanceFrom (c : Conn M) (x : Side) : Nat :=
  (x.cost + 3) * (c.ends x).sendCh.buf.length + (x.cost + 2) * (c.ends x).sendLoop.count +
    (x.cost + 1) * (c.wire x).length + x.cost * (c.ends x.other).readLoop.count

def Conn.distance (c : Conn M) : Nat := c.distanceFrom .client + c.distanceFrom .server

theorem distance_eq (c : Conn M) (x : Side) :
    c.distance = c.distanceFrom x + c.distanceFrom x.other := by
  cases x with
  | client => rfl
  | server => exact Nat.add_comm _ _

/-- The loops run, nothing has been lost, and no goroutine of the client keeps a lock. -/
structure Flowing (env : Env M MsgType) (c : Conn M) : Prop where
  reachable : (system env).Reachable c
  sending : ∀ x, (c.ends x).sendLoop = .select ∨ ∃ m, (c.ends x).sendLoop = .writing m
  reading : ∀ x, (c.ends x).readLoop = .reading ∨ ∃ m, (c.ends x).readLoop = .handling m
  kept : ∀ x, (c.ends x).failed = []
  unlocked : (c.ends .client).lockers = []

/-- What a statement of `x` may do to its dispatcher without leaving the running state. -/
structure Keeps (d d' : Dispatcher M) : Prop where
  sending : d'.sendLoop = .select ∨ ∃ m, d'.sendLoop = .writing m
  reading : d'.readLoop = .reading ∨ ∃ m, d'.readLoop = .handling m
  kept : d'.failed = d.failed
  lockers : d'.lockers = d.lockers
  accepted : d.accepted <+: d'.accepted

/-- The ends still run, what they have accepted stays accepted, and less is left to do. -/
abbrev Advances (env : Env M MsgType) (c c' : Conn M) : Prop :=
  (Flowing env c' ∧ ∀ x, (c.ends x).accepted <+: (c'.ends x).accepted) ∧ c'.distance < c.distance

theorem Flowing.next (h : Flowing env c) (hs : step env c a = some c')
    (hself : Keeps (c.ends a.1) (c'.ends a.1))
    (hother : c'.ends a.1.other = c.ends a.1.other) :
    Flowing env c' ∧ ∀ x, (c.ends x).accepted <+: (c'.ends x).accepted := by
  have hends : ∀ x, Keeps (c.ends x) (c'.ends x) := by
    intro x
    rcases a.1.eq_or_other x with rfl | rfl
    · exact hself
    · rw [hother]
      exact ⟨h.sending _, h.reading _, rfl, rfl, List.prefix_refl _⟩
  refine ⟨⟨h.reachable.next hs, fun x => (hends x).sending, fun x => (hends x).reading, ?_, ?_⟩,
    fun x => (hends x).accepted⟩
  · intro x
    rw [(hends x).kept, h.kept]
  · rw [(hends .client).lockers, h.unlocked]

theorem onMsg_readLoop (handler : M → Option Handler) (hr : d.readLoop = .reading) (m : M) :
    (d.onMsg handler m).readLoop = .reading ∨ (d.onMsg handler m).readLoop = .handling m := by
  unfold Dispatcher.onMsg
  split
  · exact Or.inl hr
  · exact Or.inl hr
  · exact Or.inr rfl

theorem onMsg_lockers (handler : M → Option Handler) (m : M) :
    (d.onMsg handler m).lockers = d.lockers := by
  unfold Dispatcher.onMsg
  split <;> rfl

theorem Flowing.take (h : Flowing env c) (hs : step env c (x, .take) = some c') :
    Advances env c c' := by
  cases step_effect hs with
  | @take m ch hsend hr =>
    refine ⟨h.next hs ?_ (by simp), ?_⟩
    · refine ⟨Or.inr ⟨m, by simp⟩, ?_, ?_, ?_, ?_⟩ <;> simp [h.reading x, Dispatcher.failed]
    · rw [distance_eq _ x, distance_eq c x]
      simp only [Conn.distanceFrom, Conn.setEnd_ends_self, Conn.setEnd_ends_other,
        Conn.setEnd_wire, Side.other_other, hsend, (Chan.recv_value hr).1, List.length_cons,
        SendPc.count, Nat.mul_add, Nat.mul_one, Nat.mul_zero]
      omega

theorem Flowing.wrote (h : Flowing env c) (hs : step env c (x, .wrote true) = some c') :
    Advances env c c' := by
  cases step_effect hs with
  | @wrote m _ hsend _ =>
    refine ⟨h.next hs ?_ (by simp), ?_⟩
    · refine ⟨Or.inl (by simp), ?_, ?_, ?_, ?_⟩ <;> simp [h.reading x, Dispatcher.failed]
    · rw [distance_eq _ x, distance_eq c x]
      simp only [Conn.distanceFrom, Conn.putWire_ends, Conn.setEnd_ends_self,
        Conn.setEnd_ends_other, Conn.putWire_wire_self, Conn.putWire_wire_of_ne x.other_ne,
        Conn.setEnd_wire, Side.other_other, hsend, if_true, List.length_append,
        List.length_singleton, SendPc.count, Nat.mul_add, Nat.mul_one, Nat.mul_zero]
      omega

theorem Flowing.read (h : Flowing env c) (hs : step env c (x, .read) = some c') :
    Advances env c c' := by
  cases step_effect hs with
  | @read m rest hr hw =>
    have hpc := onMsg_readLoop (env.handler x) hr m
    obtain ⟨haccepted, -, hfailed⟩ := (c.ends x).onMsg_sending (env.handler x) m
    have hsame : ((c.ends x).onMsg (env.handler x) m).sendLoop = (c.ends x).sendLoop ∧
        ((c.ends x).onMsg (env.handler x) m).sendCh = (c.ends x).sendCh := by
      unfold Dispatcher.onMsg
      split <;> exact ⟨rfl, rfl⟩
    refine ⟨h.next hs ?_ (by simp), ?_⟩
    · simp only [Conn.dropFirst_ends, Conn.setEnd_ends_self]
      refine ⟨?_, hpc.imp id fun hm => ⟨m, hm⟩, hfailed, onMsg_lockers _ m, ?_⟩
      · rw [hsame.1]
        exact h.sending x
      · exact haccepted ▸ List.prefix_refl _
    · have hcost : 0 < x.other.cost := by cases x <;> decide
      rw [distance_eq _ x, distance_eq c x]
      simp only [Conn.distanceFrom, Conn.dropFirst_ends, Conn.setEnd_ends_self,
        Conn.setEnd_ends_other, Conn.dropFirst_wire_self,
        Conn.dropFirst_wire_of_ne x.other_ne.symm, Conn.setEnd_wire, Side.other_other, hr, hw,
        hsame, List.length_cons, ReadPc.count, Nat.mul_add, Nat.mul_one, Nat.mul_zero]
      rcases hpc with hpc | hpc <;> simp only [hpc] <;> omega

theorem Flowing.handled (h : Flowing env c) (hs : step env c (x, .handled) = some c') :
    Advances env c c' := by
  cases step_effect hs with
  | handled hr _ =>
    refine ⟨h.next hs ?_ (by simp), ?_⟩
    · refine ⟨?_, Or.inl (by simp), ?_, ?_, ?_⟩ <;> simp [h.sending x, Dispatcher.failed]
    · have hcost : 0 < x.other.cost := by cases x <;> decide
      rw [distance_eq _ x, distance_eq c x]
      simp only [Conn.distanceFrom, Conn.setEnd_ends_self, Conn.setEnd_ends_other,
        Conn.setEnd_wire, Side.other_other, hr, ReadPc.count, Nat.mul_one, Nat.mul_zero]
      omega

/-- Only the server answers, and an answer is nearer than what it answers. -/
theorem Flowing.reply (henv : env.msgHandlers = registerMsgHandlers) (h : Flowing env c) {r : M}
    (hs : step env c (x, .reply r) = some c') :
    Advances env c c' := by
  cases step_effect hs with
  | @reply m _ d hr hhandler hsend =>
    obtain rfl : x = .server := by
      rw [Env.handler, henv] at hhandler
      exact server_of_replies hhandler
    have hopen := (reachable_endInv h.reachable .server).sendOpen
    obtain ⟨ch, hch, rfl⟩ := Dispatcher.send_eq hopen hsend
    refine ⟨h.next hs ?_ (by simp), ?_⟩
    · refine ⟨?_, Or.inl (by simp), ?_, ?_, ?_⟩ <;> simp [h.sending .server, Dispatcher.failed]
    · have hcost : Side.server.other.cost = Side.server.cost + 4 := rfl
      rw [distance_eq _ .server, distance_eq c .server]
      simp only [Conn.distanceFrom, Conn.setEnd_ends_self, Conn.setEnd_ends_other,
        Conn.setEnd_wire, Side.other_other, hr, (Chan.trySend_ok hch).2.1, List.length_append,
        List.length_singleton, ReadPc.count, Nat.mul_add, Nat.mul_one, Nat.mul_zero]
      omega

theorem Flowing.forward (henv : env.msgHandlers = registerMsgHandlers) (h : Flowing env c)
    (hf : Forward a) (hs : step env c a = some c') :
    Advances env c c' := by
  cases hf with
  | take x => exact h.take hs
  | wrote x => exact h.wrote hs
  | read x => exact h.read hs
  | handled x => exact h.handled hs
  | reply x r => exact h.reply henv hs

/-! ## Some statement can be taken -/

/-- Everything has arrived, and no handler is at work. -/
structure Drained (c : Conn M) : Prop where
  wire : ∀ x, c.wire x = []
  sendCh : ∀ x, (c.ends x).sendCh.buf = []
  sendLoop : ∀ x, (c.ends x).sendLoop = .select
  readLoop : ∀ x, (c.ends x).readLoop = .reading

def CanMove (env : Env M MsgType) (c : Conn M) : Prop :=
  ∃ a c', Forward a ∧ step env c a = some c'

/-- The client's handlers return, since nobody keeps a lock. -/
theorem Flowing.client_moves (henv : env.msgHandlers = registerMsgHandlers) (h : Flowing env c)
    {m : M} (hr : (c.ends .client).readLoop = .handling m) : CanMove env c := by
  have hreturns : (c.ends .client).returns (env.handler .client) env.proxyName m = true := by
    rcases (reachable_endInv h.reachable .client).waits m hr with hm | hm | hm
    · simp [Dispatcher.returns, hm]
    · rw [Env.handler, henv] at hm
      cases server_of_replies hm
    · simp [Dispatcher.returns, hm, Dispatcher.locked, h.unlocked]
  exact ⟨(.client, .handled), _, .handled .client, by simp [step, hr, hreturns]; rfl⟩

/-- The server's handlers return if its send channel is empty. -/
theorem Flowing.server_moves (henv : env.msgHandlers = registerMsgHandlers) (h : Flowing env c)
    {m : M} (hr : (c.ends .server).readLoop = .handling m)
    (hb : (c.ends .server).sendCh.buf = []) : CanMove env c := by
  have hend := reachable_endInv h.reachable .server
  rcases hend.waits m hr with hm | hm | hm
  · exact ⟨(.server, .handled), _, .handled .server, by
      simp [step, hr, Dispatcher.returns, hm]; rfl⟩
  · obtain ⟨ch, hch⟩ : ∃ ch, (c.ends .server).sendCh.trySend m = .ok ch := by
      simp [Chan.trySend, hend.sendOpen, hend.sendCap, hb]
    exact ⟨(.server, .reply m), _, .reply .server m, by
      simp [step, hr, hm, Dispatcher.send, hch]; rfl⟩
  · rw [Env.handler, henv] at hm
    cases client_of_locks hm

/-- What side `x` has accepted moves on, if the other side reads and has read what is on the
connection. -/
theorem Flowing.send_moves (h : Flowing env c) (hroom : ∀ m, env.room [] m = true)
    (hw : c.wire x = []) :
    CanMove env c ∨ (c.ends x).sendLoop = .select ∧ (c.ends x).sendCh.buf = [] := by
  rcases h.sending x with hsend | ⟨m, hsend⟩
  · cases hb : (c.ends x).sendCh.buf with
    | nil => exact Or.inr ⟨hsend, rfl⟩
    | cons m rest =>
      obtain ⟨m, ch, hr⟩ := Chan.recv_of_buf hb
      exact Or.inl ⟨(x, .take), _, .take x, by simp [step, Dispatcher.take, hsend, hr]; rfl⟩
  · exact Or.inl ⟨(x, .wrote true), _, .wrote x, by simp [step, hsend, hw, hroom]; rfl⟩

theorem Flowing.read_moves {m : M} {rest : List M} (hr : (c.ends x).readLoop = .reading)
    (hw : c.wire x.other = m :: rest) : CanMove env c :=
  ⟨(x, .read), _, .read x, by simp [step, hr, hw]; rfl⟩

/-- If nothing can be moved, everything has arrived. The client reads on in any case, so what the
server sends arrives, and then the server reads on. -/
theorem Flowing.drained (henv : env.msgHandlers = registerMsgHandlers)
    (hroom : ∀ m, env.room [] m = true) (h : Flowing env c) (hstuck : ¬ CanMove env c) :
    Drained c := by
  have hclient : (c.ends .client).readLoop = .reading := by
    rcases h.reading .client with hr | ⟨m, hr⟩
    · exact hr
    · exact (hstuck (h.client_moves henv hr)).elim
  have hdown : c.wire .server = [] := by
    cases hw : c.wire .server with
    | nil => rfl
    | cons m rest => exact (hstuck (Flowing.read_moves (x := .client) hclient hw)).elim
  obtain ⟨hselect, hbuf⟩ := (h.send_moves hroom hdown).resolve_left hstuck
  have hserver : (c.ends .server).readLoop = .reading := by
    rcases h.reading .server with hr | ⟨m, hr⟩
    · exact hr
    · exact (hstuck (h.server_moves henv hr hbuf)).elim
  have hup : c.wire .client = [] := by
    cases hw : c.wire .client with
    | nil => rfl
    | cons m rest => exact (hstuck (Flowing.read_moves (x := .server) hserver hw)).elim
  obtain ⟨hselect', hbuf'⟩ := (h.send_moves hroom hup).resolve_left hstuck
  refine ⟨?_, ?_, ?_, ?_⟩ <;> intro x <;> cases x <;> assumption

/-- Everything that `Send` has accepted was read at the other side and given to its handlers. -/
def Delivered (env : Env M MsgType) (c : Conn M) : Prop :=
  ∀ x, (c.ends x.other).read = (c.ends x).accepted ∧
    (c.ends x.other).called = (c.ends x).accepted.filter fun m => (env.handler x.other m).isSome

theorem Flowing.delivered (h : Flowing env c) (hd : Drained c) : Delivered env c := by
  intro x
  have hexact := (reachable_line h.reachable x).exact (h.kept x)
  simp only [Conn.line, Dispatcher.held, hd.wire, hd.sendLoop, hd.sendCh, List.append_nil]
    at hexact
  refine ⟨hexact.symm, ?_⟩
  rw [(reachable_endInv h.reachable x.other).calls, ← hexact]

/-- Messages by type and proxy, over a connection that takes one at a time. -/
def narrowEnv : Env (MsgType × String) MsgType :=
  ⟨Prod.fst, registerMsgHandlers, Prod.snd, fun onWire _ => onWire.isEmpty⟩

/-- Both channels and the connection are full, the server is about to answer, and the client waits
for the lock of proxy `a`, which another goroutine keeps until it has sent. -/
def Jammed (c : Conn (MsgType × String)) : Prop :=
  (∀ x ∈ [Side.client, .server], (c.ends x).sendCh.buf.length = 100 ∧
    (c.ends x).sendLoop.count = 1 ∧ c.wire x ≠ [] ∧ Running (c.ends x) ∧ (c.ends x).failed = []) ∧
  (c.ends .client).readLoop = .handling (.newProxyResp, "a") ∧
  (c.ends .server).readLoop = .handling (.newProxy, "b") ∧
  (c.ends .client).lockers = [⟨some "a", [(.newProxy, "a")]⟩]

instance (c : Conn (MsgType × String)) : Decidable (Jammed c) :=
  inferInstanceAs (Decidable (_ ∧ _))

/-- `checkWorker` of proxy `a` asks again, with the lock of the proxy, when the answer is already
on its way, and many other proxies ask at the same time. -/
def circle : List (Side × Act (MsgType × String)) :=
  [(.client, .run), (.server, .run), (.client, .send (.newProxy, "a")), (.client, .take),
    (.client, .wrote true), (.server, .read), (.server, .reply (.newProxyResp, "a")),
    (.server, .take), (.server, .wrote true), (.client, .lock (some "a") [(.newProxy, "a")]),
    (.client, .read), (.client, .send (.newProxy, "b")), (.client, .take), (.client, .wrote true),
    (.server, .read), (.client, .send (.newProxy, "b")), (.client, .take), (.client, .wrote true),
    (.client, .send (.newProxy, "b")), (.client, .take), (.server, .send (.reqWorkConn, "")),
    (.server, .take), (.server, .wrote true), (.server, .send (.reqWorkConn, "")),
    (.server, .take)] ++
  List.replicate 100 (.client, .send (.newProxy, "b")) ++
  List.replicate 100 (.server, .send (.reqWorkConn, ""))

theorem send_full {m : M} (ho : d.sendCh.closed = false) (hc : d.sendCh.cap = 100)
    (hb : d.sendCh.buf.length = 100) : d.send m = none := by
  simp [Dispatcher.send, Chan.trySend, ho, hc, hb]

theorem writing_of_count {pc : SendPc M} (h : pc.count = 1) : ∃ m, pc = .writing m := by
  cases pc with
  | writing m => exact ⟨m, rfl⟩
  | off | select | returned => cases h

/-- Nothing can move: neither the loops and handlers, nor the goroutine that keeps the lock. -/
theorem stuck_of_jammed {c : Conn (MsgType × String)} (h : (system narrowEnv).Reachable c)
    (hj : Jammed c) : ¬ CanMove narrowEnv c ∧
      ∀ i, step narrowEnv c (.client, .lockedSend i) = none ∧
        step narrowEnv c (.client, .unlock i) = none := by
  obtain ⟨hends, hclient, hserver, hlockers⟩ := hj
  have hend : ∀ x, (c.ends x).sendCh.buf.length = 100 ∧ (∃ m, (c.ends x).sendLoop = .writing m) ∧
      c.wire x ≠ [] := by
    intro x
    obtain ⟨hb, hs, hw, -⟩ := hends x (by cases x <;> decide)
    exact ⟨hb, writing_of_count hs, hw⟩
  have hsend : ∀ x m, (c.ends x).send m = none := fun x m =>
    send_full (reachable_endInv h x).sendOpen (reachable_endInv h x).sendCap (hend x).1
  constructor
  · rintro ⟨a, c', hf, hs⟩
    cases hf with
    | take x =>
      obtain ⟨m, hm⟩ := (hend x).2.1
      simp [step, Dispatcher.take, hm] at hs
    | wrote x =>
      obtain ⟨m, hm⟩ := (hend x).2.1
      simp [step, hm, narrowEnv, (hend x).2.2] at hs
    | read x => cases x <;> simp [step, hclient, hserver] at hs
    | handled x =>
      cases x with
      | client =>
        simp [step, hclient, Dispatcher.returns, Env.handler, narrowEnv, registerMsgHandlers,
          Dispatcher.locked, hlockers] at hs
      | server =>
        simp [step, hserver, Dispatcher.returns, Env.handler, narrowEnv,
          registerMsgHandlers] at hs
    | reply x r => cases x <;> simp [step, hclient, hserver, hsend] at hs
  · intro i
    cases i with
    | zero => simp [step, hlockers, hsend]
    | succ i => simp [step, hlockers]

/-- With such a goroutine the two ends can get stuck for good. -/
theorem locker_can_close_circle :
    ∃ c, (system narrowEnv).Reachable c ∧ (∀ x, Running (c.ends x)) ∧
      (∀ x, (c.ends x).failed = []) ∧ ¬ CanMove narrowEnv c ∧
      ∀ i, step narrowEnv c (.client, .lockedSend i) = none ∧
        step narrowEnv c (.client, .unlock i) = none := by
  obtain ⟨c, hr, hp⟩ := System.reachable_of_run (S := system narrowEnv) (l := circle)
    (p := fun c => decide (Jammed c)) (by decide +kernel)
  have hj : Jammed c := of_decide_eq_true hp
  have hmem : ∀ x, x ∈ [Side.client, .server] := by
    intro x
    cases x <;> decide
  exact ⟨c, hr, fun x => (hj.1 x (hmem x)).2.2.2.1, fun x => (hj.1 x (hmem x)).2.2.2.2,
    stuck_of_jammed hr hj⟩

end FrpXtcp.Transport.Dispatch

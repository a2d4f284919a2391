import FrpXtcp.Client.VisitorManager
import FrpXtcp.Lib.Chan
import FrpXtcp.Lib.Tasks
import FrpXtcp.Lib.Transition

/-!
# The connections of the users

A visitor takes the connections of its users from a listener on its port and from an internal
one, where other visitors hand over what they cannot serve (`client/visitor/visitor.go`,
`pkg/util/net/listener.go`). Each of them gets a goroutine of `handleConn`
(`client/visitor/xtcp.go`), which joins it with a connection of the tunnel, transfers it to the
visitor of `FallbackTo`, or closes it. Here this runs together with the manager, which closes
visitors and starts others under the same names at any time, and with the sessions of the
tunnels: `Init` installs one in the place of the last, `Close` of the visitor closes the one
that is installed. When a session is installed, and whether a connection can be opened on it,
is left open.
-/
namespace FrpXtcp.Client.UserConns

open FrpXtcp.Lib
open scoped List

/-- An `acceptLoop`: at `Accept`, before `go handleConn(conn)`, returned. -/
inductive LoopPc where
  | accepting
  | accepted (conn : Nat)
  | returned
  deriving DecidableEq

def LoopPc.conn? : LoopPc → Option Nat
  | .accepted conn => some conn
  | _ => none

/-- The `InternalListener` of a visitor, by its channel, and its two loops. Without a port there
is no loop for it. -/
structure Endpoint where
  acceptCh : Chan Nat
  localLoop : Option LoopPc
  internalLoop : LoopPc

namespace Endpoint

/-- The user connections that a visitor has accepted or been given, and no goroutine has. -/
def conns (e : Endpoint) : List Nat :=
  e.acceptCh.buf ++ ((e.localLoop.bind LoopPc.conn?).toList ++ e.internalLoop.conn?.toList)

/-- `NewVisitor` and `Run` -/
def new (cfg : VisitorConfig) : Endpoint :=
  ⟨.make 128, if 0 < cfg.bindPort then some .accepting else none, .accepting⟩

/-- `InternalListener.Close` -/
def close (e : Endpoint) : Endpoint :=
  match e.acceptCh.close with
  | some ch => { e with acceptCh := ch }
  | none => e

end Endpoint

/-- A session that `OpenConn` finds, one whose place another has taken, and one that was
closed. -/
inductive SessionStatus where
  | installed
  | replaced
  | closed
  deriving DecidableEq

/-- A session that `Init` has installed for a visitor. It is late if the visitor was closed while
its hole was made. -/
structure Session where
  visitor : Nat
  status : SessionStatus
  late : Bool
  deriving DecidableEq

/-- An installed session is replaced or closed. -/
def Session.leave (status : SessionStatus) (x : Session) : Session :=
  if x.status = .installed then { x with status := status } else x

/-- Where `handleConn` is with its connection: in `openTunnel`, before `TransferConn`, before
`wrapVisitorConn`, and in `Join`. A connection of the tunnel comes with its session. -/
inductive HandlerPc where
  | opening (conn : Nat)
  | transferring (conn : Nat)
  | wrapping (conn tunnel session : Nat)
  | joined (conn tunnel session : Nat)
  | returned
  deriving DecidableEq

namespace HandlerPc

def conn? : HandlerPc → Option Nat
  | .opening conn | .transferring conn | .wrapping conn _ _ | .joined conn _ _ => some conn
  | .returned => none

def tunnel? : HandlerPc → Option Nat
  | .wrapping _ tunnel _ | .joined _ tunnel _ => some tunnel
  | _ => none

def session? : HandlerPc → Option Nat
  | .wrapping _ _ session | .joined _ _ session => some session
  | _ => none

end HandlerPc

structure Handler where
  visitor : Nat
  pc : HandlerPc

/-- `ends` are the visitors started so far and `handlers` the goroutines of `handleConn`. The
sessions, the user connections and those of the tunnel are numbered as they come; `closed` and
`tunnelsClosed` are the ones on which the client has called `Close`, once or more often. -/
structure State where
  vm : VisitorManager
  ends : List Endpoint
  handlers : List Handler
  sessions : List Session
  next : Nat
  closed : List Nat
  nextTunnel : Nat
  tunnelsClosed : List Nat

namespace State

def isClosed (s : State) (v : Nat) : Bool := (s.vm.started v).closed

def setEnd (s : State) (v : Nat) (e : Endpoint) : State := { s with ends := s.ends.set v e }

def goto (s : State) (p : Nat) (h : Handler) (pc : HandlerPc) : State :=
  { s with handlers := s.handlers.set p { h with pc := pc } }

/-- A goroutine returns and what it has is closed: the user's connection, and the tunnel's if
there is one. After `Join` that rests on `libio.Join`, which is assumed to return only when it
has closed both of its ends; the deferred function then closes the user's once more. -/
def release (s : State) (p : Nat) (h : Handler) : State :=
  State.goto
    { s with
      closed := s.closed ++ h.pc.conn?.toList
      tunnelsClosed := s.tunnelsClosed ++ h.pc.tunnel?.toList } p h .returned

/-- `go handleConn(conn)` -/
def spawn (s : State) (v conn : Nat) : State :=
  { s with handlers := s.handlers ++ [⟨v, .opening conn⟩] }

/-- The sessions after those that some visitors have installed were replaced or closed. -/
def leaveSessions (s : State) (visitors : Nat → Bool) (status : SessionStatus) : List Session :=
  s.sessions.map fun x => if visitors x.visitor then x.leave status else x

/-- The endpoints after an operation of the manager: those it has started are new, and those of
the visitors it has closed are closed. With a visitor its session is closed, where it has one;
the sessions that were replaced before are not. -/
def manage (s : State) (vm : VisitorManager) : State :=
  let started := (List.range' s.ends.length (vm.nextVisitor - s.ends.length)).map fun v =>
    Endpoint.new (vm.started v).cfg
  { s with
    vm := vm
    ends := (s.ends ++ started).mapIdx fun v e => if (vm.started v).closed then e.close else e
    sessions := s.leaveSessions (fun v => (vm.started v).closed && !s.isClosed v) .closed }

/-- The user connections with the visitors, and those with the goroutines. -/
def waiting (s : State) : List Nat := s.ends.flatMap Endpoint.conns

def held (s : State) : List Nat := s.handlers.filterMap fun h => h.pc.conn?

def tunnels (s : State) : List Nat := s.handlers.filterMap fun h => h.pc.tunnel?

end State

/-- `install` is the end of `Init`, and `closeSession` the `Close` of a session by a
`getTunnelConn` that has failed, or by a further `Close` of its visitor. In `hangUp` the user or
the other side of the tunnel ends what a goroutine has joined, in `joinEnds` it ends because the
session was closed. `openTunnel` has the session on which a connection was opened, if any. -/
inductive Action where
  | updateAll (cfgs : List VisitorConfig) (order : List String) (runs : VisitorConfig → Bool)
  | close (order : List String)
  | tick (order : List String) (runs : VisitorConfig → Bool)
  | exit
  | acceptLocal (v : Nat)
  | acceptInternal (v : Nat)
  | spawnLocal (v : Nat)
  | spawnInternal (v : Nat)
  | openTunnel (p : Nat) (session : Option Nat)
  | transfer (p : Nat)
  | wrap (p : Nat) (ok : Bool)
  | joinEnds (p : Nat)
  | install (v : Nat)
  | closeSession (v : Nat)
  | hangUp (p : Nat)

/-- `TransferConn`, which holds the manager's lock, with `PutConn`: the visitor and its channel
afterwards, or `none` if the channel was full and the connection is closed. -/
def transferConn (s : State) (name : String) (conn : Nat) :
    Except String (Option (Nat × Endpoint)) :=
  match s.vm.visitors.get? name with
  | none => .error s!"visitor [{name}] not found"
  | some v =>
    match s.ends[v]? with
    -- every visitor of the map has been started
    | none => .error s!"visitor [{name}] not found"
    | some e =>
      match e.acceptCh.trySend conn with
      | .panic => .error "put conn error: listener is closed"
      | .full => .ok none
      | .ok ch => .ok (some (v, { e with acceptCh := ch }))

def step (s : State) : Action → Option State
  | .updateAll cfgs order runs => (s.vm.updateAll cfgs order runs).map s.manage
  | .close order => (s.vm.close order).map s.manage
  | .tick order runs => (s.vm.tick order runs).map s.manage
  | .exit => s.vm.exit.map fun vm => { s with vm := vm }
  | .acceptLocal v =>
    match s.ends[v]? with
    | some e =>
      if e.localLoop = some .accepting then
        if s.isClosed v then some (s.setEnd v { e with localLoop := some .returned })
        else some (State.setEnd { s with next := s.next + 1 } v
          { e with localLoop := some (.accepted s.next) })
      else none
    | none => none
  | .acceptInternal v =>
    match s.ends[v]? with
    | some e =>
      if e.internalLoop = .accepting then
        match e.acceptCh.recv with
        | .block => none
        | .closed => some (s.setEnd v { e with internalLoop := .returned })
        | .value conn ch =>
          some (s.setEnd v { e with acceptCh := ch, internalLoop := .accepted conn })
      else none
    | none => none
  | .spawnLocal v =>
    match s.ends[v]? with
    | some e =>
      match e.localLoop with
      | some (.accepted conn) =>
        some ((s.setEnd v { e with localLoop := some .accepting }).spawn v conn)
      | _ => none
    | none => none
  | .spawnInternal v =>
    match s.ends[v]? with
    | some e =>
      match e.internalLoop with
      | .accepted conn => some ((s.setEnd v { e with internalLoop := .accepting }).spawn v conn)
      | _ => none
    | none => none
  | .openTunnel p session =>
    match s.handlers[p]? with
    | some h =>
      match h.pc with
      | .opening conn =>
        match session with
        | some i =>
          -- `OpenConn` keeps the session's lock, so that no other takes its place meanwhile
          if s.sessions[i]?.any fun x => x.visitor = h.visitor ∧ x.status = .installed then
            some (State.goto { s with nextTunnel := s.nextTunnel + 1 } p h
              (.wrapping conn s.nextTunnel i))
          else none
        | none =>
          if (s.vm.started h.visitor).cfg.fallbackTo = "" then some (s.release p h)
          else some (s.goto p h (.transferring conn))
      | _ => none
    | none => none
  | .transfer p =>
    match s.handlers[p]? with
    | some h =>
      match h.pc with
      | .transferring conn =>
        match transferConn s (s.vm.started h.visitor).cfg.fallbackTo conn with
        | .error _ => some (s.release p h)
        -- `PutConn` has closed the connection, `handleConn` returns without closing it
        | .ok none => some (s.release p h)
        | .ok (some (v, e)) => some ((s.setEnd v e).goto p h .returned)
      | _ => none
    | none => none
  | .wrap p ok =>
    match s.handlers[p]? with
    | some h =>
      match h.pc with
      | .wrapping conn tunnel session =>
        if ok then some (s.goto p h (.joined conn tunnel session))
        else some (s.release p h)
      | _ => none
    | none => none
  | .joinEnds p =>
    match s.handlers[p]? with
    | some h =>
      match h.pc with
      | .joined _ _ session =>
        if s.sessions[session]?.any fun x => x.status = .closed then some (s.release p h)
        else none
      | _ => none
    | none => none
  | .install v =>
    if v < s.ends.length then
      some { s with
        sessions := s.leaveSessions (· == v) .replaced ++ [⟨v, .installed, s.isClosed v⟩] }
    else none
  | .closeSession v => some { s with sessions := s.leaveSessions (· == v) .closed }
  | .hangUp p =>
    match s.handlers[p]? with
    | some h =>
      match h.pc with
      | .joined _ _ _ => some (s.release p h)
      | _ => none
    | none => none

def init : State := ⟨.init, [], [], [], 0, [], 0, []⟩

def system : System State Action := ⟨init, step⟩

variable {s s' : State} {a : Action}

/-! ## What a step does -/

/-- Whose step an action is: of the manager, which starts and closes visitors, of the loops and
goroutines that have the user connections, or of those beside them. `keepVisitorsRunning` may
return at any time after `Close`, and moves nothing by it. -/
inductive Party where
  | manager
  | server
  | outside
  deriving DecidableEq

def Action.party : Action → Party
  | .updateAll _ _ _ | .close _ | .tick _ _ => .manager
  | .exit | .install _ | .closeSession _ | .hangUp _ => .outside
  | _ => .server

/-- The sessions belong to started visitors, and one that a closed visitor still has is late. -/
def State.SessionsOk (s : State) (l : List Session) : Prop :=
  ∀ x ∈ l, x.visitor < s.ends.length ∧
    (x.status = .installed → x.late = false → s.isClosed x.visitor = false)

/-- A goroutine is in `Join` on a session that its visitor does not close: another one has taken
its place, or it came after the visitor was closed. -/
def Stranded (s : State) (h : Handler) : Prop :=
  ∃ conn tunnel i x, h.pc = .joined conn tunnel i ∧ s.sessions[i]? = some x ∧
    (x.status = .replaced ∨ x.status = .installed ∧ x.late = true)

/-- What the steps of each party do, with what each one needs. -/
inductive Effect (s : State) : Party → State → Prop
  | manage {vm : VisitorManager} : s.vm.nextVisitor ≤ vm.nextVisitor → (s.vm.Ok → vm.Ok) →
      Effect s .manager (s.manage vm)
  | accept {v : Nat} {e : Endpoint} : s.ends[v]? = some e → e.localLoop = some .accepting →
      s.isClosed v = false →
      Effect s .server (State.setEnd { s with next := s.next + 1 } v
        { e with localLoop := some (.accepted s.next) })
  | localReturns {v : Nat} {e : Endpoint} : s.ends[v]? = some e → e.localLoop = some .accepting →
      Effect s .server (s.setEnd v { e with localLoop := some .returned })
  | receive {v conn : Nat} {e : Endpoint} {ch : Chan Nat} : s.ends[v]? = some e →
      e.internalLoop = .accepting → e.acceptCh.recv = .value conn ch →
      Effect s .server (s.setEnd v { e with acceptCh := ch, internalLoop := .accepted conn })
  | internalReturns {v : Nat} {e : Endpoint} : s.ends[v]? = some e →
      e.internalLoop = .accepting → e.acceptCh.recv = .closed →
      Effect s .server (s.setEnd v { e with internalLoop := .returned })
  | spawnLocal {v conn : Nat} {e : Endpoint} : s.ends[v]? = some e →
      e.localLoop = some (.accepted conn) →
      Effect s .server ((s.setEnd v { e with localLoop := some .accepting }).spawn v conn)
  | spawnInternal {v conn : Nat} {e : Endpoint} : s.ends[v]? = some e →
      e.internalLoop = .accepted conn →
      Effect s .server ((s.setEnd v { e with internalLoop := .accepting }).spawn v conn)
  | openTunnel {p conn session : Nat} {h : Handler} : s.handlers[p]? = some h →
      h.pc = .opening conn → session < s.sessions.length →
      Effect s .server (State.goto { s with nextTunnel := s.nextTunnel + 1 } p h
        (.wrapping conn s.nextTunnel session))
  | fallBack {p conn : Nat} {h : Handler} : s.handlers[p]? = some h → h.pc = .opening conn →
      Effect s .server (s.goto p h (.transferring conn))
  | transfer {p conn v : Nat} {h : Handler} {e : Endpoint} {ch : Chan Nat} :
      s.handlers[p]? = some h → h.pc = .transferring conn → s.ends[v]? = some e →
      e.acceptCh.trySend conn = .ok ch →
      Effect s .server ((s.setEnd v { e with acceptCh := ch }).goto p h .returned)
  | join {p conn tunnel session : Nat} {h : Handler} : s.handlers[p]? = some h →
      h.pc = .wrapping conn tunnel session →
      Effect s .server (s.goto p h (.joined conn tunnel session))
  | release {p : Nat} {h : Handler} : s.handlers[p]? = some h → h.pc ≠ .returned →
      ¬ Stranded s h → Effect s .server (s.release p h)
  | exit : Effect s .outside { s with vm := { s.vm with ticker := .exited } }
  | hangUp {p : Nat} {h : Handler} : s.handlers[p]? = some h → h.pc ≠ .returned →
      Effect s .outside (s.release p h)
  | sessions {l : List Session} : s.sessions.length ≤ l.length →
      (s.SessionsOk s.sessions → s.SessionsOk l) → Effect s .outside { s with sessions := l }

theorem transferConn_ok {name : String} {conn v : Nat} {e' : Endpoint}
    (h : transferConn s name conn = .ok (some (v, e'))) :
    ∃ e ch, s.ends[v]? = some e ∧ e.acceptCh.trySend conn = .ok ch ∧
      e' = { e with acceptCh := ch } := by
  unfold transferConn at h
  split at h
  · cases h
  · split at h
    · cases h
    · rename_i e he
      split at h
      · cases h
      · cases h
      · rename_i ch hch
        cases h
        exact ⟨e, ch, he, hch, rfl⟩

theorem length_leaveSessions (s : State) (visitors : Nat → Bool) (status : SessionStatus) :
    (s.leaveSessions visitors status).length = s.sessions.length :=
  List.length_map ..

/-- Sessions that are replaced or closed stay what they are otherwise. -/
theorem State.SessionsOk.leave (h : s.SessionsOk s.sessions) (visitors : Nat → Bool)
    {status : SessionStatus} (hne : status ≠ .installed) :
    s.SessionsOk (s.leaveSessions visitors status) := by
  intro x hx
  obtain ⟨y, hy, rfl⟩ := List.mem_map.mp hx
  obtain ⟨hlt, hopen⟩ := h y hy
  unfold Session.leave
  split_ifs with hv hi
  · exact ⟨hlt, fun hs => absurd hs hne⟩
  · exact ⟨hlt, hopen⟩
  · exact ⟨hlt, hopen⟩

theorem State.SessionsOk.install (h : s.SessionsOk s.sessions) {v : Nat} (hv : v < s.ends.length) :
    s.SessionsOk (s.leaveSessions (· == v) .replaced ++ [⟨v, .installed, s.isClosed v⟩]) := by
  intro x hx
  rcases List.mem_append.mp hx with hx | hx
  · exact h.leave _ (by simp) x hx
  · obtain rfl := List.mem_singleton.mp hx
    exact ⟨hv, fun _ hl => hl⟩

theorem not_stranded {h : Handler} (hpc : ∀ conn tunnel i, h.pc ≠ .joined conn tunnel i) :
    ¬ Stranded s h := by
  rintro ⟨conn, tunnel, i, x, hj, -⟩
  exact hpc conn tunnel i hj

theorem step_effect (hs : step s a = some s') : Effect s a.party s' := by
  cases a with
  | updateAll cfgs order runs =>
    obtain ⟨vm, hvm, rfl⟩ := Option.map_eq_some_iff.mp hs
    exact .manage (VisitorManager.updateAll_next hvm) fun h => h.updateAll hvm
  | close order =>
    obtain ⟨vm, hvm, rfl⟩ := Option.map_eq_some_iff.mp hs
    exact .manage (Nat.le_of_eq (VisitorManager.close_next hvm).symm) fun h => (h.close hvm).1
  | tick order runs =>
    obtain ⟨vm, hvm, rfl⟩ := Option.map_eq_some_iff.mp hs
    exact .manage (VisitorManager.tick_next hvm) fun h => h.tick hvm
  | exit =>
    obtain ⟨vm, hvm, rfl⟩ := Option.map_eq_some_iff.mp hs
    rw [VisitorManager.exit_some hvm]
    exact .exit
  | acceptLocal v =>
    simp only [step] at hs
    split at hs
    · rename_i e he
      split_ifs at hs with hl hc
      · cases hs
        exact .localReturns he hl
      · cases hs
        exact .accept he hl (by simpa using hc)
    · cases hs
  | acceptInternal v =>
    simp only [step] at hs
    split at hs
    · rename_i e he
      split_ifs at hs with hl
      split at hs
      · cases hs
      · cases hs
        exact .internalReturns he hl ‹_›
      · cases hs
        exact .receive he hl ‹_›
    · cases hs
  | spawnLocal v =>
    simp only [step] at hs
    split at hs
    · rename_i e he
      split at hs
      · cases hs
        exact .spawnLocal he ‹_›
      · cases hs
    · cases hs
  | spawnInternal v =>
    simp only [step] at hs
    split at hs
    · rename_i e he
      split at hs
      · cases hs
        exact .spawnInternal he ‹_›
      · cases hs
    · cases hs
  | openTunnel p ok =>
    simp only [step] at hs
    split at hs
    · rename_i h hp
      split at hs
      · rename_i conn hpc
        split at hs
        · rename_i i
          split_ifs at hs with hi
          cases hs
          obtain ⟨x, hx, -⟩ := (Option.any_eq_true _ _).mp hi
          exact .openTunnel hp hpc (List.getElem?_eq_some_iff.mp hx).1
        · split_ifs at hs with hfall
          · cases hs
            exact .release hp (by simp [hpc]) (not_stranded (by simp [hpc]))
          · cases hs
            exact .fallBack hp hpc
      · cases hs
    · cases hs
  | transfer p =>
    simp only [step] at hs
    split at hs
    · rename_i h hp
      split at hs
      · rename_i conn hpc
        have hne : h.pc ≠ .returned := by simp [hpc]
        have hfree : ¬ Stranded s h := not_stranded (by simp [hpc])
        split at hs
        · cases hs
          exact .release hp hne hfree
        · cases hs
          exact .release hp hne hfree
        · rename_i v e' ht
          cases hs
          obtain ⟨e, ch, he, hch, rfl⟩ := transferConn_ok ht
          exact .transfer hp hpc he hch
      · cases hs
    · cases hs
  | wrap p ok =>
    simp only [step] at hs
    split at hs
    · rename_i h hp
      split at hs
      · rename_i conn tunnel session hpc
        split_ifs at hs with hok
        · cases hs
          exact .join hp hpc
        · cases hs
          exact .release hp (by simp [hpc]) (not_stranded (by simp [hpc]))
      · cases hs
    · cases hs
  | joinEnds p =>
    simp only [step] at hs
    split at hs
    · rename_i h hp
      split at hs
      · rename_i conn tunnel session hpc
        split_ifs at hs with hended
        cases hs
        refine .release hp (by simp [hpc]) ?_
        obtain ⟨x, hx, hclosed⟩ := (Option.any_eq_true _ _).mp hended
        rintro ⟨_, _, _, y, hj, hy, hleft⟩
        rw [hpc] at hj
        cases hj
        rw [hx] at hy
        cases hy
        simp [of_decide_eq_true hclosed] at hleft
      · cases hs
    · cases hs
  | install v =>
    simp only [step] at hs
    split_ifs at hs with hv
    cases hs
    refine .sessions ?_ fun h => h.install hv
    rw [List.length_append, length_leaveSessions]
    exact Nat.le_add_right ..
  | closeSession v =>
    cases hs
    exact .sessions (Nat.le_of_eq (length_leaveSessions ..).symm) fun h => h.leave _ (by simp)
  | hangUp p =>
    simp only [step] at hs
    split at hs
    · rename_i h hp
      split at hs
      · rename_i conn tunnel session hpc
        cases hs
        exact .hangUp hp (by simp [hpc])
      · cases hs
    · cases hs

/-! ## Where the connections are -/

theorem conns_close (e : Endpoint) : e.close.conns = e.conns := by
  unfold Endpoint.close
  split
  · rename_i ch hch
    simp only [Endpoint.conns, (Chan.close_some hch).2.2.1]
  · rfl

/-- An operation of the manager moves no connection. -/
theorem waiting_manage (s : State) (vm : VisitorManager) : (s.manage vm).waiting = s.waiting := by
  have hkept : ∀ (l : List Endpoint) (c : Nat → Bool),
      (l.mapIdx fun v e => if c v then e.close else e).flatMap Endpoint.conns =
        l.flatMap Endpoint.conns := by
    intro l
    induction l with
    | nil =>
      intro c
      rfl
    | cons e l ih =>
      intro c
      rw [List.mapIdx_cons, List.flatMap_cons, List.flatMap_cons, ih fun v => c (v + 1)]
      congr 1
      split
      · exact conns_close e
      · rfl
  have hnew : ∀ l : List Nat, (l.map fun v => Endpoint.new (vm.started v).cfg).flatMap
      Endpoint.conns = [] := by
    intro l
    rw [List.flatMap_eq_nil_iff]
    intro e he
    obtain ⟨v, -, rfl⟩ := List.mem_map.mp he
    unfold Endpoint.new
    split <;> rfl
  simp only [State.waiting, State.manage]
  rw [hkept _ fun v => (vm.started v).closed, List.flatMap_append, hnew, List.append_nil]

theorem count_waiting_setEnd {v : Nat} {e : Endpoint} (he : s.ends[v]? = some e) (e' : Endpoint)
    (n : Nat) :
    e.conns.count n + (s.setEnd v e').waiting.count n = e'.conns.count n + s.waiting.count n := by
  have h := (flatMap_set Endpoint.conns he e').count_eq n
  rw [List.count_append, List.count_append] at h
  exact h

theorem count_held_goto {p : Nat} {g : Handler} (hp : s.handlers[p]? = some g) (pc : HandlerPc)
    (n : Nat) :
    g.pc.conn?.toList.count n + (s.goto p g pc).held.count n =
      pc.conn?.toList.count n + s.held.count n := by
  have h := (filterMap_set (fun h : Handler => h.pc.conn?) hp { g with pc := pc }).count_eq n
  rw [List.count_append, List.count_append] at h
  exact h

theorem count_tunnels_goto {p : Nat} {g : Handler} (hp : s.handlers[p]? = some g) (pc : HandlerPc)
    (n : Nat) :
    g.pc.tunnel?.toList.count n + (s.goto p g pc).tunnels.count n =
      pc.tunnel?.toList.count n + s.tunnels.count n := by
  have h := (filterMap_set (fun h : Handler => h.pc.tunnel?) hp { g with pc := pc }).count_eq n
  rw [List.count_append, List.count_append] at h
  exact h

/-- Every user connection is with a visitor, with a goroutine or closed, and every connection
of the tunnel is with a goroutine or closed. -/
structure Placed (s : State) : Prop where
  users : ∀ n, (List.range s.next).count n =
    s.waiting.count n + s.held.count n + s.closed.count n
  tunnels : ∀ n, (List.range s.nextTunnel).count n =
    s.tunnels.count n + s.tunnelsClosed.count n

theorem count_range_succ (m n : Nat) :
    (List.range (m + 1)).count n = (List.range m).count n + [m].count n := by
  rw [List.range_succ, List.count_append]

/-- A move of a visitor that keeps its connections. -/
theorem Placed.setEnd (hi : Placed s) {v : Nat} {e e' : Endpoint} (he : s.ends[v]? = some e)
    (hconns : ∀ n, e'.conns.count n = e.conns.count n) : Placed (s.setEnd v e') := by
  refine ⟨?_, hi.tunnels⟩
  intro n
  have hw := count_waiting_setEnd he e' n
  have hn := hi.users n
  have hc := hconns n
  change _ = (s.setEnd v e').waiting.count n + s.held.count n + s.closed.count n
  change (List.range s.next).count n = _
  omega

/-- A connection goes from a visitor to a new goroutine. -/
theorem Placed.spawn (hi : Placed s) {v conn : Nat} {e e' : Endpoint} (he : s.ends[v]? = some e)
    (hconns : ∀ n, e.conns.count n = e'.conns.count n + [conn].count n) :
    Placed ((s.setEnd v e').spawn v conn) := by
  have hheld : ((s.setEnd v e').spawn v conn).held = s.held ++ [conn] := by
    simp [State.held, State.spawn, State.setEnd, HandlerPc.conn?]
  have htunnels : ((s.setEnd v e').spawn v conn).tunnels = s.tunnels := by
    simp [State.tunnels, State.spawn, State.setEnd, HandlerPc.tunnel?]
  refine ⟨?_, ?_⟩
  · intro n
    have hw := count_waiting_setEnd he e' n
    have hn := hi.users n
    have hc := hconns n
    rw [hheld, List.count_append]
    change (List.range s.next).count n = (s.setEnd v e').waiting.count n + _ + s.closed.count n
    omega
  · intro n
    rw [htunnels]
    exact hi.tunnels n

/-- A goroutine goes on with what it has. -/
theorem Placed.goto (hi : Placed s) {p : Nat} {h : Handler} (hp : s.handlers[p]? = some h)
    {pc : HandlerPc} (hconn : pc.conn? = h.pc.conn?) (htunnel : pc.tunnel? = h.pc.tunnel?) :
    Placed (s.goto p h pc) := by
  refine ⟨?_, ?_⟩
  · intro n
    have hh := count_held_goto hp pc n
    have hn := hi.users n
    rw [hconn] at hh
    change _ = s.waiting.count n + _ + s.closed.count n
    change (List.range s.next).count n = _
    omega
  · intro n
    have hh := count_tunnels_goto hp pc n
    have hn := hi.tunnels n
    rw [htunnel] at hh
    change (List.range s.nextTunnel).count n = _ + s.tunnelsClosed.count n
    omega

/-- A goroutine returns with what it has closed. -/
theorem Placed.release (hi : Placed s) {p : Nat} {h : Handler} (hp : s.handlers[p]? = some h) :
    Placed (s.release p h) := by
  refine ⟨?_, ?_⟩
  · intro n
    have hh := count_held_goto hp .returned n
    have hn := hi.users n
    have hnone : (HandlerPc.returned.conn?.toList).count n = 0 := rfl
    change (List.range s.next).count n = s.waiting.count n +
      (s.goto p h .returned).held.count n + (s.closed ++ h.pc.conn?.toList).count n
    rw [List.count_append]
    omega
  · intro n
    have hh := count_tunnels_goto hp .returned n
    have hn := hi.tunnels n
    have hnone : (HandlerPc.returned.tunnel?.toList).count n = 0 := rfl
    change (List.range s.nextTunnel).count n = (s.goto p h .returned).tunnels.count n +
      (s.tunnelsClosed ++ h.pc.tunnel?.toList).count n
    rw [List.count_append]
    omega

theorem Effect.placed {q : Party} (he : Effect s q s') (hi : Placed s) : Placed s' := by
  cases he with
  | manage _ _ =>
    refine ⟨?_, hi.tunnels⟩
    intro n
    rw [waiting_manage]
    exact hi.users n
  | @accept v e hv hl hopen =>
    refine ⟨?_, hi.tunnels⟩
    intro n
    have hw := count_waiting_setEnd hv { e with localLoop := some (.accepted s.next) } n
    have hn := hi.users n
    have hr := count_range_succ s.next n
    simp only [Endpoint.conns, hl, Option.bind_some, LoopPc.conn?, Option.toList, List.count_append,
      List.count_nil] at hw
    change (List.range (s.next + 1)).count n =
      (s.setEnd v { e with localLoop := some (.accepted s.next) }).waiting.count n +
        s.held.count n + s.closed.count n
    omega
  | localReturns hv hl =>
    refine hi.setEnd hv ?_
    intro n
    simp only [Endpoint.conns, hl, Option.bind_some, LoopPc.conn?]
  | receive hv hl hrecv =>
    refine hi.setEnd hv ?_
    intro n
    simp only [Endpoint.conns, hl, LoopPc.conn?, (Chan.recv_value hrecv).1, Option.toList,
      List.count_append, List.count_cons, List.count_nil]
    omega
  | internalReturns hv hl _ =>
    refine hi.setEnd hv ?_
    intro n
    simp only [Endpoint.conns, hl, LoopPc.conn?]
  | spawnLocal hv hl =>
    refine hi.spawn hv ?_
    intro n
    simp only [Endpoint.conns, hl, Option.bind_some, LoopPc.conn?, Option.toList,
      List.count_append, List.count_nil]
    omega
  | spawnInternal hv hl =>
    refine hi.spawn hv ?_
    intro n
    simp only [Endpoint.conns, hl, LoopPc.conn?, Option.toList, List.count_append, List.count_nil]
    omega
  | @openTunnel p conn session h hp hpc _ =>
    refine ⟨?_, ?_⟩
    · intro n
      have hh := count_held_goto hp (.wrapping conn s.nextTunnel session) n
      have hn := hi.users n
      simp only [hpc, HandlerPc.conn?] at hh
      change (List.range s.next).count n = s.waiting.count n +
        (s.goto p h (.wrapping conn s.nextTunnel session)).held.count n + s.closed.count n
      omega
    · intro n
      have hh := count_tunnels_goto hp (.wrapping conn s.nextTunnel session) n
      have hn := hi.tunnels n
      have hr := count_range_succ s.nextTunnel n
      simp only [hpc, HandlerPc.tunnel?, Option.toList, List.count_nil] at hh
      change (List.range (s.nextTunnel + 1)).count n =
        (s.goto p h (.wrapping conn s.nextTunnel session)).tunnels.count n + s.tunnelsClosed.count n
      omega
  | fallBack hp hpc => exact hi.goto hp (by rw [hpc]; rfl) (by rw [hpc]; rfl)
  | join hp hpc => exact hi.goto hp (by rw [hpc]; rfl) (by rw [hpc]; rfl)
  | @transfer p conn v h e ch hp hpc hv hsend =>
    refine ⟨?_, ?_⟩
    · intro n
      have hh := count_held_goto hp .returned n
      have hw := count_waiting_setEnd hv { e with acceptCh := ch } n
      have hn := hi.users n
      simp only [hpc, HandlerPc.conn?, Option.toList, List.count_nil] at hh
      simp only [Endpoint.conns, (Chan.trySend_ok hsend).2.1, List.count_append] at hw
      change (List.range s.next).count n =
        (s.setEnd v { e with acceptCh := ch }).waiting.count n +
          (s.goto p h .returned).held.count n + s.closed.count n
      omega
    · intro n
      have hh := count_tunnels_goto hp .returned n
      have hn := hi.tunnels n
      simp only [hpc, HandlerPc.tunnel?] at hh
      change (List.range s.nextTunnel).count n =
        (s.goto p h .returned).tunnels.count n + s.tunnelsClosed.count n
      omega
  | release hp _ | hangUp hp _ => exact hi.release hp
  | exit | sessions => exact ⟨hi.users, hi.tunnels⟩

theorem reachable_placed (h : system.Reachable s) : Placed s := by
  refine System.invariant (S := system) (I := Placed) ?_ ?_ h
  · exact ⟨fun _ => rfl, fun _ => rfl⟩
  · intro s a s' _ hi hs
    exact (step_effect hs).placed hi

/-- Each user connection is in one place, whatever visitors are closed and started meanwhile:
with one visitor, with one goroutine, or closed. A connection that was transferred is not
closed by the goroutine that has transferred it. The same holds for the connections of the
tunnel. -/
theorem user_conns_in_one_place (h : system.Reachable s) :
    List.range s.next ~ s.waiting ++ s.held ++ s.closed ∧
      List.range s.nextTunnel ~ s.tunnels ++ s.tunnelsClosed := by
  have hplaced := reachable_placed h
  constructor
  · rw [List.perm_iff_count]
    intro n
    rw [hplaced.users n, List.count_append, List.count_append]
  · rw [List.perm_iff_count]
    intro n
    rw [hplaced.tunnels n, List.count_append]

/-- Two visitors, of which the first falls back to the second. -/
def fallbackCfgs : List VisitorConfig :=
  [⟨⟨"a", "xtcp", none, ⟨false, false⟩, "", "", "p", "127.0.0.1", 8000⟩, "quic", false, 8, 90, "b",
      1000, none⟩,
    ⟨⟨"b", "xtcp", none, ⟨false, false⟩, "", "", "q", "127.0.0.1", -1⟩, "quic", false, 8, 90, "",
      1000, none⟩]

/-- A connection to the first one is transferred to the second one. -/
def transferred : List Action :=
  [.updateAll fallbackCfgs [] fun _ => true, .acceptLocal 0, .spawnLocal 0, .openTunnel 0 none,
    .transfer 0]

theorem user_conns_in_one_place_transferred : ∃ s, system.Reachable s ∧ s.held = [] ∧
    s.closed = [] ∧ List.range s.next ~ s.waiting := by
  obtain ⟨s, hs, hp⟩ := System.reachable_of_run (S := system) (l := transferred)
    (p := fun s => decide (s.held = [] ∧ s.closed = [])) (by decide +kernel)
  obtain ⟨hheld, hclosed⟩ := of_decide_eq_true hp
  have hplaces := (user_conns_in_one_place hs).1
  rw [hheld, hclosed, List.append_nil, List.append_nil] at hplaces
  exact ⟨s, hs, hheld, hclosed, hplaces⟩

end FrpXtcp.Client.UserConns

import FrpXtcp.Lib.Tasks
import FrpXtcp.Lib.Transition

/-!
# Tunnel sessions of a visitor

An `XTCPVisitor` has one tunnel session, of KCP or QUIC, over which the connections of its users
are opened (`client/visitor/xtcp.go`). Whoever finds no session, or cannot open a connection on
it, closes the session and asks `processTunnelStartEvents` for a new one, over a channel without
a buffer and without waiting; `keepTunnelOpenWorker` waits with its first request. `Init` then
puts the new session in the place of the old one, if there still is one, and does not close it.

`OpenConn` holds the read lock of the session until the stream is open; `Init` and `Close` take
the write lock, and while one of them waits for it no new `OpenConn` gets the read lock.

The two session types differ in what they hold beside the session, a connected socket or the one
the hole was made with; it goes with the session. The times of timers, tickers and sleeps are left
out: what waits for one of them may go on at any time.
-/
namespace FrpXtcp.Client.Tunnel

open FrpXtcp.Lib
open scoped List

/-- Where a goroutine is that calls `getTunnelConn`. `opening` holds the read lock of the
session, and `closing` waits for the write lock. The sessions are numbered as they are installed;
`mark` is the number of the next one when `OpenConn` was called, and `seen` the session that it
found. -/
inductive TaskPc where
  | starting
  | waiting
  | opening (session mark : Nat)
  | failed (seen : Option Nat) (mark : Nat)
  | closing (seen : Option Nat) (mark : Nat)
  | requesting (mark : Nat)
  | opened (session : Nat)
  | ended
  deriving DecidableEq

/-- `keeps` for `keepTunnelOpenWorker`; the others are in `openTunnel`. -/
structure Task where
  keeps : Bool
  pc : TaskPc
  deriving DecidableEq

/-- Who has asked for a session: `keepTunnelOpenWorker` at its start, or a `getTunnelConn` with
its mark. -/
inductive Request where
  | first
  | after (mark : Nat)
  deriving DecidableEq

/-- `processTunnelStartEvents`: `looping` is before the select and `receiving` in it. `initing` is
in `Init`, with the session made, and `locking` waits there for the write lock. -/
inductive MakerPc where
  | looping
  | receiving
  | making (r : Request)
  | initing (r : Request)
  | locking (r : Request)
  | resting
  | ended
  deriving DecidableEq

/-- `Close` of the visitor cancels the context, which may also happen before, and closes the
session, for which `locking` waits for the write lock; `mark` is the number of the next session
then. -/
inductive CloserPc where
  | running
  | cancelled
  | locking
  | closed (mark : Nat)
  deriving DecidableEq

/-- Who has closed a session: `Close`, or a `getTunnelConn` with what it has seen. -/
inductive Reason where
  | close
  | failure (seen : Option Nat) (mark : Nat)
  deriving DecidableEq

/-- `replaced` are the sessions over which `Init` has put another one, with the request for that
one. -/
structure State where
  session : Option Nat
  next : Nat
  closed : List (Nat × Reason)
  replaced : List (Nat × Request)
  tasks : List Task
  maker : MakerPc
  closer : CloserPc
  deriving DecidableEq

inductive Action where
  | arrive
  | start (t : Nat)
  | openConn (t : Nat)
  | openResult (t : Nat) (ok : Bool)
  | lockClose (t : Nat)
  | closeSession (t : Nat)
  | request (t : Nat)
  | again (t : Nat)
  | finish (t : Nat)
  | receive
  | leave
  | makeResult (ok : Bool)
  | lockInit
  | install
  | rested
  | cancel
  | lockVisitor
  | close
  deriving DecidableEq

def State.goto (s : State) (t : Nat) (k : Task) (pc : TaskPc) : State :=
  { s with tasks := s.tasks.set t { k with pc := pc } }

/-- Whether nobody holds the read lock. -/
def State.free (s : State) : Bool :=
  s.tasks.all fun k => match k.pc with
    | .opening _ _ => false
    | _ => true

/-- Whether nobody waits for the write lock. -/
def State.calm (s : State) : Bool :=
  (s.tasks.all fun k => match k.pc with
    | .closing _ _ => false
    | _ => true) &&
  (match s.maker with
    | .locking _ => false
    | _ => true) &&
  s.closer != .locking

/-- `Close` of the tunnel session. -/
def State.closeSession (s : State) (reason : Reason) : State :=
  { s with
    session := none
    closed := s.closed ++ (s.session.toList.map fun i => (i, reason)) }

def step (s : State) : Action → Option State
  | .arrive => some { s with tasks := s.tasks ++ [⟨false, .waiting⟩] }
  | .start t =>
    match s.tasks[t]? with
    | some ⟨keeps, .starting⟩ =>
      if s.maker = .looping ∨ s.maker = .receiving then
        some { s.goto t ⟨keeps, .starting⟩ .waiting with maker := .making .first }
      else none
    | _ => none
  | .openConn t =>
    match s.tasks[t]? with
    | some ⟨keeps, .waiting⟩ =>
      if s.calm then
        match s.session with
        | none => some (s.goto t ⟨keeps, .waiting⟩ (.failed none s.next))
        | some i => some (s.goto t ⟨keeps, .waiting⟩ (.opening i s.next))
      else none
    | _ => none
  | .openResult t ok =>
    match s.tasks[t]? with
    | some ⟨keeps, .opening i mark⟩ =>
      some (s.goto t ⟨keeps, .opening i mark⟩ (if ok then .opened i else .failed (some i) mark))
    | _ => none
  | .lockClose t =>
    match s.tasks[t]? with
    | some ⟨keeps, .failed seen mark⟩ =>
      some (s.goto t ⟨keeps, .failed seen mark⟩ (.closing seen mark))
    | _ => none
  | .closeSession t =>
    match s.tasks[t]? with
    | some ⟨keeps, .closing seen mark⟩ =>
      if s.free then
        some ((s.goto t ⟨keeps, .closing seen mark⟩ (.requesting mark)).closeSession
          (.failure seen mark))
      else none
    | _ => none
  | .request t =>
    match s.tasks[t]? with
    | some ⟨keeps, .requesting mark⟩ =>
      some { s.goto t ⟨keeps, .requesting mark⟩ .waiting with
        maker := if s.maker = .receiving then .making (.after mark) else s.maker }
    | _ => none
  | .again t =>
    match s.tasks[t]? with
    | some ⟨true, .opened i⟩ => some (s.goto t ⟨true, .opened i⟩ .waiting)
    | _ => none
  | .finish t =>
    match s.tasks[t]? with
    | some ⟨keeps, .waiting⟩ =>
      -- the worker has no deadline
      if keeps ∧ s.closer = .running then none else some (s.goto t ⟨keeps, .waiting⟩ .ended)
    | _ => none
  | .receive =>
    if s.maker = .looping ∧ s.closer = .running then some { s with maker := .receiving } else none
  | .leave =>
    if s.maker = .looping ∧ s.closer ≠ .running then some { s with maker := .ended } else none
  | .makeResult ok =>
    match s.maker with
    | .making r => some { s with maker := if ok then .initing r else .resting }
    | _ => none
  | .lockInit =>
    match s.maker with
    | .initing r => some { s with maker := .locking r }
    | _ => none
  | .install =>
    match s.maker with
    | .locking r =>
      if s.free then
        some { s with
          session := some s.next
          next := s.next + 1
          replaced := s.replaced ++ (s.session.toList.map fun i => (i, r))
          maker := .resting }
      else none
    | _ => none
  | .rested => if s.maker = .resting then some { s with maker := .looping } else none
  | .cancel =>
    if s.closer = .running then
      some { s with
        closer := .cancelled
        maker := if s.maker = .receiving then .ended else s.maker }
    else none
  | .lockVisitor =>
    if s.closer = .cancelled then some { s with closer := .locking } else none
  | .close =>
    if s.closer = .locking ∧ s.free then
      some { s.closeSession .close with closer := .closed s.next }
    else none

/-- A visitor after `Run`. -/
def init (keepTunnelOpen : Bool) : State :=
  ⟨none, 0, [], [], if keepTunnelOpen then [⟨true, .starting⟩] else [], .looping, .running⟩

def system (keepTunnelOpen : Bool) : System State Action := ⟨init keepTunnelOpen, step⟩

variable {s s' : State} {a : Action}

/-! ## What a step does -/

/-- What the steps do, with what each one needs. -/
inductive Effect (s : State) : Action → State → Prop
  | arrive : Effect s .arrive { s with tasks := s.tasks ++ [⟨false, .waiting⟩] }
  | start {t : Nat} {k : Task} : s.tasks[t]? = some k → k.pc = .starting →
      s.maker = .looping ∨ s.maker = .receiving →
      Effect s (.start t) { s.goto t k .waiting with maker := .making .first }
  | openNone {t : Nat} {k : Task} : s.tasks[t]? = some k → k.pc = .waiting → s.session = none →
      Effect s (.openConn t) (s.goto t k (.failed none s.next))
  | openSome {t i : Nat} {k : Task} : s.tasks[t]? = some k → k.pc = .waiting →
      s.session = some i → Effect s (.openConn t) (s.goto t k (.opening i s.next))
  | openFails {t i mark : Nat} {k : Task} : s.tasks[t]? = some k → k.pc = .opening i mark →
      Effect s (.openResult t false) (s.goto t k (.failed (some i) mark))
  | opens {t i mark : Nat} {k : Task} : s.tasks[t]? = some k → k.pc = .opening i mark →
      Effect s (.openResult t true) (s.goto t k (.opened i))
  | lockClose {t mark : Nat} {seen : Option Nat} {k : Task} : s.tasks[t]? = some k →
      k.pc = .failed seen mark → Effect s (.lockClose t) (s.goto t k (.closing seen mark))
  | closeSession {t mark : Nat} {seen : Option Nat} {k : Task} : s.tasks[t]? = some k →
      k.pc = .closing seen mark → s.free = true →
      Effect s (.closeSession t)
        ((s.goto t k (.requesting mark)).closeSession (.failure seen mark))
  | request {t mark : Nat} {k : Task} : s.tasks[t]? = some k → k.pc = .requesting mark →
      s.maker = .receiving →
      Effect s (.request t) { s.goto t k .waiting with maker := .making (.after mark) }
  | drop {t mark : Nat} {k : Task} : s.tasks[t]? = some k → k.pc = .requesting mark →
      Effect s (.request t) (s.goto t k .waiting)
  | again {t i : Nat} {k : Task} : s.tasks[t]? = some k → k.pc = .opened i →
      Effect s (.again t) (s.goto t k .waiting)
  | finish {t : Nat} {k : Task} : s.tasks[t]? = some k → k.pc = .waiting →
      Effect s (.finish t) (s.goto t k .ended)
  | receive : s.maker = .looping → s.closer = .running →
      Effect s .receive { s with maker := .receiving }
  | leave : s.maker = .looping → s.closer ≠ .running → Effect s .leave { s with maker := .ended }
  | fails {r : Request} : s.maker = .making r →
      Effect s (.makeResult false) { s with maker := .resting }
  | makes {r : Request} : s.maker = .making r →
      Effect s (.makeResult true) { s with maker := .initing r }
  | lockInit {r : Request} : s.maker = .initing r →
      Effect s .lockInit { s with maker := .locking r }
  | install {r : Request} : s.maker = .locking r → s.free = true →
      Effect s .install { s with
        session := some s.next
        next := s.next + 1
        replaced := s.replaced ++ (s.session.toList.map fun i => (i, r))
        maker := .resting }
  | rested : s.maker = .resting → Effect s .rested { s with maker := .looping }
  | cancel {maker : MakerPc} : s.closer = .running → maker = s.maker ∨ maker = .ended →
      Effect s .cancel { s with closer := .cancelled, maker := maker }
  | lockVisitor : s.closer = .cancelled → Effect s .lockVisitor { s with closer := .locking }
  | close : s.closer = .locking → s.free = true →
      Effect s .close { s.closeSession .close with closer := .closed s.next }

theorem step_effect (hs : step s a = some s') : Effect s a s' := by
  cases a with
  | arrive =>
    obtain rfl := Option.some.inj hs
    exact .arrive
  | start t =>
    simp only [step] at hs
    split at hs
    · split at hs <;> cases hs
      exact .start ‹_› rfl ‹_›
    · cases hs
  | openConn t =>
    simp only [step] at hs
    split at hs
    · split at hs
      · split at hs <;> cases hs
        · exact .openNone ‹_› rfl ‹_›
        · exact .openSome ‹_› rfl ‹_›
      · cases hs
    · cases hs
  | openResult t ok =>
    simp only [step] at hs
    split at hs
    · obtain rfl := Option.some.inj hs
      cases ok with
      | false => exact .openFails ‹_› rfl
      | true => exact .opens ‹_› rfl
    · cases hs
  | lockClose t =>
    simp only [step] at hs
    split at hs <;> cases hs
    exact .lockClose ‹_› rfl
  | closeSession t =>
    simp only [step] at hs
    split at hs
    · split at hs <;> cases hs
      exact .closeSession ‹_› rfl ‹_›
    · cases hs
  | request t =>
    simp only [step] at hs
    split at hs
    · obtain rfl := Option.some.inj hs
      split
      · exact .request ‹_› rfl ‹_›
      · exact .drop ‹_› rfl
    · cases hs
  | again t =>
    simp only [step] at hs
    split at hs
    · obtain rfl := Option.some.inj hs
      exact .again ‹_› rfl
    · cases hs
  | finish t =>
    simp only [step] at hs
    split at hs
    · split at hs <;> cases hs
      exact .finish ‹_› rfl
    · cases hs
  | receive =>
    simp only [step] at hs
    split at hs <;> cases hs
    rename_i hg
    exact .receive hg.1 hg.2
  | leave =>
    simp only [step] at hs
    split at hs <;> cases hs
    rename_i hg
    exact .leave hg.1 hg.2
  | makeResult ok =>
    simp only [step] at hs
    split at hs
    · obtain rfl := Option.some.inj hs
      cases ok with
      | false => exact .fails ‹_›
      | true => exact .makes ‹_›
    · cases hs
  | lockInit =>
    simp only [step] at hs
    split at hs <;> cases hs
    exact .lockInit ‹_›
  | install =>
    simp only [step] at hs
    split at hs
    · split at hs <;> cases hs
      exact .install ‹_› ‹_›
    · cases hs
  | rested =>
    simp only [step] at hs
    split at hs <;> cases hs
    exact .rested ‹_›
  | cancel =>
    simp only [step] at hs
    split at hs <;> cases hs
    refine .cancel ‹_› ?_
    split
    · exact Or.inr rfl
    · exact Or.inl rfl
  | lockVisitor =>
    simp only [step] at hs
    split at hs <;> cases hs
    exact .lockVisitor ‹_›
  | close =>
    simp only [step] at hs
    split at hs <;> cases hs
    rename_i hg
    exact .close hg.1 hg.2

/-! ## Where the sessions are -/

/-- What is installed has been installed since `mark`. -/
def Since (s : State) (mark : Nat) : Prop := mark ≤ s.next ∧ ∀ i, s.session = some i → mark ≤ i

def TaskOk (s : State) : TaskPc → Prop
  | .opening i mark => s.session = some i ∧ mark ≤ s.next
  | .failed seen mark | .closing seen mark =>
    mark ≤ s.next ∧ ∀ i, s.session = some i → seen = some i ∨ mark ≤ i
  | .requesting mark => Since s mark
  | _ => True

/-- The request that `processTunnelStartEvents` works on. -/
def MakerPc.request : MakerPc → Option Request
  | .making r | .initing r | .locking r => some r
  | _ => none

def MakerOk (s : State) (pc : MakerPc) : Prop :=
  ∀ mark, pc.request = some (.after mark) → Since s mark

/-- Each session is in one place. Where one may be closed or replaced, the blame is on a failure
before it was installed, unless it is the one that has failed. -/
structure Inv (s : State) : Prop where
  placed : List.range s.next ~
    s.session.toList ++ s.closed.map Prod.fst ++ s.replaced.map Prod.fst
  tasks : ∀ k ∈ s.tasks, TaskOk s k.pc
  maker : MakerOk s s.maker
  closer : ∀ mark, s.closer = .closed mark → Since s mark
  closed : ∀ i seen mark, (i, .failure seen mark) ∈ s.closed → seen = some i ∨ mark ≤ i
  replaced : ∀ i mark, (i, .after mark) ∈ s.replaced → mark ≤ i

/-- The session of `s'` is that of `s`, or a later one. -/
def Later (s s' : State) : Prop :=
  s.next ≤ s'.next ∧ ∀ i, s'.session = some i → s.session = some i ∨ s.next ≤ i

theorem Since.later {mark : Nat} (h : Since s mark) (hl : Later s s') : Since s' mark := by
  refine ⟨Nat.le_trans h.1 hl.1, ?_⟩
  intro i hi
  rcases hl.2 i hi with hi | hi
  · exact h.2 i hi
  · exact Nat.le_trans h.1 hi

theorem TaskOk.later {pc : TaskPc} (h : TaskOk s pc) (hl : Later s s')
    (hpc : ∀ i mark, pc ≠ .opening i mark) : TaskOk s' pc := by
  cases pc with
  | opening i mark => exact (hpc i mark rfl).elim
  | failed seen mark =>
    refine ⟨Nat.le_trans h.1 hl.1, ?_⟩
    intro i hi
    rcases hl.2 i hi with hi | hi
    · exact h.2 i hi
    · exact Or.inr (Nat.le_trans h.1 hi)
  | closing seen mark =>
    refine ⟨Nat.le_trans h.1 hl.1, ?_⟩
    intro i hi
    rcases hl.2 i hi with hi | hi
    · exact h.2 i hi
    · exact Or.inr (Nat.le_trans h.1 hi)
  | requesting mark => exact Since.later h hl
  | starting => trivial
  | waiting => trivial
  | opened i => trivial
  | ended => trivial

theorem MakerOk.later {pc : MakerPc} (h : MakerOk s pc) (hl : Later s s') : MakerOk s' pc :=
  fun mark hr => (h mark hr).later hl

theorem makerOk_of_idle {pc : MakerPc} (h : pc.request = none) : MakerOk s pc := by
  intro mark hr
  cases h.symm.trans hr

theorem not_opening_of_free (h : s.free = true) {k : Task} (hk : k ∈ s.tasks) (i mark : Nat) :
    k.pc ≠ .opening i mark := by
  intro hpc
  have := List.all_eq_true.mp h k hk
  rw [hpc] at this
  cases this

/-- A goroutine moves on and the sessions stay where they are. -/
theorem Inv.goto (hi : Inv s) {t : Nat} {k : Task} {pc : TaskPc} {maker : MakerPc}
    (hpc : TaskOk s pc) (hm : MakerOk s maker) :
    Inv { s.goto t k pc with maker := maker } := by
  refine ⟨hi.placed, ?_, hm, hi.closer, hi.closed, hi.replaced⟩
  intro k' hk'
  rcases List.mem_or_eq_of_mem_set hk' with hk' | rfl
  · exact hi.tasks k' hk'
  · exact hpc

theorem Inv.maker_only (hi : Inv s) {maker : MakerPc} (hm : MakerOk s maker) :
    Inv { s with maker := maker } :=
  ⟨hi.placed, hi.tasks, hm, hi.closer, hi.closed, hi.replaced⟩

theorem later_closeSession (s : State) (reason : Reason) : Later s (s.closeSession reason) := by
  refine ⟨Nat.le_refl _, ?_⟩
  intro i hi
  cases hi

theorem since_closeSession {mark : Nat} (h : mark ≤ s.next) (reason : Reason) :
    Since (s.closeSession reason) mark := by
  refine ⟨h, ?_⟩
  intro i hi
  cases hi

theorem mem_closeSession {reason : Reason} {p : Nat × Reason}
    (h : p ∈ (s.closeSession reason).closed) :
    p ∈ s.closed ∨ s.session = some p.1 ∧ p.2 = reason := by
  refine (List.mem_append.mp h).imp_right ?_
  intro h
  obtain ⟨i, hi, rfl⟩ := List.mem_map.mp h
  exact ⟨Option.mem_toList.mp hi, rfl⟩

theorem Inv.closeSession (hi : Inv s) (hfree : s.free = true) {reason : Reason}
    (hreason : ∀ i seen mark, s.session = some i → reason = .failure seen mark →
      seen = some i ∨ mark ≤ i) : Inv (s.closeSession reason) := by
  have hl := later_closeSession s reason
  refine ⟨?_, ?_, hi.maker.later hl, fun mark hm => (hi.closer mark hm).later hl, ?_,
    hi.replaced⟩
  · have hmap : (s.closeSession reason).closed.map Prod.fst =
        s.closed.map Prod.fst ++ s.session.toList := by
      cases hs : s.session <;> simp [State.closeSession, hs]
    calc List.range s.next
        ~ s.session.toList ++ s.closed.map Prod.fst ++ s.replaced.map Prod.fst := hi.placed
      _ ~ s.closed.map Prod.fst ++ s.session.toList ++ s.replaced.map Prod.fst :=
          List.perm_append_comm.append_right _
      _ = [] ++ (s.closeSession reason).closed.map Prod.fst ++ s.replaced.map Prod.fst := by
          rw [hmap, List.nil_append]
  · intro k hk
    exact (hi.tasks k hk).later hl (not_opening_of_free hfree hk)
  · intro i seen mark hmem
    rcases mem_closeSession hmem with hmem | ⟨hs, rfl⟩
    · exact hi.closed i seen mark hmem
    · exact hreason i seen mark hs rfl

theorem Inv.install (hi : Inv s) (hfree : s.free = true) {r : Request}
    (hm : s.maker = .locking r) :
    Inv { s with
      session := some s.next
      next := s.next + 1
      replaced := s.replaced ++ (s.session.toList.map fun i => (i, r))
      maker := .resting } := by
  have hl : Later s { s with
      session := some s.next
      next := s.next + 1
      replaced := s.replaced ++ (s.session.toList.map fun i => (i, r))
      maker := .resting } := by
    refine ⟨Nat.le_succ _, ?_⟩
    intro i hi'
    obtain rfl := Option.some.inj hi'
    exact Or.inr (Nat.le_refl _)
  refine ⟨?_, ?_, makerOk_of_idle rfl, fun m hc => (hi.closer m hc).later hl, hi.closed, ?_⟩
  · have hmap : (s.replaced ++ (s.session.toList.map fun i => (i, r))).map Prod.fst =
        s.replaced.map Prod.fst ++ s.session.toList := by
      cases hs : s.session <;> simp
    calc List.range (s.next + 1)
        = List.range s.next ++ [s.next] := List.range_succ
      _ ~ (s.session.toList ++ s.closed.map Prod.fst ++ s.replaced.map Prod.fst) ++ [s.next] :=
          hi.placed.append_right _
      _ ~ [s.next] ++ (s.session.toList ++ s.closed.map Prod.fst ++ s.replaced.map Prod.fst) :=
          List.perm_append_comm
      _ = [s.next] ++ (s.session.toList ++ (s.closed.map Prod.fst ++ s.replaced.map Prod.fst)) := by
          rw [List.append_assoc s.session.toList]
      _ ~ [s.next] ++ (s.closed.map Prod.fst ++ s.replaced.map Prod.fst ++ s.session.toList) :=
          List.perm_append_comm.append_left _
      _ = [s.next] ++ s.closed.map Prod.fst ++
            (s.replaced ++ (s.session.toList.map fun i => (i, r))).map Prod.fst := by
          rw [hmap, List.append_assoc, List.append_assoc]
  · intro k hk
    exact (hi.tasks k hk).later hl (not_opening_of_free hfree hk)
  · intro i m hmem
    rcases List.mem_append.mp hmem with hmem | hmem
    · exact hi.replaced i m hmem
    · obtain ⟨j, hj, heq⟩ := List.mem_map.mp hmem
      obtain ⟨rfl, rfl⟩ := Prod.mk.inj heq
      have hsince : Since s m := hi.maker m (by rw [hm]; rfl)
      exact hsince.2 j (Option.mem_toList.mp hj)

theorem Inv.taskOk (hi : Inv s) {t : Nat} {k : Task} (hk : s.tasks[t]? = some k) :
    TaskOk s k.pc := hi.tasks k (List.mem_of_getElem? hk)

theorem Effect.inv (he : Effect s a s') (hi : Inv s) : Inv s' := by
  cases he with
  | arrive =>
    refine ⟨hi.placed, ?_, hi.maker, hi.closer, hi.closed, hi.replaced⟩
    intro k hk
    rcases List.mem_append.mp hk with hk | hk
    · exact hi.tasks k hk
    · obtain rfl := List.mem_singleton.mp hk
      trivial
  | start hk hpc hm =>
    refine hi.goto trivial ?_
    intro mark hr
    cases hr
  | openNone hk hpc hs =>
    refine hi.goto ⟨Nat.le_refl _, ?_⟩ hi.maker
    intro i hs'
    rw [hs] at hs'
    cases hs'
  | openSome hk hpc hs => exact hi.goto ⟨hs, Nat.le_refl _⟩ hi.maker
  | openFails hk hpc =>
    have hok := hi.taskOk hk
    rw [hpc] at hok
    refine hi.goto ⟨hok.2, ?_⟩ hi.maker
    intro j hj
    exact Or.inl (hok.1.symm.trans hj)
  | opens | drop | again | finish => exact hi.goto trivial hi.maker
  | lockClose hk hpc =>
    have hok := hi.taskOk hk
    rw [hpc] at hok
    exact hi.goto hok hi.maker
  | closeSession hk hpc hfree =>
    rename_i t mark seen k
    have hok := hi.taskOk hk
    rw [hpc] at hok
    have hclosed : Inv (s.closeSession (.failure seen mark)) := by
      refine hi.closeSession hfree ?_
      intro i seen' mark' hs hreason
      obtain ⟨rfl, rfl⟩ := Reason.failure.inj hreason
      exact hok.2 i hs
    exact hclosed.goto (since_closeSession hok.1 _) hclosed.maker
  | request hk hpc hm =>
    have hok := hi.taskOk hk
    rw [hpc] at hok
    refine hi.goto trivial ?_
    intro mark hr
    obtain rfl := Request.after.inj (Option.some.inj hr)
    exact hok
  | receive | leave | fails | rested => exact hi.maker_only (makerOk_of_idle rfl)
  | makes hm | lockInit hm =>
    have hok := hi.maker
    rw [hm] at hok
    exact hi.maker_only hok
  | install hm hfree => exact hi.install hfree hm
  | cancel hc hm =>
    refine ⟨hi.placed, hi.tasks, ?_, ?_, hi.closed, hi.replaced⟩
    · rcases hm with rfl | rfl
      · exact hi.maker
      · exact makerOk_of_idle rfl
    · intro mark hmark
      cases hmark
  | lockVisitor hc =>
    refine ⟨hi.placed, hi.tasks, hi.maker, ?_, hi.closed, hi.replaced⟩
    intro mark hmark
    cases hmark
  | close hc hfree =>
    have hclosed : Inv (s.closeSession .close) := by
      refine hi.closeSession hfree ?_
      intro i seen mark _ hreason
      cases hreason
    refine ⟨hclosed.placed, hclosed.tasks, hclosed.maker, ?_, hclosed.closed, hclosed.replaced⟩
    intro mark hmark
    obtain rfl := CloserPc.closed.inj hmark
    exact since_closeSession (Nat.le_refl _) .close

theorem inv_init (keepTunnelOpen : Bool) : Inv (init keepTunnelOpen) := by
  refine ⟨List.Perm.refl _, ?_, makerOk_of_idle rfl, ?_, ?_, ?_⟩
  · intro k hk
    cases keepTunnelOpen with
    | false => cases hk
    | true =>
      obtain rfl := List.mem_singleton.mp hk
      trivial
  · intro mark hmark
    cases hmark
  · intro i seen mark hmem
    cases hmem
  · intro i mark hmem
    cases hmem

theorem reachable_inv {keepTunnelOpen : Bool} (h : (system keepTunnelOpen).Reachable s) : Inv s :=
  System.invariant (S := system keepTunnelOpen) (inv_init keepTunnelOpen)
    (fun _ _ _ _ hi hs => (step_effect hs).inv hi) h

/-- How often the first request of `keepTunnelOpenWorker` is still to come, is worked on, or has
replaced a session. -/
def State.firsts (s : State) : Nat :=
  s.tasks.countP (fun k => k.pc = .starting) + s.maker.request.toList.count .first +
    s.replaced.countP (fun r => r.2 = .first)

theorem countP_starting_goto {t : Nat} {k : Task} {pc : TaskPc} (hk : s.tasks[t]? = some k)
    (hpc : pc ≠ .starting) :
    (s.goto t k pc).tasks.countP (fun k => k.pc = .starting) +
      (if k.pc = .starting then 1 else 0) = s.tasks.countP (fun k => k.pc = .starting) := by
  obtain ⟨hlt, rfl⟩ := List.getElem?_eq_some_iff.mp hk
  have hmem : s.tasks[t] ∈ s.tasks := List.getElem_mem hlt
  simp only [State.goto, List.countP_set hlt, hpc, decide_false, Bool.false_eq_true, if_false,
    Nat.add_zero, decide_eq_true_eq]
  split
  · have : 0 < s.tasks.countP (fun k => k.pc = .starting) :=
      List.countP_pos_iff.mpr ⟨_, hmem, by simpa⟩
    omega
  · omega

/-- A goroutine moves on, and `processTunnelStartEvents` works on a later request at most. -/
theorem firsts_goto {t : Nat} {k : Task} {pc : TaskPc} {maker : MakerPc}
    (hk : s.tasks[t]? = some k) (hpc : pc ≠ .starting)
    (hm : maker.request.toList.count .first ≤
      s.maker.request.toList.count .first + (if k.pc = .starting then 1 else 0)) :
    ({ s.goto t k pc with maker := maker } : State).firsts ≤ s.firsts := by
  have hcount := countP_starting_goto hk hpc
  simp only [State.firsts, State.goto] at hcount ⊢
  omega

theorem firsts_maker {maker : MakerPc}
    (hm : maker.request = none ∨ maker.request = s.maker.request) :
    ({ s with maker := maker } : State).firsts ≤ s.firsts := by
  rcases hm with hm | hm <;> simp [State.firsts, hm]

theorem Effect.firsts_le (he : Effect s a s') : s'.firsts ≤ s.firsts := by
  cases he with
  | arrive => simp [State.firsts]
  | start hk hpc hm => exact firsts_goto hk (by simp) (by simp [MakerPc.request, hpc])
  | request hk hpc hm => exact firsts_goto hk (by simp) (by simp [MakerPc.request])
  | openNone hk | openSome hk | openFails hk | opens hk | lockClose hk | closeSession hk | drop hk
  | again hk | finish hk => exact firsts_goto hk (by simp) (Nat.le_add_right _ _)
  | receive | leave | fails | rested => exact firsts_maker (Or.inl rfl)
  | makes hm | lockInit hm => exact firsts_maker (Or.inr (by rw [hm]; rfl))
  | install hm hfree =>
    rename_i r
    have hone : (s.session.toList.map fun i => (i, r)).countP (fun r => r.2 = .first) ≤
        [r].count .first := by
      cases s.session <;> simp [List.count_singleton]
    simp only [State.firsts, hm, MakerPc.request, List.countP_append, Option.toList_some,
      Option.toList_none, List.count_nil] at hone ⊢
    omega
  | cancel hc hm =>
    rcases hm with rfl | rfl
    · exact Nat.le_refl _
    · exact firsts_maker (s := { s with closer := .cancelled }) (Or.inl rfl)
  | lockVisitor | close => exact Nat.le_refl _

theorem reachable_firsts {keepTunnelOpen : Bool} (h : (system keepTunnelOpen).Reachable s) :
    s.firsts ≤ 1 :=
  System.invariant (S := system keepTunnelOpen) (by cases keepTunnelOpen <;> decide)
    (fun _ _ _ _ hi hs => Nat.le_trans (step_effect hs).firsts_le hi) h

/-- Each session that was ever installed is in one place: installed, closed once, or replaced.
Connections are opened on the installed one only. If `getTunnelConn` has closed a session, then
`OpenConn` has failed on it, or was called before it was installed. If a session was replaced,
then the next one was asked for by a `getTunnelConn` whose `OpenConn` was called before the
replaced one was installed, or by `keepTunnelOpenWorker` at its start, which replaces one session
at most. After `Close` of the visitor no earlier session is installed. -/
theorem sessions_in_one_place {keepTunnelOpen : Bool} (h : (system keepTunnelOpen).Reachable s) :
    (List.range s.next ~
      s.session.toList ++ s.closed.map Prod.fst ++ s.replaced.map Prod.fst) ∧
    (∀ k ∈ s.tasks, ∀ i mark, k.pc = .opening i mark → s.session = some i) ∧
    (∀ i seen mark, (i, .failure seen mark) ∈ s.closed → seen = some i ∨ mark ≤ i) ∧
    (∀ i mark, (i, .after mark) ∈ s.replaced → mark ≤ i) ∧
    s.replaced.countP (fun r => r.2 = .first) ≤ 1 ∧
    ∀ mark, s.closer = .closed mark → ∀ i, s.session = some i → mark ≤ i := by
  have hi := reachable_inv h
  have hfirsts := reachable_firsts h
  refine ⟨hi.placed, ?_, hi.closed, hi.replaced, Nat.le_trans (Nat.le_add_left _ _) hfirsts,
    fun mark hm => (hi.closer mark hm).2⟩
  intro k hk i mark hpc
  have hok := hi.tasks k hk
  rw [hpc] at hok
  exact hok.1

/-- The first request of `keepTunnelOpenWorker` comes after a user has got a session. -/
def lateStart : List Action :=
  [.arrive, .receive, .openConn 1, .lockClose 1, .closeSession 1, .request 1, .makeResult true,
    .lockInit, .install, .rested, .receive, .start 0, .makeResult true, .lockInit, .install]

theorem sessions_in_one_place_replaced :
    ∃ s, (system true).Reachable s ∧ s.replaced = [(0, .first)] ∧ s.session = some 1 ∧
      List.range s.next ~ s.session.toList ++ s.closed.map Prod.fst ++ s.replaced.map Prod.fst := by
  obtain ⟨s, hr, hp⟩ := System.reachable_of_run (S := system true) (l := lateStart)
    (p := fun s => decide (s.replaced = [(0, .first)] ∧ s.session = some 1)) (by decide +kernel)
  obtain ⟨hreplaced, hsession⟩ := of_decide_eq_true hp
  exact ⟨s, hr, hreplaced, hsession, (sessions_in_one_place hr).1⟩

/-! ## Installing while nobody asks -/

/-- On the way to a request. -/
def TaskPc.asks : TaskPc → Bool
  | .starting | .failed _ _ | .closing _ _ | .requesting _ => true
  | _ => false

/-- A session is installed only while nobody is on the way to a request for another one. -/
def Serial (s : State) (a : Action) : Prop :=
  a = .install → ∀ k ∈ s.tasks, k.pc.asks = false

instance (s : State) (a : Action) : Decidable (Serial s a) :=
  inferInstanceAs (Decidable (_ → _))

def TaskSerial (s : State) : TaskPc → Prop
  | .failed seen _ | .closing seen _ => s.session = none ∨ s.session = seen
  | .requesting _ => s.session = none
  | .starting => s.session = none
  | .opening i _ => s.session = some i
  | _ => True

def MakerSerial (s : State) (pc : MakerPc) : Prop := pc.request ≠ none → s.session = none

structure SerialInv (s : State) : Prop where
  tasks : ∀ k ∈ s.tasks, TaskSerial s k.pc
  maker : MakerSerial s s.maker
  closed : ∀ i seen mark, (i, .failure seen mark) ∈ s.closed → seen = some i
  replaced : s.replaced = []

theorem TaskSerial.closeSession {pc : TaskPc} (h : TaskSerial s pc) (reason : Reason)
    (hpc : ∀ i mark, pc ≠ .opening i mark) : TaskSerial (s.closeSession reason) pc := by
  cases pc with
  | opening i mark => exact (hpc i mark rfl).elim
  | failed | closing => exact Or.inl rfl
  | requesting | starting => rfl
  | _ => trivial

theorem makerSerial_of_idle {pc : MakerPc} (h : pc.request = none) : MakerSerial s pc :=
  fun hr => (hr h).elim

theorem SerialInv.goto (hi : SerialInv s) {t : Nat} {k : Task} {pc : TaskPc} {maker : MakerPc}
    (hpc : TaskSerial s pc) (hm : MakerSerial s maker) :
    SerialInv { s.goto t k pc with maker := maker } := by
  refine ⟨?_, hm, hi.closed, hi.replaced⟩
  intro k' hk'
  rcases List.mem_or_eq_of_mem_set hk' with hk' | rfl
  · exact hi.tasks k' hk'
  · exact hpc

theorem SerialInv.maker_only (hi : SerialInv s) {maker : MakerPc} (hm : MakerSerial s maker) :
    SerialInv { s with maker := maker } := ⟨hi.tasks, hm, hi.closed, hi.replaced⟩

theorem SerialInv.taskSerial (hi : SerialInv s) {t : Nat} {k : Task} (hk : s.tasks[t]? = some k) :
    TaskSerial s k.pc := hi.tasks k (List.mem_of_getElem? hk)

theorem SerialInv.closeSession (hi : SerialInv s) (hfree : s.free = true) {reason : Reason}
    (hreason : ∀ i seen mark, s.session = some i → reason = .failure seen mark → seen = some i) :
    SerialInv (s.closeSession reason) := by
  refine ⟨?_, fun _ => rfl, ?_, hi.replaced⟩
  · intro k hk
    exact (hi.tasks k hk).closeSession reason (not_opening_of_free hfree hk)
  · intro i seen mark hmem
    rcases mem_closeSession hmem with hmem | ⟨hs, rfl⟩
    · exact hi.closed i seen mark hmem
    · exact hreason i seen mark hs rfl

theorem SerialInv.install (hi : SerialInv s) (hfree : s.free = true) {r : Request}
    (hm : s.maker = .locking r) (hasks : ∀ k ∈ s.tasks, k.pc.asks = false) :
    SerialInv { s with
      session := some s.next
      next := s.next + 1
      replaced := s.replaced ++ (s.session.toList.map fun i => (i, r))
      maker := .resting } := by
  have hnone : s.session = none := hi.maker (by simp [hm, MakerPc.request])
  refine ⟨?_, makerSerial_of_idle rfl, hi.closed, ?_⟩
  · intro k hk
    have hask := hasks k hk
    have hopen := not_opening_of_free hfree hk
    cases hpc : k.pc with
    | opening i mark => exact (hopen i mark hpc).elim
    | waiting | opened | ended => trivial
    | _ =>
      rw [hpc] at hask
      cases hask
  · simp [hi.replaced, hnone]

theorem Effect.serial (he : Effect s a s') (hc : Serial s a) (hi : SerialInv s) :
    SerialInv s' := by
  cases he with
  | arrive =>
    refine ⟨?_, hi.maker, hi.closed, hi.replaced⟩
    intro k hk
    rcases List.mem_append.mp hk with hk | hk
    · exact hi.tasks k hk
    · obtain rfl := List.mem_singleton.mp hk
      trivial
  | start hk hpc _ | request hk hpc _ =>
    have hok := hi.taskSerial hk
    rw [hpc] at hok
    exact hi.goto trivial fun _ => hok
  | openNone hk hpc hs => exact hi.goto (Or.inl hs) hi.maker
  | openSome hk hpc hs => exact hi.goto hs hi.maker
  | openFails hk hpc =>
    have hok := hi.taskSerial hk
    rw [hpc] at hok
    exact hi.goto (Or.inr hok) hi.maker
  | opens | drop | again | finish => exact hi.goto trivial hi.maker
  | lockClose hk hpc =>
    have hok := hi.taskSerial hk
    rw [hpc] at hok
    exact hi.goto hok hi.maker
  | closeSession hk hpc hfree =>
    rename_i t mark seen k
    have hok := hi.taskSerial hk
    rw [hpc] at hok
    have hclosed : SerialInv (s.closeSession (.failure seen mark)) := by
      refine hi.closeSession hfree ?_
      intro i seen' mark' hs hreason
      obtain ⟨rfl, rfl⟩ := Reason.failure.inj hreason
      rcases hok with hok | hok
      · rw [hs] at hok
        cases hok
      · exact hok.symm.trans hs
    exact hclosed.goto rfl hclosed.maker
  | receive | leave | fails | rested => exact hi.maker_only (makerSerial_of_idle rfl)
  | makes hm | lockInit hm =>
    have hok := hi.maker
    rw [hm] at hok
    exact hi.maker_only hok
  | install hm hfree => exact hi.install hfree hm (hc rfl)
  | cancel hc hm =>
    refine ⟨hi.tasks, ?_, hi.closed, hi.replaced⟩
    rcases hm with rfl | rfl
    · exact hi.maker
    · exact makerSerial_of_idle rfl
  | lockVisitor hc => exact ⟨hi.tasks, hi.maker, hi.closed, hi.replaced⟩
  | close hc hfree =>
    have hclosed : SerialInv (s.closeSession .close) := by
      refine hi.closeSession hfree ?_
      intro i seen mark _ hreason
      cases hreason
    exact ⟨hclosed.tasks, hclosed.maker, hclosed.closed, hclosed.replaced⟩

theorem serialInv_init (keepTunnelOpen : Bool) : SerialInv (init keepTunnelOpen) := by
  refine ⟨?_, makerSerial_of_idle rfl, ?_, rfl⟩
  · intro k hk
    cases keepTunnelOpen with
    | false => cases hk
    | true =>
      obtain rfl := List.mem_singleton.mp hk
      rfl
  · intro i seen mark hmem
    cases hmem

/-- If sessions are installed only while nobody is on the way to a request, then no session is
replaced, and `getTunnelConn` closes only sessions on which its own `OpenConn` has failed. So
every session is the installed one or has been closed for a reason. -/
theorem serial_installs_lose_nothing {keepTunnelOpen : Bool}
    (h : (system keepTunnelOpen).ReachableBy Serial s) :
    (List.range s.next ~ s.session.toList ++ s.closed.map Prod.fst) ∧ s.replaced = [] ∧
      ∀ i seen mark, (i, .failure seen mark) ∈ s.closed → seen = some i := by
  have hi : SerialInv s := System.invariant_by (S := system keepTunnelOpen)
    (serialInv_init keepTunnelOpen) (fun _ _ _ _ hi hc hs => (step_effect hs).serial hc hi) h
  have hplaced := (reachable_inv h.reachable).placed
  rw [hi.replaced, List.map_nil, List.append_nil] at hplaced
  exact ⟨hplaced, hi.replaced, hi.closed⟩

/-- A session breaks, and another one takes its place. -/
def breaks : List Action :=
  [.arrive, .receive, .openConn 0, .lockClose 0, .closeSession 0, .request 0, .makeResult true,
    .lockInit, .install, .openConn 0, .openResult 0 false, .lockClose 0, .closeSession 0,
    .request 0, .rested, .receive, .openConn 0, .lockClose 0, .closeSession 0, .request 0,
    .makeResult true, .lockInit, .install]

theorem serial_installs_lose_nothing_breaks :
    ∃ s, (system false).ReachableBy Serial s ∧ s.closed = [(0, .failure (some 0) 1)] ∧
      (List.range s.next ~ s.session.toList ++ s.closed.map Prod.fst) := by
  obtain ⟨s, hr, hp⟩ := System.reachableBy_of_run (S := system false) (C := Serial) (l := breaks)
    (p := fun s => decide (s.closed = [(0, .failure (some 0) 1)])) (by decide +kernel)
    (by decide +kernel)
  exact ⟨s, hr, of_decide_eq_true hp, (serial_installs_lose_nothing hr).1⟩

end FrpXtcp.Client.Tunnel

import FrpXtcp.Client.TunnelSessions

/-!
# A user who waits gets a connection

The read lock of a tunnel session is held as long as `OpenStreamSync` takes, and a goroutine that
wants to close the session keeps all others from it while it waits. What a goroutine that waits
for a connection then needs of the others is small: the calls that are under way end, and
`processTunnelStartEvents` goes on. What became of the sessions before does not matter.
-/
namespace FrpXtcp.Client.Tunnel

open FrpXtcp.Lib

variable {s : State}

/-- What task `t` needs of the others: the calls of `OpenConn` under way return, with whatever
`answer`, the calls that wait for the write lock get it, and `processTunnelStartEvents` works on
without failures. On the sessions that it finds, the task itself may fail. -/
def Helps (t : Nat) (answer : Nat → Bool) : Action → Prop
  | .openConn u | .lockClose u | .request u => u = t
  | .openResult u ok => u = t ∨ ok = answer u
  | .closeSession _ | .receive | .makeResult true | .lockInit | .install | .rested => True
  | _ => False

/-- The task has a connection on the installed session, which is none of the first `n`. -/
def Connected (t n : Nat) (s : State) : Prop :=
  ∃ keeps i, s.tasks[t]? = some ⟨keeps, .opened i⟩ ∧ s.session = some i ∧ n ≤ i

theorem tasks_goto {t : Nat} {k : Task} (hk : s.tasks[t]? = some k) (pc : TaskPc) :
    (s.goto t k pc).tasks[t]? = some { k with pc := pc } := by
  obtain ⟨hlt, -⟩ := List.getElem?_eq_some_iff.mp hk
  simp [State.goto, hlt]

theorem tasks_goto_ne {t u : Nat} (h : u ≠ t) (k : Task) (pc : TaskPc) :
    (s.goto u k pc).tasks[t]? = s.tasks[t]? := by
  simp [State.goto, List.getElem?_set_ne h]

/-- Holds the read lock, or waits for the write lock. -/
def TaskPc.busy : TaskPc → Bool
  | .opening _ _ | .closing _ _ => true
  | _ => false

/-- No goroutine but `t` holds the read lock or waits in `getTunnelConn` for the write lock. -/
def Quiet (t : Nat) (s : State) : Prop :=
  ∀ u k, s.tasks[u]? = some k → u ≠ t → k.pc.busy = false

theorem Quiet.goto {t : Nat} (h : Quiet t s) (k : Task) (pc : TaskPc) :
    Quiet t (s.goto t k pc) := by
  intro u k' hu hne
  rw [tasks_goto_ne (Ne.symm hne)] at hu
  exact h u k' hu hne

theorem Quiet.pc {t : Nat} {k k' : Task} (h : Quiet t s) (hk : s.tasks[t]? = some k)
    (hk' : k' ∈ s.tasks) : k'.pc.busy = false ∨ k' = k := by
  obtain ⟨u, hu⟩ := List.mem_iff_getElem?.mp hk'
  by_cases hne : u = t
  · subst hne
    exact Or.inr (Option.some.inj (hu.symm.trans hk))
  · exact Or.inl (h u k' hu hne)

theorem Quiet.free {t : Nat} {k : Task} (h : Quiet t s) (hk : s.tasks[t]? = some k)
    (hpc : ∀ i mark, k.pc ≠ .opening i mark) : s.free = true := by
  refine List.all_eq_true.mpr ?_
  intro k' hk'
  rcases h.pc hk hk' with hbusy | rfl
  · cases hpc' : k'.pc <;> simp_all [TaskPc.busy]
  · cases hpc' : k'.pc <;> simp_all

theorem Quiet.calm {t : Nat} {keeps : Bool} (h : Quiet t s)
    (hk : s.tasks[t]? = some ⟨keeps, .waiting⟩) (hm : ∀ r, s.maker ≠ .locking r)
    (hc : s.closer = .running) : s.calm = true := by
  simp only [State.calm, Bool.and_eq_true]
  refine ⟨⟨List.all_eq_true.mpr ?_, ?_⟩, ?_⟩
  · intro k' hk'
    rcases h.pc hk hk' with hbusy | rfl
    · cases hpc' : k'.pc <;> simp_all [TaskPc.busy]
    · rfl
  · cases hmaker : s.maker <;> simp_all
  · rw [hc]
    rfl

section Waiting

variable {keepTunnelOpen keeps : Bool} {t n : Nat} {answer : Nat → Bool}

/-- The task can get a connection on a session that is none of the first `n`. -/
abbrev CanConnect (keepTunnelOpen : Bool) (t n : Nat) (answer : Nat → Bool) (s : State) : Prop :=
  (system keepTunnelOpen).CanReach (Helps t answer) (Connected t n) s

theorem connect_new (hq : Quiet t s) (hc : s.closer = .running) {i : Nat}
    (hk : s.tasks[t]? = some ⟨keeps, .waiting⟩) (hs : s.session = some i) (hn : n ≤ i)
    (hm : s.maker = .resting) :
    CanConnect keepTunnelOpen t n answer s := by
  have hcalm : s.calm = true := hq.calm hk (by simp [hm]) hc
  have hopen : step s (.openConn t) = some (s.goto t ⟨keeps, .waiting⟩ (.opening i s.next)) := by
    simp [step, hk, hs, hcalm]
  have hk' := tasks_goto hk (.opening i s.next)
  refine .step (a := .openConn t) rfl hopen ?_
  have hresult : step (s.goto t ⟨keeps, .waiting⟩ (.opening i s.next)) (.openResult t true) =
      some ((s.goto t ⟨keeps, .waiting⟩ (.opening i s.next)).goto t ⟨keeps, .opening i s.next⟩
        (.opened i)) := by
    simp [step, hk']
  exact .step (a := .openResult t true) (Or.inl rfl) hresult
    (.here ⟨keeps, i, tasks_goto hk' _, hs, hn⟩)

theorem connect_locking (hq : Quiet t s) (hc : s.closer = .running) (hn : n ≤ s.next)
    {r : Request} (hk : s.tasks[t]? = some ⟨keeps, .waiting⟩) (hm : s.maker = .locking r) :
    CanConnect keepTunnelOpen t n answer s := by
  have hinstall : step s .install = some { s with
      session := some s.next
      next := s.next + 1
      replaced := s.replaced ++ (s.session.toList.map fun i => (i, r))
      maker := .resting } := by
    simp [step, hm, hq.free hk (by simp)]
  exact .step (a := .install) trivial hinstall (connect_new hq hc hk rfl hn rfl)

theorem connect_initing (hq : Quiet t s) (hc : s.closer = .running) (hn : n ≤ s.next)
    {r : Request} (hk : s.tasks[t]? = some ⟨keeps, .waiting⟩) (hm : s.maker = .initing r) :
    CanConnect keepTunnelOpen t n answer s := by
  have hlock : step s .lockInit = some { s with maker := .locking r } := by
    simp [step, hm]
  exact .step (a := .lockInit) trivial hlock (connect_locking hq hc hn hk rfl)

theorem connect_making (hq : Quiet t s) (hc : s.closer = .running) (hn : n ≤ s.next)
    {r : Request} (hk : s.tasks[t]? = some ⟨keeps, .waiting⟩) (hm : s.maker = .making r) :
    CanConnect keepTunnelOpen t n answer s := by
  have hmake : step s (.makeResult true) = some { s with maker := .initing r } := by
    simp [step, hm]
  exact .step (a := .makeResult true) trivial hmake (connect_initing hq hc hn hk rfl)

theorem connect_requesting (hq : Quiet t s) (hc : s.closer = .running) (hn : n ≤ s.next)
    {mark : Nat} (hk : s.tasks[t]? = some ⟨keeps, .requesting mark⟩) (hm : s.maker = .receiving) :
    CanConnect keepTunnelOpen t n answer s := by
  have hrequest : step s (.request t) =
      some { s.goto t ⟨keeps, .requesting mark⟩ .waiting with maker := .making (.after mark) } := by
    simp [step, hk, hm]
  exact .step (a := .request t) rfl hrequest
    (connect_making (hq.goto _ _) hc hn (tasks_goto hk .waiting) rfl)

/-- The session that the task has found is closed, and the next one asked for. -/
theorem connect_failed (hq : Quiet t s) (hc : s.closer = .running) (hn : n ≤ s.next)
    {seen : Option Nat} {mark : Nat} (hk : s.tasks[t]? = some ⟨keeps, .failed seen mark⟩)
    (hm : s.maker = .receiving) :
    CanConnect keepTunnelOpen t n answer s := by
  have hlock : step s (.lockClose t) =
      some (s.goto t ⟨keeps, .failed seen mark⟩ (.closing seen mark)) := by
    simp [step, hk]
  have hk' := tasks_goto hk (.closing seen mark)
  have hq' := hq.goto ⟨keeps, .failed seen mark⟩ (.closing seen mark)
  refine .step (a := .lockClose t) rfl hlock ?_
  have hclose : step (s.goto t ⟨keeps, .failed seen mark⟩ (.closing seen mark)) (.closeSession t) =
      some (((s.goto t ⟨keeps, .failed seen mark⟩ (.closing seen mark)).goto t
        ⟨keeps, .closing seen mark⟩ (.requesting mark)).closeSession (.failure seen mark)) := by
    simp [step, hk', hq'.free hk' (by simp)]
  exact .step (a := .closeSession t) trivial hclose
    (connect_requesting (hq'.goto _ _) hc hn (tasks_goto hk' (.requesting mark)) hm)

theorem connect_receiving (hq : Quiet t s) (hc : s.closer = .running) (hn : n ≤ s.next)
    (hk : s.tasks[t]? = some ⟨keeps, .waiting⟩) (hm : s.maker = .receiving) :
    CanConnect keepTunnelOpen t n answer s := by
  have hcalm : s.calm = true := hq.calm hk (by simp [hm]) hc
  cases hs : s.session with
  | none =>
    have hopen : step s (.openConn t) =
        some (s.goto t ⟨keeps, .waiting⟩ (.failed none s.next)) := by
      simp [step, hk, hs, hcalm]
    exact .step (a := .openConn t) rfl hopen
      (connect_failed (hq.goto _ _) hc hn (tasks_goto hk _) hm)
  | some i =>
    -- the session is one of the first `n`, so its `OpenConn` may fail
    have hopen : step s (.openConn t) =
        some (s.goto t ⟨keeps, .waiting⟩ (.opening i s.next)) := by
      simp [step, hk, hs, hcalm]
    have hk' := tasks_goto hk (.opening i s.next)
    have hresult : step (s.goto t ⟨keeps, .waiting⟩ (.opening i s.next)) (.openResult t false) =
        some ((s.goto t ⟨keeps, .waiting⟩ (.opening i s.next)).goto t ⟨keeps, .opening i s.next⟩
          (.failed (some i) s.next)) := by
      simp [step, hk']
    exact .step (a := .openConn t) rfl hopen <|
      .step (a := .openResult t false) (Or.inl rfl) hresult
        (connect_failed ((hq.goto _ _).goto _ _) hc hn (tasks_goto hk' _) hm)

theorem connect_looping (hq : Quiet t s) (hc : s.closer = .running) (hn : n ≤ s.next)
    (hk : s.tasks[t]? = some ⟨keeps, .waiting⟩) (hm : s.maker = .looping) :
    CanConnect keepTunnelOpen t n answer s := by
  have hreceive : step s .receive = some { s with maker := .receiving } := by
    simp [step, hm, hc]
  exact .step (a := .receive) trivial hreceive (connect_receiving hq hc hn hk rfl)

theorem connect_resting (hq : Quiet t s) (hc : s.closer = .running) (hn : n ≤ s.next)
    (hk : s.tasks[t]? = some ⟨keeps, .waiting⟩) (hm : s.maker = .resting) :
    CanConnect keepTunnelOpen t n answer s := by
  have hrested : step s .rested = some { s with maker := .looping } := by
    simp [step, hm]
  exact .step (a := .rested) trivial hrested (connect_looping hq hc hn hk rfl)

/-- `processTunnelStartEvents` does not end before the context is cancelled. -/
theorem reachable_maker (h : (system keepTunnelOpen).Reachable s) (hc : s.closer = .running) :
    s.maker ≠ .ended := by
  refine System.invariant (S := system keepTunnelOpen)
    (I := fun s => s.closer = .running → s.maker ≠ .ended) ?_ ?_ h hc
  · intro _ hm
    cases hm
  · intro s a s' _ hi hs hc hm
    cases step_effect hs with
    | leave hmaker hcloser => exact hcloser hc
    | cancel | lockVisitor | close => cases hc
    | start | request | receive | fails | makes | lockInit | install | rested => cases hm
    | _ => exact hi hc hm

/-- The task waits, and the sessions to come are none of the first `n`. -/
structure Waits (t n : Nat) (keeps : Bool) (s : State) : Prop where
  closer : s.closer = .running
  maker : s.maker ≠ .ended
  next : n ≤ s.next
  task : s.tasks[t]? = some ⟨keeps, .waiting⟩

theorem connect_of_quiet (hw : Waits t n keeps s) (hq : Quiet t s) :
    CanConnect keepTunnelOpen t n answer s := by
  obtain ⟨hc, hended, hn, hk⟩ := hw
  cases hm : s.maker with
  | looping => exact connect_looping hq hc hn hk hm
  | receiving => exact connect_receiving hq hc hn hk hm
  | making r => exact connect_making hq hc hn hk hm
  | initing r => exact connect_initing hq hc hn hk hm
  | locking r => exact connect_locking hq hc hn hk hm
  | resting => exact connect_resting hq hc hn hk hm
  | ended => exact (hended hm).elim

theorem Waits.goto {u : Nat} {k : Task} (hw : Waits t n keeps s) (hu : s.tasks[u]? = some k)
    (hk : k.pc ≠ .waiting) (pc : TaskPc) : Waits t n keeps (s.goto u k pc) := by
  refine ⟨hw.closer, hw.maker, hw.next, ?_⟩
  rw [tasks_goto_ne, hw.task]
  rintro rfl
  obtain rfl := Option.some.inj (hu.symm.trans hw.task)
  exact hk rfl

/-- How many goroutines hold the read lock or wait in `getTunnelConn` for the write lock. -/
def State.busy (s : State) : Nat := s.tasks.countP fun k => k.pc.busy

theorem busy_goto {u : Nat} {k : Task} {pc : TaskPc} (hu : s.tasks[u]? = some k)
    (hk : k.pc.busy = true) (hpc : pc.busy = false) : (s.goto u k pc).busy < s.busy := by
  obtain ⟨hlt, rfl⟩ := List.getElem?_eq_some_iff.mp hu
  have : 0 < s.busy := List.countP_pos_iff.mpr ⟨_, List.getElem_mem hlt, hk⟩
  simp only [State.busy, State.goto, List.countP_set hlt, hk, hpc, if_true, Bool.false_eq_true,
    if_false] at this ⊢
  omega

/-- The calls of `OpenConn` under way return, and then the ones that wait for the write lock get
it. -/
theorem drain (hw : Waits t n keeps s) :
    (system keepTunnelOpen).CanReach (Helps t answer)
      (fun s => Waits t n keeps s ∧ Quiet t s) s := by
  refine System.canReach_of_measure State.busy ?_ hw
  intro s hw
  by_cases hfree : s.free = true
  · by_cases hq : Quiet t s
    · exact Or.inl ⟨hw, hq⟩
    · right
      simp only [Quiet, not_forall] at hq
      obtain ⟨u, ⟨b, pc⟩, hu, -, hbusy⟩ := hq
      cases pc with
      | closing seen mark =>
        have hclose : step s (.closeSession u) =
            some ((s.goto u ⟨b, .closing seen mark⟩ (.requesting mark)).closeSession
              (.failure seen mark)) := by
          simp [step, hu, hfree]
        have hw' := hw.goto hu (by simp) (.requesting mark)
        exact ⟨.closeSession u, _, trivial, hclose, ⟨hw'.closer, hw'.maker, hw'.next, hw'.task⟩,
          busy_goto hu rfl rfl⟩
      | opening i mark =>
        exact (not_opening_of_free hfree (List.mem_of_getElem? hu) i mark rfl).elim
      | _ => exact (hbusy rfl).elim
  · right
    have hex : ∃ k ∈ s.tasks, ∃ i mark, k.pc = .opening i mark := by
      simp only [State.free, List.all_eq_true, not_forall] at hfree
      obtain ⟨k, hk, hopen⟩ := hfree
      cases hpc : k.pc <;> simp_all
      exact ⟨k, hk, _, _, hpc⟩
    obtain ⟨⟨b, pc⟩, hk, i, mark, rfl⟩ := hex
    obtain ⟨u, hu⟩ := List.mem_iff_getElem?.mp hk
    have hresult : step s (.openResult u (answer u)) =
        some (s.goto u ⟨b, .opening i mark⟩
          (if answer u then .opened i else .failed (some i) mark)) := by
      simp [step, hu]
    refine ⟨.openResult u (answer u), _, Or.inr rfl, hresult, hw.goto hu (by simp) _,
      busy_goto hu rfl ?_⟩
    cases answer u <;> rfl

/-- Whatever has happened before, a goroutine that waits for a tunnel can get a connection as long
as the visitor is not closed, on a session that is installed only now: it does not depend on the
ones before. Calls of `OpenConn` under way may end in either way, and the session that it finds
may fail. It needs that those calls end, that the calls which wait for the write lock go on, and
`processTunnelStartEvents` with a hole that can be made. -/
theorem waiting_can_connect (h : (system keepTunnelOpen).Reachable s) (hc : s.closer = .running)
    (hk : s.tasks[t]? = some ⟨keeps, .waiting⟩) (answer : Nat → Bool) :
    (system keepTunnelOpen).CanReach (Helps t answer) (Connected t s.next) s := by
  have hw : Waits t s.next keeps s := ⟨hc, reachable_maker h hc, Nat.le_refl _, hk⟩
  exact (drain hw).trans fun _ hs => connect_of_quiet hs.1 hs.2

/-- Of three users, one has a call of `OpenConn` under way, one waits for the write lock to close
the session, and the third one is kept from the read lock by it. -/
def keptOut : List Action :=
  [.arrive, .arrive, .arrive, .receive, .openConn 0, .lockClose 0, .closeSession 0, .request 0,
    .makeResult true, .lockInit, .install, .openConn 0, .openConn 1, .openResult 1 false,
    .lockClose 1]

theorem waiting_can_connect_keptOut :
    ∃ s, (system false).Reachable s ∧ s.session = some 0 ∧ step s (.openConn 2) = none ∧
      (system false).CanReach (Helps 2 fun _ => false) (Connected 2 1) s := by
  obtain ⟨s, hr, hp⟩ := System.reachable_of_run (S := system false) (l := keptOut)
    (p := fun s => decide (s.session = some 0 ∧ (step s (.openConn 2)).isNone ∧ s.next = 1 ∧
      s.closer = .running ∧ s.tasks[2]? = some (Task.mk false .waiting))) (by decide +kernel)
  obtain ⟨hsession, hblocked, hnext, hrunning, htask⟩ := of_decide_eq_true hp
  have hcan := waiting_can_connect hr hrunning htask fun _ => false
  rw [hnext] at hcan
  exact ⟨s, hr, hsession, Option.isNone_iff_eq_none.mp hblocked, hcan⟩

end Waiting

end FrpXtcp.Client.Tunnel

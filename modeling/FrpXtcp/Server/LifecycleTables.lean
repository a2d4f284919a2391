import FrpXtcp.Server.Lifecycle
import FrpXtcp.Server.ProxyNames

/-!
# A control and the proxy tables

The goroutines of one control work on the tables for that control alone: its read
loop registers and closes proxies while it runs, its worker closes what is left
once the read loop has ended. After the worker's cleanup no proxy of the control is
in any table.
-/
namespace FrpXtcp.Server.Lifecycle

open FrpXtcp.Lib
open FrpXtcp.Server.Proxy (Placed Place Absent AnnotationCheck)

/-- Every goroutine works on the tables for its own control, and workers only close. -/
structure Shared (pxy : Proxy.State PxyThread) : Prop where
  placed : ∃ place, Placed pxy place
  threads : ∀ t d, (pxy.ops t).ctl? = some d → t.ctl = d
  workers : ∀ d, (pxy.ops (.worker d)).closesOnly

/-- The goroutines of control `c` and its map, by the statement its worker is at. -/
structure Local (c : Nat) (w : WorkerPc) (pxy : Proxy.State PxyThread) : Prop where
  handler : w ≠ .waitDone → (pxy.ops (.handler c)).resting = true
  worker : w ≠ .closeProxies → (pxy.ops (.worker c)).resting = true
  empty : 7 ≤ w.rank → ∀ n, (pxy.proxies c).get? n = none

theorem shared_init : Shared Proxy.init :=
  ⟨⟨_, Proxy.placed_init⟩, fun _ _ h => by simp [Proxy.init, Proxy.Op.ctl?] at h,
    fun _ => by simp [Proxy.init, Proxy.Op.closesOnly]⟩

theorem local_init (c : Nat) : Local c .off Proxy.init :=
  ⟨fun _ => rfl, fun _ => rfl, fun h => absurd h (by decide)⟩

section Pxy

variable {check : AnnotationCheck} {pxy pxy' : Proxy.State PxyThread}
  {a : Proxy.Action PxyThread} {c : Nat} {w : WorkerPc}

/-- Steps by the goroutines that they are meant for. -/
def OwnThread : Proxy.Action PxyThread → Prop
  | .registerProxy t d _ _ | .closeProxy t d _ => t = .handler d
  | .closeProxies t d _ => t = .worker d
  | .next _ => True

theorem Shared.step (h : Shared pxy) (ha : OwnThread a)
    (hs : Proxy.step check pxy a = some pxy') : Shared pxy' := by
  obtain ⟨place, hp⟩ := h.placed
  obtain ⟨hops, hctl⟩ := Proxy.step_frame hs
  refine ⟨Proxy.placed_step hp hs, fun t d ht => ?_, fun d => ?_⟩
  · by_cases htt : t = a.thread
    · subst htt
      rw [hctl] at ht
      cases a with
      | next t => exact h.threads t d ht
      | registerProxy t d' user m =>
        obtain rfl := Option.some.inj ht
        rw [show t = .handler d' from ha]
        rfl
      | closeProxy t d' name =>
        obtain rfl := Option.some.inj ht
        rw [show t = .handler d' from ha]
        rfl
      | closeProxies t d' order =>
        obtain rfl := Option.some.inj ht
        rw [show t = .worker d' from ha]
        rfl
    · rw [hops t htt] at ht
      exact h.threads t d ht
  · by_cases htt : PxyThread.worker d = a.thread
    · cases a with
      | next t =>
        obtain rfl : PxyThread.worker d = t := htt
        exact (Proxy.next_frame hs).2.2.1 (h.workers d)
      | registerProxy t d' user m =>
        rw [show t = .handler d' from ha] at htt
        cases htt
      | closeProxy t d' name =>
        rw [show t = .handler d' from ha] at htt
        cases htt
      | closeProxies t d' order =>
        obtain rfl : PxyThread.worker d = t := htt
        simp only [Proxy.step] at hs
        split at hs <;> cases hs
        simp [Proxy.setOp, Proxy.Op.closesOnly]
    · rw [hops _ htt]
      exact h.workers d

/-- What `pxyAllowed` says about the goroutine of a step. -/
theorem thread_of_allowed (h : pxyAllowed c w a = true) :
    OwnThread a ∧ (a.thread = .handler c → w = .waitDone) ∧ a.thread ≠ .worker c := by
  cases a with
  | next t =>
    refine ⟨trivial, ?_, ?_⟩
    · rintro rfl
      simpa [pxyAllowed] using h
    · rintro rfl
      simp [pxyAllowed] at h
  | registerProxy t d user m =>
    simp only [pxyAllowed, Bool.and_eq_true, decide_eq_true_eq, Bool.or_eq_true] at h
    obtain ⟨rfl, hd⟩ := h
    refine ⟨rfl, fun ht => hd.resolve_left (not_not_intro ?_), nofun⟩
    exact PxyThread.handler.inj ht
  | closeProxy t d name =>
    simp only [pxyAllowed, Bool.and_eq_true, decide_eq_true_eq, Bool.or_eq_true] at h
    obtain ⟨rfl, hd⟩ := h
    refine ⟨rfl, fun ht => hd.resolve_left (not_not_intro ?_), nofun⟩
    exact PxyThread.handler.inj ht
  | closeProxies t d order =>
    simp only [pxyAllowed, Bool.and_eq_true, decide_eq_true_eq] at h
    obtain ⟨rfl, hd⟩ := h
    exact ⟨rfl, nofun, fun ht => hd (PxyThread.worker.inj ht)⟩

/-- An insertion is made by the message handler of the control it is for. -/
theorem Shared.insert_handler (h : Shared pxy) {t : PxyThread} {d p : Nat}
    (ho : pxy.ops t = .insert d p) : t = .handler d := by
  have hd := h.threads t d (by rw [ho]; rfl)
  cases t with
  | handler d' => rw [show d' = d from hd]
  | worker d' =>
    have hw := h.workers d'
    rw [ho] at hw
    exact hw.elim

/-- Other goroutines leave the map and the calls of control `c` alone, and the
handlers of `c` run only in its read loop. -/
theorem Local.others (hl : Local c w pxy) (h : Shared pxy) (ha : pxyAllowed c w a = true)
    (hs : Proxy.step check pxy a = some pxy') : Local c w pxy' := by
  obtain ⟨hops, -⟩ := Proxy.step_frame hs
  obtain ⟨-, hhandler, hworker⟩ := thread_of_allowed ha
  refine ⟨fun hw => ?_, fun hw => ?_, fun hr => ?_⟩
  · rw [hops _ (fun he => hw (hhandler he.symm))]
    exact hl.handler hw
  · rw [hops _ (fun he => hworker he.symm)]
    exact hl.worker hw
  · refine Proxy.step_proxies_none hs (hl.empty hr) (fun t p _ ho => ?_)
    obtain rfl := h.insert_handler ho
    have hrest := hl.handler (by rintro rfl; exact absurd hr (by decide))
    rw [ho] at hrest
    cases hrest

/-- A control whose calls have returned and whose map is empty has no proxy in any
table. -/
theorem Shared.absent (h : Shared pxy) (hh : (pxy.ops (.handler c)).resting = true)
    (hw : (pxy.ops (.worker c)).resting = true) (he : ∀ n, (pxy.proxies c).get? n = none)
    {p : Nat} (hp : (pxy.pxys p).ctl = c) : Absent p pxy := by
  obtain ⟨place, hpl⟩ := h.placed
  cases hplace : place p with
  | fresh =>
    exact hpl.absent (p := p) (by simp [hplace, Place.listening])
      (by simp [hplace, Place.added]) (by simp [hplace])
  | gone =>
    exact hpl.absent (p := p) (by simp [hplace, Place.listening])
      (by simp [hplace, Place.added]) (by simp [hplace])
  | ctl d =>
    have hd : d = c := (hpl.tables.owner p d (by rw [hplace]; rfl)).symm.trans hp
    rw [hd] at hplace
    have hg := (hpl.tables.ctl c).get hplace
    rw [he] at hg
    cases hg
  | call t d st =>
    have hd : d = c := (hpl.tables.owner p d (by rw [hplace]; rfl)).symm.trans hp
    have hst := (hpl.calls.stage t p d st).mpr hplace
    have ht : t.ctl = d := h.threads t d (Proxy.Op.ctl_of_stage hst)
    rw [hd] at ht
    cases t with
    | handler c' =>
      rw [show c' = c from ht, Proxy.Op.stage_of_resting hh] at hst
      cases hst
    | worker c' =>
      rw [show c' = c from ht, Proxy.Op.stage_of_resting hw] at hst
      cases hst

/-- The worker moves on without touching the tables. -/
theorem Local.advance (hl : Local c w pxy) {w' : WorkerPc}
    (hh : (pxy.ops (.handler c)).resting = true) (hw : (pxy.ops (.worker c)).resting = true)
    (hr : 7 ≤ w'.rank → 7 ≤ w.rank) : Local c w' pxy :=
  ⟨fun _ => hh, fun _ => hw, fun h => hl.empty (hr h)⟩

/-- The worker moves on from a statement at which it waits for nobody. -/
theorem Local.pass (hl : Local c w pxy) {w' : WorkerPc} (hd : w ≠ .waitDone)
    (hp : w ≠ .closeProxies) (hr : 7 ≤ w'.rank → 7 ≤ w.rank) : Local c w' pxy :=
  hl.advance (hl.handler hd) (hl.worker hp) hr

/-- The worker touches the tables. -/
theorem Local.table (hl : Local c w pxy) (hw : w ≠ .waitDone)
    (hat : a.thread = .worker c) (hs : Proxy.step check pxy a = some pxy')
    (he : ∀ n, (pxy'.proxies c).get? n = none) : Local c .closeProxies pxy' := by
  obtain ⟨hops, -⟩ := Proxy.step_frame hs
  refine ⟨fun _ => ?_, fun hx => absurd rfl hx, fun _ => he⟩
  rw [hops _ (by rw [hat]; nofun)]
  exact hl.handler hw

/-- The worker's own statements. -/
theorem Local.workerStep {l l' : Life} {order : List Nat} (hl : Local c l.worker pxy)
    (h : Shared pxy) (hs : l.workerStep check c pxy order = some (l', pxy')) :
    Local c l'.worker pxy' ∧ (pxy' = pxy ∨
      ∃ a, a.thread = .worker c ∧ OwnThread a ∧ Proxy.step check pxy a = some pxy') := by
  cases Life.workerMove hs with
  | newClient hw =>
    rw [hw] at hl
    exact ⟨hl.pass (by simp) (by simp) (by simp [WorkerPc.rank]), Or.inl rfl⟩
  | waitDone hw hh =>
    rw [hw] at hl
    exact ⟨hl.advance hh (hl.worker (by simp)) (by simp [WorkerPc.rank]), Or.inl rfl⟩
  | leaveRunning hw =>
    rw [hw] at hl
    exact ⟨hl.pass (by simp) (by simp) (by simp [WorkerPc.rank]), Or.inl rfl⟩
  | closeTwice hw _ => exact ⟨hl, Or.inl rfl⟩
  | closeCh hw _ =>
    rw [hw] at hl
    exact ⟨hl.pass (by simp) (by simp) (by simp [WorkerPc.rank]), Or.inl rfl⟩
  | drained hw _ =>
    rw [hw] at hl
    exact ⟨hl.pass (by simp) (by simp) (by simp [WorkerPc.rank]), Or.inl rfl⟩
  | drain hw _ => exact ⟨hl, Or.inl rfl⟩
  | takeProxies hw hp =>
    rw [hw] at hl
    refine ⟨hl.table (by simp) rfl hp (fun n => ?_), Or.inr ⟨_, rfl, by simp [OwnThread], hp⟩⟩
    simp only [Proxy.step] at hp
    split at hp <;> cases hp
    simp
  | proxiesClosed hw hrest =>
    rw [hw] at hl
    exact ⟨hl.advance (hl.handler (by simp)) hrest (by simp [WorkerPc.rank]), Or.inl rfl⟩
  | closeProxies hw hp =>
    rw [hw] at hl ⊢
    refine ⟨hl.table (by simp) rfl hp ?_, Or.inr ⟨_, rfl, by simp [OwnThread], hp⟩⟩
    refine Proxy.step_proxies_none hp (hl.empty (by decide)) (fun t p' ht ho => ?_)
    cases ht
    exact absurd (h.insert_handler ho) (by simp)
  | closeClient hw =>
    rw [hw] at hl
    exact ⟨hl.pass (by simp) (by simp) (by simp [WorkerPc.rank]), Or.inl rfl⟩
  | remove hw =>
    rw [hw] at hl
    exact ⟨hl.pass (by simp) (by simp) (by simp [WorkerPc.rank]), Or.inl rfl⟩
  | finish hw =>
    rw [hw] at hl
    exact ⟨hl.pass (by simp) (by simp) (by simp [WorkerPc.rank]), Or.inl rfl⟩

end Pxy

/-- The cleanup of a worker: the work connection channel is closed and drained, and
no proxy of the control is left in any of the tables. -/
structure CleanedUp (c : Nat) (l : Life) (pxy : Proxy.State PxyThread) : Prop where
  closed : l.ctl.workConnCh.closed = true
  drained : l.ctl.workConnCh.buf = []
  proxies : ∀ p, (pxy.pxys p).ctl = c → Absent p pxy

/-- What holds in every state of the life cycle. -/
structure Good (c : Nat) (s : State) : Prop where
  life : Inv s.life
  shared : Shared s.pxy
  own : Local c s.life.worker s.pxy

theorem Good.cleanedUp {c : Nat} {s : State} (h : Good c s) (hr : 8 ≤ s.life.worker.rank) :
    CleanedUp c s.life s.pxy := by
  have hne : s.life.worker ≠ .waitDone ∧ s.life.worker ≠ .closeProxies := by
    constructor <;> intro he <;> rw [he] at hr <;> exact absurd hr (by decide)
  refine ⟨h.life.chClosed.mpr (by omega), h.life.chEmpty (by omega), fun p hp => ?_⟩
  exact h.shared.absent (h.own.handler hne.1) (h.own.worker hne.2) (h.own.empty (by omega)) hp

theorem good_init {ctl : Control} (h : Fresh ctl) (c : Nat) : Good c (init ctl) :=
  ⟨inv_new h, shared_init, local_init c⟩

/-- A step that changes the fields of the control only. -/
theorem Good.with_life {c : Nat} {s : State} (h : Good c s) {l : Life} (hl : Inv l)
    (hw : l.worker = s.life.worker) : Good c { s with life := l } :=
  ⟨hl, h.shared, by rw [hw]; exact h.own⟩

theorem putConn_worker (l : Life) (runID : String) (conn : Nat) :
    (l.putConn runID conn).1.worker = l.worker := by
  rcases l.putConn_cases runID conn with ⟨err, hp⟩ | ⟨-, -, hp⟩ | ⟨ch, -, -, hp⟩ <;> rw [hp]

theorem getConn_worker {l l' : Life} (h : l.getConn = some l') : l'.worker = l.worker := by
  obtain ⟨conn, ch, -, rfl⟩ := Life.getConn_some h
  rfl

theorem Good.start {c : Nat} {s : State} (h : Good c s) :
    Good c { s with life := s.life.start } := by
  refine ⟨h.life.start, h.shared, ?_⟩
  unfold Life.start
  split
  · rename_i hs
    have hoff : s.life.worker = .off := by
      refine h.life.worker_off (Or.inr ?_)
      unfold Control.startLocked at hs
      split at hs
      · exact (‹_ ∧ _›).1
      · cases hs
    have hown := h.own
    rw [hoff] at hown
    exact hown.advance (hown.handler nofun) (hown.worker nofun) (by simp [WorkerPc.rank])
  · exact h.own

theorem good_step {check : AnnotationCheck} {c : Nat} {s s' : State} {a : Action} (h : Good c s)
    (hs : step check c s a = some s') : Good c s' := by
  cases a with
  | admitTo runID id =>
    simp only [step] at hs
    split at hs <;> cases hs
    · exact h
    · exact h.with_life (h.life.admitTo ‹_›) rfl
  | setHandoffBarrier b =>
    cases hs
    exact h.with_life (h.life.setHandoffBarrier b) rfl
  | activate =>
    simp only [step] at hs
    split at hs <;> cases hs
    exact h.with_life h.life.activate rfl
  | start =>
    cases hs
    exact h.start
  | close =>
    cases hs
    exact h.with_life h.life.close rfl
  | markReplaced =>
    cases hs
    exact h.with_life (h.life.markReplaced c) rfl
  | putConn runID conn =>
    cases hs
    exact h.with_life (h.life.putConn runID conn) (putConn_worker _ _ _)
  | getConn =>
    simp only [step, Option.map_eq_some_iff] at hs
    obtain ⟨l, hg, rfl⟩ := hs
    exact h.with_life (h.life.getConn hg) (getConn_worker hg)
  | worker order =>
    simp only [step, Option.map_eq_some_iff] at hs
    obtain ⟨⟨l, pxy⟩, hw, rfl⟩ := hs
    obtain ⟨hown, hpxy⟩ := h.own.workerStep h.shared hw
    refine ⟨h.life.workerStep check c hw, ?_, hown⟩
    rcases hpxy with rfl | ⟨a, -, ha, hp⟩
    · exact h.shared
    · exact h.shared.step ha hp
  | pxy a =>
    simp only [step] at hs
    split at hs
    · rename_i ha
      simp only [Option.map_eq_some_iff] at hs
      obtain ⟨pxy, hp, rfl⟩ := hs
      exact ⟨h.life, h.shared.step (thread_of_allowed ha).1 hp, h.own.others h.shared ha hp⟩
    · cases hs

/-- A proxy that has listened stays so or is closed, whoever works on the tables. -/
theorem opened_step {check : AnnotationCheck} {c d p : Nat} {s s' : State} {a : Action}
    (h : Good c s) (hs : step check c s a = some s') (ho : Proxy.Opened d p s.pxy) :
    Proxy.Opened d p s'.pxy := by
  obtain ⟨place, hp⟩ := h.shared.placed
  cases a with
  | worker order =>
    simp only [step, Option.map_eq_some_iff] at hs
    obtain ⟨⟨l, pxy⟩, hw, rfl⟩ := hs
    obtain ⟨-, rfl | ⟨a, -, -, hstep⟩⟩ := h.own.workerStep h.shared hw
    · exact ho
    · exact ho.step hp hstep
  | pxy a =>
    simp only [step] at hs
    split at hs
    · simp only [Option.map_eq_some_iff] at hs
      obtain ⟨pxy, hstep, rfl⟩ := hs
      exact ho.step hp hstep
    · cases hs
  | admitTo runID id =>
    simp only [step] at hs
    split at hs <;> cases hs <;> exact ho
  | activate =>
    simp only [step] at hs
    split at hs <;> cases hs
    exact ho
  | getConn =>
    simp only [step, Option.map_eq_some_iff] at hs
    obtain ⟨l, -, rfl⟩ := hs
    exact ho
  | _ =>
    cases hs
    exact ho

theorem reachable_good {check : AnnotationCheck} {c : Nat} {ctl : Control} (hctl : Fresh ctl)
    {s : State} (h : (system check c ctl).Reachable s) : Good c s :=
  System.invariant (I := Good c) (good_init hctl c) (fun _ _ _ _ hi hs => good_step hi hs) h

end FrpXtcp.Server.Lifecycle

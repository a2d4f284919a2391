import FrpXtcp.Server.Generations

/-!
# Work connections

A work connection that `RegisterWorkConn` accepts is received once, by a `GetWorkConn`
or by the drain of the worker. One that it refuses is never in a channel.
-/
namespace FrpXtcp.Server

open FrpXtcp.Lib

/-- The connections that left the channel, to a `GetWorkConn` or to the drain. -/
def Life.received (l : Life) : List Nat := l.taken ++ l.drained

namespace Lifecycle

variable {l l' : Life} {check : Proxy.AnnotationCheck} {c : Nat}
variable {pxy pxy' : Proxy.State PxyThread} {order : List Nat}

/-- The connections of a control, by where they are. -/
theorem Inv.count_conns (h : Inv l) (n : Nat) :
    l.accepted.count n = l.received.count n + l.ctl.workConnCh.buf.count n := by
  rw [h.conns.count_eq n, List.count_append]
  rfl

/-- `RegisterWorkConn` refuses a connection and leaves the control as it is, or the
control is running, its channel is open and takes the connection. -/
theorem Inv.putConn_cases (h : Inv l) (runID : String) (conn : Nat) :
    (∃ err, l.putConn runID conn = (l, some err)) ∨
      (l.ctl.state = .running ∧ l.ctl.workConnCh.closed = false ∧
        (l.putConn runID conn).2 = none ∧
        (l.putConn runID conn).1.accepted = l.accepted ++ [conn]) := by
  rcases l.putConn_cases runID conn with hrefused | ⟨hs, hclosed, -⟩ | ⟨ch, hs, -, hp⟩
  · exact Or.inl hrefused
  · rw [h.open_of_running hs] at hclosed
    cases hclosed
  · rw [hp]
    exact Or.inr ⟨hs, h.open_of_running hs, rfl, rfl⟩

theorem getConn_conns (h : l.getConn = some l') :
    l'.accepted = l.accepted ∧ l.taken <+: l'.taken ∧ l.drained <+: l'.drained := by
  obtain ⟨conn, ch, -, rfl⟩ := Life.getConn_some h
  exact ⟨rfl, List.prefix_append _ _, List.prefix_rfl⟩

theorem workerStep_conns (h : l.workerStep check c pxy order = some (l', pxy')) :
    l'.accepted = l.accepted ∧ l'.taken = l.taken ∧ l.drained <+: l'.drained := by
  cases Life.workerMove h with
  | drain hw _ => exact ⟨rfl, rfl, List.prefix_append _ _⟩
  | _ => exact ⟨rfl, rfl, List.prefix_rfl⟩

/-- A receive is never undone. -/
theorem step_received {s s' : State} {a : Action} (hs : step check c s a = some s') :
    s.life.taken <+: s'.life.taken ∧ s.life.drained <+: s'.life.drained := by
  cases a with
  | admitTo runID id =>
    simp only [step] at hs
    split at hs <;> cases hs <;> exact ⟨List.prefix_rfl, List.prefix_rfl⟩
  | activate =>
    simp only [step] at hs
    split at hs <;> cases hs
    exact ⟨List.prefix_rfl, List.prefix_rfl⟩
  | start =>
    cases hs
    unfold Life.start
    split <;> exact ⟨List.prefix_rfl, List.prefix_rfl⟩
  | putConn runID conn =>
    cases hs
    rcases s.life.putConn_cases runID conn with ⟨err, hp⟩ | ⟨-, -, hp⟩ | ⟨ch, -, -, hp⟩ <;>
      rw [hp] <;> exact ⟨List.prefix_rfl, List.prefix_rfl⟩
  | getConn =>
    simp only [step, Option.map_eq_some_iff] at hs
    obtain ⟨l, hg, rfl⟩ := hs
    exact (getConn_conns hg).2
  | worker order =>
    simp only [step, Option.map_eq_some_iff] at hs
    obtain ⟨⟨l, pxy⟩, hw, rfl⟩ := hs
    obtain ⟨-, ht, hd⟩ := workerStep_conns hw
    exact ⟨ht ▸ List.prefix_rfl, hd⟩
  | pxy a =>
    simp only [step] at hs
    split at hs
    · simp only [Option.map_eq_some_iff] at hs
      obtain ⟨pxy, -, rfl⟩ := hs
      exact ⟨List.prefix_rfl, List.prefix_rfl⟩
    · cases hs
  | _ =>
    cases hs
    exact ⟨List.prefix_rfl, List.prefix_rfl⟩

/-- One round of the drain: the channel is closed, so the receive does not block. -/
theorem Inv.drain_step (h : Inv l) (hw : l.worker = .drain) (check : Proxy.AnnotationCheck)
    (c : Nat) (pxy : Proxy.State PxyThread) (order : List Nat) :
    ∃ l', l.workerStep check c pxy order = some (l', pxy) ∧
      (l'.worker = .takeProxies ∨
        l'.worker = .drain ∧ l'.ctl.workConnCh.buf.length < l.ctl.workConnCh.buf.length) := by
  have hclosed : l.ctl.workConnCh.closed = true := h.chClosed.mpr (by rw [hw]; decide)
  simp only [Life.workerStep, hw]
  cases hr : l.ctl.workConnCh.recv with
  | block =>
    rw [Chan.recv_block hr] at hclosed
    cases hclosed
  | closed => exact ⟨_, rfl, Or.inl rfl⟩
  | value conn ch =>
    obtain ⟨hbuf, -, -⟩ := Chan.recv_value hr
    exact ⟨_, rfl, Or.inr ⟨rfl, by simp [hbuf]⟩⟩

end Lifecycle

namespace Core

variable {env : Env} {s s' : Core} {a : CoreAction} {c : Nat}

theorem Effect.received (h : Effect env s a s') (hi : Inv env s) (c n : Nat) :
    (s.life c).received.count n ≤ (s'.life c).received.count n := by
  have hgrow : (s.life c).taken <+: (s'.life c).taken ∧
      (s.life c).drained <+: (s'.life c).drained := by
    refine System.Reaches.stable
      (P := fun x => (s.life c).taken <+: x.life.taken ∧ (s.life c).drained <+: x.life.drained)
      (fun x a x' _ hx hs => ?_) (hi.lifeReaches h c) (hi.lives c)
      ⟨List.prefix_rfl, List.prefix_rfl⟩
    have hstep := Lifecycle.step_received hs
    exact ⟨hx.1.trans hstep.1, hx.2.trans hstep.2⟩
  simp only [Life.received, List.count_append]
  exact Nat.add_le_add (hgrow.1.sublist.count_le n) (hgrow.2.sublist.count_le n)

/-- Only `RegisterWorkConn` adds to the accepted connections. -/
theorem Effect.accepted (h : Effect env s a s') (hi : Inv env s) (c : Nat) :
    (s'.life c).accepted = (s.life c).accepted ∨
      ∃ n, a = .putConn c n ∧ s.current? (env.runID c) = some c ∧
        (s.life c).ctl.state = .running ∧ (s.life c).ctl.workConnCh.closed = false ∧
        (s'.life c).accepted = (s.life c).accepted ++ [n] := by
  cases h.lifeChange c with
  | same hl => exact Or.inl (by rw [hl])
  | admitted _ _ _ hacc => exact Or.inl hacc
  | replaced _ _ _ hl => exact Or.inl (by rw [hl])
  | activated _ hl => exact Or.inl (by rw [hl])
  | started hl =>
    refine Or.inl ?_
    rw [hl]
    unfold Life.start
    split <;> rfl
  | closed hl => exact Or.inl (by rw [hl])
  | @putConn _ n hl =>
    have hcur : s.current? (env.runID c) = some c := by
      cases h
      assumption
    rcases (hi.life c).putConn_cases (env.runID c) n with ⟨err, hp⟩ | ⟨hs, ho, -, hacc⟩
    · exact Or.inl (by rw [hl, hp])
    · exact Or.inr ⟨n, rfl, hcur, hs, ho, by rw [hl, hacc]⟩
  | getConn hl => exact Or.inl (Lifecycle.getConn_conns hl).1
  | worker hw => exact Or.inl (Lifecycle.workerStep_conns hw).1

end Core

namespace ControlManager

variable {env : Env} {s s' : State} {c n : Nat}

/-- `RegisterWorkConn` has put connection `n` in the channel of `c`. -/
def stored (c n : Nat) : Pc → Bool
  | .call (.registerWorkConn d m) (.unlock _ _ (.registerWorkConn none))
  | .call (.registerWorkConn d m) (.returned (.registerWorkConn none)) => d = c && m = n
  | _ => false

theorem stored_ne {d : Nat} (h : c ≠ d) (p : GatePc) :
    stored c n (.call (.registerWorkConn d n) p) = false := by
  unfold stored
  split
  · rename_i heq
    cases heq
    simp [Ne.symm h]
  · rename_i heq
    cases heq
    simp [Ne.symm h]
  · rfl

theorem getByID_core {free : Nat → Bool} {core core' : Core} {now : Nat} {r : String} {p : GatePc}
    {pc' : Pc} {op : GateOp}
    (hx : execCall env free core now (.getByID r) p = some (core', pc', op)) : core' = core := by
  cases p with
  | lookup =>
    simp only [execCall] at hx
    repeat' split at hx
    all_goals
      cases hx
      try rfl
  | revalidate g =>
    simp only [execCall] at hx
    repeat' split at hx
    all_goals
      cases hx
      try rfl
  | body e g =>
    simp only [execCall, execBody, Option.map_eq_some_iff] at hx
    obtain ⟨res, hx, heq⟩ := hx
    repeat' split at hx
    all_goals
      cases hx
      try (cases heq; rfl)
  | _ =>
    cases hx
    try rfl

/-- The statements of `RegisterWorkConn`. -/
theorem registerWorkConn_exec {free : Nat → Bool} {core core' : Core} {now : Nat} {p : GatePc}
    {pc' : Pc} {op : GateOp}
    (hx : execCall env free core now (.registerWorkConn c n) p = some (core', pc', op)) :
    (core' = core ∧ ∀ d, stored d n pc' = stored d n (.call (.registerWorkConn c n) p)) ∨
      ∃ c₁ e g, Pc.call (.registerWorkConn c n) p = .call (.registerWorkConn c₁ n) (.body e g) ∧
        core' = core.setLife c₁ ((core.life c₁).putConn (env.runID c₁) n).1 ∧
        pc' = .call (.registerWorkConn c₁ n)
          (.unlock e g (.registerWorkConn ((core.life c₁).putConn (env.runID c₁) n).2)) := by
  cases p with
  | lookup =>
    simp only [execCall] at hx
    repeat' split at hx
    all_goals
      cases hx
      exact Or.inl ⟨rfl, fun _ => rfl⟩
  | revalidate g =>
    simp only [execCall] at hx
    repeat' split at hx
    all_goals
      cases hx
      exact Or.inl ⟨rfl, fun _ => rfl⟩
  | failed =>
    simp only [execCall, Method.lockFailed] at hx
    cases hx
    refine Or.inl ⟨rfl, fun _ => ?_⟩
    split <;> rfl
  | body e g =>
    simp only [execCall, execBody, Option.map_eq_some_iff] at hx
    obtain ⟨res, hx, heq⟩ := hx
    repeat' split at hx
    · cases hx
      cases heq
      exact Or.inl ⟨rfl, fun _ => rfl⟩
    · cases hx
      cases heq
      exact Or.inr ⟨c, e, g, rfl, rfl, rfl⟩
    · cases hx
  | unlock e g ret =>
    cases hx
    refine Or.inl ⟨rfl, fun d => ?_⟩
    cases ret with
    | registerWorkConn err => cases err <;> rfl
    | _ => rfl
  | acquire g =>
    cases hx
    exact Or.inl ⟨rfl, fun _ => rfl⟩
  | unlockFailed g =>
    cases hx
    exact Or.inl ⟨rfl, fun _ => rfl⟩
  | _ => cases hx

/-- The goroutine of a connection leaves the manager as it is, but for the statement
that puts the connection in the channel. -/
theorem conn_exec {free : Nat → Bool} {core core' : Core} {now : Nat} {pc pc' : Pc} {op : GateOp}
    (hf : Fits (.conn n) pc) (hx : exec env free core now pc = some (core', pc', op)) :
    (core' = core ∧ ∀ d, stored d n pc' = stored d n pc) ∨
      ∃ c e g, pc = .call (.registerWorkConn c n) (.body e g) ∧
        core' = core.setLife c ((core.life c).putConn (env.runID c) n).1 ∧
        pc' = .call (.registerWorkConn c n)
          (.unlock e g (.registerWorkConn ((core.life c).putConn (env.runID c) n).2)) := by
  cases pc with
  | call m p =>
    cases m with
    | getByID r =>
      obtain ⟨-, p', rfl⟩ := execCall_pc hx
      exact Or.inl ⟨getByID_core hx, fun _ => rfl⟩
    | registerWorkConn c m =>
      obtain rfl := Tid.conn.inj hf
      exact registerWorkConn_exec hx
    | remove c => rcases hf with hf | hf | ⟨k, hf⟩ <;> cases hf
    | _ => cases hf
  | close c => rcases hf with hf | ⟨k, hf⟩ <;> cases hf
  | idle => cases hx
  | closed => cases hx
  | done => cases hx
  | _ => cases hf

/-- The accepted connections of every control are those that `RegisterWorkConn` put in
its channel, each once. -/
def Tally (s : State) : Prop :=
  ∀ c n, (s.core.life c).accepted.count n = if stored c n (s.pc (.conn n)) then 1 else 0

/-- The goroutine of connection `n` takes a step. -/
theorem Tally.next (h : Tally s) (hi : Inv env s) {now : Nat}
    (hs : step env s (.next (.conn n) now) = some s') :
    (s'.core.life c).accepted.count n = if stored c n (s'.pc (.conn n)) then 1 else 0 := by
  have hc := h c n
  simp only [step, Option.bind_eq_some_iff, Option.map_eq_some_iff] at hs
  obtain ⟨⟨core, pc', op⟩, hx, gate, -, rfl⟩ := hs
  simp only [State.goto, Function.update_self]
  rcases conn_exec (hi.ann (.conn n)).fits hx with ⟨rfl, hst⟩ | ⟨d, e, g, hpc, rfl, rfl⟩
  · rw [hst c]
    exact hc
  · have hc : (s.core.life c).accepted.count n = 0 := by rw [hc, hpc]; rfl
    by_cases hd : c = d
    · subst hd
      rw [Core.setLife_self]
      rcases (hi.coreInv.life c).putConn_cases (env.runID c) n with ⟨err, hp⟩ | ⟨-, -, hn, hacc⟩
      · rw [hp]
        exact hc
      · rw [hn, hacc, List.count_append, hc]
        simp [stored]
    · rw [Core.setLife_ne _ hd, hc]
      rw [stored_ne hd, if_neg Bool.false_ne_true]

theorem Tally.step {a : Action} (h : Tally s) (hi : Inv env s) (hs : step env s a = some s') :
    Tally s' := by
  intro c n
  by_cases ha : a.thread? = some (.conn n)
  · cases a with
    | next t now =>
      obtain rfl : t = .conn n := Option.some.inj ha
      exact h.next hi hs
    | resume t =>
      obtain rfl : t = .conn n := Option.some.inj ha
      have hc := h c n
      have hres : resume env s (.conn n) = some s' := hs
      rw [resume_core hres]
      simp only [resume] at hres
      split at hres
      · rename_i hpc
        cases hres
        rw [hpc] at hc
        simp only [State.goto, Function.update_self]
        exact hc
      · cases hres
    | newWorkConn m r =>
      obtain rfl : m = n := Tid.conn.inj (Option.some.inj ha)
      have hc := h c m
      simp only [ControlManager.step] at hs
      split at hs <;> cases hs
      rename_i hpc
      rw [hpc] at hc
      simp only [State.goto, Function.update_self]
      exact hc
    | _ => cases ha
  · rw [step_pc hs ha, ← h c n]
    rcases hi.core_step hs with heq | ⟨ca, hp⟩
    · rw [heq]
    · obtain ⟨lock, hd, -⟩ := hp.does
      rcases hp.effect.accepted hi.coreInv c with heq | ⟨m, hm, -, -, -, heq⟩
      · rw [heq]
      · -- another connection
        have hne : m ≠ n := fun hmn => ha (hd.owner _ (by rw [hm, hmn]; rfl))
        rw [heq, List.count_append, List.count_singleton, if_neg (by simpa using hne)]
        rfl

theorem reachable_tally (h : (system env).Reachable s) : Tally s := by
  refine System.invariant (I := Tally) (fun c n => ?_)
    (fun _ _ _ hr ht hs => ht.step (reachable_inv hr) hs) h
  have hempty : ((init env).core.life c).accepted = [] := rfl
  exact congrArg (List.count n) hempty

theorem stored_iff (h : (system env).Reachable s) :
    (s.core.life c).received.count n + (s.core.life c).ctl.workConnCh.buf.count n =
      if stored c n (s.pc (.conn n)) then 1 else 0 := by
  rw [← ((reachable_inv h).coreInv.life c).count_conns n, reachable_tally h c n]

/-- `RegisterWorkConn` returns once. -/
theorem returned_forever {ret : Ret} (h : (system env).Reachable s)
    (hpc : s.pc (.conn n) = .call (.registerWorkConn c n) (.returned ret))
    (hr : (system env).Reaches s s') :
    s'.pc (.conn n) = .call (.registerWorkConn c n) (.returned ret) := by
  refine System.Reaches.stable
    (P := fun x : State => x.pc (.conn n) = .call (.registerWorkConn c n) (.returned ret))
    (fun x a x' _ hx hs => ?_) hr h hpc
  by_cases ha : a.thread? = some (.conn n)
  · cases a with
    | next t now =>
      obtain rfl : t = .conn n := Option.some.inj ha
      simp [system, step, hx, exec, execCall] at hs
    | resume t =>
      obtain rfl : t = .conn n := Option.some.inj ha
      simp [system, step, resume, hx] at hs
    | newWorkConn m r =>
      obtain rfl : m = n := Tid.conn.inj (Option.some.inj ha)
      simp [system, step, hx] at hs
    | _ => cases ha
  · rw [step_pc hs ha, hx]

/-- The drain ends, whatever is left in the channel, by statements of the worker alone. -/
theorem drains (h : (system env).Reachable s) (hw : (s.core.life c).worker = .drain) :
    ∃ k s', (system env).run s (List.replicate k (.worker c [])) = some s' ∧
      (s'.core.life c).worker = .takeProxies := by
  -- every round takes a connection out of the channel, which nobody fills any more
  generalize hlen : (s.core.life c).ctl.workConnCh.buf.length = len
  induction len using Nat.strongRecOn generalizing s with
  | _ len ih =>
    obtain ⟨l', hl, hend⟩ :=
      ((reachable_inv h).coreInv.life c).drain_step hw env.check c s.core.pxy []
    obtain ⟨s₁, hs₁, hlife⟩ : ∃ s₁, (system env).step s (.worker c []) = some s₁ ∧
        s₁.core.life c = l' := by
      have hready : workerReady s c = true := by simp [workerReady, hw]
      refine ⟨{ s with core := s.core.setLife c l' }, ?_, Core.setLife_self l'⟩
      simp [system, step, hready, hl, hw, Core.setLife]
    rcases hend with hdone | ⟨hdrain, hlt⟩
    · refine ⟨1, s₁, ?_, hlife ▸ hdone⟩
      simp [System.run, hs₁]
    · obtain ⟨k, s', hk, hs'⟩ := ih _ (hlen ▸ hlt) (h.next hs₁) (hlife ▸ hdrain) (by rw [hlife])
      refine ⟨k + 1, s', ?_, hs'⟩
      rw [List.replicate_succ]
      simpa [System.run, hs₁] using hk

/-- The statements of the worker empty a closed channel. -/
theorem emptied (h : (system env).Reachable s)
    (hclosed : (s.core.life c).ctl.workConnCh.closed = true) :
    ∃ k s', (system env).run s (List.replicate k (.worker c [])) = some s' ∧
      (s'.core.life c).ctl.workConnCh.buf = [] := by
  have hl := (reachable_inv h).coreInv.life c
  have hrank := hl.chClosed.mp hclosed
  by_cases hw : (s.core.life c).worker = .drain
  · obtain ⟨k, s', hk, hs'⟩ := drains h hw
    refine ⟨k, s', hk, ((reachable_inv (h.run hk)).coreInv.life c).chEmpty ?_⟩
    rw [hs']
    decide
  · refine ⟨0, s, rfl, hl.chEmpty ?_⟩
    cases hpc : (s.core.life c).worker <;> simp_all [WorkerPc.rank]

/-- In every reachable state: nothing was ever sent on a closed channel, and a
connection enters the channel of a control only while the control is current and
running. A connection that `RegisterWorkConn` has accepted is from then on in the channel
of its control or received, once and nowhere else, and it is received after the worker
has closed the channel and drained it. A connection that it has refused is in no channel,
then or later. -/
theorem work_conn_conservation (h : (system env).Reachable s) :
    (∀ c, (s.core.life c).panicked = false) ∧
    (∀ a s' c n, step env s a = some s' →
      (s.core.life c).ctl.workConnCh.buf.count n < (s'.core.life c).ctl.workConnCh.buf.count n →
      s.core.current? (env.runID c) = some c ∧ (s.core.life c).ctl.state = .running ∧
        (s.core.life c).ctl.workConnCh.closed = false) ∧
    (∀ c n, s.pc (.conn n) =
        .call (.registerWorkConn c n) (.returned (.registerWorkConn none)) →
      ∀ s', (system env).Reaches s s' →
        (s'.core.life c).received.count n + (s'.core.life c).ctl.workConnCh.buf.count n = 1 ∧
        (∀ d, d ≠ c → n ∉ (s'.core.life d).received ∧ n ∉ (s'.core.life d).ctl.workConnCh.buf) ∧
        ((s'.core.life c).ctl.workConnCh.closed = true →
          ∃ k s'', (system env).run s' (List.replicate k (.worker c [])) = some s'' ∧
            (s''.core.life c).received.count n = 1)) ∧
    (∀ c n err, s.pc (.conn n) =
        .call (.registerWorkConn c n) (.returned (.registerWorkConn (some err))) →
      ∀ s', (system env).Reaches s s' → ∀ d,
        n ∉ (s'.core.life d).received ∧ n ∉ (s'.core.life d).ctl.workConnCh.buf) := by
  have hi := reachable_inv h
  have hnowhere : ∀ x, (system env).Reachable x → ∀ d n, stored d n (x.pc (.conn n)) = false →
      n ∉ (x.core.life d).received ∧ n ∉ (x.core.life d).ctl.workConnCh.buf := by
    intro x hx d n hst
    have hcount := stored_iff hx (c := d) (n := n)
    rw [hst, if_neg Bool.false_ne_true, Nat.add_eq_zero_iff] at hcount
    exact ⟨List.count_eq_zero.mp hcount.1, List.count_eq_zero.mp hcount.2⟩
  refine ⟨fun c => (hi.coreInv.life c).panicked, ?_, ?_, ?_⟩
  · intro a s' c n hs hlt
    rcases hi.core_step hs with heq | ⟨ca, hp⟩
    · rw [heq] at hlt
      exact absurd hlt (Nat.lt_irrefl _)
    · rcases hp.effect.accepted hi.coreInv c with hacc | ⟨m, -, hcur, hrun, hopen, -⟩
      · -- nothing was accepted, and receives only take from the channel
        have hrec := hp.effect.received hi.coreInv c n
        have hbefore := (hi.coreInv.life c).count_conns n
        have hafter := ((inv_step hi hs).coreInv.life c).count_conns n
        rw [hacc] at hafter
        omega
      · exact ⟨hcur, hrun, hopen⟩
  · intro c n hpc s' hr
    have hr' := hr.reachable h
    have hpc' := returned_forever h hpc hr
    have hone : ∀ x, (system env).Reachable x → (system env).Reaches s x →
        (x.core.life c).received.count n + (x.core.life c).ctl.workConnCh.buf.count n = 1 := by
      intro x hx hsx
      rw [stored_iff hx, returned_forever h hpc hsx]
      simp [stored]
    refine ⟨hone s' hr' hr, fun d hd => ?_, fun hclosed => ?_⟩
    · refine hnowhere s' hr' d n ?_
      rw [hpc']
      exact stored_ne hd _
    · obtain ⟨k, s'', hk, hempty⟩ := emptied hr' hclosed
      have hcount := hone s'' (hr'.run hk) (hr.trans (.run hk))
      rw [hempty] at hcount
      exact ⟨k, s'', hk, hcount⟩
  · intro c n err hpc s' hr d
    refine hnowhere s' (hr.reachable h) d n ?_
    rw [returned_forever h hpc hr]
    rfl

/-- Connection `n` has been read, and `GetByID` is over. -/
def newWorkConn (n : Nat) : List Action :=
  [.newWorkConn n "run-a"] ++ statements (.conn n) 5 ++ [.resume (.conn n)]

/-- Of two accepted connections one is taken by `GetWorkConn` and one is left to the
drain. A third one comes when its control has been replaced. -/
theorem work_conn_conservation_replaced :
    ∃ s₀ s, (system sampleEnv).Reaches s₀ s ∧ (s.core.life 0).taken = [1] ∧
      (s.core.life 0).ctl.workConnCh.buf = [2] ∧
      (∃ k s', (system sampleEnv).run s (List.replicate k (.worker 0 [])) = some s' ∧
        (s'.core.life 0).received.count 2 = 1) ∧
      3 ∉ (s.core.life 0).received ∧ 3 ∉ (s.core.life 0).ctl.workConnCh.buf := by
  obtain ⟨s₀, s, h₀, hr, hp, hq⟩ := System.reaches_of_run (S := system sampleEnv)
    (l := firstLogin 0 ++ newWorkConn 1 ++ statements (.conn 1) 5 ++ newWorkConn 2 ++
      statements (.conn 2) 5 ++ newWorkConn 3 ++ replacement 1 ++ statements (.conn 3) 5)
    (k := [.getWorkConn 0] ++ List.replicate 4 (.worker 0 []))
    (p := fun s => decide
      (s.pc (.conn 2) = .call (.registerWorkConn 0 2) (.returned (.registerWorkConn none)) ∧
      s.pc (.conn 3) = .call (.registerWorkConn 0 3) (.returned (.registerWorkConn
        (some "client control for run id [run-a] is no longer current")))))
    (q := fun s => decide ((s.core.life 0).taken = [1] ∧
      (s.core.life 0).ctl.workConnCh.buf = [2] ∧
      (s.core.life 0).ctl.workConnCh.closed = true)) (by decide +kernel)
  obtain ⟨h2, h3⟩ := of_decide_eq_true hp
  obtain ⟨htaken, hbuf, hclosed⟩ := of_decide_eq_true hq
  obtain ⟨-, -, haccepted, hrefused⟩ := work_conn_conservation h₀
  exact ⟨s₀, s, hr, htaken, hbuf, (haccepted 0 2 h2 s hr).2.2 hclosed, hrefused 0 3 _ h3 s hr 0⟩

end ControlManager

end FrpXtcp.Server

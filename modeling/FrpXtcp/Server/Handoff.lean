import FrpXtcp.Server.ManagerInvariant

/-!
# The handoff from one generation of a run ID to the next

A worker is busy from its start until its cleanup is over. While a worker of a run ID
is busy, the current control of the run ID is its own, or one that still waits for it:
`markReplaced` passes the barrier on through every pending generation in between. So
no second worker of a run ID is ever started before the first one has cleaned up.
-/
namespace FrpXtcp.Server.Core

open FrpXtcp.Lib

variable {env : Env} {s s' : Core} {c d : Nat}

/-- The worker of `d` was started and has not finished its cleanup. -/
def Busy (s : Core) (d : Nat) : Prop :=
  1 ≤ (s.life d).worker.rank ∧ (s.life d).worker.rank ≤ 7

/-- `c` waits for the worker of `d`. -/
structure WaitsFor (s : Core) (c d : Nat) : Prop where
  pending : (s.life c).ctl.state = .pending
  waiting : s.handedOff c = false
  barrier : (s.life c).ctl.handoffBarrier = some d

structure Handoff (env : Env) (s : Core) : Prop where
  waits : ∀ c d, s.Busy d → s.current? (env.runID d) = some c → c ≠ d → s.WaitsFor c d
  gone : ∀ d, s.Busy d → s.current? (env.runID d) = none → s.closed = true
  unique : ∀ d d', s.Busy d → s.Busy d' → env.runID d = env.runID d' → d = d'

theorem not_busy_of_off (h : (s.life d).worker = .off) : ¬ s.Busy d := by
  rintro ⟨hb, -⟩
  rw [h] at hb
  exact absurd hb (by decide)

/-- A busy control is running or closing. -/
theorem Busy.state (hb : s.Busy d) (h : Inv env s) :
    (s.life d).ctl.state = .running ∨ (s.life d).ctl.state = .closing := by
  have hf := (h.life d).fits
  obtain ⟨h1, h2⟩ := hb
  cases hw : (s.life d).worker <;> simp_all [Lifecycle.Fits, WorkerPc.rank]

theorem busy_of_running (h : Inv env s) (hd : (s.life d).ctl.state = .running) : s.Busy d := by
  have hf := (h.life d).fits
  unfold Busy
  cases hw : (s.life d).worker <;> simp_all [Lifecycle.Fits, WorkerPc.rank]

/-- The barrier of a busy control is not closed. -/
theorem Busy.not_done (hb : s.Busy d) (h : Inv env s) : ¬ (s.life d).ctl.isDone := by
  have hd := (h.life d).done
  unfold Control.isDone
  rcases hb.state h with hs | hs <;> simp [hd, hs]

/-- The worker does not go back. -/
theorem workerStep_rank {check : Proxy.AnnotationCheck} {l l' : Life}
    {pxy pxy' : Proxy.State PxyThread} {order : List Nat}
    (h : l.workerStep check c pxy order = some (l', pxy')) :
    1 ≤ l.worker.rank ∧ l.worker.rank ≤ l'.worker.rank := by
  cases Life.workerMove h <;> simp [*, WorkerPc.rank]

/-- Steps that start no worker and change no current control. -/
theorem Handoff.keep (h : Handoff env s) (hbusy : ∀ d, s'.Busy d → s.Busy d)
    (hcur : ∀ r, s'.current? r = s.current? r) (hclosed : s.closed = true → s'.closed = true)
    (hwait : ∀ c d, s.Busy d → s.current? (env.runID d) = some c → c ≠ d → s.WaitsFor c d →
      s'.WaitsFor c d) : Handoff env s' := by
  refine ⟨fun c d hb hc hcd => ?_, fun d hb hn => ?_, fun d d' hb hb' hr => ?_⟩
  · rw [hcur] at hc
    exact hwait c d (hbusy d hb) hc hcd (h.waits c d (hbusy d hb) hc hcd)
  · rw [hcur] at hn
    exact hclosed (h.gone d (hbusy d hb) hn)
  · exact h.unique d d' (hbusy d hb) (hbusy d' hb') hr

/-- A step of one control that neither starts its worker nor takes it out of waiting. -/
theorem Handoff.setLife (h : Handoff env s) {l : Life}
    (hw : 1 ≤ l.worker.rank → l.worker.rank ≤ 7 → s.Busy c)
    (hwait : ∀ d, s.Busy d → s.current? (env.runID d) = some c → c ≠ d → s.WaitsFor c d →
      l.ctl.state = .pending ∧ l.ctl.handoffBarrier = (s.life c).ctl.handoffBarrier) :
    Handoff env (s.setLife c l) := by
  refine h.keep (fun d hb => ?_) (fun _ => rfl) (fun hc => hc) (fun c' d hb hc hcd hwf => ?_)
  · by_cases hd : d = c
    · subst hd
      simp only [Busy, setLife_self] at hb
      exact hw hb.1 hb.2
    · simpa only [Busy, setLife_ne l hd] using hb
  · by_cases hd : c' = c
    · subst hd
      obtain ⟨hs, hbar⟩ := hwait d hb hc hcd hwf
      exact ⟨by rw [setLife_self, hs], hwf.waiting, by rw [setLife_self, hbar, hwf.barrier]⟩
    · exact ⟨by rw [setLife_ne l hd, hwf.pending], hwf.waiting,
        by rw [setLife_ne l hd, hwf.barrier]⟩

theorem current?_of_get {r : String} {e : Nat} (h : s.ctlsByRunID.get? r = some e) :
    s.current? r = some (s.entries e).ctl := by
  simp [current?, h]

/-- The new current control waits for whatever the old one was or waited for. -/
theorem Handoff.admits (h : Handoff env s) (hi : Inv env s) (hopen : s.closed = false)
    (ha : Admits env s c (s.ctlsByRunID.get? (env.runID c)) s') : Handoff env s' := by
  have hne := hi.ne_of_created (r := env.runID c) ha.created
  -- only states change, no worker moves
  have hworker : ∀ d, (s'.life d).worker = (s.life d).worker := by
    intro d
    by_cases hd : d = c
    · rw [hd, ha.worker]
    · cases ho : s.ctlsByRunID.get? (env.runID c) with
      | none => rw [ha.others d hd (by simp [ho])]
      | some e =>
        by_cases he : d = (s.entries e).ctl
        · rw [he, ha.replaced e ho]
        · rw [ha.others d hd (by simpa [ho] using he)]
  have hbusy : ∀ d, s'.Busy d → s.Busy d := fun d hb => by
    simpa only [Busy, hworker] using hb
  have hcur : ∀ r, r ≠ env.runID c → s'.current? r = s.current? r := by
    intro r hr
    simp only [current?, ha.map, GoMap.get?_insert, if_neg hr]
    cases hg : s.ctlsByRunID.get? r with
    | none => rfl
    | some e =>
      simp only [Option.map_some]
      rw [ha.entries e (Nat.ne_of_lt (hi.entry_lt r e hg))]
  have hnew : s'.current? (env.runID c) = some c := by
    rw [current?_of_get (e := s.nextEntry) (by simp [ha.map]), ha.entry_ctl]
  refine ⟨fun c' d hb hc hcd => ?_, fun d hb hn => ?_, fun d d' hb hb' hr => ?_⟩
  · have hb := hbusy d hb
    by_cases hr : env.runID d = env.runID c
    · rw [hr, hnew] at hc
      obtain rfl := Option.some.inj hc
      have hwait : s.handedOff c = false := by
        cases hh : s.handedOff c with
        | false => rfl
        | true => exact absurd ha.created (hi.handed c hh)
      refine ⟨ha.state, by rw [ha.handedOff, hwait], ?_⟩
      cases ho : s.ctlsByRunID.get? (env.runID c) with
      | none =>
        have := h.gone d hb (by simp [current?, hr, ho])
        rw [hopen] at this
        cases this
      | some e =>
        rw [ha.barrier e ho]
        by_cases hde : (s.entries e).ctl = d
        · rw [hde]
          rcases hb.state hi with hs | hs <;> simp [Control.markReplaced, hs]
        · -- the old control was itself waiting for `d`
          have hw := h.waits _ d hb (by rw [hr]; exact current?_of_get ho) hde
          simp [Control.markReplaced, hw.pending, hw.barrier]
    · rw [hcur _ hr] at hc
      have hw := h.waits c' d hb hc hcd
      obtain ⟨e', he', hec⟩ := current?_eq_some.mp hc
      have hrun : env.runID c' = env.runID d := by rw [← hec, hi.entry_run _ e' he']
      have hl : s'.life c' = s.life c' := by
        refine ha.others c' (fun hcc => hr (by rw [← hrun, hcc])) (fun e he hx => hr ?_)
        rw [← hrun, hx, hi.entry_run _ e he]
      exact ⟨by rw [hl, hw.pending], by rw [ha.handedOff, hw.waiting], by rw [hl, hw.barrier]⟩
  · by_cases hr : env.runID d = env.runID c
    · rw [hr, hnew] at hn
      cases hn
    · rw [hcur _ hr] at hn
      rw [ha.closed]
      exact h.gone d (hbusy d hb) hn
  · exact h.unique d d' (hbusy d hb) (hbusy d' hb') hr

/-- A control that has been handed over has no busy predecessor. -/
theorem Handoff.free (h : Handoff env s) (hho : s.handedOff c = true)
    (hcur : s.current? (env.runID c) = some c) (hd : d ≠ c) (hr : env.runID d = env.runID c) :
    ¬ s.Busy d := by
  intro hb
  have hw := h.waits c d hb (by rw [hr, hcur]) hd.symm
  exact absurd (hho.symm.trans hw.waiting) nofun

theorem Handoff.start (h : Handoff env s) (hho : s.handedOff c = true)
    (hcur : s.current? (env.runID c) = some c) : Handoff env (s.setLife c (s.life c).start) := by
  by_cases hst : (s.life c).ctl.startLocked.2 = true
  · have hfree : ∀ d, d ≠ c → env.runID d = env.runID c → ¬ s.Busy d :=
      fun d hd hr => h.free hho hcur hd hr
    have hb : ∀ d, d ≠ c → (s.setLife c (s.life c).start).Busy d → s.Busy d := by
      intro d hd hb
      simpa only [Busy, setLife_ne _ hd] using hb
    refine ⟨fun c' d hbusy hc hcd => ?_, fun d hbusy hn => ?_, fun d d' hbusy hbusy' hr => ?_⟩
    · by_cases hd : d = c
      · subst hd
        rw [show (s.setLife d (s.life d).start).current? (env.runID d) = some d from hcur] at hc
        exact absurd (Option.some.inj hc).symm hcd
      · have hw := h.waits c' d (hb d hd hbusy) hc hcd
        have hcc : c' ≠ c := by
          rintro rfl
          exact absurd (hho.symm.trans hw.waiting) nofun
        exact ⟨by rw [setLife_ne _ hcc, hw.pending], hw.waiting,
          by rw [setLife_ne _ hcc, hw.barrier]⟩
    · by_cases hd : d = c
      · subst hd
        rw [show (s.setLife d (s.life d).start).current? (env.runID d) = some d from hcur] at hn
        cases hn
      · exact h.gone d (hb d hd hbusy) hn
    · by_cases hd : d = c
      · by_cases hd' : d' = c
        · rw [hd, hd']
        · exact absurd (hb d' hd' hbusy') (hfree d' hd' (by rw [← hr, hd]))
      · by_cases hd' : d' = c
        · exact absurd (hb d hd hbusy) (hfree d hd (by rw [hr, hd']))
        · exact h.unique d d' (hb d hd hbusy) (hb d' hd' hbusy') hr
  · have he : (s.life c).start = s.life c := by
      simp only [Life.start, hst, Bool.false_eq_true, if_false]
    rw [he]
    exact h.setLife (fun h1 h2 => ⟨h1, h2⟩) (fun _ _ _ _ hw => ⟨hw.pending, rfl⟩)

/-- Whoever may remove the current control leaves no busy worker behind, unless the
manager is closed. -/
theorem Handoff.removed (h : Handoff env s) (hi : Inv env s) (hmay : s.mayRemove c)
    (hcur : s.current? (env.runID c) = some c) (hb : s.Busy d)
    (hr : env.runID d = env.runID c) : s.closed = true := by
  rcases hmay with ⟨hho, hoff⟩ | hc | hw | hcl
  · have hdc : d ≠ c := by
      rintro rfl
      exact not_busy_of_off hoff hb
    exact absurd hb (h.free hho hcur hdc hr)
  · obtain ⟨e, he, hec⟩ := current?_eq_some.mp hcur
    exact absurd hec (hi.ne_of_created hc e he)
  · have hdc : c ≠ d := by
      rintro rfl
      have := hb.2
      rw [hw] at this
      exact absurd this (by decide)
    have hwf := h.waits c d hb (by rw [hr, hcur]) hdc
    have hoff := (hi.life c).worker_off (Or.inr hwf.pending)
    rw [hw] at hoff
    cases hoff
  · exact hcl

theorem Handoff.step {a : CoreAction} (h : Handoff env s) (hi : Inv env s)
    (hs : Effect env s a s') : Handoff env s' := by
  cases hs with
  | admitted c _ hopen ha => exact h.admits hi hopen ha
  | handoff c hadm hdone =>
    refine h.keep (fun _ hb => hb) (fun _ => rfl) (fun hc => hc) (fun c' d hb hc hcd hw => ?_)
    refine ⟨hw.pending, ?_, hw.barrier⟩
    by_cases hcc : c' = c
    · -- the barrier it waits for would be closed
      subst hcc
      exact absurd (hdone d hw.barrier) (hb.not_done hi)
    · simp [hcc, hw.waiting]
  | activated c e now hho hm ho hst hconf =>
    have hset : Handoff env (s.setCtl c (s.life c).ctl.activate) :=
      h.setLife (fun h1 h2 => ⟨h1, h2⟩) (fun _ _ _ _ hw => ⟨hw.pending, rfl⟩)
    refine hset.keep (fun _ hb => hb) (fun r => ?_) (fun hc => hc)
      (fun _ _ _ _ _ hw => ⟨hw.pending, hw.waiting, hw.barrier⟩)
    simp only [current?, setCtl, Core.setLife]
    cases s.ctlsByRunID.get? r with
    | none => rfl
    | some e' =>
      by_cases hee : e' = e
      · subst hee
        simp
      · simp [hee]
  | start c hho hcur => exact h.start hho hcur
  | removed c e now hmay hm ho =>
    have hcur : s.current? (env.runID c) = some c := by rw [current?_of_get hm, ho.1]
    refine ⟨fun c' d hb hc hcd => ?_, fun d hb hn => ?_, h.unique⟩
    · simp only [current?, GoMap.get?_erase] at hc
      split at hc
      · cases hc
      · have hw := h.waits c' d hb hc hcd
        exact ⟨hw.pending, hw.waiting, hw.barrier⟩
    · simp only [current?, GoMap.get?_erase] at hn
      split at hn
      · rename_i hr
        exact h.removed hi hmay hcur hb hr
      · exact h.gone d hb hn
  | close c hmay =>
    refine h.setLife (fun h1 h2 => ⟨h1, h2⟩) (fun d hb hc hcd hw => ?_)
    have hoff := (hi.life c).worker_off (Or.inr hw.pending)
    obtain ⟨e, he, hec⟩ := current?_eq_some.mp hc
    have hrun : env.runID c = env.runID d := by rw [← hec, hi.entry_run _ e he]
    rcases hmay with hon | hnot
    · exact absurd hoff hon
    · rw [hrun, hc] at hnot
      exact absurd rfl hnot
  | cmClose =>
    exact h.keep (fun _ hb => hb) (fun _ => rfl) (fun _ => rfl)
      (fun _ _ _ _ _ hw => ⟨hw.pending, hw.waiting, hw.barrier⟩)
  | putConn c conn hcur =>
    refine h.setLife (fun h1 h2 => ?_) (fun _ _ _ _ hw => ?_)
    · rw [Lifecycle.putConn_worker] at h1 h2
      exact ⟨h1, h2⟩
    · rw [Lifecycle.putConn_state, (Lifecycle.SameLogin.putConn _ _ _).handoffBarrier]
      exact ⟨hw.pending, rfl⟩
  | getConn c l hg =>
    refine h.setLife (fun h1 h2 => ?_) (fun _ _ _ _ hw => ?_)
    · rw [Lifecycle.getConn_worker hg] at h1 h2
      exact ⟨h1, h2⟩
    · rw [Lifecycle.getConn_state hg, (Lifecycle.SameLogin.getConn hg).handoffBarrier]
      exact ⟨hw.pending, rfl⟩
  | worker c order l pxy hw =>
    obtain ⟨hr1, hr2⟩ := workerStep_rank hw
    have hset : Handoff env (s.setLife c l) := by
      refine h.setLife (fun h1 h2 => ⟨hr1, Nat.le_trans hr2 h2⟩) (fun d _ _ _ hwf => ?_)
      have hoff := (hi.life c).worker_off (Or.inr hwf.pending)
      rw [hoff] at hr1
      exact absurd hr1 (by decide)
    exact hset.keep (fun _ hb => hb) (fun _ => rfl) (fun hc => hc)
      (fun _ _ _ _ _ hwf => ⟨hwf.pending, hwf.waiting, hwf.barrier⟩)
  | _ =>
    exact h.keep (fun _ hb => hb) (fun _ => rfl) (fun hc => hc)
      (fun _ _ _ _ _ hw => ⟨hw.pending, hw.waiting, hw.barrier⟩)

theorem handoff_init : Handoff env (init env) := by
  have hb : ∀ d, ¬ (init env).Busy d := fun d => not_busy_of_off rfl
  exact ⟨fun _ d h => absurd h (hb d), fun d h => absurd h (hb d), fun d _ h => absurd h (hb d)⟩

theorem reachable_handoff (h : (system env).Reachable s) : Handoff env s :=
  System.invariant (I := Handoff env) handoff_init
    (fun _ _ _ hr hh hs => hh.step (reachable_inv hr) ((reachable_inv hr).effect hs)) h

/-- Once the worker of a control is started, its own cleanup ends its being busy. -/
theorem Inv.cleanedUp (h : Inv env s) (hon : (s.life d).worker ≠ .off) (hb : ¬ s.Busy d) :
    Lifecycle.CleanedUp d (s.life d) s.pxy := by
  refine (h.good d).cleanedUp (show 8 ≤ (s.life d).worker.rank from ?_)
  unfold Busy at hb
  have h1 : 1 ≤ (s.life d).worker.rank := by
    cases hw : (s.life d).worker <;> simp_all [WorkerPc.rank]
  omega

end FrpXtcp.Server.Core

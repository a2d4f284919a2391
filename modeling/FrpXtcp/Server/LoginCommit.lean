import FrpXtcp.Server.Generations

/-!
# The commit of a login

`completeLogin` writes the success response while it holds the gate of its run ID and
the lifecycle lock of its control. What the client is told is therefore true: its
control is the current one, and it is running before the gate is released.
-/
namespace FrpXtcp.Server.ControlManager

open FrpXtcp.Lib

variable {env : Env} {s s' : State} {c : Nat}

/-- The method `m` is between its revalidation of the entry `e` and the release of the
gate, and has not removed the entry itself. -/
def InSection (m : Method) (e : Nat) : Pc → Prop
  | .call m' (.body e' _) | .call m' (.writing e' _) | .call m' (.written e' _) =>
    m' = m ∧ e' = e
  | .call m' (.unlock e' _ ret) => m' = m ∧ e' = e ∧ ret ≠ .remove true
  | _ => False

/-- A method in its section knows the current entry and holds its gate. -/
theorem Inv.inSection (hi : Inv env s) {t : Tid} {m : Method} {e : Nat}
    (h : InSection m e (s.pc t)) :
    ∃ g, IsGate s.core e g ∧ held (s.pc t) = some g ∧
      s.core.ctlsByRunID.get? (m.runID env) = some e := by
  have hentry := (hi.ann t).entry
  unfold InSection at h
  split at h
  · rename_i hpc
    obtain ⟨rfl, rfl⟩ := h
    rw [hpc] at hentry ⊢
    exact ⟨_, hentry.1, rfl, hentry.2⟩
  · rename_i hpc
    obtain ⟨rfl, rfl⟩ := h
    rw [hpc] at hentry ⊢
    exact ⟨_, hentry.1, rfl, hentry.2⟩
  · rename_i hpc
    obtain ⟨rfl, rfl⟩ := h
    rw [hpc] at hentry ⊢
    exact ⟨_, hentry.1, rfl, hentry.2⟩
  · rename_i hpc
    obtain ⟨rfl, rfl, hret⟩ := h
    rw [hpc] at hentry ⊢
    exact ⟨_, hentry.1, rfl, hentry.2 hret⟩
  · exact h.elim

/-- No other goroutine changes the current control of a run ID in a section. -/
theorem Inv.section_stable (hi : Inv env s) {t : Tid} {m : Method} {e : Nat} {a : Action}
    (h : InSection m e (s.pc t)) (ha : a.thread? ≠ some t) (hs : step env s a = some s') :
    s'.core.ctlsByRunID.get? (m.runID env) = s.core.ctlsByRunID.get? (m.runID env) := by
  obtain ⟨g, hgate, hheld, hm⟩ := hi.inSection h
  rcases hi.core_step hs with heq | ⟨ca, hp⟩
  · rw [heq]
  · obtain ⟨lock, hd, hlock⟩ := hp.does
    refine (hd.current hgate hm (fun hl => ?_)).trans hm.symm
    -- a goroutine with that gate would be this one
    obtain ⟨t', ht', hh⟩ := hlock g hl
    rw [hi.gates.unique hh hheld] at ht'
    exact ha ht'

/-- Where the outcome of the write leads. -/
def afterWrite (c e g : Nat) : Option String → Pc
  | none => .call (.completeLogin c) (.written e g)
  | some err => .call (.completeLogin c) (.unlock e g (.completeLogin false (some err)))

/-- The state in which a success response can be written. -/
theorem write_pc {err : Option String} (hs : step env s (.write c err) = some s') :
    ∃ d e g, s.pc (.login c) = .call (.completeLogin d) (.writing e g) ∧
      s' = s.goto (.login c) (afterWrite d e g err) := by
  simp only [step] at hs
  split at hs
  · rename_i d e g hpc
    refine ⟨d, e, g, hpc, ?_⟩
    split at hs <;> cases hs <;> rfl
  · cases hs

/-- Whose response is written is current, pending and activated. -/
theorem Inv.writes (hi : Inv env s) {err : Option String}
    (hs : step env s (.write c err) = some s') :
    ∃ e g, s.pc (.login c) = .call (.completeLogin c) (.writing e g) ∧
      s.core.ctlsByRunID.get? (env.runID c) = some e ∧ Writes s.core c e ∧
      s' = s.goto (.login c) (afterWrite c e g err) := by
  obtain ⟨d, e, g, hpc, heq⟩ := write_pc hs
  have hann := hi.ann (.login c)
  rw [hpc] at hann
  obtain rfl : c = d := Tid.login.inj hann.fits
  exact ⟨e, g, hpc, hann.entry.2, hann.writing, heq⟩

/-- After a successful write the control is started before the gate is released. -/
theorem Inv.commits (hi : Inv env s) {e g : Nat}
    (hpc : s.pc (.login c) = .call (.completeLogin c) (.written e g)) (now : Nat) :
    s.gate g = some (.login c) ∧
      ∃ s', step env s (.next (.login c) now) = some s' ∧
        (s'.core.life c).ctl.state = .running ∧ (s'.core.life c).worker = .newClient ∧
        s'.pc (.login c) = .call (.completeLogin c) (.unlock e g (.completeLogin true none)) ∧
        s'.gate g = some (.login c) := by
  have hann := hi.ann (.login c)
  rw [hpc] at hann
  have hw : Writes s.core c e := hann.writing
  have hheld : held (s.pc (.login c)) = some g := by rw [hpc]; rfl
  have hgate : s.gate g = some (.login c) := (hi.gates g _).mpr hheld
  have hstep : step env s (.next (.login c) now) =
      some { s.goto (.login c) (.call (.completeLogin c) (.unlock e g
          (.completeLogin (s.core.life c).ctl.startLocked.2 none))) with
        core := s.core.setLife c (s.core.life c).start } := by
    simp only [step, hpc, exec, execCall, Option.bind_some, GateOp.apply, Option.map_some]
    rfl
  refine ⟨hgate, _, hstep, ?_, ?_, ?_, hgate⟩
  · simp [Life.start, Control.startLocked, hw.pending, hw.activated]
  · simp [Life.start, hw.started]
  · simp [State.goto, hw.started]

/-- A login whose `completeLogin` did not commit is on its way out. -/
def Failing : Pc → Prop
  | .call (.completeLogin _) (.unlock _ _ ret) | .call (.completeLogin _) (.returned ret) =>
    ret ≠ .completeLogin true none
  | .call (.remove _) _ | .close _ | .closed | .done => True
  | _ => False

theorem failing_next {now : Nat} {core : Core} {pc pc' : Pc} {op : GateOp}
    (hann : Ann env s.core (.login c) pc) (hi : Core.Inv env s.core) (hf : Failing pc)
    (hoff : (s.core.life c).worker = .off)
    (hx : exec env s.lifeFree s.core now pc = some (core, pc', op)) :
    Failing pc' ∧ (core.life c).worker = .off := by
  have hruns := exec_runs hi hann hx
  cases pc with
  | call m p =>
    obtain ⟨hp, p', rfl⟩ := execCall_pc hx
    cases m with
    | remove d => exact ⟨trivial, hruns.ann.actor.1⟩
    | completeLogin d =>
      cases p with
      | unlock e g ret =>
        cases hx
        exact ⟨hf, hoff⟩
      | returned ret => exact absurd rfl (hp ret)
      | _ => exact hf.elim
    | _ => exact hf.elim
  | close d =>
    simp only [exec] at hx
    split at hx <;> cases hx
    refine ⟨trivial, ?_⟩
    by_cases hd : c = d
    · subst hd
      simpa using hoff
    · rw [Core.setCtl_ne _ hd]
      exact hoff
  | closed => cases hx
  | done => cases hx
  | _ => exact hf.elim

theorem failing_resume (hf : Failing (s.pc (.login c))) (hs : resume env s (.login c) = some s') :
    Failing (s'.pc (.login c)) := by
  simp only [resume] at hs
  split at hs
  · rename_i hpc
    rw [hpc] at hf
    exact hf.elim
  · rename_i hpc
    rw [hpc] at hf
    exact hf.elim
  · rename_i hpc
    rw [hpc] at hf
    exact hf.elim
  · rename_i hpc
    rw [hpc] at hf
    exact absurd rfl hf
  all_goals
    cases hs
    try simp [State.goto, Failing]

/-- A control whose login did not commit is never started. -/
theorem failing_step {a : Action} (hi : Inv env s) (hf : Failing (s.pc (.login c)))
    (hoff : (s.core.life c).worker = .off) (hs : step env s a = some s') :
    Failing (s'.pc (.login c)) ∧ (s'.core.life c).worker = .off := by
  by_cases ha : a.thread? = some (.login c)
  · cases a with
    | next t now =>
      obtain rfl : t = .login c := Option.some.inj ha
      simp only [step, Option.bind_eq_some_iff, Option.map_eq_some_iff] at hs
      obtain ⟨⟨core, pc', op⟩, hx, gate, -, rfl⟩ := hs
      simpa [State.goto] using failing_next (hi.ann _) hi.coreInv hf hoff hx
    | resume t =>
      obtain rfl : t = .login c := Option.some.inj ha
      have hres : resume env s (.login c) = some s' := hs
      exact ⟨failing_resume hf hres, by rw [resume_core hres]; exact hoff⟩
    | write d err =>
      obtain rfl : d = c := Tid.login.inj (Option.some.inj ha)
      obtain ⟨_, _, _, hpc, -⟩ := write_pc hs
      rw [hpc] at hf
      exact hf.elim
    | _ => cases ha
  · rw [step_pc hs ha]
    refine ⟨hf, ?_⟩
    rcases hi.core_step hs with heq | ⟨ca, hp⟩
    · rw [heq]
      exact hoff
    · obtain ⟨lock, hd, -⟩ := hp.does
      refine hp.effect.off hoff (fun hca => ha (hd.owner _ ?_))
      rw [hca]
      rfl

theorem failing_forever (h : (system env).Reachable s) (hf : Failing (s.pc (.login c)))
    (hoff : (s.core.life c).worker = .off) (hr : (system env).Reaches s s') :
    (s'.core.life c).worker = .off := by
  have hstable := System.Reaches.stable
    (P := fun x : State => Failing (x.pc (.login c)) ∧ (x.core.life c).worker = .off)
    (fun x a x' hx hp hs => failing_step (reachable_inv hx) hp.1 hp.2 hs) hr h ⟨hf, hoff⟩
  exact hstable.2

/-- A control that was admitted and is not current never becomes current again. -/
theorem replaced_forever (h : (system env).Reachable s)
    (hadm : (s.core.life c).ctl.state ≠ .created)
    (hcur : s.core.current? (env.runID c) ≠ some c) (hr : (system env).Reaches s s') :
    s'.core.current? (env.runID c) ≠ some c := by
  have hstable := Reaches.core_stable
    (P := fun core => (core.life c).ctl.state ≠ .created ∧ core.current? (env.runID c) ≠ some c)
    (fun _ _ _ hi hp he => ⟨admitted_stable hp.1 hi he, he.not_current hi hp.2 fun _ => hp.1⟩)
    hr h ⟨hadm, hcur⟩
  exact hstable.2

/-- In every reachable state: a success response is written for a control only while it
is current, pending and activated; between its revalidation and the release of the gate
a method sees no other goroutine change the current entry of its run ID; after a
successful write the control is running before the gate is released, and `completeLogin`
returns that it committed; after a failed write it is pending without a worker and
never gets one; a control that was replaced or removed never gets a success response;
and two running controls have different run IDs. -/
theorem login_commit_atomic (h : (system env).Reachable s) :
    (∀ c s', step env s (.write c none) = some s' →
      ∃ e, s.core.ctlsByRunID.get? (env.runID c) = some e ∧ s.core.owns e c ∧
        (s.core.life c).ctl.state = .pending ∧ (s.core.life c).ctl.activated = true ∧
        ∃ g, s'.pc (.login c) = .call (.completeLogin c) (.written e g)) ∧
    (∀ t m e a s', InSection m e (s.pc t) → a.thread? ≠ some t → step env s a = some s' →
      s'.core.ctlsByRunID.get? (m.runID env) = s.core.ctlsByRunID.get? (m.runID env)) ∧
    (∀ c e g now, s.pc (.login c) = .call (.completeLogin c) (.written e g) →
      s.gate g = some (.login c) ∧
        ∃ s', step env s (.next (.login c) now) = some s' ∧
          (s'.core.life c).ctl.state = .running ∧ (s'.core.life c).worker = .newClient ∧
          s'.pc (.login c) = .call (.completeLogin c) (.unlock e g (.completeLogin true none)) ∧
          s'.gate g = some (.login c)) ∧
    (∀ c err s', step env s (.write c (some err)) = some s' →
      (s'.core.life c).ctl.state = .pending ∧
        (∃ e g, s'.pc (.login c) =
          .call (.completeLogin c) (.unlock e g (.completeLogin false (some err)))) ∧
        ∀ s'', (system env).Reaches s' s'' → (s''.core.life c).worker = .off) ∧
    (∀ c s', (s.core.life c).ctl.state ≠ .created → s.core.current? (env.runID c) ≠ some c →
      (system env).Reaches s s' → step env s' (.write c none) = none) ∧
    (∀ c d, (s.core.life c).ctl.state = .running → (s.core.life d).ctl.state = .running →
      env.runID c = env.runID d → c = d) := by
  have hi := reachable_inv h
  refine ⟨fun c s' hs => ?_, fun t m e a s' hin ha hs => hi.section_stable hin ha hs,
    fun c e g now hpc => hi.commits hpc now, fun c err s' hs => ?_, fun c s' hadm hcur hr => ?_,
    fun c d hc hd hrun => ?_⟩
  · obtain ⟨e, g, -, hm, hw, rfl⟩ := hi.writes hs
    exact ⟨e, hm, hw.owns, hw.pending, hw.activated, g, by simp [State.goto, afterWrite]⟩
  · obtain ⟨e, g, hpc, -, hw, heq⟩ := hi.writes hs
    have hpc' : s'.pc (.login c) =
        .call (.completeLogin c) (.unlock e g (.completeLogin false (some err))) := by
      rw [heq]
      simp [State.goto, afterWrite]
    have hcore : s'.core = s.core := by rw [heq]; rfl
    have hoff : (s'.core.life c).worker = .off := by
      rw [hcore]
      exact (hi.coreInv.life c).worker_off (Or.inr hw.pending)
    refine ⟨by rw [hcore]; exact hw.pending, ⟨e, g, hpc'⟩, fun s'' hr => ?_⟩
    exact failing_forever (h.next (a := .write c (some err)) hs) (by rw [hpc']; simp [Failing])
      hoff hr
  · cases hs : step env s' (.write c none) with
    | none => rfl
    | some s'' =>
      obtain ⟨e, g, -, hm, hw, -⟩ := (reachable_inv (hr.reachable h)).writes hs
      refine absurd ?_ (replaced_forever h hadm hcur hr)
      rw [Core.current?_of_get hm, hw.owns.1]
  · exact (Core.reachable_handoff hi.core).unique c d (Core.busy_of_running hi.coreInv hc)
      (Core.busy_of_running hi.coreInv hd) hrun

/-- The first login of control 0, up to the write of its response. -/
def loginUntilWrite : List Action :=
  [.resume (.login 0)] ++ statements (.login 0) 9 ++ [.resume (.login 0)] ++
    statements (.login 0) 4

/-- Control 0 is current while its response is written. Had control 1 come before,
control 0 would have been told nothing. -/
theorem login_commit_atomic_race :
    (∃ s, (system sampleEnv).Reachable s ∧ (step sampleEnv s (.write 0 none)).isSome = true ∧
      ∃ e, s.core.ctlsByRunID.get? "run-a" = some e ∧ s.core.owns e 0) ∧
    ∃ s, (system sampleEnv).Reachable s ∧ s.core.current? "run-a" = some 1 ∧
      ∀ s', (system sampleEnv).Reaches s s' → step sampleEnv s' (.write 0 none) = none := by
  constructor
  · obtain ⟨s, h, ht⟩ := System.reachable_of_run (S := system sampleEnv) (l := loginUntilWrite)
      (p := fun s => decide ((step sampleEnv s (.write 0 none)).isSome = true))
      (by decide +kernel)
    have hsome := of_decide_eq_true ht
    obtain ⟨s', hs⟩ := Option.isSome_iff_exists.mp hsome
    obtain ⟨e, hm, ho, -⟩ := (login_commit_atomic h).1 0 s' hs
    exact ⟨s, h, hsome, e, hm, ho⟩
  · obtain ⟨s, h, ht⟩ := System.reachable_of_run (S := system sampleEnv)
      (l := [.resume (.login 0)] ++ statements (.login 0) 9 ++ replacement 1)
      (p := fun s => decide ((s.core.life 0).ctl.state ≠ .created ∧
        s.core.current? "run-a" = some 1)) (by decide +kernel)
    obtain ⟨hadm, hcur⟩ := of_decide_eq_true ht
    refine ⟨s, h, hcur, fun s' hr => ?_⟩
    refine (login_commit_atomic h).2.2.2.2.1 0 s' hadm ?_ hr
    rw [show sampleEnv.runID 0 = "run-a" from rfl, hcur]
    nofun

end FrpXtcp.Server.ControlManager

import FrpXtcp.Server.ManagerSteps

/-!
# Runs of the control manager

The assertions of all goroutines hold together in every reachable state, each gate has
at most one holder, and the manager's state is one that `Core` reaches. A `Close` of
the manager always has the controls that are still current on its list.
-/
namespace FrpXtcp.Server.ControlManager

open FrpXtcp.Lib
open FrpXtcp.Server.Core (Effect)

variable {env : Env} {s s' : State}

/-- The controls that a `Close` in this state has still to remove. -/
def remaining (todo : List Nat) : Pc → List Nat
  | .call (.remove _) (.returned _) => todo
  | .call (.remove c) _ => c :: todo
  | _ => todo

/-- Every current control is on the list. -/
def Covers (s : Core) (l : List Nat) : Prop :=
  ∀ r e, s.ctlsByRunID.get? r = some e → (s.entries e).ctl ∈ l

structure Inv (env : Env) (s : State) : Prop where
  core : (Core.system env).Reachable s.core
  gates : Exclusive s.gate (fun t => held (s.pc t))
  ann : ∀ t, Ann env s.core t (s.pc t)
  covers : ∀ n, s.pc (.closer n) ≠ .idle →
    Covers s.core (remaining (s.todo n) (s.pc (.closer n)))
  empty : ∀ n, s.pc (.closer n) = .idle ∨ s.pc (.closer n) = .done → s.todo n = []
  listed : ∀ n, ∀ c ∈ s.todo n, (s.core.life c).ctl.state ≠ .created

theorem Inv.coreInv (h : Inv env s) : Core.Inv env s.core := Core.reachable_inv h.core

theorem lifeFree_writing {c e g : Nat} {m : Method}
    (h : s.pc (.login c) = .call m (.writing e g) ∨ s.pc (.login c) = .call m (.written e g)) :
    s.lifeFree c = false := by
  unfold State.lifeFree
  rcases h with h | h <;> rw [h]

/-- The other goroutines do not notice an operation. -/
theorem Inv.others (h : Inv env s) {o : Option Tid} {lock : Option Nat} {a : CoreAction}
    {core : Core} (he : Effect env s.core a core) (hd : Does s.lifeFree s.core o lock a core)
    (hlock : ∀ t g, o ≠ some t → held (s.pc t) = some g → lock ≠ some g) {t : Tid}
    (ho : o ≠ some t) : Ann env core t (s.pc t) := by
  refine (h.ann t).stable h.coreInv he hd ho (fun g => hlock t g ho) (fun c e g ht hpc => ?_)
  subst ht
  exact lifeFree_writing hpc

/-- A closed manager admits no more controls. -/
theorem Covers.stable {core core' : Core} {a : CoreAction} {l : List Nat} (h : Covers core l)
    (hi : Core.Inv env core) (hc : core.closed = true) (he : Effect env core a core') :
    Covers core' l := by
  intro r e hm
  cases he.mapChange r with
  | same heq =>
    rw [heq] at hm
    rw [(he.entry (hi.entry_lt r e hm)).2.1]
    exact h r e hm
  | added hopen =>
    rw [hc] at hopen
    cases hopen
  | removed _ _ _ hn =>
    rw [hn] at hm
    cases hm

/-- A caller of `Close` that has started has closed the manager. -/
theorem Ann.closed {core : Core} {n : Nat} {pc : Pc} (h : Ann env core (.closer n) pc)
    (hpc : pc ≠ .idle) : core.closed = true := by
  have hfits := h.fits
  have hactor := h.actor
  cases pc with
  | idle => exact absurd rfl hpc
  | call m p =>
    cases m with
    | remove c => exact hactor.1
    | getByID r =>
      obtain ⟨k, hk⟩ := hfits
      cases hk
    | _ => cases hfits
  | close c => exact hactor.1
  | closed => exact hactor
  | done => exact hactor
  | _ => cases hfits

theorem Inv.closers_stable (h : Inv env s) {a : CoreAction} {core : Core}
    (he : Effect env s.core a core) {n : Nat} (hn : s.pc (.closer n) ≠ .idle) :
    Covers core (remaining (s.todo n) (s.pc (.closer n))) :=
  (h.covers n hn).stable h.coreInv ((h.ann (.closer n)).closed hn) he

theorem execCall_pc {free : Nat → Bool} {core core' : Core} {now : Nat} {m : Method} {p : GatePc}
    {pc' : Pc} {op : GateOp} (h : execCall env free core now m p = some (core', pc', op)) :
    (∀ ret, p ≠ .returned ret) ∧ ∃ p', pc' = .call m p' := by
  cases p with
  | lookup =>
    simp only [execCall] at h
    split at h
    · cases h
      exact ⟨by simp, _, rfl⟩
    · split at h <;> cases h <;> exact ⟨by simp, _, rfl⟩
  | revalidate g =>
    simp only [execCall] at h
    split at h
    · cases h
      exact ⟨by simp, _, rfl⟩
    · split at h <;> cases h <;> exact ⟨by simp, _, rfl⟩
  | body e g =>
    simp only [execCall, Option.map_eq_some_iff, Prod.mk.injEq] at h
    obtain ⟨r, -, -, rfl, -⟩ := h
    exact ⟨by simp, _, rfl⟩
  | written e g =>
    cases m with
    | completeLogin c =>
      cases h
      exact ⟨by simp, _, rfl⟩
    | _ => cases h
  | writing e g => cases h
  | returned ret => cases h
  | _ =>
    cases h
    exact ⟨by simp, _, rfl⟩

/-- What a `Close` executes inside the manager: `Remove`, or `Close` of a control. -/
theorem closer_exec {free : Nat → Bool} {core core' : Core} {now n : Nat} {pc pc' : Pc}
    {op : GateOp} (hann : Ann env core (.closer n) pc)
    (h : exec env free core now pc = some (core', pc', op)) :
    (∃ c p p', pc = .call (.remove c) p ∧ (∀ ret, p ≠ .returned ret) ∧
      pc' = .call (.remove c) p') ∨ ∃ c, pc = .close c ∧ pc' = .closed := by
  have hfits := hann.fits
  cases pc with
  | call m p =>
    obtain ⟨hp, p', rfl⟩ := execCall_pc h
    cases m with
    | remove c => exact Or.inl ⟨c, p, p', rfl, hp, rfl⟩
    | getByID r =>
      obtain ⟨k, hk⟩ := hfits
      cases hk
    | _ => cases hfits
  | close c =>
    simp only [exec] at h
    split at h <;> cases h
    exact Or.inr ⟨c, rfl, rfl⟩
  | idle => cases h
  | closed => cases h
  | done => cases h
  | _ => cases hfits

/-- When `Remove` returns, its control can be taken off the list. -/
theorem Covers.returned {core : Core} {c : Nat} {l : List Nat} (h : Covers core (c :: l))
    (hi : Core.Inv env core) (hc : core.current? (env.runID c) ≠ some c) : Covers core l := by
  intro r e hm
  rcases List.mem_cons.mp (h r e hm) with he | he
  · refine absurd (Core.current?_eq_some.mpr ⟨e, ?_, he⟩) hc
    rw [← he, hi.entry_run r e hm]
    exact hm
  · exact he

theorem held_goto (s : State) (t : Tid) (pc' : Pc) :
    (fun t' => held ((s.goto t pc').pc t')) =
      Function.update (fun t' => held (s.pc t')) t (held pc') :=
  Function.comp_update held s.pc t pc'

/-- What the goroutine that moved and all the others satisfy. -/
theorem forall_goto {P : Tid → Pc → Prop} {t : Tid} {pc' : Pc} (hself : P t pc')
    (hother : ∀ t', t' ≠ t → P t' (s.pc t')) (t' : Tid) : P t' ((s.goto t pc').pc t') := by
  by_cases ht : t' = t
  · subst ht
    simpa [State.goto] using hself
  · simpa [State.goto, ht] using hother t' ht

theorem Inv.next (h : Inv env s) {t : Tid} {now : Nat} {core : Core} {pc' : Pc} {op : GateOp}
    {gate : Nat → Option Tid}
    (hx : exec env s.lifeFree s.core now (s.pc t) = some (core, pc', op))
    (hg : op.apply t s.gate = some gate) :
    Inv env { s.goto t pc' with core := core, gate := gate } := by
  have hr := exec_runs h.coreInv (h.ann t) hx
  have hcore : (Core.system env).Reachable core := by
    rcases hr.core with rfl | ⟨a, -, hs, -⟩
    · exact h.core
    · exact h.core.next hs
  have hother : ∀ t', t' ≠ t → Ann env core t' (s.pc t') := by
    intro t' ht
    rcases hr.core with rfl | ⟨a, he, -, hd⟩
    · exact h.ann t'
    · refine h.others he hd (fun t₁ g ho hg hlock => ?_) (fun ho => ht (Option.some.inj ho).symm)
      exact ho (congrArg some (h.gates.unique hlock hg))
  have hcovers : ∀ n, s.pc (.closer n) ≠ .idle →
      Covers core (remaining (s.todo n) (s.pc (.closer n))) := by
    intro n hn
    rcases hr.core with rfl | ⟨a, he, -, -⟩
    · exact h.covers n hn
    · exact h.closers_stable he hn
  have hlisted : ∀ n, ∀ c ∈ s.todo n, (core.life c).ctl.state ≠ .created := by
    intro n c hc
    rcases hr.core with rfl | ⟨a, he, -, -⟩
    · exact h.listed n c hc
    · exact admitted_stable (h.listed n c hc) h.coreInv he
  refine ⟨hcore, ?_, forall_goto hr.ann hother, fun n hn => ?_, fun n hn => ?_, hlisted⟩
  · have hmoves := hr.gate
    simp only [held_goto]
    cases op with
    | keep =>
      obtain rfl := Option.some.inj hg
      exact h.gates.keep hmoves.symm
    | lock g =>
      simp only [GateOp.apply] at hg
      split at hg <;> cases hg
      rw [hmoves.2]
      exact h.gates.acquire ‹_› hmoves.1
    | unlock g =>
      cases hg
      rw [hmoves.2]
      exact h.gates.release hmoves.1
  · by_cases ht : t = .closer n
    · subst ht
      have hgone := hr.ann.gone
      rcases closer_exec (h.ann _) hx with ⟨c, p, p', hpc, hp, rfl⟩ | ⟨c, hpc, rfl⟩
      · have hcov := hcovers n (by rw [hpc]; nofun)
        rw [hpc] at hcov
        have hcov : Covers core (c :: s.todo n) := by
          cases p with
          | returned ret => exact absurd rfl (hp ret)
          | _ => exact hcov
        simp only [State.goto, Function.update_self]
        cases p' with
        | returned ret => exact hcov.returned (Core.reachable_inv hcore) hgone
        | _ => exact hcov
      · have hcov := hcovers n (by rw [hpc]; nofun)
        rw [hpc] at hcov
        simpa [State.goto, remaining] using hcov
    · have ht : Tid.closer n ≠ t := fun he => ht he.symm
      simp only [State.goto, Function.update_of_ne ht] at hn ⊢
      exact hcovers n hn
  · by_cases ht : t = .closer n
    · subst ht
      simp only [State.goto, Function.update_self] at hn
      rcases closer_exec (h.ann _) hx with ⟨c, p, p', -, -, rfl⟩ | ⟨c, -, rfl⟩ <;>
        rcases hn with hn | hn <;> cases hn
    · have ht : Tid.closer n ≠ t := fun he => ht he.symm
      simp only [State.goto, Function.update_of_ne ht] at hn
      exact h.empty n hn

/-- An operation by no goroutine of the manager, or by one that stays where it is. -/
theorem Inv.operation (h : Inv env s) {o : Option Tid} {a : CoreAction} {core : Core}
    (hs : Core.step env s.core a = some core) (hd : Does s.lifeFree s.core o none a core)
    (ho : ∀ t, o = some t → Ann env core t (s.pc t)) : Inv env { s with core := core } := by
  have he := h.coreInv.effect hs
  refine ⟨h.core.next hs, h.gates, fun t => ?_, fun n hn => h.closers_stable he hn, h.empty,
    fun n c hc => admitted_stable (h.listed n c hc) h.coreInv he⟩
  by_cases ht : o = some t
  · exact ho t ht
  · exact h.others he hd (fun _ _ _ _ => nofun) ht

/-- A goroutine moves on, holding what it held. -/
theorem Inv.goto (h : Inv env s) {t : Tid} {pc' : Pc} (hheld : held (s.pc t) = held pc')
    (hann : Ann env s.core t pc')
    (hcloser : ∀ n, t = .closer n →
      Covers s.core (remaining (s.todo n) pc') ∧ ¬ (pc' = .idle ∨ pc' = .done)) :
    Inv env (s.goto t pc') := by
  refine ⟨h.core, ?_, forall_goto hann fun t' _ => h.ann t', fun n hn => ?_, fun n hn => ?_,
    h.listed⟩
  · simp only [held_goto]
    exact h.gates.keep hheld
  · by_cases ht : t = .closer n
    · subst ht
      simpa [State.goto] using (hcloser n rfl).1
    · have ht : Tid.closer n ≠ t := fun he => ht he.symm
      simp only [State.goto, Function.update_of_ne ht] at hn ⊢
      exact h.covers n hn
  · by_cases ht : t = .closer n
    · subst ht
      simp only [State.goto, Function.update_self] at hn
      exact absurd hn (hcloser n rfl).2
    · have ht : Tid.closer n ≠ t := fun he => ht he.symm
      simp only [State.goto, Function.update_of_ne ht] at hn
      exact h.empty n hn

/-- The loop of `Close` goes on with a list that covers all current controls. -/
theorem Inv.closeNext (h : Inv env s) {n : Nat} {l : List Nat}
    (hheld : held (s.pc (.closer n)) = none) (hclosed : s.core.closed = true)
    (hcov : Covers s.core l) (hl : ∀ c ∈ l, (s.core.life c).ctl.state ≠ .created)
    (htodo : l = [] → s.todo n = []) :
    Inv env (s.closeNext n l) := by
  have hgates : ∀ pc', held pc' = none →
      Exclusive s.gate (fun t' => held ((s.goto (.closer n) pc').pc t')) := by
    intro pc' hpc
    simp only [held_goto]
    exact h.gates.keep (hheld.trans hpc.symm)
  have hann : ∀ pc', Ann env s.core (.closer n) pc' →
      ∀ t, Ann env s.core t ((s.goto (.closer n) pc').pc t) :=
    fun pc' hpc => forall_goto hpc fun t _ => h.ann t
  have hne : ∀ k, k ≠ n → Tid.closer k ≠ .closer n := fun k hk he => hk (Tid.closer.inj he)
  cases l with
  | nil =>
    have hempty : Covers s.core [] := hcov
    refine ⟨h.core, hgates _ rfl, hann _ ⟨trivial, trivial, trivial, trivial, trivial, hclosed⟩,
      fun k hk => ?_, fun k hk => ?_, h.listed⟩
    · by_cases hkn : k = n
      · subst hkn
        intro r e hm
        exact absurd (hempty r e hm) List.not_mem_nil
      · simp only [State.closeNext, State.goto, Function.update_of_ne (hne k hkn)] at hk ⊢
        exact h.covers k hk
    · by_cases hkn : k = n
      · subst hkn
        exact htodo rfl
      · simp only [State.closeNext, State.goto, Function.update_of_ne (hne k hkn)] at hk
        exact h.empty k hk
  | cons c rest =>
    have hc := hl c List.mem_cons_self
    refine ⟨h.core, hgates _ rfl,
      hann _ ⟨Or.inr (Or.inr ⟨n, rfl⟩), trivial, trivial, trivial, trivial, hclosed, hc⟩,
      fun k hk => ?_, fun k hk => ?_, fun k d hd => ?_⟩
    · by_cases hkn : k = n
      · subst hkn
        simpa [State.closeNext, State.goto, remaining] using hcov
      · simp only [State.closeNext, State.goto, Function.update_of_ne (hne k hkn),
          Function.update_of_ne hkn] at hk ⊢
        exact h.covers k hk
    · by_cases hkn : k = n
      · subst hkn
        simp [State.closeNext, State.goto] at hk
      · simp only [State.closeNext, State.goto, Function.update_of_ne (hne k hkn),
          Function.update_of_ne hkn] at hk ⊢
        exact h.empty k hk
    · by_cases hkn : k = n
      · subst hkn
        simp only [State.closeNext, Function.update_self] at hd
        exact hl d (List.mem_cons_of_mem c hd)
      · simp only [State.closeNext, Function.update_of_ne hkn] at hd
        exact h.listed k d hd

/-- A login goes on between two methods of the manager. -/
theorem Inv.resume_login (h : Inv env s) {c : Nat} (hs : resume env s (.login c) = some s') :
    Inv env s' := by
  have hann := h.ann (.login c)
  have hmove : ∀ pc', held (s.pc (.login c)) = none → held pc' = none →
      Ann env s.core (.login c) pc' → Inv env (s.goto (.login c) pc') :=
    fun pc' hh hh' ha => h.goto (hh.trans hh'.symm) ha nofun
  have hremove : ∀ {m p}, s.pc (.login c) = .call m (.returned p) →
      (s.core.life c).worker = .off → s.core.handedOff c = true →
      Inv env (s.goto (.login c) (.call (.remove c) .lookup)) := by
    intro m p hpc hoff hho
    exact hmove _ (by rw [hpc]; rfl) rfl
      ⟨Or.inl rfl, trivial, trivial, trivial, trivial, hoff, Or.inl hho⟩
  simp only [resume] at hs
  split at hs
  · rename_i hpc
    rw [hpc] at hann
    split at hs <;> cases hs
    exact hmove _ (by rw [hpc]; rfl) rfl ⟨rfl, trivial, trivial, trivial, trivial, hann.actor⟩
  · rename_i hpc
    rw [hpc] at hann
    cases hs
    obtain ⟨hho, hoff⟩ := hann.actor
    exact hmove _ (by rw [hpc]; rfl) rfl
      ⟨rfl, trivial, trivial, trivial, trivial, hho, by simp [hoff, committed]⟩
  · rename_i hpc
    rw [hpc] at hann
    cases hs
    exact hremove hpc hann.actor.2 hann.actor.1
  · rename_i hpc
    cases hs
    exact hmove _ (by rw [hpc]; rfl) rfl ⟨trivial, trivial, trivial, trivial, trivial, trivial⟩
  · rename_i d ret hret hpc
    rw [hpc] at hann
    cases hs
    obtain ⟨hho, hoff⟩ := hann.actor
    refine hremove hpc (hoff.mpr ?_) hho
    unfold committed
    split
    · rename_i heq
      cases heq
    · rename_i heq
      cases heq
      exact absurd rfl hret
    · rfl
  · rename_i d ret hpc
    rw [hpc] at hann
    cases hs
    obtain rfl : d = c := by
      rcases hann.fits with hd | hd | ⟨n, hd⟩ <;> cases hd
      rfl
    exact hmove _ (by rw [hpc]; rfl) rfl
      ⟨Or.inl rfl, trivial, hann.gone, trivial, trivial, trivial⟩
  · rename_i hpc
    cases hs
    exact hmove _ (by rw [hpc]; rfl) rfl ⟨trivial, trivial, trivial, trivial, trivial, trivial⟩
  · cases hs

theorem Inv.resume (h : Inv env s) {t : Tid} (hs : resume env s t = some s') : Inv env s' := by
  cases t with
  | login c => exact h.resume_login hs
  | worker c =>
    simp only [ControlManager.resume] at hs
    split at hs <;> cases hs
    rename_i hidle
    exact h.goto (by rw [hidle.1]; rfl)
      ⟨Or.inr (Or.inl rfl), trivial, trivial, trivial, trivial, hidle.2.1⟩ nofun
  | conn n =>
    simp only [ControlManager.resume] at hs
    split at hs
    · rename_i hpc
      cases hs
      exact h.goto (by rw [hpc]; rfl) ⟨rfl, trivial, trivial, trivial, trivial, trivial⟩ nofun
    · cases hs
  | closer n =>
    have hann := h.ann (.closer n)
    have hcov := h.covers n
    simp only [ControlManager.resume] at hs
    split at hs
    · rename_i c ret hpc
      rw [hpc] at hann hcov
      cases hs
      refine h.goto (by rw [hpc]; rfl)
        ⟨Or.inr ⟨n, rfl⟩, trivial, hann.gone, trivial, trivial, hann.actor⟩ (fun k hk => ?_)
      cases hk
      exact ⟨hcov nofun, nofun⟩
    · rename_i hpc
      rw [hpc] at hann hcov
      cases hs
      exact h.closeNext (by rw [hpc]; rfl) hann.actor (hcov nofun) (h.listed n) (fun h => h)
    · cases hs

/-- The write of the success response ends, one way or the other. -/
theorem Inv.write (h : Inv env s) {c : Nat} {err : Option String}
    (hs : step env s (.write c err) = some s') : Inv env s' := by
  have hann := h.ann (.login c)
  simp only [step] at hs
  split at hs
  · rename_i d e g hpc
    rw [hpc] at hann
    obtain rfl : d = c := by
      have hfits := hann.fits
      cases hfits
      rfl
    split at hs <;> cases hs
    · exact h.goto (by rw [hpc]; rfl)
        ⟨hann.fits, hann.entry, trivial, hann.writing, trivial, hann.actor⟩ nofun
    · exact h.goto (by rw [hpc]; rfl)
        ⟨hann.fits, ⟨hann.entry.1, fun _ => hann.entry.2⟩, trivial, trivial, trivial, hann.actor⟩
        nofun
  · cases hs

/-- `Close` sets the flag and takes its list in one section. -/
theorem Inv.cmClose (h : Inv env s) {n : Nat} {order : List Nat}
    (hs : step env s (.cmClose n order) = some s') : Inv env s' := by
  simp only [step] at hs
  split at hs <;> cases hs
  rename_i hpc
  have hset : Inv env { s with core := { s.core with closed := true } } := by
    refine h.operation (o := some (.closer n)) (a := .cmClose) rfl
      ⟨nofun, nofun, fun _ _ hr => Or.inl hr⟩ (fun t ht => ?_)
    cases ht
    rw [hpc.1]
    exact ⟨trivial, trivial, trivial, trivial, trivial, trivial⟩
  have hmem : ∀ r e, s.core.ctlsByRunID.get? r = some e → (s.core.entries e).ctl ∈ order := by
    intro r e hm
    rw [hpc.2.mem_iff, List.mem_map]
    exact ⟨(r, e), (GoMap.mem_toList_iff _ r e).mpr hm, rfl⟩
  refine hset.closeNext (by rw [hpc.1]; rfl) rfl hmem (fun c hc => ?_) (fun _ => ?_)
  · rw [hpc.2.mem_iff, List.mem_map] at hc
    obtain ⟨⟨r, e⟩, hre, rfl⟩ := hc
    have hm := (GoMap.mem_toList_iff _ r e).mp hre
    exact h.coreInv.entry_admitted e (h.coreInv.entry_lt r e hm)
  · exact h.empty n (Or.inl hpc.1)

theorem Inv.ctlClose (h : Inv env s) {c : Nat}
    (hs : step env s (.ctlClose c) = some s') : Inv env s' := by
  simp only [step] at hs
  split at hs <;> cases hs
  rename_i hon
  have hadm : (s.core.life c).ctl.state ≠ .created := fun hc =>
    hon.1 ((h.coreInv.life c).worker_off (Or.inl hc))
  refine h.operation (o := none) (a := .close c) ?_
    ⟨nofun, fun d hd => ?_, fun _ _ hr => Or.inl hr⟩ nofun
  · simp only [Core.step, if_pos (show s.core.mayClose env c from Or.inl hon.1)]
  · cases hd
    exact ⟨Or.inl hadm, hon.2⟩

/-- A goroutine of a worker that is not in `Remove` has nothing to say about it. -/
theorem Ann.worker_any {core core' : Core} {c : Nat} {pc : Pc} (h : Ann env core (.worker c) pc)
    (hw : (core.life c).worker ≠ .remove) : Ann env core' (.worker c) pc := by
  have hfits := h.fits
  have hactor := h.actor
  cases pc with
  | call m p => exact absurd hactor hw
  | close d => rcases hfits with hf | ⟨n, hf⟩ <;> cases hf
  | idle => exact ⟨trivial, trivial, trivial, trivial, trivial, trivial⟩
  | closed => exact ⟨trivial, trivial, trivial, trivial, trivial, trivial⟩
  | done => exact ⟨trivial, trivial, trivial, trivial, trivial, trivial⟩
  | _ => cases hfits

theorem Inv.worker (h : Inv env s) {c : Nat} {order : List Nat}
    (hs : step env s (.worker c order) = some s') : Inv env s' := by
  simp only [step] at hs
  split at hs
  · rename_i hready
    simp only [Option.map_eq_some_iff] at hs
    obtain ⟨⟨l, pxy⟩, hw, rfl⟩ := hs
    have hstep : Core.step env s.core (.worker c order) =
        some { s.core.setLife c l with pxy := pxy } := by
      simp only [Core.step, hw, Option.map_some]
    have hdoes : Does s.lifeFree s.core (some (.worker c)) none (.worker c order)
        { s.core.setLife c l with pxy := pxy } :=
      ⟨fun _ ht => ht, by simp, fun _ _ hr => Or.inl hr⟩
    by_cases hrm : (s.core.life c).worker = .remove
    · -- `Remove` has returned, so this goroutine is done with the manager
      have hheld : held (s.pc (.worker c)) = none := by
        have hready := hready
        simp only [workerReady, hrm] at hready
        split at hready
        · rename_i hpc
          rw [hpc]
          rfl
        · have hm := (h.coreInv.life c).managed (Or.inr (by simp [hrm]))
          rw [hm] at hready
          cases hready
      have hgo : Inv env (s.goto (.worker c) .done) :=
        h.goto hheld ⟨trivial, trivial, trivial, trivial, trivial, trivial⟩ (by simp)
      simp only [if_pos hrm]
      refine hgo.operation (o := some (.worker c)) hstep ?_ (fun t ht => ?_)
      · exact ⟨hdoes.owner, by simp, hdoes.map⟩
      · cases ht
        simp only [State.goto, Function.update_self]
        exact ⟨trivial, trivial, trivial, trivial, trivial, trivial⟩
    · simp only [if_neg hrm]
      refine h.operation hstep hdoes (fun t ht => ?_)
      cases ht
      exact (h.ann (.worker c)).worker_any hrm
  · cases hs

theorem inv_init : Inv env (init env) := by
  refine ⟨System.reachable_init, fun g t => ?_, fun t => ?_, fun n hn => absurd rfl hn,
    fun _ _ => rfl, nofun⟩
  · simp [init, held]
  · refine ⟨trivial, trivial, trivial, trivial, trivial, ?_⟩
    cases t with
    | login c => exact (env.control_fresh c).state
    | _ => trivial

theorem inv_step {a : Action} (h : Inv env s) (hs : step env s a = some s') : Inv env s' := by
  cases a with
  | next t now =>
    simp only [step, Option.bind_eq_some_iff, Option.map_eq_some_iff] at hs
    obtain ⟨⟨core, pc', op⟩, hx, gate, hg, rfl⟩ := hs
    exact h.next hx hg
  | resume t => exact h.resume hs
  | write c err => exact h.write hs
  | newWorkConn n r =>
    simp only [step] at hs
    split at hs <;> cases hs
    rename_i hpc
    exact h.goto (by rw [hpc]; rfl) ⟨⟨n, rfl⟩, trivial, trivial, trivial, trivial, trivial⟩
      (by simp)
  | cmClose n order => exact h.cmClose hs
  | ctlClose c => exact h.ctlClose hs
  | getWorkConn c =>
    simp only [step, Option.map_eq_some_iff] at hs
    obtain ⟨l, hl, rfl⟩ := hs
    refine h.operation (o := none) (a := .getConn c) ?_
      ⟨by intros; contradiction, by intros; contradiction, fun _ _ hr => Or.inl hr⟩
      (by intros; contradiction)
    simp only [Core.step, hl, Option.map_some]
  | worker c order => exact h.worker hs
  | pxy a =>
    simp only [step] at hs
    split at hs
    · rename_i ha
      simp only [Option.map_eq_some_iff] at hs
      obtain ⟨pxy, hp, rfl⟩ := hs
      refine h.operation (o := none) (a := .pxy a) ?_
        ⟨by intros; contradiction, by intros; contradiction, fun _ _ hr => Or.inl hr⟩
        (by intros; contradiction)
      simp only [Core.step, if_pos ha, hp, Option.map_some]
    · cases hs

theorem reachable_inv (h : (system env).Reachable s) : Inv env s :=
  System.invariant (I := Inv env) inv_init (fun _ _ _ _ hi hs => inv_step hi hs) h

theorem resume_core {t : Tid} (hs : resume env s t = some s') : s'.core = s.core := by
  cases t with
  | login c =>
    simp only [resume] at hs
    repeat' split at hs
    all_goals
      cases hs
      try rfl
  | worker c =>
    simp only [resume] at hs
    split at hs <;> cases hs
    rfl
  | conn n =>
    simp only [resume] at hs
    split at hs <;> cases hs
    rfl
  | closer n =>
    simp only [resume] at hs
    split at hs
    · cases hs
      rfl
    · cases hs
      cases s.todo n <;> rfl
    · cases hs

theorem closeNext_pc {n : Nat} {l : List Nat} {t : Tid} (ht : t ≠ .closer n) :
    (s.closeNext n l).pc t = s.pc t := by
  cases l <;> simp [State.closeNext, State.goto, ht]

theorem resume_pc {t t' : Tid} (hs : resume env s t = some s') (ht : t' ≠ t) :
    s'.pc t' = s.pc t' := by
  cases t with
  | login c =>
    simp only [resume] at hs
    repeat' split at hs
    all_goals
      cases hs
      try simp [State.goto, ht]
  | worker c =>
    simp only [resume] at hs
    split at hs <;> cases hs
    simp [State.goto, ht]
  | conn n =>
    simp only [resume] at hs
    split at hs <;> cases hs
    simp [State.goto, ht]
  | closer n =>
    simp only [resume] at hs
    split at hs
    · cases hs
      simp [State.goto, ht]
    · cases hs
      exact closeNext_pc ht
    · cases hs

/-- A step moves no other goroutine. -/
theorem step_pc {a : Action} {t : Tid} (hs : step env s a = some s') (ht : a.thread? ≠ some t) :
    s'.pc t = s.pc t := by
  cases a with
  | next t' now =>
    have ht : t ≠ t' := fun he => ht (by rw [he]; rfl)
    simp only [step, Option.bind_eq_some_iff, Option.map_eq_some_iff] at hs
    obtain ⟨_, -, _, -, rfl⟩ := hs
    simp [State.goto, ht]
  | resume t' => exact resume_pc hs fun he => ht (by rw [he]; rfl)
  | write c err =>
    have hne : t ≠ .login c := fun he => ht (by rw [he]; rfl)
    simp only [step] at hs
    split at hs
    · split at hs <;> cases hs <;> simp [State.goto, hne]
    · cases hs
  | newWorkConn n r =>
    have ht : t ≠ .conn n := fun he => ht (by rw [he]; rfl)
    simp only [step] at hs
    split at hs <;> cases hs
    simp [State.goto, ht]
  | cmClose n order =>
    have ht : t ≠ .closer n := fun he => ht (by rw [he]; rfl)
    simp only [step] at hs
    split at hs <;> cases hs
    exact closeNext_pc ht
  | ctlClose c =>
    simp only [step] at hs
    split at hs <;> cases hs
    rfl
  | getWorkConn c =>
    simp only [step, Option.map_eq_some_iff] at hs
    obtain ⟨l, -, rfl⟩ := hs
    rfl
  | worker c order =>
    have ht : t ≠ .worker c := fun he => ht (by rw [he]; rfl)
    simp only [step] at hs
    split at hs
    · simp only [Option.map_eq_some_iff] at hs
      obtain ⟨_, -, rfl⟩ := hs
      dsimp only
      split
      · simp [ht]
      · rfl
    · cases hs
  | pxy a =>
    simp only [step] at hs
    split at hs
    · simp only [Option.map_eq_some_iff] at hs
      obtain ⟨_, -, rfl⟩ := hs
      rfl
    · cases hs

/-- The operation that a step performs: only its goroutine's own gate lets it change
who is current. -/
structure Performs (env : Env) (s : State) (a : Action) (ca : CoreAction) (core : Core) : Prop where
  effect : Effect env s.core ca core
  does : ∃ lock, Does s.lifeFree s.core a.thread? lock ca core ∧
    ∀ g, lock = some g → ∃ t, a.thread? = some t ∧ held (s.pc t) = some g

/-- Each step is one operation of `Core`, or none. -/
theorem Inv.core_step {a : Action} (h : Inv env s) (hs : step env s a = some s') :
    s'.core = s.core ∨ ∃ ca, Performs env s a ca s'.core := by
  cases a with
  | next t now =>
    simp only [step, Option.bind_eq_some_iff, Option.map_eq_some_iff] at hs
    obtain ⟨⟨core, pc', op⟩, hx, gate, hg, rfl⟩ := hs
    rcases (exec_runs h.coreInv (h.ann t) hx).core with heq | ⟨ca, he, -, hd⟩
    · exact Or.inl heq
    · exact Or.inr ⟨ca, he, _, hd, fun g hg => ⟨t, rfl, hg⟩⟩
  | resume t => exact Or.inl (resume_core hs)
  | write c err =>
    simp only [step] at hs
    split at hs
    · split at hs <;> cases hs <;> exact Or.inl rfl
    · cases hs
  | newWorkConn n r =>
    simp only [step] at hs
    split at hs <;> cases hs
    exact Or.inl rfl
  | cmClose n order =>
    simp only [step] at hs
    split at hs <;> cases hs
    have hcore : ({ s with core := { s.core with closed := true } }.closeNext n order).core =
        { s.core with closed := true } := by
      cases order <;> rfl
    rw [hcore]
    exact Or.inr ⟨.cmClose, .cmClose, none, ⟨nofun, nofun, fun _ _ hr => Or.inl hr⟩, nofun⟩
  | ctlClose c =>
    simp only [step] at hs
    split at hs <;> cases hs
    rename_i hon
    refine Or.inr ⟨.close c, .close c (Or.inl hon.1), none,
      ⟨nofun, fun d hd => ?_, fun _ _ hr => Or.inl hr⟩, nofun⟩
    cases hd
    exact ⟨Or.inl fun hc => hon.1 ((h.coreInv.life c).worker_off (Or.inl hc)), hon.2⟩
  | getWorkConn c =>
    simp only [step, Option.map_eq_some_iff] at hs
    obtain ⟨l, hl, rfl⟩ := hs
    exact Or.inr ⟨_, .getConn c l hl, none, ⟨nofun, nofun, fun _ _ hr => Or.inl hr⟩, nofun⟩
  | worker c order =>
    simp only [step] at hs
    split at hs
    · simp only [Option.map_eq_some_iff] at hs
      obtain ⟨⟨l, pxy⟩, hw, rfl⟩ := hs
      exact Or.inr ⟨_, .worker c order l pxy hw, none,
        ⟨fun _ ht => ht, nofun, fun _ _ hr => Or.inl hr⟩, nofun⟩
    · cases hs
  | pxy a =>
    simp only [step] at hs
    split at hs
    · rename_i ha
      simp only [Option.map_eq_some_iff] at hs
      obtain ⟨pxy, hp, rfl⟩ := hs
      exact Or.inr ⟨_, .pxy a pxy ha hp, none, ⟨nofun, nofun, fun _ _ hr => Or.inl hr⟩,
        nofun⟩
    · cases hs

/-- What every operation of `Core` keeps is kept along every run. -/
theorem Reaches.core_stable {P : Core → Prop}
    (hP : ∀ core ca core', Core.Inv env core → P core → Effect env core ca core' → P core')
    (h : (system env).Reaches s s') (hr : (system env).Reachable s) (hp : P s.core) :
    P s'.core := by
  refine System.Reaches.stable (P := fun x => P x.core) ?_ h hr hp
  intro x a x' hx hpx hs
  have hi := reachable_inv hx
  rcases hi.core_step hs with heq | ⟨ca, he⟩
  · rw [heq]
    exact hpx
  · exact hP _ ca _ hi.coreInv hpx he.effect

end FrpXtcp.Server.ControlManager

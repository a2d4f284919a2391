import FrpXtcp.Server.LifecycleOrder
import FrpXtcp.Server.ManagerCore

/-!
# Entries, controls and the map of current controls

Every control of the manager lives the life of `Lifecycle`, so what is known of one
control holds of each of them. On top of that stand the facts about the manager's
own tables: which entries exist, whose they are, and which controls can be running.
-/
namespace FrpXtcp.Server.Core

open FrpXtcp.Lib
open FrpXtcp.Server.Lifecycle (Good)

variable {env : Env} {s s' : Core} {c : Nat}

@[simp] theorem setLife_self (l : Life) : (s.setLife c l).life c = l := by
  simp [setLife]

theorem setLife_ne (l : Life) {d : Nat} (h : d ≠ c) : (s.setLife c l).life d = s.life d := by
  simp [setLife, h]

@[simp] theorem setCtl_self (ctl : Control) :
    (s.setCtl c ctl).life c = { s.life c with ctl := ctl } := by
  simp [setCtl]

theorem setCtl_ne (ctl : Control) {d : Nat} (h : d ≠ c) :
    (s.setCtl c ctl).life d = s.life d := setLife_ne _ h

theorem current?_eq_some {r : String} :
    s.current? r = some c ↔ ∃ e, s.ctlsByRunID.get? r = some e ∧ (s.entries e).ctl = c := by
  simp [current?]

/-- A section of `Add` that admits the control `c` in place of `old`. -/
structure Admits (env : Env) (s : Core) (c : Nat) (old : Option Nat) (s' : Core) : Prop where
  created : (s.life c).ctl.state = .created
  entry_ctl : (s'.entries s.nextEntry).ctl = c
  entry_id : (s'.entries s.nextEntry).id = (s'.life c).ctl.controlID
  entry_gate : ∀ e ∈ old, (s'.entries s.nextEntry).runMu = (s.entries e).runMu
  entry_fresh_gate : old = none → (s'.entries s.nextEntry).runMu = s.nextGate
  entry_online : ∀ e ∈ old,
    (s'.entries s.nextEntry).registryOnline = (s.entries e).registryOnline ∧
    (s'.entries s.nextEntry).registryControlID = (s.entries e).registryControlID
  entries : ∀ e, e ≠ s.nextEntry → s'.entries e = s.entries e
  nextEntry : s'.nextEntry = s.nextEntry + 1
  nextGate : s.nextGate ≤ s'.nextGate
  fresh_gate : old = none → s'.nextGate = s.nextGate + 1
  map : s'.ctlsByRunID = s.ctlsByRunID.insert (env.runID c) s.nextEntry
  admitted : ∃ id ctl b, (s.life c).ctl.admitTo (env.runID c) id = .ok ctl ∧
    s'.life c = { s.life c with ctl := ctl.setHandoffBarrier b }
  state : (s'.life c).ctl.state = .pending
  worker : (s'.life c).worker = (s.life c).worker
  barrier : ∀ e ∈ old, (s'.life c).ctl.handoffBarrier =
    ((s.life (s.entries e).ctl).ctl.markReplaced (s.entries e).ctl).2
  replaced : ∀ e ∈ old, s'.life (s.entries e).ctl = { s.life (s.entries e).ctl with
    ctl := ((s.life (s.entries e).ctl).ctl.markReplaced (s.entries e).ctl).1 }
  others : ∀ d, d ≠ c → (∀ e ∈ old, d ≠ (s.entries e).ctl) → s'.life d = s.life d
  pxy : s'.pxy = s.pxy
  handedOff : s'.handedOff = s.handedOff
  closed : s'.closed = s.closed
  registry : s'.registry = s.registry

/-- `Add` refuses a control that is not new, or admits it. -/
theorem admitEntry_cases (old : Option Nat)
    (hne : (s.life c).ctl.state = .created → ∀ e ∈ old, (s.entries e).ctl ≠ c) :
    ((s.life c).ctl.state ≠ .created ∧ (s.admitEntry env c old).2.isSome = true ∧
      (s.admitEntry env c old).1 = { s with nextControlID := s.nextControlID + 1 }) ∨
    ((s.admitEntry env c old).2 = none ∧ Admits env s c old (s.admitEntry env c old).1) := by
  by_cases hc : (s.life c).ctl.state = .created
  · refine Or.inr ?_
    have ha : ∀ id, (s.life c).ctl.admitTo (env.runID c) id =
        .ok { (s.life c).ctl with managed := true, controlID := id, state := .pending } := by
      intro id
      simp [Control.admitTo, hc]
    cases old with
    | none =>
      simp only [admitEntry, ha]
      refine ⟨trivial, ?_⟩
      constructor
      case admitted =>
        refine ⟨s.nextControlID + 1, _, (s.life c).ctl.handoffBarrier, ha _, ?_⟩
        simp [setCtl, setLife, Control.setHandoffBarrier]
      all_goals simp_all [setCtl, setLife]
    | some e =>
      have hec : (s.entries e).ctl ≠ c := hne hc e rfl
      have hce : c ≠ (s.entries e).ctl := hec.symm
      simp only [admitEntry, ha]
      refine ⟨trivial, ?_⟩
      constructor
      case admitted =>
        refine ⟨s.nextControlID + 1, _,
          ((s.life (s.entries e).ctl).ctl.markReplaced (s.entries e).ctl).2, ha _, ?_⟩
        simp [setCtl, setLife, Function.update, hce, hec, Control.setHandoffBarrier]
      all_goals simp_all [setCtl, setLife, Function.update, Control.setHandoffBarrier]
  · refine Or.inl ⟨hc, ?_, ?_⟩ <;> simp [admitEntry, Control.admitTo, hc]

/-- `Activate` registers the pending current control, or changes nothing. -/
theorem activate_cases (env : Env) (s : Core) (c e now : Nat) :
    (s.activate env c e now).1 = s ∨
    (s.closed = false ∧ s.ctlsByRunID.get? (env.runID c) = some e ∧ s.owns e c ∧
      (s.life c).ctl.state = .pending ∧ (s.activate env c e now).2 = (true, none) ∧
      (Registry.registerWithControlID s.registry (registration env c (s.entries e).id) now).2.2
        = false ∧
      (s.activate env c e now).1 =
        { s.setCtl c (s.life c).ctl.activate with
          registry := (Registry.registerWithControlID s.registry
            (registration env c (s.entries e).id) now).1
          entries := Function.update s.entries e
            { s.entries e with
              registryOnline := true
              registryControlID := (s.entries e).id } }) := by
  unfold activate
  split
  · exact Or.inl rfl
  · rename_i hcur
    simp only [not_or, Bool.not_eq_true, ne_eq, not_not] at hcur
    split
    · exact Or.inl rfl
    · rename_i hst
      split
      · exact Or.inl rfl
      · dsimp only
        split
        · rename_i hconf
          refine Or.inl ?_
          rcases Registry.registerWithControlID_cases s.registry
            (registration env c (s.entries e).id) now with ⟨he, -⟩ | ⟨-, hf, -⟩
          · rw [he]
          · rw [hf] at hconf
            cases hconf
        · rename_i hconf
          refine Or.inr ⟨hcur.1, hcur.2.1, hcur.2.2, by simpa using hst, rfl, by simpa using hconf,
            rfl⟩

/-- `Activate` answers `(true, nil)` only for the pending current control of an open
manager. -/
theorem activate_true {e now : Nat} (h : (s.activate env c e now).2 = (true, none)) :
    s.closed = false ∧ s.ctlsByRunID.get? (env.runID c) = some e ∧ s.owns e c ∧
      (s.life c).ctl.state = .pending := by
  unfold activate at h
  split at h
  · cases h
  · rename_i hcur
    simp only [not_or, Bool.not_eq_true, ne_eq, not_not] at hcur
    split at h
    · cases h
    · rename_i hst
      exact ⟨hcur.1, hcur.2.1, hcur.2.2, by simpa using hst⟩

/-- `Remove` deletes the entry of the current control, or changes nothing. -/
theorem remove_cases (env : Env) (s : Core) (c e now : Nat) :
    ((s.remove env c e now) = (s, false) ∧
      ¬ (s.ctlsByRunID.get? (env.runID c) = some e ∧ s.owns e c)) ∨
    (s.ctlsByRunID.get? (env.runID c) = some e ∧ s.owns e c ∧
      (s.remove env c e now).2 = true ∧
      (s.remove env c e now).1 =
        { s with
          ctlsByRunID := s.ctlsByRunID.erase (env.runID c)
          registry :=
            if (s.entries e).registryOnline then
              Registry.markOfflineByRunIDAndControlID s.registry (env.runID c)
                (s.entries e).registryControlID now
            else s.registry }) := by
  unfold remove
  split
  · rename_i h
    refine Or.inl ⟨rfl, fun hx => ?_⟩
    rcases h with h | h
    · exact h hx.1
    · exact h hx.2
  · rename_i h
    simp only [not_or, ne_eq, not_not] at h
    exact Or.inr ⟨h.1, h.2, rfl, rfl⟩

/-- What holds of the manager's tables after any sequence of operations. -/
structure Inv (env : Env) (s : Core) : Prop where
  lives : ∀ c, (Lifecycle.system env.check c (env.control c)).Reachable ⟨s.life c, s.pxy⟩
  entry_lt : ∀ r e, s.ctlsByRunID.get? r = some e → e < s.nextEntry
  entry_run : ∀ r e, s.ctlsByRunID.get? r = some e → env.runID (s.entries e).ctl = r
  entry_id : ∀ e, e < s.nextEntry → (s.entries e).id = (s.life (s.entries e).ctl).ctl.controlID
  entry_admitted : ∀ e, e < s.nextEntry → (s.life (s.entries e).ctl).ctl.state ≠ .created
  entry_inj : ∀ e e', e < s.nextEntry → e' < s.nextEntry →
    (s.entries e).ctl = (s.entries e').ctl → e = e'
  entry_gate : ∀ e, e < s.nextEntry → (s.entries e).runMu < s.nextGate
  handed : ∀ c, s.handedOff c = true → (s.life c).ctl.state ≠ .created

namespace Inv

theorem good (h : Inv env s) (c : Nat) : Good c ⟨s.life c, s.pxy⟩ :=
  Lifecycle.reachable_good (env.control_fresh c) (h.lives c)

theorem life (h : Inv env s) (c : Nat) : Lifecycle.Inv (s.life c) := (h.good c).life

/-- The entry of a current control. -/
theorem owns_of_current (h : Inv env s) {r : String} {e : Nat}
    (he : s.ctlsByRunID.get? r = some e) : s.owns e (s.entries e).ctl :=
  ⟨rfl, h.entry_id e (h.entry_lt r e he)⟩

end Inv

theorem inv_init : Inv env (init env) := by
  refine ⟨fun c => System.reachable_init, nofun, nofun, nofun, nofun, nofun, nofun, nofun⟩

/-- What the life of control `d` is reached by, from one state of the manager to another. -/
def LifeReaches (env : Env) (s s' : Core) (d : Nat) : Prop :=
  (Lifecycle.system env.check d (env.control d)).Reaches ⟨s.life d, s.pxy⟩ ⟨s'.life d, s'.pxy⟩

/-- A step of one control. -/
theorem lifeReaches_setLife {l : Life} {a : Lifecycle.Action}
    (ha : Lifecycle.step env.check c ⟨s.life c, s.pxy⟩ a = some ⟨l, s.pxy⟩) (d : Nat) :
    LifeReaches env s (s.setLife c l) d := by
  unfold LifeReaches
  by_cases hd : d = c
  · subst hd
    rw [setLife_self]
    exact .one ha
  · rw [setLife_ne l hd]
    exact .refl

theorem lifeReaches_of_eq {d : Nat} (hl : s'.life d = s.life d) (hp : s'.pxy = s.pxy) :
    LifeReaches env s s' d := by
  unfold LifeReaches
  rw [hl, hp]
  exact .refl

/-- The goroutines of one control may take their steps in the eyes of another. -/
theorem allowed_of_worker {a : Proxy.Action PxyThread} {d : Nat} {w : WorkerPc} (hd : d ≠ c)
    (hat : a.thread = .worker c) (ho : Lifecycle.OwnThread a) :
    Lifecycle.pxyAllowed d w a = true := by
  cases a with
  | next t =>
    obtain rfl : t = .worker c := hat
    simpa [Lifecycle.pxyAllowed] using hd.symm
  | registerProxy t c' user m => simp_all [Proxy.Action.thread, Lifecycle.OwnThread]
  | closeProxy t c' name => simp_all [Proxy.Action.thread, Lifecycle.OwnThread]
  | closeProxies t c' order =>
    obtain rfl : t = .worker c := hat
    obtain rfl : c = c' := PxyThread.worker.inj ho
    simpa [Lifecycle.pxyAllowed] using hd.symm

theorem allowed_of_handler {a : Proxy.Action PxyThread} (h : s.pxyAllowed env a = true) (d : Nat) :
    Lifecycle.pxyAllowed d (s.life d).worker a = true := by
  cases a with
  | next t =>
    cases t with
    | handler c =>
      simp only [pxyAllowed, decide_eq_true_eq] at h
      by_cases hd : c = d
      · subst hd
        simp [Lifecycle.pxyAllowed, h]
      · simp [Lifecycle.pxyAllowed, hd]
    | worker c => simp [pxyAllowed] at h
  | registerProxy t c user m =>
    simp only [pxyAllowed, Bool.and_eq_true, decide_eq_true_eq] at h
    by_cases hd : c = d
    · subst hd
      simp [Lifecycle.pxyAllowed, h.1]
    · simp [Lifecycle.pxyAllowed, hd, h.1]
  | closeProxy t c name =>
    simp only [pxyAllowed, Bool.and_eq_true, decide_eq_true_eq] at h
    by_cases hd : c = d
    · subst hd
      simp [Lifecycle.pxyAllowed, h.1, h.2]
    · simp [Lifecycle.pxyAllowed, hd, h.1]
  | closeProxies t c order => simp [pxyAllowed] at h

/-- A control that was not admitted yet has no entry. -/
theorem Inv.ne_of_created (h : Inv env s) (hc : (s.life c).ctl.state = .created) {r : String} :
    ∀ e ∈ s.ctlsByRunID.get? r, (s.entries e).ctl ≠ c := by
  intro e he hec
  refine h.entry_admitted e (h.entry_lt r e he) ?_
  rw [hec]
  exact hc

theorem Inv.add_cases (h : Inv env s) (c : Nat) :
    ((s.life c).ctl.state ≠ .created ∧
      (s.admitEntry env c (s.ctlsByRunID.get? (env.runID c))).2.isSome = true ∧
      (s.admitEntry env c (s.ctlsByRunID.get? (env.runID c))).1 =
        { s with nextControlID := s.nextControlID + 1 }) ∨
    ((s.admitEntry env c (s.ctlsByRunID.get? (env.runID c))).2 = none ∧
      Admits env s c (s.ctlsByRunID.get? (env.runID c))
        (s.admitEntry env c (s.ctlsByRunID.get? (env.runID c))).1) :=
  admitEntry_cases _ fun hc => h.ne_of_created hc

/-- An admission is one step in the life of the replaced control and two in that of
the new one. -/
theorem Admits.lifeReaches {old : Option Nat} (h : Admits env s c old s')
    (hne : ∀ e ∈ old, (s.entries e).ctl ≠ c) (d : Nat) : LifeReaches env s s' d := by
  by_cases hd : d = c
  · subst hd
    obtain ⟨id, ctl, b, ha, hl⟩ := h.admitted
    unfold LifeReaches
    rw [hl, h.pxy]
    have h1 : (Lifecycle.system env.check d (env.control d)).step ⟨s.life d, s.pxy⟩
        (.admitTo (env.runID d) id) = some ⟨{ s.life d with ctl := ctl }, s.pxy⟩ := by
      simp only [Lifecycle.system, Lifecycle.step, ha]
    exact (System.Reaches.one h1).step (a := .setHandoffBarrier b) rfl
  · cases hold : old with
    | none => exact lifeReaches_of_eq (h.others d hd (by simp [hold])) h.pxy
    | some e =>
      by_cases he : d = (s.entries e).ctl
      · unfold LifeReaches
        rw [he, h.replaced e hold, h.pxy]
        exact System.Reaches.one (a := .markReplaced) rfl
      · exact lifeReaches_of_eq (h.others d hd (by simpa [hold] using he)) h.pxy

/-- Everything that an operation can do, with what it needed to be taken. -/
inductive Effect (env : Env) (s : Core) : CoreAction → Core → Prop
  | refused (c : Nat) : (s.life c).ctl.state ≠ .created →
      Effect env s (.add c) { s with nextControlID := s.nextControlID + 1 }
  | admitted (c : Nat) (s' : Core) : s.closed = false →
      Admits env s c (s.ctlsByRunID.get? (env.runID c)) s' → Effect env s (.add c) s'
  | handoff (c : Nat) : (s.life c).ctl.state ≠ .created → s.barrierDone c →
      Effect env s (.handoff c) { s with handedOff := Function.update s.handedOff c true }
  | inactive (c e now : Nat) : Effect env s (.activate c e now) s
  | activated (c e now : Nat) : s.handedOff c = true →
      s.ctlsByRunID.get? (env.runID c) = some e → s.owns e c → (s.life c).ctl.state = .pending →
      (Registry.registerWithControlID s.registry (registration env c (s.entries e).id) now).2.2
        = false →
      Effect env s (.activate c e now)
        { s.setCtl c (s.life c).ctl.activate with
          registry := (Registry.registerWithControlID s.registry
            (registration env c (s.entries e).id) now).1
          entries := Function.update s.entries e
            { s.entries e with registryOnline := true, registryControlID := (s.entries e).id } }
  | start (c : Nat) : s.handedOff c = true → s.current? (env.runID c) = some c →
      Effect env s (.start c) (s.setLife c (s.life c).start)
  | notRemoved (c e now : Nat) : Effect env s (.remove c e now) s
  | removed (c e now : Nat) : s.mayRemove c → s.ctlsByRunID.get? (env.runID c) = some e →
      s.owns e c →
      Effect env s (.remove c e now)
        { s with
          ctlsByRunID := s.ctlsByRunID.erase (env.runID c)
          registry :=
            if (s.entries e).registryOnline then
              Registry.markOfflineByRunIDAndControlID s.registry (env.runID c)
                (s.entries e).registryControlID now
            else s.registry }
  | close (c : Nat) : s.mayClose env c →
      Effect env s (.close c) (s.setCtl c (s.life c).ctl.close)
  | cmClose : Effect env s .cmClose { s with closed := true }
  | putConn (c conn : Nat) : s.current? (env.runID c) = some c →
      Effect env s (.putConn c conn) (s.setLife c ((s.life c).putConn (env.runID c) conn).1)
  | getConn (c : Nat) (l : Life) : (s.life c).getConn = some l →
      Effect env s (.getConn c) (s.setLife c l)
  | worker (c : Nat) (order : List Nat) (l : Life) (pxy : Proxy.State PxyThread) :
      (s.life c).workerStep env.check c s.pxy order = some (l, pxy) →
      Effect env s (.worker c order) { s.setLife c l with pxy := pxy }
  | pxy (a : Proxy.Action PxyThread) (pxy : Proxy.State PxyThread) :
      s.pxyAllowed env a = true → Proxy.step env.check s.pxy a = some pxy →
      Effect env s (.pxy a) { s with pxy := pxy }

theorem Inv.effect {a : CoreAction} (h : Inv env s) (hs : step env s a = some s') :
    Effect env s a s' := by
  cases a with
  | add c =>
    simp only [step] at hs
    split at hs <;> cases hs
    rename_i hopen
    rcases h.add_cases c with ⟨hc, -, he⟩ | ⟨-, ha⟩
    · rw [he]
      exact .refused c hc
    · exact .admitted c _ (by simpa using hopen) ha
  | handoff c =>
    simp only [step] at hs
    split at hs <;> cases hs
    exact .handoff c (‹_ ∧ _›).1 (‹_ ∧ _›).2
  | activate c e now =>
    simp only [step] at hs
    split at hs <;> cases hs
    rename_i hho
    rcases activate_cases env s c e now with he | ⟨-, hm, ho, hst, -, hc, he⟩
    · rw [he]
      exact .inactive c e now
    · rw [he]
      exact .activated c e now hho hm ho hst hc
  | start c =>
    simp only [step] at hs
    split at hs <;> cases hs
    exact .start c (‹_ ∧ _›).1 (‹_ ∧ _›).2
  | remove c e now =>
    simp only [step] at hs
    split at hs <;> cases hs
    rename_i hmay
    rcases remove_cases env s c e now with ⟨he, -⟩ | ⟨hm, ho, -, he⟩
    · rw [he]
      exact .notRemoved c e now
    · rw [he]
      exact .removed c e now hmay hm ho
  | close c =>
    simp only [step] at hs
    split at hs <;> cases hs
    exact .close c ‹_›
  | cmClose =>
    cases hs
    exact .cmClose
  | putConn c conn =>
    simp only [step] at hs
    split at hs <;> cases hs
    exact .putConn c conn ‹_›
  | getConn c =>
    simp only [step, Option.map_eq_some_iff] at hs
    obtain ⟨l, hg, rfl⟩ := hs
    exact .getConn c l hg
  | worker c order =>
    simp only [step, Option.map_eq_some_iff] at hs
    obtain ⟨⟨l, pxy⟩, hw, rfl⟩ := hs
    exact .worker c order l pxy hw
  | pxy a =>
    simp only [step] at hs
    split at hs
    · simp only [Option.map_eq_some_iff] at hs
      obtain ⟨pxy, hp, rfl⟩ := hs
      exact .pxy a pxy ‹_› hp
    · cases hs

/-- In every operation of the manager, each control moves as its life cycle allows. -/
theorem Inv.lifeReaches {a : CoreAction} (h : Inv env s) (hs : Effect env s a s') (d : Nat) :
    LifeReaches env s s' d := by
  cases hs with
  | admitted c _ _ ha => exact ha.lifeReaches (h.ne_of_created ha.created) d
  | activated c e now _ _ _ hst _ =>
    have hstep : Lifecycle.step env.check c ⟨s.life c, s.pxy⟩ .activate =
        some ⟨{ s.life c with ctl := (s.life c).ctl.activate }, s.pxy⟩ := by
      simp only [Lifecycle.step, if_pos hst]
    exact lifeReaches_setLife hstep d
  | start c => exact lifeReaches_setLife (a := .start) rfl d
  | close c => exact lifeReaches_setLife (a := .close) rfl d
  | putConn c conn => exact lifeReaches_setLife (a := .putConn (env.runID c) conn) rfl d
  | getConn c l hg => exact lifeReaches_setLife (a := .getConn) (by simp [Lifecycle.step, hg]) d
  | worker c order l pxy hw =>
    unfold LifeReaches
    by_cases hd : d = c
    · subst hd
      refine .one (a := .worker order) ?_
      simp [Lifecycle.system, Lifecycle.step, hw]
    · -- to the others it is a step of a goroutine on the shared tables
      have hg := h.good c
      simp only [setLife_ne l hd]
      obtain ⟨-, rfl | ⟨a, hat, ho, hp⟩⟩ := hg.own.workerStep hg.shared hw
      · exact .refl
      · refine .one (a := .pxy a) ?_
        simp only [Lifecycle.system, Lifecycle.step, allowed_of_worker hd hat ho, if_true, hp,
          Option.map_some]
  | pxy a pxy ha hp =>
    refine .one (a := .pxy a) ?_
    simp only [Lifecycle.system, Lifecycle.step, allowed_of_handler ha d, if_true, hp,
      Option.map_some]
  | _ => exact lifeReaches_of_eq rfl rfl

/-- An admitted control stays admitted, under the ID it was given. -/
theorem LifeReaches.admitted {d : Nat} (h : LifeReaches env s s' d)
    (hr : (Lifecycle.system env.check d (env.control d)).Reachable ⟨s.life d, s.pxy⟩)
    (hd : (s.life d).ctl.state ≠ .created) :
    (s'.life d).ctl.state ≠ .created ∧
      (s'.life d).ctl.controlID = (s.life d).ctl.controlID := by
  refine System.Reaches.stable
    (P := fun x => x.life.ctl.state ≠ .created ∧
      x.life.ctl.controlID = (s.life d).ctl.controlID) ?_ h hr ⟨hd, rfl⟩
  intro x a x' _ hx hs
  refine ⟨fun hc => ?_, (Lifecycle.step_controlID hs hx.1).trans hx.2⟩
  have hrank := Lifecycle.step_forward hs
  rw [hc] at hrank
  have h0 := hx.1
  cases hst : x.life.ctl.state <;> simp_all [ControlState.rank]

/-- A step that makes no entry. -/
theorem Inv.keep (h : Inv env s) (hl : ∀ d, LifeReaches env s s' d)
    (hent : ∀ e, (s'.entries e).ctl = (s.entries e).ctl ∧ (s'.entries e).id = (s.entries e).id ∧
      (s'.entries e).runMu = (s.entries e).runMu)
    (hne : s'.nextEntry = s.nextEntry) (hng : s'.nextGate = s.nextGate)
    (hmap : ∀ r e, s'.ctlsByRunID.get? r = some e → s.ctlsByRunID.get? r = some e)
    (hho : ∀ c, s'.handedOff c = true → (s.life c).ctl.state ≠ .created) : Inv env s' := by
  have hadm := fun d hd => (hl d).admitted (h.lives d) hd
  refine ⟨fun c => (hl c).reachable (h.lives c), fun r e he => ?_, fun r e he => ?_,
    fun e he => ?_, fun e he => ?_, fun e e' he he' hee => ?_, fun e he => ?_, fun c hc => ?_⟩
  · rw [hne]
    exact h.entry_lt r e (hmap r e he)
  · rw [(hent e).1]
    exact h.entry_run r e (hmap r e he)
  · rw [hne] at he
    rw [(hent e).1, (hent e).2.1, h.entry_id e he]
    exact (hadm _ (h.entry_admitted e he)).2.symm
  · rw [hne] at he
    rw [(hent e).1]
    exact (hadm _ (h.entry_admitted e he)).1
  · rw [hne] at he he'
    rw [(hent e).1, (hent e').1] at hee
    exact h.entry_inj e e' he he' hee
  · rw [hne] at he
    rw [(hent e).2.2, hng]
    exact h.entry_gate e he
  · exact (hadm c (hho c hc)).1

/-- An admission makes one entry. -/
theorem Inv.admits (h : Inv env s) (ha : Admits env s c (s.ctlsByRunID.get? (env.runID c)) s') :
    Inv env s' := by
  have hl : ∀ d, LifeReaches env s s' d := ha.lifeReaches (h.ne_of_created ha.created)
  have hadm := fun d hd => (hl d).admitted (h.lives d) hd
  have hnew : ∀ e, e < s.nextEntry → (s.entries e).ctl ≠ c := fun e he hec =>
    h.entry_admitted e he (hec ▸ ha.created)
  have hold : ∀ e, e < s'.nextEntry → e ≠ s.nextEntry → e < s.nextEntry := by
    intro e he hne
    rw [ha.nextEntry] at he
    omega
  refine ⟨fun d => (hl d).reachable (h.lives d), fun r e he => ?_, fun r e he => ?_,
    fun e he => ?_, fun e he => ?_, fun e e' he he' hee => ?_, fun e he => ?_, fun d hd => ?_⟩
  · rw [ha.map, GoMap.get?_insert] at he
    rw [ha.nextEntry]
    split at he
    · obtain rfl := Option.some.inj he
      omega
    · exact Nat.lt_succ_of_lt (h.entry_lt r e he)
  · rw [ha.map, GoMap.get?_insert] at he
    split at he
    · rename_i hr
      obtain rfl := Option.some.inj he
      rw [ha.entry_ctl, hr]
    · rw [ha.entries e (Nat.ne_of_lt (h.entry_lt r e he))]
      exact h.entry_run r e he
  · by_cases hee : e = s.nextEntry
    · rw [hee, ha.entry_ctl]
      exact ha.entry_id
    · rw [ha.entries e hee, h.entry_id e (hold e he hee)]
      exact (hadm _ (h.entry_admitted e (hold e he hee))).2.symm
  · by_cases hee : e = s.nextEntry
    · rw [hee, ha.entry_ctl, ha.state]
      simp
    · rw [ha.entries e hee]
      exact (hadm _ (h.entry_admitted e (hold e he hee))).1
  · by_cases h1 : e = s.nextEntry <;> by_cases h2 : e' = s.nextEntry
    · rw [h1, h2]
    · rw [h1, ha.entry_ctl, ha.entries e' h2] at hee
      exact absurd hee.symm (hnew e' (hold e' he' h2))
    · rw [h2, ha.entry_ctl, ha.entries e h1] at hee
      exact absurd hee (hnew e (hold e he h1))
    · rw [ha.entries e h1, ha.entries e' h2] at hee
      exact h.entry_inj e e' (hold e he h1) (hold e' he' h2) hee
  · by_cases hee : e = s.nextEntry
    · subst hee
      cases ho : s.ctlsByRunID.get? (env.runID c) with
      | none =>
        rw [ha.entry_fresh_gate ho, ha.fresh_gate ho]
        omega
      | some e =>
        rw [ha.entry_gate e ho]
        exact Nat.lt_of_lt_of_le (h.entry_gate e (h.entry_lt _ e ho)) ha.nextGate
    · rw [ha.entries e hee]
      exact Nat.lt_of_lt_of_le (h.entry_gate e (hold e he hee)) ha.nextGate
  · rw [ha.handedOff] at hd
    exact (hadm d (h.handed d hd)).1

theorem Inv.step {a : CoreAction} (h : Inv env s) (hs : Effect env s a s') : Inv env s' := by
  have hl := h.lifeReaches hs
  cases hs with
  | admitted c _ _ ha => exact h.admits ha
  | handoff c hc _ =>
    refine h.keep hl (fun _ => ⟨rfl, rfl, rfl⟩) rfl rfl (fun _ _ he => he) (fun d hd => ?_)
    by_cases hdc : d = c
    · exact hdc ▸ hc
    · exact h.handed d (by simpa [hdc] using hd)
  | activated c e now =>
    refine h.keep hl (fun e' => ?_) rfl rfl (fun _ _ he => he) h.handed
    by_cases hee : e' = e
    · subst hee
      simp
    · simp only [Function.update_of_ne hee]
      exact ⟨trivial, trivial, trivial⟩
  | removed c e now =>
    refine h.keep hl (fun _ => ⟨rfl, rfl, rfl⟩) rfl rfl (fun r e' he' => ?_) h.handed
    simp only [GoMap.get?_erase] at he'
    split at he'
    · cases he'
    · exact he'
  | inactive | notRemoved => exact h
  | _ => exact h.keep hl (fun _ => ⟨rfl, rfl, rfl⟩) rfl rfl (fun _ _ he => he) h.handed

theorem reachable_inv (h : (system env).Reachable s) : Inv env s :=
  System.invariant (I := Inv env) inv_init (fun _ _ _ _ hi hs => hi.step (hi.effect hs)) h

end FrpXtcp.Server.Core

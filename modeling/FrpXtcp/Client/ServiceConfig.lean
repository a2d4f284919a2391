import Mathlib.Logic.Function.Basic
import FrpXtcp.Lib.Transition

/-!
# Configuration updates across reconnects

`Service` (`client/service.go`) keeps the current configurations under `cfgMu` and
the installed control under `ctlMu`. The login function reads the configurations,
runs a new control with them and installs it last; `UpdateAllConfigurer` stores the
configurations first and then applies them to the control it finds. An update that
falls between the read and the install reaches neither the old control nor the new
one. Logins follow one another in the login loop and updates are serialised by
their callers, so there is one program counter of each kind.
-/
namespace FrpXtcp.Client.ServiceConfig

open FrpXtcp.Lib

universe u v

/-- The login function of `loopLoginUntilSuccess`. `Run` gives the new control its
proxies first and its visitors second. -/
inductive LoginPc (P : Type u) (V : Type v) where
  | idle
  | dialed
  | read (proxyCfgs : P) (visitorCfgs : V)
  | created (ctl : Nat) (proxyCfgs : P) (visitorCfgs : V)
  | ranProxies (ctl : Nat) (proxyCfgs : P) (visitorCfgs : V)
  | ran (ctl : Nat) (proxyCfgs : P) (visitorCfgs : V)

/-- `UpdateAllConfigurer`: `found` is past the nil test on the `ctl` it read under
the lock, and `target` is the control that the second, unlocked read of `svr.ctl`
returned. -/
inductive UpdatePc (P : Type u) (V : Type v) where
  | idle
  | called (proxyCfgs : P) (visitorCfgs : V)
  | stored (proxyCfgs : P) (visitorCfgs : V)
  | found (proxyCfgs : P) (visitorCfgs : V)
  | target (ctl : Nat) (proxyCfgs : P) (visitorCfgs : V)
  | appliedVisitors (ctl : Nat) (proxyCfgs : P) (visitorCfgs : V)

structure State (P : Type u) (V : Type v) where
  proxyCfgs : P
  visitorCfgs : V
  ctl : Option Nat
  nextCtl : Nat
  /-- The argument of the control's last `pm.UpdateAll`. -/
  lastProxies : Nat → Option P
  /-- The argument of the control's last `vm.UpdateAll`. -/
  lastVisitors : Nat → Option V
  login : LoginPc P V
  update : UpdatePc P V

inductive Action (P : Type u) (V : Type v) where
  | dial
  | readCfgs
  | newControl
  | newControlErr
  | runProxies
  | runVisitors
  | install
  | callUpdate (proxyCfgs : P) (visitorCfgs : V)
  | store
  | loadCtl
  | derefCtl
  | applyVisitors
  | applyProxies

variable {P : Type u} {V : Type v}

def init (p : P) (v : V) : State P V :=
  ⟨p, v, none, 0, fun _ => none, fun _ => none, .idle, .idle⟩

def giveProxies (s : State P V) (k : Nat) (p : P) : State P V :=
  { s with lastProxies := Function.update s.lastProxies k (some p) }

def giveVisitors (s : State P V) (k : Nat) (v : V) : State P V :=
  { s with lastVisitors := Function.update s.lastVisitors k (some v) }

def step (s : State P V) : Action P V → Option (State P V)
  | .dial =>
    match s.login with
    | .idle => some { s with login := .dialed }
    | _ => none
  | .readCfgs =>
    match s.login with
    | .dialed => some { s with login := .read s.proxyCfgs s.visitorCfgs }
    | _ => none
  | .newControl =>
    match s.login with
    | .read p v => some { s with login := .created s.nextCtl p v, nextCtl := s.nextCtl + 1 }
    | _ => none
  | .newControlErr =>
    match s.login with
    | .read _ _ => some { s with login := .idle }
    | _ => none
  | .runProxies =>
    match s.login with
    | .created k p v => some { giveProxies s k p with login := .ranProxies k p v }
    | _ => none
  | .runVisitors =>
    match s.login with
    | .ranProxies k p v => some { giveVisitors s k v with login := .ran k p v }
    | _ => none
  | .install =>
    match s.login with
    | .ran k _ _ => some { s with ctl := some k, login := .idle }
    | _ => none
  | .callUpdate p v =>
    match s.update with
    | .idle => some { s with update := .called p v }
    | _ => none
  | .store =>
    match s.update with
    | .called p v => some { s with proxyCfgs := p, visitorCfgs := v, update := .stored p v }
    | _ => none
  | .loadCtl =>
    match s.update with
    | .stored p v => some { s with update := if s.ctl.isSome then .found p v else .idle }
    | _ => none
  | .derefCtl =>
    match s.update, s.ctl with
    | .found p v, some t => some { s with update := .target t p v }
    | _, _ => none
  | .applyVisitors =>
    match s.update with
    | .target t p v => some { giveVisitors s t v with update := .appliedVisitors t p v }
    | _ => none
  | .applyProxies =>
    match s.update with
    | .appliedVisitors t p _ => some { giveProxies s t p with update := .idle }
    | _ => none

def system (p : P) (v : V) : System (State P V) (Action P V) := ⟨init p v, step⟩

/-- No login and no update is under way. -/
def Quiescent (s : State P V) : Prop := s.login = .idle ∧ s.update = .idle

/-- Control `k` was last given the stored configurations. -/
def InSync (s : State P V) (k : Nat) : Prop :=
  s.lastProxies k = some s.proxyCfgs ∧ s.lastVisitors k = some s.visitorCfgs

/-- The update has stored its configurations and has yet to read `svr.ctl`. -/
def UpdatePc.beforeRead : UpdatePc P V → Prop
  | .stored _ _ => True
  | .found _ _ => True
  | _ => False

/-- A control is installed only while the configurations that its login read are
the stored ones, or while the update that replaced them has yet to read `svr.ctl`. -/
def InstallsCurrent (s : State P V) : Action P V → Prop
  | .install =>
    match s.login with
    | .ran _ p v => (p = s.proxyCfgs ∧ v = s.visitorCfgs) ∨ s.update.beforeRead
    | _ => True
  | _ => True

instance : DecidablePred (UpdatePc.beforeRead (P := P) (V := V))
  | .stored _ _ | .found _ _ => isTrue trivial
  | .idle | .called _ _ | .target _ _ _ | .appliedVisitors _ _ _ => isFalse id

instance [DecidableEq P] [DecidableEq V] (s : State P V) (a : Action P V) :
    Decidable (InstallsCurrent s a) := by
  unfold InstallsCurrent
  split
  · split <;> infer_instance
  · infer_instance

/-- The control that a login has created and not yet installed. -/
def LoginPc.ctl? : LoginPc P V → Option Nat
  | .created k _ _ | .ranProxies k _ _ | .ran k _ _ => some k
  | _ => none

def UpdatePc.target? : UpdatePc P V → Option Nat
  | .target t _ _ | .appliedVisitors t _ _ => some t
  | _ => none

/-- The configurations of an update past its store. -/
def UpdatePc.cfgs? : UpdatePc P V → Option (P × V)
  | .stored p v | .found p v | .target _ p v | .appliedVisitors _ p v => some (p, v)
  | _ => none

/-- What the running update still owes to the installed control `k`. -/
def Covered (s : State P V) (k : Nat) : Prop :=
  match s.update with
  | .idle | .called _ _ => InSync s k
  | .stored _ _ | .found _ _ => True
  | .target t _ _ => t = k ∨ InSync s k
  | .appliedVisitors t _ _ => (t = k ∧ s.lastVisitors k = some s.visitorCfgs) ∨ InSync s k

/-- What `Run` has given so far to the control of the login under way. -/
def LoginPc.Given (s : State P V) : LoginPc P V → Prop
  | .ranProxies k p _ => s.lastProxies k = some p
  | .ran k p v => s.lastProxies k = some p ∧ s.lastVisitors k = some v
  | _ => True

structure Inv (s : State P V) : Prop where
  ctl_lt : ∀ k, s.ctl = some k → k < s.nextCtl
  target_lt : ∀ k, s.update.target? = some k → k < s.nextCtl
  login_lt : ∀ k, s.login.ctl? = some k → k < s.nextCtl
  login_ne_ctl : ∀ k, s.login.ctl? = some k → s.ctl ≠ some k
  login_ne_target : ∀ k, s.login.ctl? = some k → s.update.target? ≠ some k
  cfgs : ∀ p v, s.update.cfgs? = some (p, v) → s.proxyCfgs = p ∧ s.visitorCfgs = v
  given : s.login.Given s
  covered : ∀ k, s.ctl = some k → Covered s k

theorem inv_init (p : P) (v : V) : Inv (init p v) := by
  constructor <;> simp [init, LoginPc.ctl?, UpdatePc.target?, UpdatePc.cfgs?, LoginPc.Given]

theorem Covered.congr {s s' : State P V} {k : Nat} (h : Covered s k) (hu : s'.update = s.update)
    (hp : s'.proxyCfgs = s.proxyCfgs) (hv : s'.visitorCfgs = s.visitorCfgs)
    (hlp : s'.lastProxies k = s.lastProxies k) (hlv : s'.lastVisitors k = s.lastVisitors k) :
    Covered s' k := by
  unfold Covered InSync at h ⊢
  rw [hu, hp, hv, hlp, hlv]
  exact h

/-- A login that has not installed its control changes only what concerns that
control, which nobody else can name yet. -/
theorem Inv.login_move {s s' : State P V} (h : Inv s) (hctl : s'.ctl = s.ctl)
    (hu : s'.update = s.update) (hp : s'.proxyCfgs = s.proxyCfgs)
    (hv : s'.visitorCfgs = s.visitorCfgs) (hn : s.nextCtl ≤ s'.nextCtl)
    (hframe : ∀ k, s.login.ctl? ≠ some k →
      s'.lastProxies k = s.lastProxies k ∧ s'.lastVisitors k = s.lastVisitors k)
    (hnew : ∀ k, s'.login.ctl? = some k →
      s.login.ctl? = some k ∨ (k = s.nextCtl ∧ s.nextCtl < s'.nextCtl))
    (hgiven : s'.login.Given s') : Inv s' := by
  refine ⟨?_, ?_, ?_, ?_, ?_, ?_, hgiven, ?_⟩
  · intro k hk
    exact Nat.lt_of_lt_of_le (h.ctl_lt k (hctl ▸ hk)) hn
  · intro k hk
    exact Nat.lt_of_lt_of_le (h.target_lt k (hu ▸ hk)) hn
  · intro k hk
    rcases hnew k hk with hold | ⟨rfl, hlt⟩
    · exact Nat.lt_of_lt_of_le (h.login_lt k hold) hn
    · exact hlt
  · intro k hk hc
    rw [hctl] at hc
    rcases hnew k hk with hold | ⟨rfl, -⟩
    · exact h.login_ne_ctl k hold hc
    · exact Nat.lt_irrefl _ (h.ctl_lt _ hc)
  · intro k hk hc
    rw [hu] at hc
    rcases hnew k hk with hold | ⟨rfl, -⟩
    · exact h.login_ne_target k hold hc
    · exact Nat.lt_irrefl _ (h.target_lt _ hc)
  · rw [hu, hp, hv]
    exact h.cfgs
  · intro k hk
    rw [hctl] at hk
    have hne : s.login.ctl? ≠ some k := fun hl => h.login_ne_ctl k hl hk
    obtain ⟨hlp, hlv⟩ := hframe k hne
    exact (h.covered k hk).congr hu hp hv hlp hlv

/-- An update that neither creates nor installs a control and gives configurations
only to its target. -/
theorem Inv.update_move {s s' : State P V} (h : Inv s) (hctl : s'.ctl = s.ctl)
    (hl : s'.login = s.login) (hn : s'.nextCtl = s.nextCtl)
    (htarget : ∀ t, s'.update.target? = some t → s.update.target? = some t ∨ s.ctl = some t)
    (hframe : ∀ k, s.update.target? ≠ some k →
      s'.lastProxies k = s.lastProxies k ∧ s'.lastVisitors k = s.lastVisitors k)
    (hcfgs : ∀ p v, s'.update.cfgs? = some (p, v) → s'.proxyCfgs = p ∧ s'.visitorCfgs = v)
    (hcovered : ∀ k, s.ctl = some k → Covered s' k) : Inv s' := by
  refine ⟨?_, ?_, ?_, ?_, ?_, hcfgs, ?_, ?_⟩
  · rw [hctl, hn]
    exact h.ctl_lt
  · intro k hk
    rw [hn]
    rcases htarget k hk with hold | hc
    · exact h.target_lt k hold
    · exact h.ctl_lt k hc
  · rw [hl, hn]
    exact h.login_lt
  · rw [hl, hctl]
    exact h.login_ne_ctl
  · intro k hk ht
    rw [hl] at hk
    rcases htarget k ht with hold | hc
    · exact h.login_ne_target k hk hold
    · exact h.login_ne_ctl k hk hc
  · have hg := h.given
    have hne := h.login_ne_target
    rw [hl]
    cases hlogin : s.login with
    | ranProxies k p v =>
      rw [hlogin] at hg hne
      exact ((hframe k (hne k rfl)).1).trans hg
    | ran k p v =>
      rw [hlogin] at hg hne
      obtain ⟨hlp, hlv⟩ := hframe k (hne k rfl)
      exact ⟨hlp.trans hg.1, hlv.trans hg.2⟩
    | _ => trivial
  · rw [hctl]
    exact hcovered

/-- The login installs a control that the running update will still reach, or that
has the stored configurations already. -/
theorem Inv.install {s : State P V} (h : Inv s) {k : Nat} {p : P} {v : V}
    (hl : s.login = .ran k p v)
    (hc : (p = s.proxyCfgs ∧ v = s.visitorCfgs) ∨ s.update.beforeRead) :
    Inv { s with ctl := some k, login := .idle } := by
  have hk : s.login.ctl? = some k := by rw [hl]; rfl
  have hg := h.given
  rw [hl] at hg
  refine ⟨?_, h.target_lt, nofun, nofun, nofun, h.cfgs, trivial, ?_⟩
  · intro k' hk'
    obtain rfl := Option.some.inj hk'
    exact h.login_lt k hk
  · intro k' hk'
    obtain rfl := Option.some.inj hk'
    rcases hc with ⟨rfl, rfl⟩ | hb
    · have hsync : InSync s k := hg
      cases hu : s.update <;> simp only [Covered]
      · exact hsync
      · exact hsync
      · exact Or.inr hsync
      · exact Or.inr hsync
    · cases hu : s.update <;> simp only [UpdatePc.beforeRead, hu] at hb <;>
        simp only [Covered]

/-- A login that has no control of its own yet, or gives up. -/
theorem Inv.login_before {s : State P V} (h : Inv s) {pc : LoginPc P V} (hpc : pc.ctl? = none) :
    Inv { s with login := pc } := by
  refine h.login_move rfl rfl rfl rfl (Nat.le_refl _) (fun _ _ => ⟨rfl, rfl⟩) ?_ ?_
  · intro k hk
    exact absurd (hpc.symm.trans hk) nofun
  · cases pc with
    | idle | dialed | read _ _ => trivial
    | created _ _ _ | ranProxies _ _ _ | ran _ _ _ => cases hpc

theorem giveProxies_of_ne (s : State P V) {k t : Nat} (p : P) (hne : k ≠ t) :
    (giveProxies s t p).lastProxies k = s.lastProxies k ∧
      (giveProxies s t p).lastVisitors k = s.lastVisitors k := by
  simp [giveProxies, hne]

theorem giveVisitors_of_ne (s : State P V) {k t : Nat} (v : V) (hne : k ≠ t) :
    (giveVisitors s t v).lastProxies k = s.lastProxies k ∧
      (giveVisitors s t v).lastVisitors k = s.lastVisitors k := by
  simp [giveVisitors, hne]

theorem Inv.applyVisitors {s : State P V} (h : Inv s) {t : Nat} {p : P} {v : V}
    (hu : s.update = .target t p v) :
    Inv { giveVisitors s t v with update := .appliedVisitors t p v } := by
  have hcfg := h.cfgs
  rw [hu] at hcfg
  refine h.update_move rfl rfl rfl (fun _ ht => Or.inl (by rw [hu]; exact ht)) ?_ hcfg ?_
  · intro k hk
    rw [hu] at hk
    exact giveVisitors_of_ne s v fun he => hk (congrArg some he.symm)
  · intro k hk
    have hcov := h.covered k hk
    simp only [Covered, hu] at hcov
    by_cases hkt : t = k
    · subst hkt
      refine Or.inl ⟨rfl, ?_⟩
      simp [giveVisitors, (hcfg p v rfl).2]
    · obtain ⟨hlp, hlv⟩ := giveVisitors_of_ne s v (Ne.symm hkt)
      have hsync := hcov.resolve_left hkt
      exact Or.inr ⟨hlp.trans hsync.1, hlv.trans hsync.2⟩

theorem Inv.applyProxies {s : State P V} (h : Inv s) {t : Nat} {p : P} {v : V}
    (hu : s.update = .appliedVisitors t p v) : Inv { giveProxies s t p with update := .idle } := by
  have hcfg := h.cfgs
  rw [hu] at hcfg
  refine h.update_move rfl rfl rfl nofun ?_ nofun ?_
  · intro k hk
    rw [hu] at hk
    exact giveProxies_of_ne s p fun he => hk (congrArg some he.symm)
  · intro k hk
    have hcov := h.covered k hk
    simp only [Covered, hu] at hcov
    by_cases hkt : t = k
    · subst hkt
      refine ⟨?_, ?_⟩
      · simp [giveProxies, (hcfg p v rfl).1]
      · rcases hcov with ⟨-, hlv⟩ | hsync
        · exact hlv
        · exact hsync.2
    · obtain ⟨hlp, hlv⟩ := giveProxies_of_ne s p (Ne.symm hkt)
      have hsync := hcov.resolve_left (fun hc => hkt hc.1)
      exact ⟨hlp.trans hsync.1, hlv.trans hsync.2⟩

theorem inv_step {s s' : State P V} {a : Action P V} (h : Inv s) (hc : InstallsCurrent s a)
    (hs : step s a = some s') : Inv s' := by
  cases a with
  | install =>
    cases hl : s.login <;> simp only [step, hl, Option.some.injEq, reduceCtorEq] at hs
    subst hs
    simp only [InstallsCurrent, hl] at hc
    exact h.install hl hc
  | dial =>
    cases hl : s.login <;> simp only [step, hl, Option.some.injEq, reduceCtorEq] at hs
    subst hs
    exact h.login_before rfl
  | readCfgs =>
    cases hl : s.login <;> simp only [step, hl, Option.some.injEq, reduceCtorEq] at hs
    subst hs
    exact h.login_before rfl
  | newControlErr =>
    cases hl : s.login <;> simp only [step, hl, Option.some.injEq, reduceCtorEq] at hs
    subst hs
    exact h.login_before rfl
  | newControl =>
    cases hl : s.login <;> simp only [step, hl, Option.some.injEq, reduceCtorEq] at hs
    subst hs
    refine h.login_move rfl rfl rfl rfl (Nat.le_succ _) (fun _ _ => ⟨rfl, rfl⟩) ?_ trivial
    intro k hk
    exact Or.inr ⟨(Option.some.inj hk).symm, Nat.lt_succ_self _⟩
  | runProxies =>
    cases hl : s.login <;> simp only [step, hl, Option.some.injEq, reduceCtorEq] at hs
    subst hs
    refine h.login_move rfl rfl rfl rfl (Nat.le_refl _) ?_
      (fun k hk => Or.inl (by rw [hl]; exact hk)) ?_
    · intro k hk
      rw [hl] at hk
      exact giveProxies_of_ne s _ fun he => hk (congrArg some he.symm)
    · simp [LoginPc.Given, giveProxies]
  | runVisitors =>
    cases hl : s.login <;> simp only [step, hl, Option.some.injEq, reduceCtorEq] at hs
    subst hs
    have hg := h.given
    rw [hl] at hg
    refine h.login_move rfl rfl rfl rfl (Nat.le_refl _) ?_
      (fun k hk => Or.inl (by rw [hl]; exact hk)) ?_
    · intro k hk
      rw [hl] at hk
      exact giveVisitors_of_ne s _ fun he => hk (congrArg some he.symm)
    · exact ⟨hg, by simp [giveVisitors]⟩
  | callUpdate p v =>
    cases hu : s.update <;> simp only [step, hu, Option.some.injEq, reduceCtorEq] at hs
    subst hs
    refine h.update_move rfl rfl rfl nofun (fun _ _ => ⟨rfl, rfl⟩) nofun ?_
    intro k hk
    have hcov := h.covered k hk
    simp only [Covered, hu] at hcov
    exact hcov
  | store =>
    cases hu : s.update <;> simp only [step, hu, Option.some.injEq, reduceCtorEq] at hs
    subst hs
    refine h.update_move rfl rfl rfl nofun (fun _ _ => ⟨rfl, rfl⟩) ?_ (fun _ _ => trivial)
    intro p v hp
    cases hp
    exact ⟨rfl, rfl⟩
  | loadCtl =>
    have hcfg := h.cfgs
    cases hu : s.update <;> simp only [step, hu, Option.some.injEq, reduceCtorEq] at hs
    subst hs
    rw [hu] at hcfg
    cases hctl : s.ctl with
    | none =>
      exact h.update_move hctl.symm rfl rfl nofun (fun _ _ => ⟨rfl, rfl⟩) nofun
        (fun k hk => absurd (hctl.symm.trans hk) nofun)
    | some t =>
      exact h.update_move hctl.symm rfl rfl nofun (fun _ _ => ⟨rfl, rfl⟩) hcfg (fun _ _ => trivial)
  | derefCtl =>
    have hcfg := h.cfgs
    cases hu : s.update <;> cases hctl : s.ctl <;>
      simp only [step, hu, hctl, Option.some.injEq, reduceCtorEq] at hs
    subst hs
    rw [hu] at hcfg
    refine h.update_move hctl.symm rfl rfl ?_ (fun _ _ => ⟨rfl, rfl⟩) hcfg ?_
    · intro t ht
      exact Or.inr (hctl.trans ht)
    · intro k hk
      exact Or.inl (Option.some.inj (hctl.symm.trans hk))
  | applyVisitors =>
    cases hu : s.update <;> simp only [step, hu, Option.some.injEq, reduceCtorEq] at hs
    subst hs
    exact h.applyVisitors hu
  | applyProxies =>
    cases hu : s.update <;> simp only [step, hu, Option.some.injEq, reduceCtorEq] at hs
    subst hs
    exact h.applyProxies hu

theorem reachableBy_inv {p : P} {v : V} {s : State P V}
    (h : (system p v).ReachableBy InstallsCurrent s) : Inv s :=
  System.invariant_by (I := Inv) (inv_init p v) (fun _ _ _ _ hi hc hs => inv_step hi hc hs) h

/-- In every run whose installs meet `InstallsCurrent`, the installed control has
the stored configurations whenever no login and no update is under way. -/
theorem installed_in_sync {p : P} {v : V} {s : State P V} {k : Nat}
    (h : (system p v).ReachableBy InstallsCurrent s) (hq : Quiescent s) (hk : s.ctl = some k) :
    InSync s k := by
  have hcov := (reachableBy_inv h).covered k hk
  simp only [Covered, hq.2] at hcov
  exact hcov

/-- A login without any update. -/
def loginSchedule : List (Action (List String) (List String)) :=
  [.dial, .readCfgs, .newControl, .runProxies, .runVisitors, .install]

/-- The update is stored before the second login reads the configurations, and its
read of `svr.ctl` comes after the install. -/
def updateInTimeSchedule : List (Action (List String) (List String)) :=
  loginSchedule ++ [.dial, .readCfgs, .newControl, .runProxies, .callUpdate ["web"] [], .store,
    .runVisitors, .install, .loadCtl, .derefCtl, .applyVisitors, .applyProxies]

/-- The update falls between the read of the second login and its install: it is
applied to the control that the install then replaces. -/
def lostUpdateSchedule : List (Action (List String) (List String)) :=
  loginSchedule ++ [.dial, .readCfgs, .callUpdate ["web"] [], .store, .loadCtl, .derefCtl,
    .applyVisitors, .applyProxies, .newControl, .runProxies, .runVisitors, .install]

theorem installed_in_sync_reload :
    ∃ s : State (List String) (List String),
      (system ["ssh"] []).ReachableBy InstallsCurrent s ∧ Quiescent s ∧ s.ctl = some 1 ∧
        s.proxyCfgs = ["web"] ∧ InSync s 1 := by
  have hc : (system ["ssh"] []).Along InstallsCurrent (init ["ssh"] []) updateInTimeSchedule := by
    decide +kernel
  have hr := System.ReachableBy.run (.init) hc rfl
  exact ⟨_, hr, ⟨rfl, rfl⟩, rfl, rfl, installed_in_sync hr ⟨rfl, rfl⟩ rfl⟩

theorem update_lost_on_reconnect :
    ∃ s : State (List String) (List String), (system ["ssh"] []).Reachable s ∧ Quiescent s ∧
      s.ctl = some 1 ∧ s.proxyCfgs = ["web"] ∧ s.lastProxies 1 = some ["ssh"] ∧ ¬ InSync s 1 := by
  have hr : (system ["ssh"] []).run (init ["ssh"] []) lostUpdateSchedule = some _ := rfl
  refine ⟨_, System.reachable_init.run hr, ⟨rfl, rfl⟩, rfl, rfl, rfl, ?_⟩
  intro h
  exact absurd h.1 (by decide)

end FrpXtcp.Client.ServiceConfig

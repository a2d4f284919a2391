import FrpXtcp.Server.Handoff

/-!
# What an operation of the manager leaves alone

One inversion for the life of a control and one for the map of current controls, and
from them the facts about a control that stay true whatever other goroutines do.
-/
namespace FrpXtcp.Server.Core

open FrpXtcp.Lib

variable {env : Env} {s s' : Core} {a : CoreAction} {c : Nat}

/-- The life of `c` in an operation. -/
inductive LifeChange (env : Env) (s : Core) (c : Nat) : CoreAction → Core → Prop
  | same {a : CoreAction} {s' : Core} : s'.life c = s.life c → LifeChange env s c a s'
  | admitted {s' : Core} : (s.life c).ctl.state = .created → (s'.life c).ctl.state = .pending →
      (s'.life c).worker = (s.life c).worker →
      (s'.life c).accepted = (s.life c).accepted → LifeChange env s c (.add c) s'
  | replaced {s' : Core} {c' e : Nat} : s.ctlsByRunID.get? (env.runID c') = some e →
      (s.entries e).ctl = c → s'.ctlsByRunID.get? (env.runID c') = some s.nextEntry →
      s'.life c = { s.life c with ctl := ((s.life c).ctl.markReplaced c).1 } →
      LifeChange env s c (.add c') s'
  | activated {s' : Core} {e now : Nat} : (s.life c).ctl.state = .pending →
      s'.life c = { s.life c with ctl := (s.life c).ctl.activate } →
      LifeChange env s c (.activate c e now) s'
  | started {s' : Core} : s'.life c = (s.life c).start → LifeChange env s c (.start c) s'
  | closed {s' : Core} : s'.life c = { s.life c with ctl := (s.life c).ctl.close } →
      LifeChange env s c (.close c) s'
  | putConn {s' : Core} {conn : Nat} :
      s'.life c = ((s.life c).putConn (env.runID c) conn).1 →
      LifeChange env s c (.putConn c conn) s'
  | getConn {s' : Core} : (s.life c).getConn = some (s'.life c) →
      LifeChange env s c (.getConn c) s'
  | worker {s' : Core} {order : List Nat} :
      (s.life c).workerStep env.check c s.pxy order = some (s'.life c, s'.pxy) →
      LifeChange env s c (.worker c order) s'

theorem Effect.lifeChange (h : Effect env s a s') (c : Nat) : LifeChange env s c a s' := by
  cases h with
  | admitted c₀ _ _ ha =>
    by_cases hc : c = c₀
    · subst hc
      obtain ⟨_, ctl, _, -, hl⟩ := ha.admitted
      exact .admitted ha.created ha.state ha.worker (by rw [hl])
    · cases ho : s.ctlsByRunID.get? (env.runID c₀) with
      | none => exact .same (ha.others c hc (by simp [ho]))
      | some e =>
        by_cases he : c = (s.entries e).ctl
        · exact .replaced ho he.symm (by simp [ha.map]) (by rw [he]; exact ha.replaced e ho)
        · exact .same (ha.others c hc (by simpa [ho] using he))
  | activated c₀ e now _ _ _ hst _ =>
    by_cases hc : c = c₀
    · subst hc
      exact .activated hst (by simp [setCtl, setLife])
    · exact .same (setCtl_ne _ hc)
  | start c₀ =>
    by_cases hc : c = c₀
    · subst hc
      exact .started (setLife_self _)
    · exact .same (setLife_ne _ hc)
  | close c₀ =>
    by_cases hc : c = c₀
    · subst hc
      exact .closed (setCtl_self _)
    · exact .same (setCtl_ne _ hc)
  | putConn c₀ conn =>
    by_cases hc : c = c₀
    · subst hc
      exact .putConn (setLife_self _)
    · exact .same (setLife_ne _ hc)
  | getConn c₀ l hg =>
    by_cases hc : c = c₀
    · subst hc
      exact .getConn (by rw [setLife_self]; exact hg)
    · exact .same (setLife_ne _ hc)
  | worker c₀ order l pxy hw =>
    by_cases hc : c = c₀
    · subst hc
      exact .worker (by simpa [setLife] using hw)
    · exact .same (setLife_ne l hc)
  | _ => exact .same rfl

/-- The map of current controls in an operation, at one run ID. -/
inductive MapChange (env : Env) (s : Core) (r : String) : CoreAction → Core → Prop
  | same {a : CoreAction} {s' : Core} : s'.ctlsByRunID.get? r = s.ctlsByRunID.get? r →
      MapChange env s r a s'
  | added {s' : Core} {c : Nat} : s.closed = false → env.runID c = r →
      (s.life c).ctl.state = .created →
      s'.ctlsByRunID.get? r = some s.nextEntry → (s'.entries s.nextEntry).ctl = c →
      MapChange env s r (.add c) s'
  | removed {s' : Core} {c e now : Nat} : env.runID c = r → s.ctlsByRunID.get? r = some e →
      (s.entries e).ctl = c → s'.ctlsByRunID.get? r = none → MapChange env s r (.remove c e now) s'

theorem Effect.mapChange (h : Effect env s a s') (r : String) : MapChange env s r a s' := by
  cases h with
  | admitted c _ hopen ha =>
    by_cases hr : env.runID c = r
    · subst hr
      exact .added hopen rfl ha.created (by simp [ha.map]) ha.entry_ctl
    · exact .same (by simp [ha.map, Ne.symm hr])
  | removed c e now _ hm ho =>
    by_cases hr : env.runID c = r
    · subst hr
      exact .removed rfl hm ho.1 (by simp)
    · exact .same (by simp [Ne.symm hr])
  | _ => exact .same rfl

/-- Entries are never moved to another control or gate. -/
theorem Effect.entry (h : Effect env s a s') {e : Nat} (he : e < s.nextEntry) :
    e < s'.nextEntry ∧ (s'.entries e).ctl = (s.entries e).ctl ∧
      (s'.entries e).id = (s.entries e).id ∧ (s'.entries e).runMu = (s.entries e).runMu := by
  cases h with
  | admitted c _ _ ha =>
    rw [ha.nextEntry, ha.entries e (Nat.ne_of_lt he)]
    exact ⟨Nat.lt_succ_of_lt he, rfl, rfl, rfl⟩
  | activated c e' now =>
    refine ⟨he, ?_⟩
    by_cases hee : e = e'
    · subst hee
      simp
    · simp only [Function.update_of_ne hee]
      exact ⟨trivial, trivial, trivial⟩
  | _ => exact ⟨he, rfl, rfl, rfl⟩

theorem Effect.handedOff (h : Effect env s a s') (hc : s.handedOff c = true) :
    s'.handedOff c = true := by
  cases h with
  | admitted c₀ _ _ ha => rw [ha.handedOff, hc]
  | handoff c₀ =>
    by_cases hcc : c = c₀
    · simp [hcc]
    · simpa [hcc] using hc
  | _ => exact hc

theorem Effect.closed (h : Effect env s a s') (hc : s.closed = true) : s'.closed = true := by
  cases h with
  | admitted c₀ _ _ ha => rw [ha.closed, hc]
  | cmClose => rfl
  | _ => exact hc

/-- No operation moves a state backwards. -/
theorem Effect.forward (h : Effect env s a s') (hi : Inv env s) (c : Nat) :
    (s.life c).ctl.state.rank ≤ (s'.life c).ctl.state.rank := by
  have hr := hi.lifeReaches h c
  refine System.Reaches.stable
    (P := fun x => (s.life c).ctl.state.rank ≤ x.life.ctl.state.rank) ?_ hr (hi.lives c)
    (Nat.le_refl _)
  intro x a x' _ hx hs
  exact Nat.le_trans hx (Lifecycle.step_forward hs)

/-- A proxy that has listened stays so or is closed. -/
theorem Effect.opened (h : Effect env s a s') (hi : Inv env s) {p : Nat}
    (hp : Proxy.Opened c p s.pxy) : Proxy.Opened c p s'.pxy := by
  refine System.Reaches.stable (P := fun x => Proxy.Opened c p x.pxy) ?_ (hi.lifeReaches h 0)
    (hi.lives 0) hp
  intro x a x' hr hx hs
  exact Lifecycle.opened_step (Lifecycle.reachable_good (env.control_fresh 0) hr) hs hx

/-- A control that is not admitted stays so unless its own login acts or it is closed. -/
theorem Effect.created (h : Effect env s a s') (hi : Inv env s)
    (hc : (s.life c).ctl.state = .created) (hadd : a ≠ .add c) (hclose : a ≠ .close c) :
    (s'.life c).ctl.state = .created := by
  have hoff := (hi.life c).worker_off (Or.inl hc)
  cases h.lifeChange c with
  | same hl => rw [hl, hc]
  | admitted => exact absurd rfl hadd
  | replaced hm he _ _ => exact absurd he (hi.ne_of_created hc _ hm)
  | activated hst => rw [hc] at hst; cases hst
  | started hl => rw [hl]; simp [Life.start, Control.startLocked, hc]
  | closed => exact absurd rfl hclose
  | putConn hl => rw [hl, Lifecycle.putConn_state, hc]
  | getConn hl => rw [Lifecycle.getConn_state hl, hc]
  | worker hw =>
    have := (workerStep_rank hw).1
    rw [hoff] at this
    exact absurd this (by decide)

/-- Only `start` starts a worker. -/
theorem Effect.off (h : Effect env s a s') (hc : (s.life c).worker = .off) (hs : a ≠ .start c) :
    (s'.life c).worker = .off := by
  cases h.lifeChange c with
  | same hl => rw [hl, hc]
  | admitted _ _ hw => rw [hw, hc]
  | replaced _ _ _ hl => rw [hl]; exact hc
  | activated _ hl => rw [hl]; exact hc
  | started => exact absurd rfl hs
  | closed hl => rw [hl]; exact hc
  | putConn hl => rw [hl, Lifecycle.putConn_worker, hc]
  | getConn hl => rw [Lifecycle.getConn_worker hl, hc]
  | worker hw =>
    have := (workerStep_rank hw).1
    rw [hc] at this
    exact absurd this (by decide)

/-- A worker that was started stays so. -/
theorem Effect.on (h : Effect env s a s') (hc : (s.life c).worker ≠ .off) :
    (s'.life c).worker ≠ .off := by
  cases h.lifeChange c with
  | same hl => rwa [hl]
  | admitted _ _ hw => rwa [hw]
  | replaced _ _ _ hl => rwa [hl]
  | activated _ hl => rwa [hl]
  | started hl =>
    rw [hl]
    unfold Life.start
    split
    · nofun
    · exact hc
  | closed hl => rwa [hl]
  | putConn hl => rwa [hl, Lifecycle.putConn_worker]
  | getConn hl => rwa [Lifecycle.getConn_worker hl]
  | worker hw =>
    intro ho
    have := (workerStep_rank hw).2
    rw [ho] at this
    exact absurd (Nat.le_trans (workerStep_rank hw).1 this) (by decide)

/-- Only its own worker moves a worker on. -/
theorem Effect.worker_eq (h : Effect env s a s') (hi : Inv env s) (hc : (s.life c).worker ≠ .off)
    (ha : ∀ order, a ≠ .worker c order) : (s'.life c).worker = (s.life c).worker := by
  cases h.lifeChange c with
  | same hl => rw [hl]
  | admitted _ _ hw => exact hw
  | replaced _ _ _ hl => rw [hl]
  | activated _ hl => rw [hl]
  | started hl =>
    have hp : (s.life c).ctl.state ≠ .pending := fun hp => hc ((hi.life c).worker_off (Or.inr hp))
    rw [hl]
    simp [Life.start, Control.startLocked, hp]
  | closed hl => rw [hl]
  | putConn hl => rw [hl, Lifecycle.putConn_worker]
  | getConn hl => rw [Lifecycle.getConn_worker hl]
  | worker => exact absurd rfl (ha _)

/-- A pending, activated control stays so while its entry is current, unless it is
started or closed. -/
theorem Effect.pending (h : Effect env s a s') (hi : Inv env s)
    (hp : (s.life c).ctl.state = .pending) (hact : (s.life c).ctl.activated = true)
    (hcur : s.ctlsByRunID.get? (env.runID c) = s'.ctlsByRunID.get? (env.runID c))
    (hstart : a ≠ .start c) (hclose : a ≠ .close c) :
    (s'.life c).ctl.state = .pending ∧ (s'.life c).ctl.activated = true := by
  have hoff := (hi.life c).worker_off (Or.inr hp)
  cases h.lifeChange c with
  | same hl => rw [hl]; exact ⟨hp, hact⟩
  | admitted hc => rw [hc] at hp; cases hp
  | @replaced _ c' e hm he hm' _ =>
    -- a replacement would have changed the entry
    have hrun : env.runID c' = env.runID c := by rw [← he, hi.entry_run _ e hm]
    rw [← hrun, hm, hm'] at hcur
    exact absurd (Option.some.inj hcur) (Nat.ne_of_lt (hi.entry_lt _ e hm))
  | activated _ hl => rw [hl]; exact ⟨hp, rfl⟩
  | started => exact absurd rfl hstart
  | closed => exact absurd rfl hclose
  | putConn hl =>
    rw [hl, Lifecycle.putConn_state, (Lifecycle.SameLogin.putConn _ _ _).activated]
    exact ⟨hp, hact⟩
  | getConn hl =>
    rw [Lifecycle.getConn_state hl, (Lifecycle.SameLogin.getConn hl).activated]
    exact ⟨hp, hact⟩
  | worker hw =>
    have := (workerStep_rank hw).1
    rw [hoff] at this
    exact absurd this (by decide)

/-- A control that is not current does not become so, unless it is admitted. -/
theorem Effect.not_current (h : Effect env s a s') (hi : Inv env s)
    (hc : s.current? (env.runID c) ≠ some c)
    (hadd : a = .add c → (s.life c).ctl.state ≠ .created) :
    s'.current? (env.runID c) ≠ some c := by
  intro hcur
  obtain ⟨e, hm, he⟩ := current?_eq_some.mp hcur
  cases h.mapChange (env.runID c) with
  | same heq =>
    rw [heq] at hm
    rw [(h.entry (hi.entry_lt _ e hm)).2.1] at he
    exact hc (current?_eq_some.mpr ⟨e, hm, he⟩)
  | added _ hr hcr hm' he' =>
    rw [hm] at hm'
    obtain rfl := Option.some.inj hm'
    obtain rfl := he.symm.trans he'
    exact hadd rfl hcr
  | removed _ _ _ hn =>
    rw [hn] at hm
    cases hm

/-- If `c` is current, `g` is its gate. -/
def GateOf (env : Env) (s : Core) (c g : Nat) : Prop :=
  ∀ e, s.ctlsByRunID.get? (env.runID c) = some e → (s.entries e).ctl = c → (s.entries e).runMu = g

theorem Effect.gateOf (h : Effect env s a s') (hi : Inv env s) {g : Nat} (hg : GateOf env s c g)
    (hadd : a = .add c → (s.life c).ctl.state ≠ .created) : GateOf env s' c g := by
  intro e hm he
  cases h.mapChange (env.runID c) with
  | same heq =>
    rw [heq] at hm
    obtain ⟨-, hctl, -, hmu⟩ := h.entry (hi.entry_lt _ e hm)
    rw [hctl] at he
    rw [hmu]
    exact hg e hm he
  | added _ hr hcr hm' he' =>
    rw [hm] at hm'
    obtain rfl := Option.some.inj hm'
    obtain rfl := he.symm.trans he'
    exact absurd hcr (hadd rfl)
  | removed _ _ _ hn =>
    rw [hn] at hm
    cases hm

end FrpXtcp.Server.Core

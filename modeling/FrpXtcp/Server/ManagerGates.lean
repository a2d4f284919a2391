import FrpXtcp.Lib.Mutex
import FrpXtcp.Server.ControlManager
import FrpXtcp.Server.ManagerFrame

/-!
# What the run gates protect

Every program point of a goroutine carries an assertion about the manager. The gates
are held by one goroutine at a time; a goroutine that has revalidated its gate knows
which entry is current, and no other goroutine can take that from it. With this, each
step is one operation of `Core` or none, so all that is proved there holds here.
-/
namespace FrpXtcp.Server.ControlManager

open FrpXtcp.Lib
open FrpXtcp.Server.Core (Effect GateOf)

/-- The gate that a goroutine holds. -/
def held : Pc → Option Nat
  | .add _ (.update (some (_, g))) | .add _ (.unlock (some (_, g)) _) => some g
  | .call _ (.revalidate g) | .call _ (.unlockFailed g) | .call _ (.body _ g)
  | .call _ (.writing _ g) | .call _ (.written _ g) | .call _ (.unlock _ g _) => some g
  | _ => none

/-- The goroutines that can be at a program point. -/
def Fits (t : Tid) : Pc → Prop
  | .idle | .closed | .done => True
  | .add c _ | .replaced c _ | .waitForHandoff c => t = .login c
  | .call (.activate c) _ | .call (.completeLogin c) _ => t = .login c
  | .call (.remove c) _ => t = .login c ∨ t = .worker c ∨ ∃ n, t = .closer n
  | .call (.getByID _) _ => ∃ n, t = .conn n
  | .call (.registerWorkConn _ n) _ => t = .conn n
  | .close c => t = .login c ∨ ∃ n, t = .closer n

section Assertions

variable (env : Env) (s : Core)

/-- `g` is the gate of the entry `e`. -/
def IsGate (e g : Nat) : Prop := e < s.nextEntry ∧ (s.entries e).runMu = g

/-- Gates belong to the entries they were read from; between its revalidation and the
release a method knows the current entry, unless it has removed it itself. -/
def EntryAt : Pc → Prop
  | .add _ (.lock e g) | .add _ (.update (some (e, g))) | .add _ (.unlock (some (e, g)) _) =>
    IsGate s e g
  | .call m (.body e g) | .call m (.writing e g) | .call m (.written e g) =>
    IsGate s e g ∧ s.ctlsByRunID.get? (m.runID env) = some e
  | .call m (.unlock e g ret) =>
    IsGate s e g ∧ (ret ≠ .remove true → s.ctlsByRunID.get? (m.runID env) = some e)
  | _ => True

/-- Once `Remove` has decided, its control is not current. Before that, the gate it
waits for is the right one if the control is current. -/
def GoneAt : Pc → Prop
  | .call (.remove c) (.acquire g) | .call (.remove c) (.revalidate g) => GateOf env s c g
  | .call (.remove c) (.unlockFailed _) | .call (.remove c) .failed
  | .call (.remove c) (.unlock _ _ _) | .call (.remove c) (.returned _) | .close c =>
    s.current? (env.runID c) ≠ some c
  | _ => True

/-- The control whose success response is being written. -/
structure Writes (c e : Nat) : Prop where
  owns : s.owns e c
  pending : (s.life c).ctl.state = .pending
  activated : (s.life c).ctl.activated = true

def WritingAt : Pc → Prop
  | .call (.completeLogin c) (.writing e _) | .call (.completeLogin c) (.written e _) =>
    Writes s c e
  | .call _ (.writing _ _) | .call _ (.written _ _) => False
  | _ => True

/-- The control that `Add` has replaced. -/
def ReplacedAt : Pc → Prop
  | .add _ (.unlock (some (e, _)) .added) | .replaced _ e =>
    e < s.nextEntry ∧ 3 ≤ (s.life (s.entries e).ctl).ctl.state.rank
  | _ => True

/-- `completeLogin` has started the control. -/
def committed : GatePc → Bool
  | .unlock _ _ (.completeLogin true none) | .returned (.completeLogin true none) => true
  | _ => false

/-- What the login of `c` knows about its control. -/
def LoginAt (c : Nat) : Pc → Prop
  | .idle | .add _ .lookup | .add _ (.lock _ _) | .add _ (.update _)
  | .add _ (.unlock _ .retry) | .add _ (.unlock _ (.failed _)) =>
    (s.life c).ctl.state = .created
  | .add _ (.unlock _ .added) | .replaced _ _ | .waitForHandoff _ =>
    (s.life c).ctl.state ≠ .created ∧ (s.life c).worker = .off
  | .call (.completeLogin _) p =>
    s.handedOff c = true ∧ ((s.life c).worker = .off ↔ committed p = false)
  | .call (.remove _) _ =>
    (s.life c).worker = .off ∧ (s.handedOff c = true ∨ (s.life c).ctl.state = .created)
  | .call _ _ => s.handedOff c = true ∧ (s.life c).worker = .off
  | .close _ | .closed | .done => True

def ActorAt : Tid → Pc → Prop
  | .login c, pc => LoginAt s c pc
  | .worker c, .call _ _ => (s.life c).worker = .remove
  | .closer _, .call (.remove c) _ | .closer _, .close c =>
    s.closed = true ∧ (s.life c).ctl.state ≠ .created
  | .closer _, .closed | .closer _, .done => s.closed = true
  | _, _ => True

/-- The assertion at a program point. -/
structure Ann (t : Tid) (pc : Pc) : Prop where
  fits : Fits t pc
  entry : EntryAt env s pc
  gone : GoneAt env s pc
  writing : WritingAt s pc
  replaced : ReplacedAt s pc
  actor : ActorAt s t pc

end Assertions

/-- The goroutine that alone executes an operation. -/
def owner? : CoreAction → Option Tid
  | .add c | .handoff c | .activate c _ _ | .start c => some (.login c)
  | .worker c _ => some (.worker c)
  | .putConn _ n => some (.conn n)
  | _ => none

section Interference

variable {env : Env} {free : Nat → Bool} {s s' : Core} {a : CoreAction} {t t' : Tid} {pc pc' : Pc}

/-- What a step of goroutine `t`, or of one outside the manager, is restricted to:
`lock` is the gate that it holds. -/
structure Does (free : Nat → Bool) (s : Core) (t : Option Tid) (lock : Option Nat)
    (a : CoreAction) (s' : Core) : Prop where
  owner : ∀ t', owner? a = some t' → t = some t'
  close : ∀ c, a = .close c →
    ((s.life c).ctl.state ≠ .created ∨ t = some (.login c)) ∧ free c = true
  map : ∀ r e, s.ctlsByRunID.get? r = some e →
    s'.ctlsByRunID.get? r = some e ∨ lock = some (s.entries e).runMu

theorem IsGate.stable {e g : Nat} (h : IsGate s e g) (he : Effect env s a s') : IsGate s' e g := by
  obtain ⟨hlt, -, -, hmu⟩ := he.entry h.1
  exact ⟨hlt, hmu.trans h.2⟩

/-- A current entry stays current while its gate is held by another goroutine. -/
theorem Does.current {o : Option Tid} {lock : Option Nat} (hd : Does free s o lock a s')
    {r : String} {e g : Nat} (hg : IsGate s e g) (hm : s.ctlsByRunID.get? r = some e)
    (hlock : lock ≠ some g) : s'.ctlsByRunID.get? r = some e := by
  rcases hd.map r e hm with h | h
  · exact h
  · rw [hg.2] at h
    exact absurd h hlock

theorem EntryAt.stable {o : Option Tid} {lock : Option Nat} (h : EntryAt env s pc)
    (he : Effect env s a s') (hd : Does free s o lock a s')
    (hlock : ∀ g, held pc = some g → lock ≠ some g) : EntryAt env s' pc := by
  unfold EntryAt at h ⊢
  split at h
  · exact h.stable he
  · exact h.stable he
  · exact h.stable he
  · exact ⟨h.1.stable he, hd.current h.1 h.2 (hlock _ rfl)⟩
  · exact ⟨h.1.stable he, hd.current h.1 h.2 (hlock _ rfl)⟩
  · exact ⟨h.1.stable he, hd.current h.1 h.2 (hlock _ rfl)⟩
  · exact ⟨h.1.stable he, fun hr => hd.current h.1 (h.2 hr) (hlock _ rfl)⟩
  · trivial

theorem admitted_stable {c : Nat} (h : (s.life c).ctl.state ≠ .created) (hi : Core.Inv env s)
    (he : Effect env s a s') : (s'.life c).ctl.state ≠ .created :=
  ((hi.lifeReaches he c).admitted (hi.lives c) h).1

theorem LoginAt.stable {c : Nat} {o : Option Tid} {lock : Option Nat} (h : LoginAt s c pc)
    (hi : Core.Inv env s) (he : Effect env s a s') (hd : Does free s o lock a s')
    (ho : o ≠ some (.login c)) : LoginAt s' c pc := by
  have hlogin : owner? a ≠ some (.login c) := fun hl => ho (hd.owner _ hl)
  have hadd : a ≠ .add c := fun ha => hlogin (by rw [ha]; rfl)
  have hstart : a ≠ .start c := fun ha => hlogin (by rw [ha]; rfl)
  have hcreated : (s.life c).ctl.state = .created → (s'.life c).ctl.state = .created := by
    intro hc
    refine he.created hi hc hadd (fun ha => ?_)
    rcases (hd.close c ha).1 with h | h
    · exact h hc
    · exact ho h
  unfold LoginAt at h ⊢
  split at h
  · exact hcreated h
  · exact hcreated h
  · exact hcreated h
  · exact hcreated h
  · exact hcreated h
  · exact hcreated h
  · exact ⟨admitted_stable h.1 hi he, he.off h.2 hstart⟩
  · exact ⟨admitted_stable h.1 hi he, he.off h.2 hstart⟩
  · exact ⟨admitted_stable h.1 hi he, he.off h.2 hstart⟩
  · refine ⟨he.handedOff h.1, ?_⟩
    rw [← h.2]
    exact ⟨fun ho => by_contra fun hn => he.on hn ho, fun ho => he.off ho hstart⟩
  · exact ⟨he.off h.1 hstart, h.2.imp he.handedOff hcreated⟩
  · exact ⟨he.handedOff h.1, he.off h.2 hstart⟩
  all_goals trivial

theorem ActorAt.stable {o : Option Tid} {lock : Option Nat} (h : ActorAt s t pc)
    (hi : Core.Inv env s) (he : Effect env s a s') (hd : Does free s o lock a s')
    (ho : o ≠ some t) : ActorAt s' t pc := by
  cases t with
  | login c => exact LoginAt.stable h hi he hd ho
  | worker c =>
    cases pc with
    | call m p =>
      have hw : (s.life c).worker = .remove := h
      refine (he.worker_eq hi (by rw [hw]; nofun) (fun order ha => ?_)).trans hw
      exact ho (hd.owner _ (by rw [ha]; rfl))
    | _ => trivial
  | conn n => trivial
  | closer n =>
    cases pc with
    | call m p =>
      cases m with
      | remove c => exact ⟨he.closed h.1, admitted_stable h.2 hi he⟩
      | _ => trivial
    | close c => exact ⟨he.closed h.1, admitted_stable h.2 hi he⟩
    | closed => exact he.closed h
    | done => exact he.closed h
    | _ => trivial

/-- The control that a goroutine removes or closes is its own or was admitted. -/
theorem Ann.not_added {c : Nat} {o : Option Tid} {lock : Option Nat} (h : Ann env s t pc)
    (hi : Core.Inv env s) (hd : Does free s o lock a s') (ho : o ≠ some t)
    (hpc : (∃ p, pc = .call (.remove c) p) ∨ pc = .close c) :
    a = .add c → (s.life c).ctl.state ≠ .created := by
  intro ha hc
  have hlogin : t ≠ .login c := by
    rintro rfl
    exact ho (hd.owner _ (by rw [ha]; rfl))
  have hfits := h.fits
  have hactor := h.actor
  rcases hpc with ⟨p, rfl⟩ | rfl
  · rcases hfits with hl | rfl | ⟨n, rfl⟩
    · exact hlogin hl
    · have hw : (s.life c).worker = .remove := hactor
      rw [(hi.life c).worker_off (Or.inl hc)] at hw
      cases hw
    · exact hactor.2 hc
  · rcases hfits with hl | ⟨n, rfl⟩
    · exact hlogin hl
    · exact hactor.2 hc

theorem Ann.gone_stable {o : Option Tid} {lock : Option Nat} (h : Ann env s t pc)
    (hi : Core.Inv env s) (he : Effect env s a s') (hd : Does free s o lock a s')
    (ho : o ≠ some t) : GoneAt env s' pc := by
  have hg := h.gone
  cases pc with
  | call m p =>
    cases m with
    | remove c =>
      have hadd := h.not_added hi hd ho (c := c) (Or.inl ⟨p, rfl⟩)
      cases p with
      | acquire g => exact he.gateOf hi hg hadd
      | revalidate g => exact he.gateOf hi hg hadd
      | unlockFailed g => exact he.not_current hi hg hadd
      | failed => exact he.not_current hi hg hadd
      | unlock e g ret => exact he.not_current hi hg hadd
      | returned ret => exact he.not_current hi hg hadd
      | _ => trivial
    | _ => trivial
  | close c => exact he.not_current hi hg (h.not_added hi hd ho (Or.inr rfl))
  | _ => trivial

theorem ReplacedAt.stable (h : ReplacedAt s pc) (hi : Core.Inv env s) (he : Effect env s a s') :
    ReplacedAt s' pc := by
  have hkeep : ∀ e, e < s.nextEntry ∧ 3 ≤ (s.life (s.entries e).ctl).ctl.state.rank →
      e < s'.nextEntry ∧ 3 ≤ (s'.life (s'.entries e).ctl).ctl.state.rank := by
    rintro e ⟨hlt, hr⟩
    obtain ⟨hlt', hctl, -, -⟩ := he.entry hlt
    rw [hctl]
    exact ⟨hlt', Nat.le_trans hr (he.forward hi _)⟩
  unfold ReplacedAt at h ⊢
  split at h
  · exact hkeep _ h
  · exact hkeep _ h
  · trivial

/-- The control whose response is being written stays pending and activated. -/
theorem Ann.writing_stable {o : Option Tid} {lock : Option Nat} (h : Ann env s t pc)
    (hi : Core.Inv env s) (he : Effect env s a s') (hd : Does free s o lock a s')
    (ho : o ≠ some t) (hlock : ∀ g, held pc = some g → lock ≠ some g)
    (hfree : ∀ c e g, t = .login c → pc = .call (.completeLogin c) (.writing e g) ∨
      pc = .call (.completeLogin c) (.written e g) → free c = false) : WritingAt s' pc := by
  have hw := h.writing
  have hkeep : ∀ c e g, t = .login c → pc = .call (.completeLogin c) (.writing e g) ∨
      pc = .call (.completeLogin c) (.written e g) → IsGate s e g →
      s.ctlsByRunID.get? (env.runID c) = some e → held pc = some g → Writes s c e →
      Writes s' c e := by
    intro c e g ht hpc hgate hm hheld hw
    have hadm : (s.life c).ctl.state ≠ .created := by rw [hw.pending]; nofun
    have hm' := hd.current hgate hm (hlock g hheld)
    obtain ⟨-, hctl, hid, -⟩ := he.entry hgate.1
    have hcid := ((hi.lifeReaches he c).admitted (hi.lives c) hadm).2
    have hlogin : owner? a ≠ some (.login c) := fun hl => ho (ht ▸ hd.owner _ hl)
    obtain ⟨hp, hact⟩ := he.pending hi hw.pending hw.activated (hm.trans hm'.symm)
      (fun ha => hlogin (by rw [ha]; rfl)) (fun ha => by
        have := (hd.close c ha).2
        rw [hfree c e g ht hpc] at this
        cases this)
    exact ⟨⟨hctl.trans hw.owns.1, by rw [hid, hcid]; exact hw.owns.2⟩, hp, hact⟩
  cases pc with
  | call m p =>
    cases m with
    | completeLogin c =>
      cases p with
      | writing e g => exact hkeep c e g h.fits (Or.inl rfl) h.entry.1 h.entry.2 rfl hw
      | written e g => exact hkeep c e g h.fits (Or.inr rfl) h.entry.1 h.entry.2 rfl hw
      | _ => trivial
    | _ => cases p <;> first | exact hw.elim | trivial
  | _ => trivial

/-- The assertions of all other goroutines survive a step. -/
theorem Ann.stable {o : Option Tid} {lock : Option Nat} (h : Ann env s t pc)
    (hi : Core.Inv env s) (he : Effect env s a s') (hd : Does free s o lock a s')
    (ho : o ≠ some t) (hlock : ∀ g, held pc = some g → lock ≠ some g)
    (hfree : ∀ c e g, t = .login c → pc = .call (.completeLogin c) (.writing e g) ∨
      pc = .call (.completeLogin c) (.written e g) → free c = false) : Ann env s' t pc where
  fits := h.fits
  entry := EntryAt.stable h.entry he hd hlock
  gone := h.gone_stable hi he hd ho
  writing := h.writing_stable hi he hd ho hlock hfree
  replaced := ReplacedAt.stable h.replaced hi he
  actor := ActorAt.stable h.actor hi he hd ho

end Interference

end FrpXtcp.Server.ControlManager

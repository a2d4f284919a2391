import FrpXtcp.Lib.Transition
import FrpXtcp.Nathole.Controller

/-!
# Who may open a session

The calls of `ListenClient`, `CloseClient` and `HandleVisitor` in any order, with
the hand-over of a created session's sid to the proxy that was registered when
the session was created. `HandleVisitor` compares the visitor's user with
`allowUsers` on the pre-check path only. A schedule is therefore authorized
exactly when no holder of a proxy's secret outside `allowUsers` sends a message of
the other kind; a pre-check before it changes nothing.
-/
namespace FrpXtcp.Nathole.VisitorAuth

open FrpXtcp.Lib

/-- The controller, the handlers blocked on `cfg.sidCh <- sid`, the sids that a
receiving loop has taken from its channel, and the replies sent so far. -/
structure State where
  ctl : Controller
  nextCh : Nat
  sending : List (String × ClientCfg)
  handed : List (Nat × String)
  replies : List (Nat × NatHoleResp)

inductive Call where
  | listenClient (name sk : String) (allowUsers : List String)
  | closeClient (name : String)
  | handleVisitor (m : NatHoleVisitor) (transporter : Nat) (visitorUser sid : String)
  /-- The loop that reads `cfg.sidCh` takes the sid of a blocked handler. -/
  | receiveSid (sid : String) (cfg : ClientCfg)
  /-- A handler returns and runs its deferred deletion. -/
  | returned (sid : String)

def Call.isPreCheck : Call → Bool
  | .handleVisitor m _ _ _ => m.preCheck
  | _ => false

def init : State := ⟨newController, 0, [], [], []⟩

def visit (md5 : Digest) (s : State) (m : NatHoleVisitor) (tr : Nat) (u sid : String) : State :=
  match handleVisitor md5 s.ctl m tr u sid with
  | (ctl, .reply resp) => { s with ctl := ctl, replies := s.replies ++ [(tr, resp)] }
  | (ctl, .created cfg _) => { s with ctl := ctl, sending := s.sending ++ [(sid, cfg)] }

def step (md5 : Digest) (s : State) : Call → Option State
  | .listenClient name sk allowUsers =>
    match listenClient s.ctl name sk allowUsers s.nextCh with
    | .error _ => some s
    | .ok ctl => some { s with ctl := ctl, nextCh := s.nextCh + 1 }
  | .closeClient name => some { s with ctl := closeClient s.ctl name }
  | .handleVisitor m tr u sid => some (visit md5 s m tr u sid)
  | .receiveSid sid cfg =>
    if (sid, cfg) ∈ s.sending then
      some
        { s with
          sending := s.sending.erase (sid, cfg)
          handed := s.handed ++ [(cfg.sidCh, sid)] }
    else none
  | .returned sid => some { s with ctl := deleteSession s.ctl sid }

def system (md5 : Digest) : System State Call := ⟨init, step md5⟩

/-- The step creates a session for `m` of `u` and offers its sid to the owner of `cfg`. -/
def Creates (md5 : Digest) (s : State) (a : Call) (m : NatHoleVisitor) (u : String)
    (cfg : ClientCfg) : Prop :=
  ∃ tr sid ctl session, a = .handleVisitor m tr u sid ∧
    handleVisitor md5 s.ctl m tr u sid = (ctl, .created cfg session)

/-- Every session that the step creates is for a registered proxy, carries the
proxy's key and belongs to a user the proxy allows. -/
def Authorized (md5 : Digest) (s : State) (a : Call) : Prop :=
  ∀ m u cfg, Creates md5 s a m u cfg →
    s.ctl.clientCfgs.get? m.proxyName = some cfg ∧
    m.signKey = getAuthKey md5 cfg.sk m.timestamp ∧ cfg.allows u

/-- The step is not a message other than a pre-check, keyed with the secret of a
registered proxy, from a user that the proxy does not allow. -/
def KeyHolderAllowed (md5 : Digest) (s : State) : Call → Prop
  | .handleVisitor m _ u _ => m.preCheck = false → ∀ cfg,
      s.ctl.clientCfgs.get? m.proxyName = some cfg →
      m.signKey = getAuthKey md5 cfg.sk m.timestamp → cfg.allows u
  | _ => True

/-- Schedules with and without their pre-checks end in the same tables and
hand-overs. -/
def PreCheckIrrelevant (md5 : Digest) (as : List Call) : Prop :=
  ∀ s, (system md5).run init as = some s →
    ∃ s₀, (system md5).run init (as.filter (fun a => !a.isPreCheck)) = some s₀ ∧
      s₀.ctl = s.ctl ∧ s₀.nextCh = s.nextCh ∧ s₀.sending = s.sending ∧ s₀.handed = s.handed

theorem authorized_iff (md5 : Digest) (s : State) (a : Call) :
    Authorized md5 s a ↔ KeyHolderAllowed md5 s a := by
  constructor
  · intro h
    cases a with
    | handleVisitor m tr u sid =>
      intro hp cfg hc hk
      have hcr : Creates md5 s (.handleVisitor m tr u sid) m u cfg :=
        ⟨tr, sid, _, _, rfl, handleVisitor_created_iff.mpr ⟨hp, hc, hk, rfl, rfl⟩⟩
      exact (h m u cfg hcr).2.2
    | _ => trivial
  · rintro h m u cfg ⟨tr, sid, ctl, session, rfl, hv⟩
    obtain ⟨hp, hc, hk, -, -⟩ := handleVisitor_created_iff.mp hv
    exact ⟨hc, hk, h hp cfg hc hk⟩

/-- Two states that differ in the replies only. -/
def SameTables (s t : State) : Prop :=
  s.ctl = t.ctl ∧ s.nextCh = t.nextCh ∧ s.sending = t.sending ∧ s.handed = t.handed

theorem step_preCheck {md5 : Digest} {s s' : State} {a : Call} (hp : a.isPreCheck = true)
    (h : step md5 s a = some s') : SameTables s s' := by
  cases a with
  | handleVisitor m tr u sid =>
    obtain rfl := Option.some.inj h
    simp only [visit, handleVisitor_preCheck (show m.preCheck = true from hp)]
    exact ⟨rfl, rfl, rfl, rfl⟩
  | _ => cases hp

/-- No step reads the replies. -/
theorem step_sameTables {md5 : Digest} {s t s' : State} {a : Call} (hst : SameTables s t)
    (h : step md5 s a = some s') : ∃ t', step md5 t a = some t' ∧ SameTables s' t' := by
  obtain ⟨ctl, nextCh, sending, handed, replies⟩ := s
  obtain ⟨ctl', nextCh', sending', handed', replies'⟩ := t
  obtain ⟨rfl, rfl, rfl, rfl⟩ := hst
  cases a with
  | listenClient name sk allowUsers =>
    simp only [step] at h ⊢
    cases hl : listenClient ctl name sk allowUsers nextCh with
    | error e => simp only [hl, Option.some.injEq] at h; subst h; exact ⟨_, rfl, rfl, rfl, rfl, rfl⟩
    | ok c => simp only [hl, Option.some.injEq] at h; subst h; exact ⟨_, rfl, rfl, rfl, rfl, rfl⟩
  | closeClient name =>
    obtain rfl := Option.some.inj h
    exact ⟨_, rfl, rfl, rfl, rfl, rfl⟩
  | handleVisitor m tr u sid =>
    obtain rfl := Option.some.inj h
    refine ⟨_, rfl, ?_⟩
    simp only [visit]
    rcases handleVisitor md5 ctl m tr u sid with ⟨c, resp | ⟨cfg, session⟩⟩
    · exact ⟨rfl, rfl, rfl, rfl⟩
    · exact ⟨rfl, rfl, rfl, rfl⟩
  | receiveSid sid cfg =>
    simp only [step] at h ⊢
    split at h
    · obtain rfl := Option.some.inj h
      rw [if_pos ‹_›]
      exact ⟨_, rfl, rfl, rfl, rfl, rfl⟩
    · cases h
  | returned sid =>
    obtain rfl := Option.some.inj h
    exact ⟨_, rfl, rfl, rfl, rfl, rfl⟩

theorem run_without_preChecks {md5 : Digest} (as : List Call) {s t s' : State}
    (hst : SameTables s t) (h : (system md5).run s as = some s') :
    ∃ t', (system md5).run t (as.filter (fun a => !a.isPreCheck)) = some t' ∧
      SameTables s' t' := by
  induction as generalizing s t with
  | nil =>
    obtain rfl := Option.some.inj h
    exact ⟨t, rfl, hst⟩
  | cons a as ih =>
    simp only [System.run] at h
    cases hs : (system md5).step s a with
    | none => simp [hs] at h
    | some s₁ =>
      rw [hs] at h
      cases hp : a.isPreCheck with
      | true =>
        obtain ⟨h1, h2, h3, h4⟩ := step_preCheck hp hs
        obtain ⟨k1, k2, k3, k4⟩ := hst
        have hst₁ : SameTables s₁ t :=
          ⟨h1.symm.trans k1, h2.symm.trans k2, h3.symm.trans k3, h4.symm.trans k4⟩
        simpa [hp] using ih hst₁ h
      | false =>
        obtain ⟨t₁, ht₁, hst₁⟩ := step_sameTables hst hs
        obtain ⟨t', ht', hst'⟩ := ih hst₁ h
        refine ⟨t', ?_, hst'⟩
        rw [List.filter_cons_of_pos (by simp [hp]), System.run]
        have hstep : (system md5).step t a = some t₁ := ht₁
        rw [hstep]
        exact ht'

theorem preCheckIrrelevant (md5 : Digest) (as : List Call) : PreCheckIrrelevant md5 as := by
  intro s hs
  obtain ⟨t, ht, h1, h2, h3, h4⟩ := run_without_preChecks as ⟨rfl, rfl, rfl, rfl⟩ hs
  exact ⟨t, ht, h1.symm, h2.symm, h3.symm, h4.symm⟩

/-- A schedule creates authorized sessions only, whether or not visitors send
pre-checks, exactly when each of its messages past the pre-check that is keyed with
a registered proxy's secret comes from a user that this proxy allows. -/
theorem sessions_authorized_iff (md5 : Digest) (as : List Call) :
    ((system md5).Along (Authorized md5) init as ∧ PreCheckIrrelevant md5 as) ↔
      (system md5).Along (KeyHolderAllowed md5) init as := by
  rw [System.along_congr (authorized_iff md5) init as]
  exact and_iff_left (preCheckIrrelevant md5 as)

/-- MD5 on the one input that `strangerSchedule` hashes, "sk1700000000". -/
def sampleDigest : Digest := fun bs =>
  if bs = [115, 107, 49, 55, 48, 48, 48, 48, 48, 48, 48, 48] then
    [174, 165, 115, 250, 233, 104, 184, 52, 52, 162, 101, 142, 187, 50, 214, 232]
  else []

def strangerMsg : NatHoleVisitor where
  transactionID := "t1"
  proxyName := "alice.ssh"
  preCheck := false
  protocol := "quic"
  signKey := "aea573fae968b83434a2658ebb32d6e8"
  timestamp := 1700000000
  mappedAddrs := []
  assistedAddrs := []

/-- The owner allows itself only; a visitor of another user knows the secret. -/
def strangerSchedule : List Call :=
  [.listenClient "alice.ssh" "sk" ["alice"], .handleVisitor strangerMsg 7 "mallory" "s1"]

/-- The controller opens the session although "mallory" is not allowed. -/
theorem stranger_session_created :
    ¬ (system sampleDigest).Along (Authorized sampleDigest) init strangerSchedule := by
  intro h
  have h1 := (authorized_iff _ _ _).mp (h.2 _ rfl).1
  have h2 := h1 rfl ⟨"alice.ssh", "sk", ["alice"], 0⟩ (by decide +kernel) (by decide +kernel)
  exact absurd h2 (by decide)

end FrpXtcp.Nathole.VisitorAuth

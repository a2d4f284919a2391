import FrpXtcp.Server.ManagerRuns
import FrpXtcp.Server.OnlineOwner

/-!
# The generations of a run ID

What the manager guarantees to a client that logs in again and again under one run ID:
a new generation becomes active only after all earlier ones have cleaned up, and the
registry shows a client as online only while one of its generations is current.
-/
namespace FrpXtcp.Server.ControlManager

open FrpXtcp.Lib

variable {env : Env} {s : State}

/-- The next step of the login of `c` is the section of `Activate`, and it succeeds. -/
def Activates (env : Env) (s : State) (c : Nat) : Prop :=
  ∃ e g now s', s.pc (.login c) = .call (.activate c) (.body e g) ∧
    step env s (.next (.login c) now) = some s' ∧
    s'.pc (.login c) = .call (.activate c) (.unlock e g (.activate true none))

/-- A control that is activated is current, and its handoff is over. -/
theorem Activates.current {c : Nat} (h : Activates env s c) (hi : Inv env s) :
    s.core.handedOff c = true ∧ s.core.current? (env.runID c) = some c := by
  obtain ⟨e, g, now, s', hpc, hs, hpc'⟩ := h
  have hann := hi.ann (.login c)
  rw [hpc] at hann
  refine ⟨hann.actor.1, ?_⟩
  simp only [step, Option.bind_eq_some_iff, Option.map_eq_some_iff, hpc, exec, execCall,
    execBody] at hs
  obtain ⟨r, ⟨b, hb, rfl⟩, gate, -, rfl⟩ := hs
  split at hb <;> cases hb
  simp only [State.goto, Function.update_self, Pc.call.injEq, GatePc.unlock.injEq,
    Ret.activate.injEq, true_and] at hpc'
  obtain ⟨-, hm, ho, -⟩ := Core.activate_true (Prod.ext hpc'.1 hpc'.2)
  rw [Core.current?_of_get hm, ho.1]

/-- The worker of `d` has finished its cleanup: the work connection channel is closed
and drained, and every proxy that `d` ever had is closed and in no table. -/
structure Finished (env : Env) (d : Nat) (s : State) : Prop where
  channel : (s.core.life d).ctl.workConnCh.closed = true
  drained : (s.core.life d).ctl.workConnCh.buf = []
  proxies : ∀ s₁, (system env).Reachable s₁ → (system env).Reaches s₁ s →
    ∀ n p, (s₁.core.pxy.proxies d).get? n = some p →
      (s.core.pxy.pxys p).closed = true ∧ Proxy.Absent p s.core.pxy

theorem Inv.finished {d : Nat} (hi : Inv env s) (hon : (s.core.life d).worker ≠ .off)
    (hb : ¬ s.core.Busy d) : Finished env d s := by
  have hclean := hi.coreInv.cleanedUp hon hb
  refine ⟨hclean.closed, hclean.drained, fun s₁ h₁ hr n p hp => ?_⟩
  obtain ⟨place, hplaced⟩ := ((reachable_inv h₁).coreInv.good d).shared.placed
  have hopened : Proxy.Opened d p s.core.pxy :=
    Reaches.core_stable (P := fun core => Proxy.Opened d p core.pxy)
      (fun _ _ _ hci ho he => he.opened hci ho) hr h₁ (hplaced.opened hp)
  have habs := hclean.proxies p hopened.owner
  exact ⟨hopened.closed habs, habs⟩

/-- Whenever `Activate` succeeds for a control, and whenever a control is running,
every other generation of its run ID that was ever running has finished its cleanup. -/
theorem handoff_exclusion {s₀ : State} {c d : Nat} (hd : d ≠ c)
    (hrun : env.runID d = env.runID c) (h₀ : (system env).Reachable s₀)
    (hran : (s₀.core.life d).ctl.state = .running) (hpast : (system env).Reaches s₀ s)
    (hnow : Activates env s c ∨ (s.core.life c).ctl.state = .running) : Finished env d s := by
  have hi := reachable_inv (hpast.reachable h₀)
  have hhand := Core.reachable_handoff hi.core
  have hon : (s.core.life d).worker ≠ .off := by
    refine Reaches.core_stable (P := fun core => (core.life d).worker ≠ .off)
      (fun _ _ _ _ ho he => he.on ho) hpast h₀ ?_
    exact ((reachable_inv h₀).coreInv.life d).worker_on (Or.inl hran)
  refine hi.finished hon (fun hb => ?_)
  rcases hnow with hact | hrunning
  · obtain ⟨hho, hcur⟩ := hact.current hi
    exact hhand.free hho hcur hd hrun hb
  · exact hd (hhand.unique d c hb (Core.busy_of_running hi.coreInv hrunning) hrun)

/-- All logins come from one client, with one run ID. -/
def sampleEnv : Env where
  sess := fun _ => Lifecycle.sampleSession
  check := fun _ => none
  splitHostPort := fun addr => if addr = "192.0.2.1:7000" then some "192.0.2.1" else none

def statements (t : Tid) (n : Nat) : List Action := List.replicate n (.next t 1)

/-- A login that finds no other control, up to its `LoginResp` and the start. -/
def firstLogin (c : Nat) : List Action :=
  [.resume (.login c)] ++ statements (.login c) 9 ++ [.resume (.login c)] ++
    statements (.login c) 4 ++ [.write c none] ++ statements (.login c) 2 ++ [.resume (.login c)]

/-- The client of `c` opens a proxy. -/
def openProxy (c : Nat) : List Action :=
  [.worker c [],
    .pxy (.registerProxy (.handler c) c "alice" ⟨"ssh", "", false, false, [], [], "sk", []⟩)] ++
    List.replicate 4 (.pxy (.next (.handler c)))

/-- A login that replaces another control and waits for its handoff. -/
def replacement (c : Nat) : List Action := [.resume (.login c)] ++ statements (.login c) 5

/-- The worker of `c` ends, with one proxy to close. -/
def shutdown (c p : Nat) : List Action :=
  List.replicate 4 (.worker c []) ++ [.worker c [p]] ++ List.replicate 4 (.worker c []) ++
    [.resume (.worker c)] ++ statements (.worker c) 5 ++ List.replicate 2 (.worker c [])

/-- Control 0 runs with a proxy, is replaced by control 1, and that by control 2 before
it was activated. `Activate` of control 2 finds the cleanup of control 0 done. -/
theorem handoff_exclusion_chain :
    ∃ s₀ s, (system sampleEnv).Reaches s₀ s ∧ (s₀.core.life 0).ctl.state = .running ∧
      (s₀.core.pxy.proxies 0).get? "ssh" = some 0 ∧ (s.core.life 1).ctl.state = .closed ∧
      Activates sampleEnv s 2 ∧ Finished sampleEnv 0 s := by
  obtain ⟨s₀, s, h₀, hr, hp, hq⟩ := System.reaches_of_run (S := system sampleEnv)
    (l := firstLogin 0 ++ openProxy 0)
    (k := replacement 1 ++ replacement 2 ++ shutdown 0 0 ++ statements (.login 2) 4)
    (p := fun s => decide ((s.core.life 0).ctl.state = .running ∧
      (s.core.pxy.proxies 0).get? "ssh" = some 0))
    (q := fun s => decide ((s.core.life 1).ctl.state = .closed ∧
      s.pc (.login 2) = .call (.activate 2) (.body 2 0) ∧
      (step sampleEnv s (.next (.login 2) 1)).map (fun s' => s'.pc (.login 2)) =
        some (.call (.activate 2) (.unlock 2 0 (.activate true none))))) (by decide +kernel)
  obtain ⟨hran, hpxy⟩ := of_decide_eq_true hp
  obtain ⟨hclosed, hpc, hstep⟩ := of_decide_eq_true hq
  obtain ⟨s', hs, hpc'⟩ := Option.map_eq_some_iff.mp hstep
  have hact : Activates sampleEnv s 2 := ⟨2, 0, 1, s', hpc, hs, hpc'⟩
  exact ⟨s₀, s, hr, hran, hpxy, hclosed, hact,
    handoff_exclusion (c := 2) (by decide) rfl h₀ hran hr (Or.inl hact)⟩

/-- Every client that the registry shows as online is answered for by a current entry.
So no client is online under a run ID without a current control, and none at all once a
`Close` of the manager has returned. -/
theorem no_ghost_online (h : (system env).Reachable s) :
    (∀ k info, s.core.registry.clients.get? k = some info → info.online = true →
      ∃ e, s.core.ctlsByRunID.get? info.runID = some e ∧
        (s.core.entries e).registryOnline = true ∧
        (s.core.entries e).registryControlID = info.controlID) ∧
    (∀ r, s.core.ctlsByRunID.get? r = none → ∀ k info,
      s.core.registry.clients.get? k = some info → info.runID = r → info.online = false) ∧
    (∀ n, s.pc (.closer n) = .done → ∀ k info,
      s.core.registry.clients.get? k = some info → info.online = false) := by
  have hi := reachable_inv h
  have howned := (Core.reachable_onlineOwned hi.core).owned
  have hnone : ∀ r, s.core.ctlsByRunID.get? r = none → ∀ k info,
      s.core.registry.clients.get? k = some info → info.runID = r → info.online = false := by
    intro r hr k info hk hrun
    cases hon : info.online with
    | false => rfl
    | true =>
      obtain ⟨e, he⟩ := howned k info hk hon
      have hcur := he.current
      rw [hrun, hr] at hcur
      cases hcur
  refine ⟨fun k info hk hon => ?_, hnone, fun n hn k info hk => ?_⟩
  · obtain ⟨e, he⟩ := howned k info hk hon
    exact ⟨e, he.current, he.online, he.controlID⟩
  · -- a `Close` that has returned has an empty list, which covers all current controls
    have hcov := hi.covers n (by rw [hn]; nofun)
    rw [hn, show remaining (s.todo n) .done = s.todo n from rfl, hi.empty n (Or.inr hn)] at hcov
    refine hnone info.runID ?_ k info hk rfl
    cases hm : s.core.ctlsByRunID.get? info.runID with
    | none => rfl
    | some e => exact absurd (hcov _ e hm) List.not_mem_nil

/-- `Close` of the manager with one control, which is removed and closed. -/
def closeManager (n c : Nat) : List Action :=
  [.cmClose n [c]] ++ statements (.closer n) 5 ++ [.resume (.closer n)] ++
    statements (.closer n) 1 ++ [.resume (.closer n)]

/-- A client is online through its control and its replacement, and offline after the
manager was closed. -/
theorem no_ghost_online_login :
    ∃ s₀ s, (system sampleEnv).Reaches s₀ s ∧
      (∃ info e, s₀.core.registry.clients.get? "alice.laptop" = some info ∧ info.online = true ∧
        s₀.core.ctlsByRunID.get? "run-a" = some e ∧ (s₀.core.entries e).ctl = 1 ∧
        (s₀.core.entries e).registryOnline = true ∧
        (s₀.core.entries e).registryControlID = info.controlID) ∧
      ∃ info, s.core.registry.clients.get? "alice.laptop" = some info ∧ info.online = false := by
  obtain ⟨s₀, s, h₀, hr, hp, hq⟩ := System.reaches_of_run (S := system sampleEnv)
    (l := firstLogin 0 ++ replacement 1) (k := closeManager 0 1)
    (p := fun s => decide (((s.core.registry.clients.get? "alice.laptop").map
      fun info => (info.online, info.runID)) = some (true, "run-a") ∧
      s.core.current? "run-a" = some 1))
    (q := fun s => decide ((s.core.registry.clients.get? "alice.laptop").isSome = true ∧
      s.pc (.closer 0) = .done)) (by decide +kernel)
  obtain ⟨honline, hcur⟩ := of_decide_eq_true hp
  obtain ⟨hsome, hdone⟩ := of_decide_eq_true hq
  obtain ⟨info, hk, hinfo⟩ := Option.map_eq_some_iff.mp honline
  obtain ⟨hon, hrun⟩ := Prod.mk.inj hinfo
  obtain ⟨e, hm, ho, hid⟩ := (no_ghost_online h₀).1 _ info hk hon
  rw [hrun] at hm
  obtain ⟨info', hk'⟩ := Option.isSome_iff_exists.mp hsome
  refine ⟨s₀, s, hr, ⟨info, e, hk, hon, hm, ?_, ho, hid⟩, info', hk', ?_⟩
  · exact Option.some.inj ((Core.current?_of_get hm).symm.trans hcur)
  · exact (no_ghost_online (hr.reachable h₀)).2.2 0 hdone _ info' hk'

end FrpXtcp.Server.ControlManager

import FrpXtcp.Client.ProxyManager

/-!
# The wrappers of a manager

The map has exactly the wrappers that are not stopped, each under its own name. Rounds of
`checkWorker` and responses keep this, and so do the rounds of `UpdateAll`.
-/
namespace FrpXtcp.Client

open FrpXtcp.Lib
open FrpXtcp.Naming (addUserPrefix)

variable {user : String} {pm pm' : Manager} {pw : Wrapper}

/-- Only the status of the wrapper differs. -/
structure SameProxy (pw pw' : Wrapper) : Prop where
  name : pw'.name = pw.name
  cfg : pw'.cfg = pw.cfg
  wireName : pw'.wireName = pw.wireName
  health : pw'.health = pw.health

theorem SameProxy.newProxyMsg {pw' : Wrapper} (h : SameProxy pw pw') :
    pw'.newProxyMsg = pw.newProxyMsg := by
  simp [Wrapper.newProxyMsg, h.cfg, h.wireName]

theorem SameProxy.closeMsg {pw' : Wrapper} (h : SameProxy pw pw') :
    pw'.closeMsg = pw.closeMsg := by
  rw [Wrapper.closeMsg, h.wireName, Wrapper.closeMsg]

theorem Manager.setWrapper_self (pm : Manager) (w : Nat) :
    pm.setWrapper w (pm.wrappers w) = pm := by
  rw [Manager.setWrapper, Function.update_eq_self]

theorem Manager.setWrapper_wrappers (pm : Manager) (w : Nat) (pw : Wrapper) (v : Nat) :
    (pm.setWrapper w pw).wrappers v = if v = w then pw else pm.wrappers v := by
  unfold Manager.setWrapper
  by_cases h : v = w
  · simp [h]
  · simp [h]

/-- What a new status leaves of a wrapper is left of all wrappers. -/
theorem Manager.setWrapper_same {β : Type} (f : Wrapper → β) {w : Nat}
    (h : f pw = f (pm.wrappers w)) (v : Nat) :
    f ((pm.setWrapper w pw).wrappers v) = f (pm.wrappers v) := by
  rw [Manager.setWrapper_wrappers]
  split
  · rename_i hv
    rw [h, hv]
  · rfl

/-- A round of `checkWorker` for a healthy proxy sends a request, or does nothing. -/
theorem checkWorker_cases (hh : pw.health = 0) (now : Nat) :
    (pw.due now = false ∧ pw.checkWorker now = (pw, [])) ∨
      (pw.due now = true ∧ pw.checkWorker now =
        ({ pw with phase := .waitStart, lastSendStartMsg := now },
          [.newProxy pw.newProxyMsg])) := by
  unfold Wrapper.checkWorker
  rw [if_pos hh]
  cases pw.due now with
  | false => exact Or.inl ⟨rfl, rfl⟩
  | true => exact Or.inr ⟨rfl, rfl⟩

/-- A running or stopped proxy is not asked for. -/
theorem due_phase {now : Nat} (h : pw.due now = true) :
    pw.phase ≠ .running ∧ pw.phase ≠ .closed := by
  unfold Wrapper.due at h
  constructor <;> intro hp <;> simp [hp] at h

/-- `SetRunningStatus` sends nothing and only changes a wrapper that waits. -/
theorem setRunningStatus_cases (pw : Wrapper) (remoteAddr respErr : String) (now : Nat) :
    ∃ pw' err, pw.setRunningStatus remoteAddr respErr now = (pw', [], err) ∧ SameProxy pw pw' ∧
      ((pw.phase ≠ .waitStart ∧ pw' = pw) ∨
        (pw.phase = .waitStart ∧ pw'.phase = if respErr = "" then .running else .startErr)) := by
  unfold Wrapper.setRunningStatus
  by_cases hp : pw.phase = .waitStart
  · by_cases he : respErr = ""
    · simp only [hp, he, Wrapper.runProxy, ne_eq, not_true_eq_false, if_false]
      exact ⟨_, _, rfl, ⟨rfl, rfl, rfl, rfl⟩, Or.inr ⟨trivial, by simp⟩⟩
    · simp only [hp, he, ne_eq, not_true_eq_false, not_false_eq_true, if_false, if_true]
      exact ⟨_, _, rfl, ⟨rfl, rfl, rfl, rfl⟩, Or.inr ⟨trivial, rfl⟩⟩
  · exact ⟨pw, _, if_pos hp, ⟨rfl, rfl, rfl, rfl⟩, Or.inl ⟨hp, rfl⟩⟩

/-- `SetRunningStatus` neither stops a wrapper nor starts a stopped one. -/
theorem setRunningStatus_same (pw : Wrapper) (remoteAddr respErr : String) (now : Nat) :
    ∃ pw' err, pw.setRunningStatus remoteAddr respErr now = (pw', [], err) ∧ SameProxy pw pw' ∧
      (pw'.phase = .closed ↔ pw.phase = .closed) := by
  obtain ⟨pw', err, heq, hsame, hcases⟩ := setRunningStatus_cases pw remoteAddr respErr now
  refine ⟨pw', err, heq, hsame, ?_⟩
  rcases hcases with ⟨-, rfl⟩ | ⟨hw, hp⟩
  · exact Iff.rfl
  · rw [hp, hw]
    split <;> simp

/-- The wrappers that the manager has made, and the ones in its map. -/
structure ClientOk (user : String) (pm : Manager) : Prop where
  named : ∀ n w, pm.proxies.get? n = some w →
    w < pm.nextWrapper ∧ (pm.wrappers w).name = n ∧ (pm.wrappers w).phase ≠ .closed
  current : ∀ w, w < pm.nextWrapper →
    (pm.wrappers w).phase = .closed ∨ pm.proxies.get? (pm.wrappers w).name = some w
  wire : ∀ w, w < pm.nextWrapper →
    (pm.wrappers w).wireName = addUserPrefix user (pm.wrappers w).name
  healthy : ∀ w, w < pm.nextWrapper → (pm.wrappers w).health = 0

theorem clientOk_init : ClientOk user .init :=
  ⟨fun _ _ h => by simp [Manager.init] at h, nofun, nofun, nofun⟩

theorem ClientOk.update (h : ClientOk user pm) (u : Update) :
    ClientOk user { pm with update := u } := ⟨h.named, h.current, h.wire, h.healthy⟩

/-- A wrapper changes its status and is not stopped. -/
theorem ClientOk.setWrapper (h : ClientOk user pm) {w : Nat} (hsame : SameProxy (pm.wrappers w) pw)
    (hphase : pw.phase = .closed ↔ (pm.wrappers w).phase = .closed) :
    ClientOk user (pm.setWrapper w pw) := by
  have heq : ∀ v, (pm.setWrapper w pw).wrappers v = pm.wrappers v ∨
      v = w ∧ (pm.setWrapper w pw).wrappers v = pw := by
    intro v
    rw [Manager.setWrapper_wrappers]
    split
    · exact Or.inr ⟨‹_›, rfl⟩
    · exact Or.inl rfl
  refine ⟨fun n v hv => ?_, fun v hv => ?_, fun v hv => ?_, fun v hv => ?_⟩
  · have hn := h.named n v hv
    rcases heq v with he | ⟨rfl, he⟩
    · rw [he]
      exact hn
    · rw [he, hsame.name, Ne, hphase]
      exact hn
  · rcases heq v with he | ⟨rfl, he⟩
    · rw [he]
      exact h.current v hv
    · rw [he, hsame.name, hphase]
      exact h.current v hv
  · rcases heq v with he | ⟨rfl, he⟩
    · rw [he]
      exact h.wire v hv
    · rw [he, hsame.name, hsame.wireName]
      exact h.wire v hv
  · rcases heq v with he | ⟨rfl, he⟩
    · rw [he]
      exact h.healthy v hv
    · rw [he, hsame.health]
      exact h.healthy v hv

theorem ClientOk.checkWorker (h : ClientOk user pm) {w : Nat} (hw : w < pm.nextWrapper)
    (now : Nat) : ClientOk user (pm.setWrapper w ((pm.wrappers w).checkWorker now).1) := by
  rcases checkWorker_cases (h.healthy w hw) now with ⟨-, he⟩ | ⟨hdue, he⟩
  · rw [he]
    exact h.setWrapper ⟨rfl, rfl, rfl, rfl⟩ Iff.rfl
  · rw [he]
    exact h.setWrapper ⟨rfl, rfl, rfl, rfl⟩ ⟨nofun, fun hc => absurd hc (due_phase hdue).2⟩

/-- A proxy leaves the map and is stopped. -/
theorem ClientOk.stop (h : ClientOk user pm) {n : String} {w : Nat}
    (hw : pm.proxies.get? n = some w) :
    ClientOk user
      { pm.setWrapper w (pm.wrappers w).stop.1 with proxies := pm.proxies.erase n } := by
  obtain ⟨hlt, hname, -⟩ := h.named n w hw
  have hne : ∀ v, v ≠ w → Function.update pm.wrappers w (pm.wrappers w).stop.1 v = pm.wrappers v :=
    fun v hv => Function.update_of_ne hv _ _
  refine ⟨fun m v hv => ?_, fun v hv => ?_, fun v hv => ?_, fun v hv => ?_⟩
  · have hv : (pm.proxies.erase n).get? m = some v := hv
    rw [GoMap.get?_erase] at hv
    split at hv
    · cases hv
    · rename_i hmn
      have hm := h.named m v hv
      have hvw : v ≠ w := fun he => hmn (by rw [← hm.2.1, he, hname])
      simp only [Manager.setWrapper, hne v hvw]
      exact hm
  · by_cases hvw : v = w
    · subst hvw
      exact Or.inl (by simp [Manager.setWrapper, Wrapper.stop])
    · simp only [Manager.setWrapper, hne v hvw, GoMap.get?_erase]
      rcases h.current v hv with hc | hc
      · exact Or.inl hc
      · refine Or.inr ?_
        rw [if_neg, hc]
        intro hn
        rw [hn] at hc
        exact hvw (Option.some.inj (hc.symm.trans hw))
  · by_cases hvw : v = w
    · subst hvw
      simpa [Manager.setWrapper, Wrapper.stop] using h.wire v hv
    · simp only [Manager.setWrapper, hne v hvw]
      exact h.wire v hv
  · by_cases hvw : v = w
    · subst hvw
      simpa [Manager.setWrapper, Wrapper.stop] using h.healthy v hv
    · simp only [Manager.setWrapper, hne v hvw]
      exact h.healthy v hv

/-- A wrapper is made for a name that the map does not have. -/
theorem ClientOk.new (h : ClientOk user pm) {cfg : ProxyConfig}
    (hfree : pm.proxies.get? cfg.name = none) :
    ClientOk user { pm.setWrapper pm.nextWrapper (.new user cfg) with
      proxies := pm.proxies.insert cfg.name pm.nextWrapper
      nextWrapper := pm.nextWrapper + 1 } := by
  have hne : ∀ v, v < pm.nextWrapper →
      Function.update pm.wrappers pm.nextWrapper (.new user cfg) v = pm.wrappers v :=
    fun v hv => Function.update_of_ne (Nat.ne_of_lt hv) _ _
  refine ⟨fun m v hv => ?_, fun v hv => ?_, fun v hv => ?_, fun v hv => ?_⟩
  · have hv : (pm.proxies.insert cfg.name pm.nextWrapper).get? m = some v := hv
    rw [GoMap.get?_insert] at hv
    split at hv
    · rename_i hm
      cases hv
      subst hm
      exact ⟨Nat.lt_succ_self _, by simp [Manager.setWrapper, Wrapper.new],
        by simp [Manager.setWrapper, Wrapper.new]⟩
    · have hm := h.named m v hv
      refine ⟨Nat.lt_succ_of_lt hm.1, ?_⟩
      simp only [Manager.setWrapper, hne v hm.1]
      exact hm.2
  · rcases Nat.lt_succ_iff_lt_or_eq.mp hv with hv | rfl
    · simp only [Manager.setWrapper, hne v hv, GoMap.get?_insert]
      rcases h.current v hv with hc | hc
      · exact Or.inl hc
      · refine Or.inr ?_
        rw [if_neg, hc]
        intro hn
        rw [hn, hfree] at hc
        cases hc
    · exact Or.inr (by simp [Manager.setWrapper, Wrapper.new])
  · rcases Nat.lt_succ_iff_lt_or_eq.mp hv with hv | rfl
    · simp only [Manager.setWrapper, hne v hv]
      exact h.wire v hv
    · simp [Manager.setWrapper, Wrapper.new]
  · rcases Nat.lt_succ_iff_lt_or_eq.mp hv with hv | rfl
    · simp only [Manager.setWrapper, hne v hv]
      exact h.healthy v hv
    · simp [Manager.setWrapper, Wrapper.new]

theorem Manager.stopNamed_wrappers (pm : Manager) (n : String) (v : Nat) :
    (pm.stopNamed n).wrappers v =
      if pm.proxies.get? n = some v then (pm.wrappers v).stop.1 else pm.wrappers v := by
  unfold Manager.stopNamed
  cases hn : pm.proxies.get? n with
  | none => rfl
  | some w =>
    dsimp only
    rw [Manager.setWrapper_wrappers]
    by_cases hv : v = w
    · simp [hv]
    · simp [hv, Ne.symm hv]

theorem Manager.stopNamed_frame (pm : Manager) (n : String) :
    (pm.stopNamed n).proxies = pm.proxies ∧ (pm.stopNamed n).nextWrapper = pm.nextWrapper ∧
      (pm.stopNamed n).update = pm.update := by
  unfold Manager.stopNamed
  split <;> exact ⟨rfl, rfl, rfl⟩

theorem Manager.stopAll_frame (pm : Manager) (order : List String) :
    (order.foldl Manager.stopNamed pm).proxies = pm.proxies ∧
      (order.foldl Manager.stopNamed pm).nextWrapper = pm.nextWrapper ∧
      (order.foldl Manager.stopNamed pm).update = pm.update := by
  induction order generalizing pm with
  | nil => exact ⟨rfl, rfl, rfl⟩
  | cons n order ih =>
    obtain ⟨hp, hn, hu⟩ := pm.stopNamed_frame n
    obtain ⟨hp', hn', hu'⟩ := ih (pm.stopNamed n)
    exact ⟨hp'.trans hp, hn'.trans hn, hu'.trans hu⟩

/-- The loop of `Close` stops the wrappers of its names and no others start again. -/
theorem Manager.stopAll_wrappers (pm : Manager) (order : List String) (v : Nat) :
    SameProxy (pm.wrappers v) ((order.foldl Manager.stopNamed pm).wrappers v) ∧
      ((pm.wrappers v).phase = .closed ∨ (∃ n ∈ order, pm.proxies.get? n = some v) →
        ((order.foldl Manager.stopNamed pm).wrappers v).phase = .closed) := by
  induction order generalizing pm with
  | nil => exact ⟨⟨rfl, rfl, rfl, rfl⟩, fun h => h.resolve_right (by simp)⟩
  | cons n order ih =>
    obtain ⟨hsame, hclosed⟩ := ih (pm.stopNamed n)
    rw [pm.stopNamed_wrappers n v] at hsame hclosed
    rw [(pm.stopNamed_frame n).1] at hclosed
    rw [List.foldl_cons]
    by_cases hn : pm.proxies.get? n = some v
    · rw [if_pos hn] at hsame hclosed
      exact ⟨⟨hsame.name, hsame.cfg, hsame.wireName, hsame.health⟩, fun _ => hclosed (.inl rfl)⟩
    · rw [if_neg hn] at hsame hclosed
      refine ⟨hsame, fun h => hclosed (h.imp_right ?_)⟩
      rintro ⟨m, hm, hv⟩
      rcases List.mem_cons.mp hm with rfl | hm
      · exact absurd hv hn
      · exact ⟨m, hm, hv⟩

/-- `Close` leaves an empty map, and all wrappers stopped. -/
theorem ClientOk.close (h : ClientOk user pm) {order : List String} {sent : List Request}
    (hc : pm.close order = some (pm', sent)) :
    ClientOk user pm' ∧ (∀ n, pm'.proxies.get? n = none) ∧ pm'.update = .idle := by
  unfold Manager.close at hc
  split at hc
  · rename_i hb
    cases hc
    obtain ⟨-, hnext, hidle⟩ := pm.stopAll_frame order
    refine ⟨⟨by simp, fun v hv => .inl ?_, fun v hv => ?_, fun v hv => ?_⟩, fun n => rfl,
      hidle.trans hb.1⟩
    · refine (pm.stopAll_wrappers order v).2 ((h.current v (hnext ▸ hv)).imp_right fun hm => ?_)
      refine ⟨_, hb.2.mem_iff.mpr ?_, hm⟩
      exact List.mem_map_of_mem ((GoMap.mem_toList_iff ..).mpr hm)
    · have hsame := (pm.stopAll_wrappers order v).1
      exact (hsame.wireName.trans (h.wire v (hnext ▸ hv))).trans (by rw [hsame.name])
    · exact (pm.stopAll_wrappers order v).1.health.trans (h.healthy v (hnext ▸ hv))
  · cases hc

/-- What a round of `UpdateAll` does to the wrappers. -/
theorem updateNext_cases {sent : List Request} (h : pm.updateNext user = some (pm', sent)) :
    ∃ u, (pm' = { pm with update := u } ∧ sent = []) ∨
      (∃ n w, pm.proxies.get? n = some w ∧ sent = [(pm.wrappers w).closeMsg] ∧
        pm' = { pm.setWrapper w (pm.wrappers w).stop.1 with
          proxies := pm.proxies.erase n, update := u }) ∨
      (∃ cfg, pm.proxies.get? cfg.name = none ∧ sent = [] ∧
        pm' = { pm.setWrapper pm.nextWrapper (.new user cfg) with
          proxies := pm.proxies.insert cfg.name pm.nextWrapper
          nextWrapper := pm.nextWrapper + 1, update := u }) := by
  unfold Manager.updateNext at h
  split at h
  · cases h
  · cases h
    exact ⟨_, Or.inl ⟨rfl, rfl⟩⟩
  · rename_i cfgs name names hu
    dsimp only at h
    split at h
    · cases h
      exact ⟨_, Or.inl ⟨rfl, rfl⟩⟩
    · rename_i w hw
      split at h <;> cases h
      · exact ⟨_, Or.inr (Or.inl ⟨name, w, hw, rfl, rfl⟩)⟩
      · exact ⟨_, Or.inl ⟨rfl, rfl⟩⟩
  · cases h
    exact ⟨_, Or.inl ⟨rfl, rfl⟩⟩
  · rename_i cfg cfgs hu
    dsimp only at h
    split at h
    · cases h
      exact ⟨_, Or.inl ⟨rfl, rfl⟩⟩
    · rename_i hn
      cases h
      exact ⟨_, Or.inr (Or.inr ⟨cfg, by simpa using hn, rfl, rfl⟩)⟩

theorem ClientOk.updateNext (h : ClientOk user pm) {sent : List Request}
    (hu : pm.updateNext user = some (pm', sent)) : ClientOk user pm' := by
  obtain ⟨u, ⟨rfl, -⟩ | ⟨n, w, hw, -, rfl⟩ | ⟨cfg, hfree, -, rfl⟩⟩ := updateNext_cases hu
  · exact h.update u
  · exact (h.stop hw).update u
  · exact (h.new hfree).update u

end FrpXtcp.Client

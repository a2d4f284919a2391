import FrpXtcp.Server.ManagerInvariant

/-!
# Every online client belongs to a current control

The registry and the map of current controls change in different operations. What
ties them together are the two fields `registryOnline` and `registryControlID` of an
entry, which a replacement inherits before it registers anything itself.
-/
namespace FrpXtcp.Server.Core

open FrpXtcp.Lib
open FrpXtcp.Server.Registry (ClientInfo WellFormed)

variable {env : Env} {s s' : Core} {c : Nat}

/-- The entry `e` is current for the run ID of an online client and answers for it. -/
structure Owns (s : Core) (info : ClientInfo) (e : Nat) : Prop where
  current : s.ctlsByRunID.get? info.runID = some e
  online : (s.entries e).registryOnline = true
  controlID : (s.entries e).registryControlID = info.controlID

structure OnlineOwned (s : Core) : Prop where
  wellFormed : WellFormed s.registry
  owned : ∀ k info, s.registry.clients.get? k = some info → info.online = true →
    ∃ e, s.Owns info e

/-- Steps that leave the registry and its owners alone. -/
theorem OnlineOwned.keep (h : OnlineOwned s) (hreg : s'.registry = s.registry)
    (hmap : s'.ctlsByRunID = s.ctlsByRunID) (hent : s'.entries = s.entries) : OnlineOwned s' := by
  refine ⟨hreg ▸ h.wellFormed, fun k info hk ho => ?_⟩
  rw [hreg] at hk
  obtain ⟨e, he⟩ := h.owned k info hk ho
  exact ⟨e, by rw [hmap]; exact he.current, by rw [hent]; exact he.online,
    by rw [hent]; exact he.controlID⟩

/-- The replacement answers for what the replaced control had registered. -/
theorem OnlineOwned.admits (h : OnlineOwned s) (hi : Inv env s)
    (ha : Admits env s c (s.ctlsByRunID.get? (env.runID c)) s') : OnlineOwned s' := by
  refine ⟨ha.registry ▸ h.wellFormed, fun k info hk ho => ?_⟩
  rw [ha.registry] at hk
  obtain ⟨e, he⟩ := h.owned k info hk ho
  by_cases hr : info.runID = env.runID c
  · have hold : e ∈ s.ctlsByRunID.get? (env.runID c) := by
      rw [← hr]
      exact he.current
    obtain ⟨h1, h2⟩ := ha.entry_online e hold
    exact ⟨s.nextEntry, by simp [ha.map, hr], h1.trans he.online, h2.trans he.controlID⟩
  · have hne : s'.entries e = s.entries e :=
      ha.entries e (Nat.ne_of_lt (hi.entry_lt _ e he.current))
    exact ⟨e, by simp [ha.map, hr, he.current], by rw [hne, he.online],
      by rw [hne, he.controlID]⟩

/-- A registration takes its run ID off every other key, so the entry that registers
answers for all that is online under it. -/
theorem OnlineOwned.registered (h : OnlineOwned s) (hi : Inv env s) {e now : Nat}
    (hm : s.ctlsByRunID.get? (env.runID c) = some e)
    (hconf : (Registry.registerWithControlID s.registry
      (registration env c (s.entries e).id) now).2.2 = false)
    {k : String} {info : ClientInfo}
    (hk : (Registry.registerWithControlID s.registry
      (registration env c (s.entries e).id) now).1.clients.get? k = some info)
    (ho : info.online = true) :
    (info.runID = env.runID c ∧ info.controlID = (s.entries e).id) ∨
      ∃ e', e' ≠ e ∧ s.Owns info e' := by
  have hother : info.runID ≠ env.runID c → s.registry.clients.get? k = some info →
      ∃ e', e' ≠ e ∧ s.Owns info e' := by
    intro hr hk
    obtain ⟨e', he'⟩ := h.owned k info hk ho
    refine ⟨e', ?_, he'⟩
    rintro rfl
    exact hr ((hi.entry_run _ e' he'.current).symm.trans (hi.entry_run _ e' hm))
  rcases Registry.registerWithControlID_cases s.registry
    (registration env c (s.entries e).id) now with ⟨he, hwhy⟩ | ⟨-, -, hc, -⟩
  · rw [he] at hk
    rcases hwhy with hempty | hc
    · refine Or.inr (hother (fun hr => ?_) hk)
      exact h.wellFormed.runID_ne k info hk ho (hr.trans hempty)
    · rw [hconf] at hc
      cases hc
  · rcases (Registry.register_online h.wellFormed hc ho).mp hk with ⟨-, rfl⟩ | ⟨-, hr, hk⟩
    · exact Or.inl ⟨rfl, rfl⟩
    · exact Or.inr (hother hr hk)

/-- What a removed entry had registered goes offline with it. -/
theorem OnlineOwned.removed (h : OnlineOwned s) {e now : Nat}
    (hm : s.ctlsByRunID.get? (env.runID c) = some e) :
    OnlineOwned { s with
      ctlsByRunID := s.ctlsByRunID.erase (env.runID c)
      registry :=
        if (s.entries e).registryOnline then
          Registry.markOfflineByRunIDAndControlID s.registry (env.runID c)
            (s.entries e).registryControlID now
        else s.registry } := by
  have hown : ∀ k info, s.registry.clients.get? k = some info → info.online = true →
      info.runID = env.runID c → (s.entries e).registryOnline = true ∧
        (s.entries e).registryControlID = info.controlID := by
    intro k info hk ho hr
    obtain ⟨e', he'⟩ := h.owned k info hk ho
    obtain rfl : e' = e := Option.some.inj (he'.current.symm.trans (hr ▸ hm))
    exact ⟨he'.online, he'.controlID⟩
  have hrest : ∀ k info, s.registry.clients.get? k = some info → info.online = true →
      info.runID ≠ env.runID c → ∃ e', Owns { s with
        ctlsByRunID := s.ctlsByRunID.erase (env.runID c) } info e' := by
    intro k info hk ho hr
    obtain ⟨e', he'⟩ := h.owned k info hk ho
    exact ⟨e', by simp [hr, he'.current], he'.online, he'.controlID⟩
  by_cases hon : (s.entries e).registryOnline = true
  · simp only [hon, if_true]
    refine ⟨Registry.markOfflineByRunID_wellFormed h.wellFormed _ _ _ _, fun k info hk ho => ?_⟩
    obtain ⟨hk, hnot⟩ := (Registry.markOffline_online h.wellFormed ho).mp hk
    have hr : info.runID ≠ env.runID c := fun hr =>
      hnot ⟨hr, (hown k info hk ho hr).2.symm⟩
    obtain ⟨e', he'⟩ := hrest k info hk ho hr
    exact ⟨e', he'.current, he'.online, he'.controlID⟩
  · simp only [hon, Bool.false_eq_true, if_false]
    refine ⟨h.wellFormed, fun k info hk ho => ?_⟩
    have hr : info.runID ≠ env.runID c := fun hr => hon (hown k info hk ho hr).1
    obtain ⟨e', he'⟩ := hrest k info hk ho hr
    exact ⟨e', he'.current, he'.online, he'.controlID⟩

theorem OnlineOwned.step {a : CoreAction} (h : OnlineOwned s) (hi : Inv env s)
    (hs : Effect env s a s') : OnlineOwned s' := by
  cases hs with
  | admitted c _ _ ha => exact h.admits hi ha
  | activated c e now _ hm _ _ hconf =>
    refine ⟨Registry.registerWithControlID_wellFormed h.wellFormed _ _, fun k info hk ho => ?_⟩
    rcases h.registered hi hm hconf hk ho with ⟨hr, hid⟩ | ⟨e', hne, he'⟩
    · exact ⟨e, by rw [hr]; exact hm, by simp, by simp [hid]⟩
    · exact ⟨e', he'.current, by simp [hne, he'.online], by simp [hne, he'.controlID]⟩
  | removed c e now _ hm _ => exact h.removed hm
  | _ => exact h.keep rfl rfl rfl

theorem onlineOwned_init : OnlineOwned (init env) :=
  ⟨Registry.wellFormed_new, nofun⟩

theorem reachable_onlineOwned (h : (system env).Reachable s) : OnlineOwned s :=
  System.invariant (I := OnlineOwned) onlineOwned_init
    (fun _ _ _ hr hh hs => hh.step (reachable_inv hr) ((reachable_inv hr).effect hs)) h

end FrpXtcp.Server.Core

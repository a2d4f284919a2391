import FrpXtcp.Transport.LaneInvariant

/-!
# What a waiting call receives

A call of `Do` that returns a message returns the first one that was dispatched on its lane
after it had registered, and no other call returns that message.
-/
namespace FrpXtcp.Transport

open FrpXtcp.Lib

variable {s s' : State}

/-- The calls of `DispatchWithType` were made one after another. -/
def Sequential (s : State) : Prop :=
  ∀ m m', (s.dispatches m).pc ≠ .idle → (s.dispatches m').pc ≠ .idle →
    (s.dispatches m').lookedUpAt < (s.dispatches m).lookedUpAt →
    ∃ t, (s.dispatches m').returnedAt = some t ∧ t < (s.dispatches m).lookedUpAt

/-- If dispatches do not overlap, the first to return is the first to begin. -/
theorem First.least (hc : Clocked s) (hseq : Sequential s) {d m m' : Nat} (h : First s d m)
    (hm' : Matches s d m') : (s.dispatches m).lookedUpAt ≤ (s.dispatches m').lookedUpAt := by
  obtain ⟨hm, t, ht, hfirst⟩ := h
  by_contra hlt
  have hlt := Nat.lt_of_not_le hlt
  obtain ⟨t', ht', hbefore⟩ := hseq m m' hm.called hm'.called hlt
  have hne : m' ≠ m := by
    rintro rfl
    exact Nat.lt_irrefl _ hlt
  have hafter := hfirst m' hne hm' t' ht'
  have := (hc.returned m t ht).1
  omega

/-- A call that unregisters was the one registered on its lane, and no other lane changes. -/
theorem Inv.unregisters (hi : Inv s) {d : Nat} (h : step s (.doUnregister d) = some s') :
    s.lookup (s.dos d).msgType (s.dos d).laneKey = some d ∧
      ∀ t k, s'.lookup t k =
        if t = (s.dos d).msgType ∧ k = (s.dos d).laneKey then none else s.lookup t k := by
  obtain ⟨s₁, he, rfl⟩ := step_effect h
  cases he with
  | unregister hd =>
    refine ⟨(hi.listed _ _ d).mpr ⟨?_, rfl, rfl⟩, lookup_unregister rfl⟩
    rw [hd]
    trivial

theorem Inv.lookup_eq_none (hi : Inv s) (h : ∀ d, ¬ (s.dos d).Active) (t k : String) :
    s.lookup t k = none := by
  refine Option.eq_none_iff_forall_ne_some.mpr fun d hd => ?_
  exact h d (DoCall.active_of_listed ((hi.listed t k d).mp hd).1)

/-- Messages are routed by type and lane. Every message that a call returns was dispatched on
its own lane after it had registered, and its dispatch was the first of these to return; if
dispatches are made one after another it was also the first of these to begin. -/
theorem lanes_route (h : system.ReachableBy DistinctLanes s) :
    (∀ d m, (s.dos d).pc.result = some m → First s d m ∧
      (Sequential s → ∀ m', Matches s d m' →
        (s.dispatches m).lookedUpAt ≤ (s.dispatches m').lookedUpAt)) ∧
    (∀ d d' m, (s.dos d).pc.result = some m → (s.dos d').pc.result = some m → d = d') ∧
    (∀ d s', step s (.doUnregister d) = some s' →
      s.lookup (s.dos d).msgType (s.dos d).laneKey = some d ∧
        ∀ t k, s'.lookup t k =
          if t = (s.dos d).msgType ∧ k = (s.dos d).laneKey then none else s.lookup t k) ∧
    ((∀ d, ¬ (s.dos d).Active) → ∀ t k, s.lookup t k = none) := by
  have hi := inv_reachable h
  refine ⟨fun d m hm => ?_, fun d d' m hm hm' => ?_, fun d s' => hi.unregisters,
    hi.lookup_eq_none⟩
  · have hf := ((hi.served d).result m hm).1
    exact ⟨hf, fun hseq m' => hf.least hi.clocked hseq⟩
  · have hsent := ((hi.served d).result m hm).2
    rw [((hi.served d').result m hm').2] at hsent
    exact (DispatchPc.sent.inj hsent).symm

/-- Two calls on different lanes; two messages for the first, dispatched at the same time. -/
def twoLanes : List Action :=
  [.doRegister 0 "a" "NatHoleResp", .doRegister 1 "b" "NatHoleResp", .doSend 0 true,
    .doSend 1 true, .lookup 5 "NatHoleResp" "a", .lookup 6 "NatHoleResp" "a", .send 6,
    .doReceive 0]

theorem twoLanes_distinct : system.Along DistinctLanes init twoLanes := by
  refine ⟨fun _ h => h.elim, fun s hs => ⟨?_, fun _ _ => ?_⟩⟩
  · cases hs
    intro d ha
    by_cases hd : d = 0
    · subst hd
      exact fun h => absurd h.2 (by decide)
    · refine absurd ha ?_
      simp only [State.tick, Function.update_of_ne hd]
      exact id
  · simp [System.Along, DistinctLanes]

theorem lanes_route_overtaken : ∃ s, system.ReachableBy DistinctLanes s ∧
    (s.dos 0).pc.result = some 6 ∧ First s 0 6 ∧ (s.dos 1).pc.result ≠ some 6 ∧
    ∃ s', step s (.doUnregister 0) = some s' ∧ s'.lookup "NatHoleResp" "a" = none ∧
      s'.lookup "NatHoleResp" "b" = some 1 := by
  obtain ⟨s, hs, hp⟩ := System.reachableBy_of_run (S := system) (l := twoLanes)
    (p := fun s : State => decide ((s.dos 0).pc = .leaving (some 6) ∧
      (s.dos 0).msgType = "NatHoleResp" ∧ (s.dos 0).laneKey = "a" ∧
      s.lookup "NatHoleResp" "b" = some 1))
    twoLanes_distinct (by decide +kernel)
  obtain ⟨hpc, ht, hk, hb⟩ := of_decide_eq_true hp
  obtain ⟨hfirst, hone, hunregister, -⟩ := lanes_route hs
  have hresult : (s.dos 0).pc.result = some 6 := by rw [hpc]; rfl
  refine ⟨s, hs, hresult, (hfirst 0 6 hresult).1, fun h => ?_, ?_⟩
  · exact absurd (hone 0 1 6 hresult h) (by decide)
  · have hstep : ∃ s', step s (.doUnregister 0) = some s' := by
      simp [step, next, hpc]
    obtain ⟨s', hs'⟩ := hstep
    have hl := (hunregister 0 s' hs').2
    rw [ht, hk] at hl
    refine ⟨s', hs', ?_, ?_⟩
    · simp [hl]
    · simp [hl, hb]

end FrpXtcp.Transport

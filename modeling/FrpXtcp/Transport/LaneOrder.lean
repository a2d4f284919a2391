import FrpXtcp.Transport.Lanes

/-!
# What the calls do, and in which order

The effects of the actions on the registry, the channels and the calls, and what they keep of
the order of the calls in time: a message that was the first on a lane stays the first.
-/
namespace FrpXtcp.Transport

open FrpXtcp.Lib

/-- The message was dispatched on the lane of the call, after the call had registered. -/
structure Matches (s : State) (d m : Nat) : Prop where
  called : (s.dispatches m).pc ≠ .idle
  msgType : (s.dispatches m).msgType = (s.dos d).msgType
  laneKey : (s.dispatches m).laneKey = (s.dos d).laneKey
  after : (s.dos d).registeredAt < (s.dispatches m).lookedUpAt

/-- The dispatch of `m` is the first to return of those on the lane since the call had
registered. -/
structure First (s : State) (d m : Nat) : Prop where
  matched : Matches s d m
  first : ∃ t, (s.dispatches m).returnedAt = some t ∧ ∀ m', m' ≠ m → Matches s d m' →
    ∀ t', (s.dispatches m').returnedAt = some t' → t < t'

namespace State

variable (s : State) (d d' m : Nat)

@[simp] theorem setDo_pc (pc : DoPc) :
    ((s.setDo d pc).dos d').pc = if d' = d then pc else (s.dos d').pc := by
  unfold setDo
  by_cases h : d' = d
  · simp [h]
  · simp [h]

theorem setDo_call (pc : DoPc) :
    ((s.setDo d pc).dos d').msgType = (s.dos d').msgType ∧
      ((s.setDo d pc).dos d').laneKey = (s.dos d').laneKey ∧
      ((s.setDo d pc).dos d').registeredAt = (s.dos d').registeredAt := by
  unfold setDo
  by_cases h : d' = d
  · simp [h]
  · simp [h]

@[simp] theorem setDo_msgType (pc : DoPc) :
    ((s.setDo d pc).dos d').msgType = (s.dos d').msgType := (s.setDo_call d d' pc).1

@[simp] theorem setDo_laneKey (pc : DoPc) :
    ((s.setDo d pc).dos d').laneKey = (s.dos d').laneKey := (s.setDo_call d d' pc).2.1

@[simp] theorem setDo_registeredAt (pc : DoPc) :
    ((s.setDo d pc).dos d').registeredAt = (s.dos d').registeredAt := (s.setDo_call d d' pc).2.2

@[simp] theorem setChan_chans (c : Chan Nat) :
    (s.setChan d c).chans d' = if d' = d then c else s.chans d' := by
  unfold setChan
  by_cases h : d' = d
  · simp [h]
  · simp [h]

theorem setChan_self : s.setChan d (s.chans d) = s := by
  rw [setChan, Function.update_eq_self]

@[simp] theorem setChan_dispatches (c : Chan Nat) : (s.setChan d c).dispatches = s.dispatches := rfl

theorem setDispatch_self (c : DispatchCall) : (s.setDispatch m c).dispatches m = c :=
  Function.update_self ..

theorem setDispatch_of_ne {m' : Nat} (h : m' ≠ m) (c : DispatchCall) :
    (s.setDispatch m c).dispatches m' = s.dispatches m' :=
  Function.update_of_ne h ..

@[simp] theorem tick_chans : s.tick.chans = s.chans := rfl
@[simp] theorem tick_dispatches : s.tick.dispatches = s.dispatches := rfl

end State

/-- What the actions do. -/
inductive Effect (s : State) : Action → State → Prop
  | register {d : Nat} {laneKey recvMsgType : String} (h : (s.dos d).pc = .idle) :
      Effect s (.doRegister d laneKey recvMsgType)
        { s with
          registry := register s.registry d laneKey recvMsgType
          dos := Function.update s.dos d ⟨recvMsgType, laneKey, s.clock, .registered⟩
          chans := Function.update s.chans d (.make 1) }
  | wait {d : Nat} (h : (s.dos d).pc = .registered) :
      Effect s (.doSend d true) (s.setDo d .waiting)
  | sendFailed {d : Nat} (h : (s.dos d).pc = .registered) :
      Effect s (.doSend d false) (s.setDo d (.leaving none))
  | cancelled {d : Nat} (h : (s.dos d).pc = .waiting) :
      Effect s (.doCancelled d) (s.setDo d (.leaving none))
  | receive {d m : Nat} {c : Chan Nat} (h : (s.dos d).pc = .waiting)
      (hc : (s.chans d).recv = .value m c) :
      Effect s (.doReceive d) ((s.setDo d (.leaving (some m))).setChan d c)
  | unregister {d : Nat} {r : Option Nat} (h : (s.dos d).pc = .leaving r) :
      Effect s (.doUnregister d)
        { s.setDo d (.closing r) with
          registry := unregister s.registry (s.dos d).laneKey (s.dos d).msgType }
  | close {d : Nat} {r : Option Nat} {c : Chan Nat} (h : (s.dos d).pc = .closing r)
      (hc : (s.chans d).close = some c) :
      Effect s (.doClose d) ((s.setDo d (.returned r)).setChan d c)
  | lookupFailed {m : Nat} {msgType laneKey : String} (h : (s.dispatches m).pc = .idle)
      (hl : s.lookup msgType laneKey = none) :
      Effect s (.lookup m msgType laneKey)
        (s.setDispatch m ⟨msgType, laneKey, s.clock, some s.clock, .failed⟩)
  | lookup {m d : Nat} {msgType laneKey : String} (h : (s.dispatches m).pc = .idle)
      (hl : s.lookup msgType laneKey = some d) :
      Effect s (.lookup m msgType laneKey)
        (s.setDispatch m ⟨msgType, laneKey, s.clock, none, .holding d⟩)
  | sendPanics {m d : Nat} (h : (s.dispatches m).pc = .holding d)
      (hc : (s.chans d).closed = true) : Effect s (.send m) (s.finish m .failed)
  | send {m d : Nat} {c : Chan Nat} (h : (s.dispatches m).pc = .holding d)
      (hc : (s.chans d).trySend m = .ok c) :
      Effect s (.send m) ((s.finish m (.sent d)).setChan d c)

theorem step_effect {s s' : State} {a : Action} (h : step s a = some s') :
    ∃ s₁, Effect s a s₁ ∧ s' = s₁.tick := by
  obtain ⟨s₁, hn, rfl⟩ := Option.map_eq_some_iff.mp h
  refine ⟨s₁, ?_, rfl⟩
  cases a with
  | doRegister d laneKey recvMsgType =>
    simp only [next] at hn
    split at hn
    · cases hn
      exact .register ‹_›
    · cases hn
  | doSend d ok =>
    simp only [next] at hn
    split at hn
    · cases hn
      cases ok with
      | true => exact .wait ‹_›
      | false => exact .sendFailed ‹_›
    · cases hn
  | doCancelled d =>
    simp only [next] at hn
    split at hn
    · cases hn
      exact .cancelled ‹_›
    · cases hn
  | doReceive d =>
    simp only [next] at hn
    split at hn
    · cases hn
      exact .receive ‹_› ‹_›
    · cases hn
  | doUnregister d =>
    simp only [next] at hn
    split at hn
    · cases hn
      exact .unregister ‹_›
    · cases hn
  | doClose d =>
    simp only [next] at hn
    split at hn
    · cases hn
      exact .close ‹_› ‹_›
    · cases hn
  | lookup m msgType laneKey =>
    simp only [next] at hn
    split at hn
    · split at hn
      · cases hn
        exact .lookupFailed ‹_› ‹_›
      · cases hn
        exact .lookup ‹_› ‹_›
    · cases hn
  | send m =>
    simp only [next] at hn
    split at hn
    · split at hn
      · cases hn
        exact .sendPanics ‹_› (Chan.trySend_panic_iff.mp ‹_›)
      · cases hn
      · cases hn
        exact .send ‹_› ‹_›
    · cases hn

theorem lookup_register {s s' : State} {d : Nat} {laneKey msgType : String}
    (h : s'.registry = register s.registry d laneKey msgType) (t k : String) :
    s'.lookup t k = if t = msgType ∧ k = laneKey then some d else s.lookup t k := by
  unfold State.lookup
  rw [h, register, GoMap.get?_insert]
  by_cases ht : t = msgType
  · subst ht
    cases hb : s.registry.get? t with
    | none => by_cases hk : k = laneKey <;> simp [hk]
    | some byLaneKey => by_cases hk : k = laneKey <;> simp [hk]
  · simp [ht]

theorem lookup_unregister {s s' : State} {laneKey msgType : String}
    (h : s'.registry = unregister s.registry laneKey msgType) (t k : String) :
    s'.lookup t k = if t = msgType ∧ k = laneKey then none else s.lookup t k := by
  unfold State.lookup
  rw [h, unregister]
  cases hb : s.registry.get? msgType with
  | none =>
    by_cases ht : t = msgType
    · simp [ht, hb]
    · simp [ht]
  | some byLaneKey =>
    dsimp only
    rw [GoMap.get?_insert]
    by_cases ht : t = msgType
    · subst ht
      by_cases hk : k = laneKey <;> simp [hk, hb]
    · simp [ht]

variable {s s' : State} {d m : Nat}

/-- What holds between two states if no message becomes or ceases to be a first one: the
calls of `Do` are the same up to where they are, and dispatches only begin or return. -/
structure Later (s s' : State) : Prop where
  calls : ∀ d, (s.dos d).pc ≠ .idle → (s'.dos d).msgType = (s.dos d).msgType ∧
    (s'.dos d).laneKey = (s.dos d).laneKey ∧ (s'.dos d).registeredAt = (s.dos d).registeredAt
  kept : ∀ m, (s.dispatches m).pc ≠ .idle → (s'.dispatches m).pc ≠ .idle ∧
    (s'.dispatches m).msgType = (s.dispatches m).msgType ∧
    (s'.dispatches m).laneKey = (s.dispatches m).laneKey ∧
    (s'.dispatches m).lookedUpAt = (s.dispatches m).lookedUpAt
  returned : ∀ m t, (s.dispatches m).returnedAt = some t → (s'.dispatches m).returnedAt = some t
  returns : ∀ m t, (s'.dispatches m).returnedAt = some t →
    (s.dispatches m).returnedAt = some t ∨ s.clock ≤ t

/-- Dispatches that were there before match the same calls. -/
theorem Later.matches_iff (h : Later s s')
    (hd : (s.dos d).pc ≠ .idle) (hm : (s.dispatches m).pc ≠ .idle) :
    Matches s' d m ↔ Matches s d m := by
  obtain ⟨ht, hk, hr⟩ := h.calls d hd
  obtain ⟨hc, hmt, hmk, hml⟩ := h.kept m hm
  constructor
  · rintro ⟨-, h1, h2, h3⟩
    exact ⟨hm, by rw [← hmt, h1, ht], by rw [← hmk, h2, hk], by rw [← hr, ← hml]; exact h3⟩
  · rintro ⟨-, h1, h2, h3⟩
    exact ⟨hc, by rw [hmt, h1, ht], by rw [hmk, h2, hk], by rw [hr, hml]; exact h3⟩

/-- A first message stays one. -/
theorem Later.first (h : Later s s') (hd : (s.dos d).pc ≠ .idle)
    (hidle : ∀ m, (s.dispatches m).pc = .idle → (s.dispatches m).returnedAt = none)
    (hpast : ∀ t, (s.dispatches m).returnedAt = some t → t < s.clock) (hf : First s d m) :
    First s' d m := by
  obtain ⟨hm, t, ht, hfirst⟩ := hf
  have hclock := hpast t ht
  refine ⟨(h.matches_iff hd hm.called).mpr hm, t, h.returned m t ht, ?_⟩
  intro m' hne hm' t' ht'
  rcases h.returns m' t' ht' with hold | hnew
  · have hcalled : (s.dispatches m').pc ≠ .idle := by
      intro hi
      rw [hidle m' hi] at hold
      cases hold
    exact hfirst m' hne ((h.matches_iff hd hcalled).mp hm') t' hold
  · exact Nat.lt_of_lt_of_le hclock hnew

/-- A step that touches no dispatch. -/
theorem Later.of_dispatches (hm : s'.dispatches = s.dispatches)
    (hd : ∀ d, (s.dos d).pc ≠ .idle → (s'.dos d).msgType = (s.dos d).msgType ∧
      (s'.dos d).laneKey = (s.dos d).laneKey ∧
      (s'.dos d).registeredAt = (s.dos d).registeredAt) : Later s s' where
  calls := hd
  kept m h := by rw [hm]; exact ⟨h, rfl, rfl, rfl⟩
  returned m t h := by rw [hm]; exact h
  returns m t h := .inl (by rw [← hm]; exact h)

/-- A dispatch that begins. -/
theorem Later.of_begin {c : DispatchCall} (hidle : (s.dispatches m).pc = .idle)
    (hnone : (s.dispatches m).returnedAt = none) (hd : s'.dos = s.dos)
    (hm : s'.dispatches = (s.setDispatch m c).dispatches)
    (hr : ∀ t, c.returnedAt = some t → s.clock = t) : Later s s' where
  calls d _ := by rw [hd]; exact ⟨rfl, rfl, rfl⟩
  kept m' h := by
    have hne : m' ≠ m := by rintro rfl; exact h hidle
    rw [hm, State.setDispatch_of_ne _ _ hne]
    exact ⟨h, rfl, rfl, rfl⟩
  returned m' t h := by
    have hne : m' ≠ m := by rintro rfl; rw [hnone] at h; cases h
    rw [hm, State.setDispatch_of_ne _ _ hne]
    exact h
  returns m' t h := by
    rw [hm] at h
    by_cases he : m' = m
    · rw [he, State.setDispatch_self] at h
      exact .inr (Nat.le_of_eq (hr t h))
    · rw [State.setDispatch_of_ne _ _ he] at h
      exact .inl h

/-- A dispatch that returns. -/
theorem Later.of_finish {pc : DispatchPc} (hnone : (s.dispatches m).returnedAt = none)
    (hd : s'.dos = s.dos) (hm : s'.dispatches = (s.finish m pc).dispatches) (hpc : pc ≠ .idle) :
    Later s s' where
  calls d _ := by rw [hd]; exact ⟨rfl, rfl, rfl⟩
  kept m' h := by
    rw [hm]
    unfold State.finish
    by_cases he : m' = m
    · rw [he, State.setDispatch_self]
      exact ⟨hpc, rfl, rfl, rfl⟩
    · rw [State.setDispatch_of_ne _ _ he]
      exact ⟨h, rfl, rfl, rfl⟩
  returned m' t h := by
    have hne : m' ≠ m := by rintro rfl; rw [hnone] at h; cases h
    rw [hm, State.finish, State.setDispatch_of_ne _ _ hne]
    exact h
  returns m' t h := by
    rw [hm, State.finish] at h
    by_cases he : m' = m
    · rw [he, State.setDispatch_self] at h
      exact .inr (Nat.le_of_eq (Option.some.inj h))
    · rw [State.setDispatch_of_ne _ _ he] at h
      exact .inl h

/-- The times are those of steps that have been taken. -/
structure Clocked (s : State) : Prop where
  pastDo : ∀ d, (s.dos d).pc ≠ .idle → (s.dos d).registeredAt < s.clock
  past : ∀ m, (s.dispatches m).pc ≠ .idle → (s.dispatches m).lookedUpAt < s.clock
  returned : ∀ m t, (s.dispatches m).returnedAt = some t →
    (s.dispatches m).lookedUpAt ≤ t ∧ t < s.clock
  idle : ∀ m, (s.dispatches m).pc = .idle → (s.dispatches m).returnedAt = none

theorem Clocked.of_step (h : Clocked s) (hclock : s'.clock = s.clock + 1)
    (hdo : ∀ d, (s'.dos d).pc ≠ .idle →
      (s.dos d).pc ≠ .idle ∧ (s'.dos d).registeredAt = (s.dos d).registeredAt ∨
        (s'.dos d).registeredAt = s.clock)
    (hm : ∀ m, s'.dispatches m = s.dispatches m ∨
      (s'.dispatches m).pc ≠ .idle ∧ (s'.dispatches m).lookedUpAt ≤ s.clock ∧
        ∀ t, (s'.dispatches m).returnedAt = some t → t = s.clock) : Clocked s' where
  pastDo d hd := by
    rcases hdo d hd with ⟨hb, he⟩ | he
    · have := h.pastDo d hb
      omega
    · omega
  past m hc := by
    rcases hm m with he | ⟨-, hl, -⟩
    · rw [he] at hc ⊢
      have := h.past m hc
      omega
    · omega
  returned m t ht := by
    rcases hm m with he | ⟨-, hl, hr⟩
    · rw [he] at ht ⊢
      have := h.returned m t ht
      omega
    · have := hr t ht
      omega
  idle m hc := by
    rcases hm m with he | ⟨hb, -⟩
    · rw [he] at hc ⊢
      exact h.idle m hc
    · exact absurd hc hb

/-- A call of `Do` that has begun goes on. -/
theorem Clocked.of_setDo {pc : DoPc} (h : Clocked s) (hclock : s'.clock = s.clock + 1)
    (hd : (s.dos d).pc ≠ .idle) (hdos : s'.dos = (s.setDo d pc).dos)
    (hm : s'.dispatches = s.dispatches) : Clocked s' := by
  refine h.of_step hclock (fun d' h' => ?_) fun m => .inl (congrFun hm m)
  rw [hdos] at h' ⊢
  refine .inl ⟨?_, State.setDo_registeredAt s d d' pc⟩
  rw [State.setDo_pc] at h'
  split at h'
  · rename_i he
    rw [he]
    exact hd
  · exact h'

/-- A dispatch begins or returns now. -/
theorem Clocked.of_setDispatch {c : DispatchCall} (h : Clocked s)
    (hclock : s'.clock = s.clock + 1) (hdos : s'.dos = s.dos)
    (hm : s'.dispatches = (s.setDispatch m c).dispatches) (hc : c.pc ≠ .idle)
    (hl : c.lookedUpAt ≤ s.clock) (hr : ∀ t, c.returnedAt = some t → t = s.clock) :
    Clocked s' := by
  refine h.of_step hclock (fun d hd => ?_) fun m' => ?_
  · rw [hdos] at hd ⊢
    exact .inl ⟨hd, rfl⟩
  · rw [hm]
    by_cases he : m' = m
    · rw [he, State.setDispatch_self]
      exact .inr ⟨hc, hl, hr⟩
    · exact .inl (State.setDispatch_of_ne _ _ he _)

theorem Clocked.of_finish {pc : DispatchPc} (h : Clocked s) (hclock : s'.clock = s.clock + 1)
    (hdos : s'.dos = s.dos) (hm : s'.dispatches = (s.finish m pc).dispatches)
    (hcalled : (s.dispatches m).pc ≠ .idle) (hpc : pc ≠ .idle) : Clocked s' :=
  h.of_setDispatch hclock hdos hm hpc (Nat.le_of_lt (h.past m hcalled))
    fun _ ht => (Option.some.inj ht).symm

theorem Clocked.effect {a : Action} (h : Clocked s) (he : Effect s a s') : Clocked s'.tick := by
  cases he with
  | @register d laneKey recvMsgType hidle =>
    refine h.of_step rfl (fun d' h' => ?_) fun _ => .inl rfl
    dsimp only [State.tick] at h' ⊢
    by_cases hd : d' = d
    · rw [hd, Function.update_self]
      exact .inr rfl
    · rw [Function.update_of_ne hd] at h' ⊢
      exact .inl ⟨h', rfl⟩
  | wait hd => exact h.of_setDo rfl (by rw [hd]; exact nofun) rfl rfl
  | sendFailed hd => exact h.of_setDo rfl (by rw [hd]; exact nofun) rfl rfl
  | cancelled hd => exact h.of_setDo rfl (by rw [hd]; exact nofun) rfl rfl
  | receive hd hc => exact h.of_setDo rfl (by rw [hd]; exact nofun) rfl rfl
  | unregister hd => exact h.of_setDo rfl (by rw [hd]; exact nofun) rfl rfl
  | close hd hc => exact h.of_setDo rfl (by rw [hd]; exact nofun) rfl rfl
  | lookupFailed hm hl =>
    exact h.of_setDispatch rfl rfl rfl nofun (Nat.le_refl _) fun _ ht => (Option.some.inj ht).symm
  | lookup hm hl => exact h.of_setDispatch rfl rfl rfl nofun (Nat.le_refl _) nofun
  | sendPanics hm hc => exact h.of_finish rfl rfl rfl (by rw [hm]; exact nofun) nofun
  | send hm hc => exact h.of_finish rfl rfl rfl (by rw [hm]; exact nofun) nofun

end FrpXtcp.Transport

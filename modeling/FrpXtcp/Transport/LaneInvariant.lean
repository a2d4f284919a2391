import FrpXtcp.Transport.LaneOrder

/-!
# The registry, the channels and the calls

A call of `Do` that returns a message returns the first one that was dispatched on its lane
after it had registered. The invariant says it before the message is taken: as long as the
channel of a waiting call is empty, every message looked up for it is still held by its
dispatcher, and what stands first in the channel is a first message.
-/
namespace FrpXtcp.Transport

open FrpXtcp.Lib

/-- The call is in the registry. -/
def DoPc.Listed : DoPc → Prop
  | .registered | .waiting | .leaving _ => True
  | _ => False

/-- The call can still receive. -/
def DoPc.Open : DoPc → Prop
  | .registered | .waiting => True
  | _ => False

/-- The message that the call will return or has returned. -/
def DoPc.result : DoPc → Option Nat
  | .leaving r | .closing r | .returned r => r
  | _ => none

/-- What a call has received or can receive. -/
structure Served (s : State) (d : Nat) : Prop where
  sent : ∀ m ∈ (s.chans d).buf, (s.dispatches m).pc = .sent d
  empty : (s.dos d).pc.Open → (s.chans d).buf = [] →
    ∀ m, Matches s d m → (s.dispatches m).pc = .holding d
  head : ∀ m, (s.dos d).pc.Open → (s.chans d).buf.head? = some m → First s d m
  result : ∀ m, (s.dos d).pc.result = some m → First s d m ∧ (s.dispatches m).pc = .sent d

/-- The registry holds exactly the channels of the calls that have registered and not
unregistered, and the messages are where the calls say. -/
structure Inv (s : State) : Prop where
  listed : ∀ t k d, s.lookup t k = some d ↔
    (s.dos d).pc.Listed ∧ (s.dos d).msgType = t ∧ (s.dos d).laneKey = k
  chan : ∀ d, (s.dos d).Active → (s.chans d).closed = false
  clocked : Clocked s
  held : ∀ m d, (s.dispatches m).pc = .holding d →
    (s.dos d).pc ≠ .idle ∧ Matches s d m ∧ (s.dispatches m).returnedAt = none
  served : ∀ d, Served s d

theorem inv_init : Inv init where
  listed := by
    intro t k d
    simp [init, State.lookup, DoPc.Listed]
  chan := fun d h => h.elim
  clocked := ⟨fun _ h => absurd rfl h, fun _ h => absurd rfl h, nofun, fun _ _ => rfl⟩
  held := nofun
  served := fun d => ⟨nofun, fun h => h.elim, fun m h => h.elim, nofun⟩

theorem DoPc.Listed.ne_idle {pc : DoPc} (h : pc.Listed) : pc ≠ .idle := by
  rintro rfl
  exact h

theorem DoPc.Open.listed {pc : DoPc} (h : pc.Open) : pc.Listed := by
  cases pc with
  | registered => trivial
  | waiting => trivial
  | _ => exact h.elim

theorem DoCall.active_of_listed {c : DoCall} (h : c.pc.Listed) : c.Active := by
  unfold DoCall.Active
  split
  · rename_i hc
    rw [hc] at h
    exact h
  · rename_i hc
    rw [hc] at h
    exact h
  · trivial

theorem DoPc.result_ne_idle {pc : DoPc} {m : Nat} (h : pc.result = some m) : pc ≠ .idle := by
  rintro rfl
  cases h

variable {s s' : State} {d m : Nat}

theorem Inv.first (hi : Inv s) (h : Later s s') (hd : (s.dos d).pc ≠ .idle)
    (hf : First s d m) : First s' d m :=
  h.first hd hi.clocked.idle (fun t ht => (hi.clocked.returned m t ht).2) hf

/-- A call that a step does not touch is served as before, if the dispatches that match it
are still held when they were, or new and held. -/
theorem Inv.served_keep (hi : Inv s) (h : Later s s')
    (hpc : (s'.dos d).pc = (s.dos d).pc) (hbuf : (s'.chans d).buf = (s.chans d).buf)
    (hsent : ∀ m, (s.dispatches m).pc = .sent d → (s'.dispatches m).pc = .sent d)
    (hheld : (s.dos d).pc.Open → ∀ m, Matches s' d m → (s'.dispatches m).pc = .holding d ∨
      (s.dispatches m).pc ≠ .idle ∧
        ((s.dispatches m).pc = .holding d → (s'.dispatches m).pc = .holding d)) :
    Served s' d := by
  have hd := hi.served d
  refine ⟨fun m hm => ?_, fun ho hb m hm => ?_, fun m ho hb => ?_, fun m hr => ?_⟩
  · rw [hbuf] at hm
    exact hsent m (hd.sent m hm)
  · rw [hpc] at ho
    rw [hbuf] at hb
    rcases hheld ho m hm with hnew | ⟨hcalled, hold⟩
    · exact hnew
    · exact hold (hd.empty ho hb m ((h.matches_iff ho.listed.ne_idle hcalled).mp hm))
  · rw [hpc] at ho
    rw [hbuf] at hb
    exact hi.first h ho.listed.ne_idle (hd.head m ho hb)
  · rw [hpc] at hr
    obtain ⟨hf, hs⟩ := hd.result m hr
    exact ⟨hi.first h (DoPc.result_ne_idle hr) hf, hsent m hs⟩

/-- The same for a step that touches no dispatch. -/
theorem Inv.served_same (hi : Inv s) (h : Later s s') (hm : s'.dispatches = s.dispatches)
    (hpc : (s'.dos d).pc = (s.dos d).pc) (hbuf : (s'.chans d).buf = (s.chans d).buf) :
    Served s' d := by
  refine hi.served_keep h hpc hbuf (fun m hs => by rw [hm]; exact hs) fun _ m hmatch => .inr ?_
  have hcalled := hmatch.called
  rw [hm] at hcalled ⊢
  exact ⟨hcalled, id⟩

/-- A call of `Do` goes on to `pc` and leaves `c` as its channel. -/
structure Moved (s s' : State) (d : Nat) (pc : DoPc) (c : Chan Nat) : Prop where
  dos : s'.dos = (s.setDo d pc).dos
  chans : s'.chans = (s.setChan d c).chans
  dispatches : s'.dispatches = s.dispatches
  clock : s'.clock = s.clock + 1

theorem Moved.later {pc : DoPc} {c : Chan Nat} (h : Moved s s' d pc c) : Later s s' := by
  refine .of_dispatches h.dispatches fun d' _ => ?_
  rw [h.dos]
  exact State.setDo_call s d d' pc

/-- A call goes on without a new message: only what it has received or given up changes. -/
theorem Inv.moved {pc : DoPc} {c : Chan Nat} (hi : Inv s) (hclocked : Clocked s')
    (h : Moved s s' d pc c)
    (hlisted : ∀ t k d', s'.lookup t k = some d' ↔
      (s'.dos d').pc.Listed ∧ (s'.dos d').msgType = t ∧ (s'.dos d').laneKey = k)
    (hbegun : (s.dos d).pc ≠ .idle) (hpc : pc ≠ .idle)
    (hclosed : (s'.dos d).Active → c.closed = false)
    (hbuf : ∀ m ∈ c.buf, m ∈ (s.chans d).buf)
    (hopen : pc.Open → (s.dos d).pc.Open ∧ c.buf = (s.chans d).buf)
    (hresult : ∀ m, pc.result = some m →
      First s d m ∧ (s.dispatches m).pc = .sent d) : Inv s' := by
  have hlater := h.later
  have hself : (s'.dos d).pc = pc := by rw [h.dos, State.setDo_pc, if_pos rfl]
  have hchan : s'.chans d = c := by rw [h.chans, State.setChan_chans, if_pos rfl]
  have hpc' : ∀ d', d' ≠ d → (s'.dos d').pc = (s.dos d').pc := by
    intro d' he
    rw [h.dos, State.setDo_pc, if_neg he]
  have hchan' : ∀ d', d' ≠ d → s'.chans d' = s.chans d' := by
    intro d' he
    rw [h.chans, State.setChan_chans, if_neg he]
  refine ⟨hlisted, ?_, hclocked, ?_, ?_⟩
  · intro d' h'
    by_cases he : d' = d
    · subst he
      rw [hchan]
      exact hclosed h'
    · rw [hchan' d' he]
      refine hi.chan d' ?_
      unfold DoCall.Active at h' ⊢
      rwa [hpc' d' he] at h'
  · intro m d' hm
    rw [h.dispatches] at hm ⊢
    obtain ⟨hb, hmatch, hret⟩ := hi.held m d' hm
    refine ⟨?_, (hlater.matches_iff hb hmatch.called).mpr hmatch, hret⟩
    by_cases he : d' = d
    · rw [he, hself]
      exact hpc
    · rw [hpc' d' he]
      exact hb
  · intro d'
    by_cases he : d' = d
    · subst he
      -- a call that can still receive could do so before, from the same buffer
      refine ⟨fun m hm => ?_, fun ho hb m hmatch => ?_, fun m ho hb => ?_, fun m hr => ?_⟩
      · rw [hchan] at hm
        rw [h.dispatches]
        exact (hi.served d').sent m (hbuf m hm)
      · obtain ⟨ho', hbuf'⟩ := hopen (hself ▸ ho)
        rw [hchan, hbuf'] at hb
        have hcalled := hmatch.called
        rw [h.dispatches] at hcalled ⊢
        exact (hi.served d').empty ho' hb m ((hlater.matches_iff hbegun hcalled).mp hmatch)
      · obtain ⟨ho', hbuf'⟩ := hopen (hself ▸ ho)
        rw [hchan, hbuf'] at hb
        exact hi.first hlater hbegun ((hi.served d').head m ho' hb)
      · rw [hself] at hr
        rw [h.dispatches]
        exact (hresult m hr).imp_left (hi.first hlater hbegun)
    · exact hi.served_same hlater h.dispatches (hpc' d' he) (by rw [hchan' d' he])

/-- A dispatch begins. If it finds a channel it holds that channel. -/
theorem Inv.begun {c : DispatchCall} (hi : Inv s)
    (hclocked : Clocked (s.setDispatch m c).tick) (hidle : (s.dispatches m).pc = .idle)
    (hclock : c.lookedUpAt = s.clock) (hret : ∀ t, c.returnedAt = some t → s.clock = t)
    (hcalled : c.pc ≠ .idle)
    (hheld : ∀ d, c.pc = .holding d →
      s.lookup c.msgType c.laneKey = some d ∧ c.returnedAt = none)
    (hfound : ∀ d, s.lookup c.msgType c.laneKey = some d → c.pc = .holding d) :
    Inv (s.setDispatch m c).tick := by
  have hlater : Later s (s.setDispatch m c).tick :=
    .of_begin hidle (hi.clocked.idle m hidle) rfl rfl hret
  have hself : (s.setDispatch m c).tick.dispatches m = c := State.setDispatch_self ..
  have hother : ∀ m', m' ≠ m → (s.setDispatch m c).tick.dispatches m' = s.dispatches m' :=
    fun m' he => State.setDispatch_of_ne _ _ he _
  have hsent : ∀ m' d, (s.dispatches m').pc = .sent d →
      ((s.setDispatch m c).tick.dispatches m').pc = .sent d := by
    intro m' d hs
    rw [hother m' (by rintro rfl; rw [hidle] at hs; cases hs)]
    exact hs
  refine ⟨hi.listed, hi.chan, hclocked, ?_, fun d =>
    hi.served_keep hlater rfl rfl (fun m' => hsent m' d) fun ho m' hmatch => ?_⟩
  · intro m' d h'
    by_cases he : m' = m
    · subst he
      rw [hself] at h'
      obtain ⟨hl, hr⟩ := hheld d h'
      obtain ⟨hlisted, ht, hk⟩ := (hi.listed _ _ d).mp hl
      refine ⟨hlisted.ne_idle, ⟨?_, ?_, ?_, ?_⟩, ?_⟩
      · rw [hself]
        exact hcalled
      · rw [hself]
        exact ht.symm
      · rw [hself]
        exact hk.symm
      · rw [hself, hclock]
        exact hi.clocked.pastDo d hlisted.ne_idle
      · rw [hself]
        exact hr
    · rw [hother m' he] at h' ⊢
      obtain ⟨hb, hmatch, hr⟩ := hi.held m' d h'
      exact ⟨hb, (hlater.matches_iff hb hmatch.called).mpr hmatch, hr⟩
  · by_cases he : m' = m
    · subst he
      obtain ⟨-, ht, hk, -⟩ := hmatch
      rw [hself] at ht hk ⊢
      exact .inl (hfound d ((hi.listed _ _ d).mpr ⟨ho.listed, ht.symm, hk.symm⟩))
    · have hcalled' := hmatch.called
      rw [hother m' he] at hcalled' ⊢
      exact .inr ⟨hcalled', id⟩

/-- The first message in an empty channel: all others of the lane are still held. -/
theorem Inv.first_sent (hi : Inv s) (h : (s.dispatches m).pc = .holding d)
    (ho : (s.dos d).pc.Open) (hnil : (s.chans d).buf = []) (hlater : Later s s')
    (hret : (s'.dispatches m).returnedAt = some s.clock)
    (hother : ∀ m', m' ≠ m → s'.dispatches m' = s.dispatches m') : First s' d m := by
  obtain ⟨hb, hmatch, -⟩ := hi.held m d h
  refine ⟨(hlater.matches_iff hb hmatch.called).mpr hmatch, s.clock, hret, ?_⟩
  intro m' hne hm' t ht
  have hcalled := hm'.called
  rw [hother m' hne] at hcalled ht
  have hholding := (hi.served d).empty ho hnil m' ((hlater.matches_iff hb hcalled).mp hm')
  rw [(hi.held m' d hholding).2.2] at ht
  cases ht

/-- A dispatch that holds the channel of `d` returns and leaves `c` as that channel. -/
theorem Inv.finished {pc : DispatchPc} {c : Chan Nat} (hi : Inv s)
    (hclocked : Clocked ((s.finish m pc).setChan d c).tick)
    (h : (s.dispatches m).pc = .holding d) (hpc : pc = .failed ∨ pc = .sent d)
    (hclosed : c.closed = (s.chans d).closed)
    (hbuf : ∀ m' ∈ c.buf, m' ∈ (s.chans d).buf ∨ m' = m ∧ pc = .sent d)
    (hempty : (s.dos d).pc.Open → c.buf ≠ [])
    (hhead : (s.dos d).pc.Open → ∀ m', c.buf.head? = some m' →
      (s.chans d).buf.head? = some m' ∨ (s.chans d).buf = [] ∧ m' = m) :
    Inv ((s.finish m pc).setChan d c).tick := by
  have hne : (s.dispatches m).pc ≠ .idle := by rw [h]; exact nofun
  have hpcne : pc ≠ .idle := by rcases hpc with rfl | rfl <;> exact nofun
  have hlater : Later s ((s.finish m pc).setChan d c).tick :=
    .of_finish (hi.held m d h).2.2 rfl rfl hpcne
  have hself : (((s.finish m pc).setChan d c).tick.dispatches m).pc = pc := by
    rw [State.tick_dispatches, State.setChan_dispatches, State.finish, State.setDispatch_self]
  have hother : ∀ m', m' ≠ m →
      ((s.finish m pc).setChan d c).tick.dispatches m' = s.dispatches m' :=
    fun m' he => State.setDispatch_of_ne _ _ he _
  have hsent : ∀ m' d', (s.dispatches m').pc = .sent d' →
      (((s.finish m pc).setChan d c).tick.dispatches m').pc = .sent d' := by
    intro m' d' h'
    rw [hother m' (by rintro rfl; rw [h] at h'; cases h')]
    exact h'
  have hchan : ((s.finish m pc).setChan d c).tick.chans d = c := by
    rw [State.tick_chans, State.setChan_chans, if_pos rfl]
  have hchan' : ∀ d', d' ≠ d → ((s.finish m pc).setChan d c).tick.chans d' = s.chans d' := by
    intro d' he
    rw [State.tick_chans, State.setChan_chans, if_neg he]
    rfl
  refine ⟨hi.listed, ?_, hclocked, ?_, ?_⟩
  · intro d' hd'
    by_cases he : d' = d
    · subst he
      rw [hchan, hclosed]
      exact hi.chan d' hd'
    · rw [hchan' d' he]
      exact hi.chan d' hd'
  · intro m' d' h'
    have he : m' ≠ m := by
      rintro rfl
      rw [hself] at h'
      rcases hpc with hp | hp <;> rw [hp] at h' <;> cases h'
    rw [hother m' he] at h' ⊢
    obtain ⟨hb, hmatch, hr⟩ := hi.held m' d' h'
    exact ⟨hb, (hlater.matches_iff hb hmatch.called).mpr hmatch, hr⟩
  · intro d'
    by_cases he : d' = d
    · subst he
      have hd := hi.served d'
      refine ⟨fun m' hm' => ?_, fun ho hb => ?_, fun m' ho hb => ?_, fun m' hr => ?_⟩
      · rw [hchan] at hm'
        rcases hbuf m' hm' with hin | ⟨rfl, hp⟩
        · exact hsent m' d' (hd.sent m' hin)
        · rw [hself, hp]
      · rw [hchan] at hb
        exact absurd hb (hempty ho)
      · rw [hchan] at hb
        rcases hhead ho m' hb with hin | ⟨hnil, rfl⟩
        · exact hi.first hlater ho.listed.ne_idle (hd.head m' ho hin)
        · refine hi.first_sent h ho hnil hlater ?_ hother
          rw [State.tick_dispatches, State.setChan_dispatches, State.finish,
            State.setDispatch_self]
      · obtain ⟨hf, hs⟩ := hd.result m' hr
        exact ⟨hi.first hlater (DoPc.result_ne_idle hr) hf, hsent m' d' hs⟩
    · refine hi.served_keep hlater rfl (by rw [hchan' d' he]) (fun m' => hsent m' d') ?_
      intro ho m' hmatch
      rcases ne_or_eq m' m with hm' | rfl
      · have hcalled := hmatch.called
        rw [hother m' hm'] at hcalled ⊢
        exact .inr ⟨hcalled, id⟩
      · refine .inr ⟨hne, fun h' => ?_⟩
        rw [h] at h'
        exact absurd (DispatchPc.holding.inj h').symm he

/-- A call that begins takes a lane on which no call is active. -/
theorem Inv.registered {laneKey recvMsgType : String} (hi : Inv s) (hclocked : Clocked s')
    (hidle : (s.dos d).pc = .idle) (hdistinct : DistinctLanes s (.doRegister d laneKey recvMsgType))
    (hreg : s'.registry = register s.registry d laneKey recvMsgType)
    (hdos : s'.dos = Function.update s.dos d ⟨recvMsgType, laneKey, s.clock, .registered⟩)
    (hchans : s'.chans = Function.update s.chans d (.make 1))
    (hdisp : s'.dispatches = s.dispatches) : Inv s' := by
  have hself : s'.dos d = ⟨recvMsgType, laneKey, s.clock, .registered⟩ := by
    rw [hdos, Function.update_self]
  have hdo : ∀ d', d' ≠ d → s'.dos d' = s.dos d' := by
    intro d' he
    rw [hdos, Function.update_of_ne he]
  have hbegun : ∀ d', (s.dos d').pc ≠ .idle → s'.dos d' = s.dos d' := by
    intro d' h'
    refine hdo d' ?_
    rintro rfl
    exact h' hidle
  have hchan : ∀ d', d' ≠ d → s'.chans d' = s.chans d' := by
    intro d' he
    rw [hchans, Function.update_of_ne he]
  have hbuf : (s'.chans d).buf = [] := by
    rw [hchans, Function.update_self]
    rfl
  have hlater : Later s s' :=
    .of_dispatches hdisp fun d' h' => by rw [hbegun d' h']; exact ⟨rfl, rfl, rfl⟩
  refine ⟨?_, ?_, hclocked, ?_, ?_⟩
  · intro t k d'
    rw [lookup_register hreg]
    by_cases he : d' = d
    · subst he
      rw [hself]
      constructor
      · intro h'
        split at h'
        · rename_i hkey
          exact ⟨trivial, hkey.1.symm, hkey.2.symm⟩
        · have := ((hi.listed t k d').mp h').1
          rw [hidle] at this
          exact this.elim
      · rintro ⟨-, ht, hk⟩
        rw [if_pos ⟨ht.symm, hk.symm⟩]
    · rw [hdo d' he, ← hi.listed t k d']
      split
      · rename_i hkey
        obtain ⟨rfl, rfl⟩ := hkey
        constructor
        · intro h'
          exact absurd (Option.some.inj h').symm he
        · intro h'
          obtain ⟨hl, ht, hk⟩ := (hi.listed _ _ d').mp h'
          exact absurd ⟨ht, hk⟩ (hdistinct d' (DoCall.active_of_listed hl))
      · exact Iff.rfl
  · intro d' h'
    by_cases he : d' = d
    · rw [he, hchans, Function.update_self]
      rfl
    · rw [hdo d' he] at h'
      rw [hchan d' he]
      exact hi.chan d' h'
  · intro m d' h'
    rw [hdisp] at h' ⊢
    obtain ⟨hb, hmatch, hr⟩ := hi.held m d' h'
    rw [hbegun d' hb]
    exact ⟨hb, (hlater.matches_iff hb hmatch.called).mpr hmatch, hr⟩
  · intro d'
    by_cases he : d' = d
    · subst he
      refine ⟨by rw [hbuf]; exact nofun, fun _ _ m hmatch => ?_, by rw [hbuf]; exact nofun,
        by rw [hself]; exact nofun⟩
      -- every dispatch so far was before the registration
      obtain ⟨hcalled, -, -, hafter⟩ := hmatch
      rw [hdisp] at hcalled hafter
      rw [hself] at hafter
      exact absurd hafter (Nat.not_lt_of_gt (hi.clocked.past m hcalled))
    · exact hi.served_same hlater hdisp (by rw [hdo d' he]) (by rw [hchan d' he])

/-- The registry and the keys are the same, and so is what is listed. -/
theorem Inv.listed_moved {pc : DoPc} {c : Chan Nat} (hi : Inv s) (h : Moved s s' d pc c)
    (hreg : s'.registry = s.registry) (hpc : pc.Listed ↔ (s.dos d).pc.Listed) (t k : String)
    (d' : Nat) : s'.lookup t k = some d' ↔
      (s'.dos d').pc.Listed ∧ (s'.dos d').msgType = t ∧ (s'.dos d').laneKey = k := by
  have hl : s'.lookup t k = s.lookup t k := by rw [State.lookup, hreg, State.lookup]
  rw [hl, hi.listed, h.dos, State.setDo_pc, State.setDo_msgType, State.setDo_laneKey]
  by_cases he : d' = d
  · rw [if_pos he, hpc, he]
  · rw [if_neg he]

theorem Inv.listed_unregister {r : Option Nat} {c : Chan Nat} (hi : Inv s)
    (h : Moved s s' d (.closing r) c) (hd : (s.dos d).pc.Listed)
    (hreg : s'.registry = unregister s.registry (s.dos d).laneKey (s.dos d).msgType)
    (t k : String) (d' : Nat) : s'.lookup t k = some d' ↔
      (s'.dos d').pc.Listed ∧ (s'.dos d').msgType = t ∧ (s'.dos d').laneKey = k := by
  rw [lookup_unregister hreg, h.dos, State.setDo_pc, State.setDo_msgType, State.setDo_laneKey]
  have hown : s.lookup (s.dos d).msgType (s.dos d).laneKey = some d :=
    (hi.listed _ _ d).mpr ⟨hd, rfl, rfl⟩
  by_cases he : d' = d
  · rw [if_pos he, he]
    constructor
    · intro h'
      split at h'
      · cases h'
      · rename_i hkey
        obtain ⟨-, ht, hk⟩ := (hi.listed t k d).mp h'
        exact absurd ⟨ht.symm, hk.symm⟩ hkey
    · exact fun h' => h'.1.elim
  · rw [if_neg he, ← hi.listed]
    split
    · rename_i hkey
      obtain ⟨rfl, rfl⟩ := hkey
      rw [hown]
      constructor
      · exact nofun
      · intro h'
        exact absurd (Option.some.inj h').symm he
    · exact Iff.rfl

theorem setDo_moved (s : State) (d : Nat) (pc : DoPc) :
    Moved s (s.setDo d pc).tick d pc (s.chans d) where
  dos := rfl
  chans := (Function.update_eq_self d s.chans).symm
  dispatches := rfl
  clock := rfl

theorem setChan_moved (s : State) (d : Nat) (pc : DoPc) (c : Chan Nat) :
    Moved s ((s.setDo d pc).setChan d c).tick d pc c := ⟨rfl, rfl, rfl, rfl⟩

/-- A call that stays registered and has received nothing new. -/
theorem Inv.setDo {pc : DoPc} (hi : Inv s) (hclocked : Clocked (s.setDo d pc).tick)
    (hd : (s.dos d).pc.Open) (hpc : pc.Listed)
    (hresult : pc.result = none) : Inv (s.setDo d pc).tick := by
  refine hi.moved hclocked (setDo_moved s d pc) ?_ hd.listed.ne_idle hpc.ne_idle ?_ (fun _ h => h)
    (fun _ => ⟨hd, rfl⟩) (fun m h => ?_)
  · exact hi.listed_moved (setDo_moved s d pc) rfl ⟨fun _ => hd.listed, fun _ => hpc⟩
  · exact fun _ => hi.chan d (DoCall.active_of_listed hd.listed)
  · rw [hresult] at h
    cases h

theorem Inv.effect {a : Action} (hi : Inv s) (hdistinct : DistinctLanes s a)
    (he : Effect s a s') : Inv s'.tick := by
  have hclocked := hi.clocked.effect he
  cases he with
  | register h => exact hi.registered hclocked h hdistinct rfl rfl rfl rfl
  | wait h => exact hi.setDo hclocked (by rw [h]; trivial) trivial rfl
  | sendFailed h => exact hi.setDo hclocked (by rw [h]; trivial) trivial rfl
  | cancelled h => exact hi.setDo hclocked (by rw [h]; trivial) trivial rfl
  | @receive d m c h hc =>
    obtain ⟨hbuf, hclosed, -⟩ := Chan.recv_value hc
    have hopen : (s.dos d).pc.Open := by rw [h]; trivial
    have hmoved := setChan_moved s d (.leaving (some m)) c
    refine hi.moved hclocked hmoved
      (hi.listed_moved hmoved rfl ⟨fun _ => hopen.listed, fun _ => trivial⟩)
      hopen.listed.ne_idle nofun (fun _ => ?_) (fun m' h' => ?_) nofun (fun m' h' => ?_)
    · rw [hclosed]
      exact hi.chan d (DoCall.active_of_listed hopen.listed)
    · rw [hbuf]
      exact List.mem_cons_of_mem _ h'
    · cases h'
      refine ⟨(hi.served d).head m hopen ?_, (hi.served d).sent m ?_⟩
      · rw [hbuf]
        rfl
      · rw [hbuf]
        exact List.mem_cons_self
  | @unregister d r h =>
    have hlisted : (s.dos d).pc.Listed := by rw [h]; trivial
    have hmoved : Moved s (State.tick { s.setDo d (.closing r) with
        registry := unregister s.registry (s.dos d).laneKey (s.dos d).msgType }) d
        (.closing r) (s.chans d) :=
      ⟨rfl, (Function.update_eq_self d s.chans).symm, rfl, rfl⟩
    refine hi.moved hclocked hmoved (hi.listed_unregister hmoved hlisted rfl) hlisted.ne_idle nofun
      (fun _ => hi.chan d (DoCall.active_of_listed hlisted)) (fun _ h' => h') nofun
      (fun m h' => (hi.served d).result m ?_)
    rw [h]
    exact h'
  | @close d r c h hc =>
    obtain ⟨-, -, hbuf, -⟩ := Chan.close_some hc
    have hmoved := setChan_moved s d (.returned r) c
    refine hi.moved hclocked hmoved (hi.listed_moved hmoved rfl ?_) (by rw [h]; exact nofun) nofun
      (fun h' => ?_) (fun m h' => hbuf ▸ h') nofun (fun m h' => (hi.served d).result m ?_)
    · rw [h]
      exact Iff.rfl
    · unfold DoCall.Active at h'
      rw [hmoved.dos, State.setDo_pc, if_pos rfl] at h'
      exact h'.elim
    · rw [h]
      exact h'
  | lookupFailed h hl =>
    refine hi.begun hclocked h rfl (fun t ht => Option.some.inj ht) nofun nofun ?_
    intro d hd
    rw [hl] at hd
    cases hd
  | lookup h hl =>
    refine hi.begun hclocked h rfl nofun nofun ?_ ?_
    · rintro d hd
      cases hd
      exact ⟨hl, rfl⟩
    · intro d hd
      rw [hl] at hd
      cases hd
      rfl
  | @sendPanics m d h hc =>
    have hnot : ¬ (s.dos d).pc.Open := by
      intro ho
      rw [hi.chan d (DoCall.active_of_listed ho.listed)] at hc
      cases hc
    have hsame : (s.finish m .failed).setChan d (s.chans d) = s.finish m .failed :=
      State.setChan_self (s.finish m .failed) d
    rw [← hsame] at hclocked ⊢
    exact hi.finished hclocked h (.inl rfl) rfl (fun _ h' => .inl h') (fun ho => absurd ho hnot)
      (fun ho => absurd ho hnot)
  | @send m d c h hc =>
    obtain ⟨hopen, hbuf, hclosed, -⟩ := Chan.trySend_ok hc
    refine hi.finished hclocked h (.inr rfl) (hclosed.trans hopen.symm) ?_ ?_ ?_
    · intro m' h'
      rw [hbuf] at h'
      exact (List.mem_append.mp h').imp_right fun h'' => ⟨List.mem_singleton.mp h'', rfl⟩
    · intro _
      rw [hbuf]
      exact List.append_ne_nil_of_right_ne_nil _ (List.cons_ne_nil _ _)
    · intro _ m' h'
      rw [hbuf] at h'
      cases hb : (s.chans d).buf with
      | nil =>
        rw [hb] at h'
        exact .inr ⟨rfl, (Option.some.inj h').symm⟩
      | cons x xs =>
        rw [hb] at h'
        exact .inl h'

theorem inv_reachable (h : system.ReachableBy DistinctLanes s) : Inv s := by
  refine System.invariant_by inv_init ?_ h
  intro s a s' _ hi hc hs
  obtain ⟨s₁, he, rfl⟩ := step_effect hs
  exact hi.effect hc he

end FrpXtcp.Transport

import FrpXtcp.Client.UserConns

/-!
# The connections of closed visitors

`InternalListener.Close` closes a channel that may still have connections in it, and
`handleConn` goes on after its visitor has been closed. A closed channel takes nothing more, so
that a visitor that falls back to a closed one closes the connection itself, and the loop of
the listener empties the channel before it returns. What is joined ends with its session; but
`Close` of a visitor knows only the session that is installed, and not the ones that `Init` has
overwritten.
-/
namespace FrpXtcp.Client.UserConns

open FrpXtcp.Lib
open scoped List

variable {s s' : State} {a : Action}

/-- A loop that has returned has left nothing in the channel, and nothing will come. -/
def Endpoint.Drained (e : Endpoint) : Prop :=
  e.internalLoop = .returned → e.acceptCh.closed = true ∧ e.acceptCh.buf = []

theorem close_closed (e : Endpoint) : e.close.acceptCh.closed = true := by
  unfold Endpoint.close
  split
  · rename_i ch hch
    exact (Chan.close_some hch).2.1
  · rename_i hnone
    unfold Chan.close at hnone
    split at hnone
    · assumption
    · cases hnone

theorem Endpoint.Drained.close {e : Endpoint} (h : e.Drained) : e.close.Drained := by
  intro hl
  refine ⟨close_closed e, ?_⟩
  unfold Endpoint.close at hl ⊢
  split
  · rename_i ch hch
    rw [hch] at hl
    rw [(Chan.close_some hch).2.2.1]
    exact (h hl).2
  · rename_i hnone
    rw [hnone] at hl
    exact (h hl).2

/-- An endpoint goes on: its channel is not closed by this, and stays drained. -/
structure Endpoint.Moves (e e' : Endpoint) : Prop where
  closed : e'.acceptCh.closed = e.acceptCh.closed
  drained : e.Drained → e'.Drained

/-- The steps beside those of the manager move one endpoint at most. -/
theorem Effect.ends {q : Party} (he : Effect s q s') :
    (∃ vm, s.vm.nextVisitor ≤ vm.nextVisitor ∧ (s.vm.Ok → vm.Ok) ∧ s' = s.manage vm) ∨
      s' = { s with vm := { s.vm with ticker := .exited } } ∨
      s'.vm = s.vm ∧ (s'.ends = s.ends ∨ ∃ v e e', s.ends[v]? = some e ∧
        s'.ends = s.ends.set v e' ∧ e.Moves e') := by
  cases he with
  | manage hle hok => exact Or.inl ⟨_, hle, hok, rfl⟩
  | exit => exact Or.inr (Or.inl rfl)
  | accept hv | localReturns hv | spawnLocal hv =>
    exact Or.inr (Or.inr ⟨rfl, Or.inr ⟨_, _, _, hv, rfl, ⟨rfl, fun h => h⟩⟩⟩)
  | receive hv hl hrecv =>
    refine Or.inr (Or.inr ⟨rfl, Or.inr ⟨_, _, _, hv, rfl, ⟨(Chan.recv_value hrecv).2.1, ?_⟩⟩⟩)
    intro _ hreturned
    cases hreturned
  | internalReturns hv hl hrecv =>
    refine Or.inr (Or.inr ⟨rfl, Or.inr ⟨_, _, _, hv, rfl, ⟨rfl, ?_⟩⟩⟩)
    intro _ _
    exact (Chan.recv_closed hrecv).symm
  | spawnInternal hv hl =>
    refine Or.inr (Or.inr ⟨rfl, Or.inr ⟨_, _, _, hv, rfl, ⟨rfl, ?_⟩⟩⟩)
    intro _ hreturned
    cases hreturned
  | transfer hp hpc hv hsend =>
    obtain ⟨hopen, -, hopen', -⟩ := Chan.trySend_ok hsend
    refine Or.inr (Or.inr ⟨rfl, Or.inr ⟨_, _, _, hv, rfl, ⟨hopen'.trans hopen.symm, ?_⟩⟩⟩)
    intro hd hreturned
    have hclosed := (hd hreturned).1
    rw [hopen] at hclosed
    cases hclosed
  | openTunnel | fallBack | join | release | hangUp | sessions =>
    exact Or.inr (Or.inr ⟨rfl, Or.inl rfl⟩)

/-- Each visitor has an endpoint, whose channel is closed with the visitor. -/
structure EndsOk (s : State) : Prop where
  manager : s.vm.Ok
  started : s.ends.length = s.vm.nextVisitor
  closed : ∀ v e, s.ends[v]? = some e → s.isClosed v = true → e.acceptCh.closed = true
  drained : ∀ (v : Nat) (e : Endpoint), s.ends[v]? = some e → e.Drained

theorem EndsOk.manage (hi : EndsOk s) {vm : VisitorManager}
    (hle : s.vm.nextVisitor ≤ vm.nextVisitor) (hok : s.vm.Ok → vm.Ok) :
    EndsOk (s.manage vm) := by
  have hdrained : ∀ e ∈ s.ends ++
      (List.range' s.ends.length (vm.nextVisitor - s.ends.length)).map
        (fun v => Endpoint.new (vm.started v).cfg), e.Drained := by
    intro e he
    rcases List.mem_append.mp he with he | he
    · obtain ⟨v, hv⟩ := List.mem_iff_getElem?.mp he
      exact hi.drained v e hv
    · obtain ⟨v, -, rfl⟩ := List.mem_map.mp he
      intro hreturned
      cases hreturned
  have hget : ∀ v e, (s.manage vm).ends[v]? = some e →
      ∃ e₀, e₀.Drained ∧ e = if (vm.started v).closed then e₀.close else e₀ := by
    intro v e he
    simp only [State.manage, List.getElem?_mapIdx, Option.map_eq_some_iff] at he
    obtain ⟨e₀, he₀, rfl⟩ := he
    exact ⟨e₀, hdrained e₀ (List.mem_of_getElem? he₀), rfl⟩
  refine ⟨hok hi.manager, ?_, ?_, ?_⟩
  · have hlen := hi.started
    simp only [State.manage, List.length_mapIdx, List.length_append, List.length_map,
      List.length_range']
    omega
  · intro v e he hclosed
    obtain ⟨e₀, -, rfl⟩ := hget v e he
    have hclosed : (vm.started v).closed = true := hclosed
    rw [if_pos hclosed]
    exact close_closed e₀
  · intro v e he
    obtain ⟨e₀, hd, rfl⟩ := hget v e he
    split
    · exact hd.close
    · exact hd

theorem Effect.endsOk {q : Party} (he : Effect s q s') (hi : EndsOk s) : EndsOk s' := by
  rcases he.ends with ⟨vm, hle, hok, rfl⟩ | rfl | ⟨hvm, hends | ⟨v, e, e', hv, hends, hmoves⟩⟩
  · exact hi.manage hle hok
  · exact ⟨hi.manager.exit, hi.started, hi.closed, hi.drained⟩
  · refine ⟨hvm ▸ hi.manager, ?_, ?_, ?_⟩
    · rw [hends, hvm]
      exact hi.started
    · intro v e hv hclosed
      rw [State.isClosed, hvm] at hclosed
      exact hi.closed v e (hends ▸ hv) hclosed
    · intro v e hv
      exact hi.drained v e (hends ▸ hv)
  · have hget : ∀ w x, s'.ends[w]? = some x → s.ends[w]? = some x ∨ w = v ∧ x = e' := by
      intro w x hx
      rw [hends, List.getElem?_set] at hx
      split_ifs at hx with hw hlt
      · exact Or.inr ⟨hw.symm, (Option.some.inj hx).symm⟩
      · exact Or.inl hx
    refine ⟨hvm ▸ hi.manager, ?_, ?_, ?_⟩
    · rw [hends, hvm, List.length_set]
      exact hi.started
    · intro w x hx hclosed
      rw [State.isClosed, hvm] at hclosed
      rcases hget w x hx with hx | ⟨rfl, rfl⟩
      · exact hi.closed w x hx hclosed
      · rw [hmoves.closed]
        exact hi.closed w e hv hclosed
    · intro w x hx
      rcases hget w x hx with hx | ⟨rfl, rfl⟩
      · exact hi.drained w x hx
      · exact hmoves.drained (hi.drained w e hv)

theorem reachable_endsOk (h : system.Reachable s) : EndsOk s := by
  refine System.invariant (S := system) (I := EndsOk) ?_ ?_ h
  · refine ⟨VisitorManager.ok_init, rfl, ?_, ?_⟩
    · intro v e he
      cases he
    · intro v e he
      cases he
  · intro s a s' _ hi hs
    exact (step_effect hs).endsOk hi

/-! ## The sessions -/

/-- The sessions are those of the visitors, and the goroutines know no others. -/
structure TunnelsOk (s : State) : Prop where
  sessions : s.SessionsOk s.sessions
  known : ∀ h ∈ s.handlers, ∀ i, h.pc.session? = some i → i < s.sessions.length

theorem TunnelsOk.setEnd (hi : TunnelsOk s) (v : Nat) (e : Endpoint) :
    TunnelsOk (s.setEnd v e) := by
  refine ⟨?_, hi.known⟩
  intro x hx
  obtain ⟨hlt, hopen⟩ := hi.sessions x hx
  refine ⟨?_, hopen⟩
  rw [State.setEnd, List.length_set]
  exact hlt

theorem TunnelsOk.spawn (hi : TunnelsOk s) (v conn : Nat) : TunnelsOk (s.spawn v conn) := by
  refine ⟨hi.sessions, ?_⟩
  intro h hh i hsession
  rcases List.mem_append.mp hh with hh | hh
  · exact hi.known h hh i hsession
  · obtain rfl := List.mem_singleton.mp hh
    cases hsession

theorem TunnelsOk.goto (hi : TunnelsOk s) (p : Nat) (h : Handler) {pc : HandlerPc}
    (hpc : ∀ i, pc.session? = some i → i < s.sessions.length) : TunnelsOk (s.goto p h pc) := by
  refine ⟨hi.sessions, ?_⟩
  intro g hg i hsession
  rcases List.mem_or_eq_of_mem_set hg with hg | rfl
  · exact hi.known g hg i hsession
  · exact hpc i hsession

theorem TunnelsOk.release (hi : TunnelsOk s) (p : Nat) (h : Handler) :
    TunnelsOk (s.release p h) := by
  have hclosed : TunnelsOk
      { s with
        closed := s.closed ++ h.pc.conn?.toList
        tunnelsClosed := s.tunnelsClosed ++ h.pc.tunnel?.toList } := ⟨hi.sessions, hi.known⟩
  refine hclosed.goto p h ?_
  intro i hsession
  cases hsession

/-- An operation of the manager closes the session of each visitor that it closes. -/
theorem TunnelsOk.manage (hi : TunnelsOk s) (vm : VisitorManager) : TunnelsOk (s.manage vm) := by
  constructor
  · intro x hx
    obtain ⟨y, hy, rfl⟩ := List.mem_map.mp hx
    obtain ⟨hlt, hopen⟩ := hi.sessions y hy
    have hlt' : y.visitor < (s.manage vm).ends.length := by
      simp only [State.manage, List.length_mapIdx, List.length_append]
      omega
    unfold Session.leave
    split_ifs with hclosed hinstalled
    · exact ⟨hlt', fun h => by cases h⟩
    · exact ⟨hlt', fun h => absurd h hinstalled⟩
    · refine ⟨hlt', ?_⟩
      intro hinstalled hlate
      change (vm.started y.visitor).closed = false
      simpa [hopen hinstalled hlate] using hclosed
  · intro h hh i hsession
    rw [State.manage, length_leaveSessions]
    exact hi.known h hh i hsession

theorem Effect.tunnelsOk {q : Party} (he : Effect s q s') (hi : TunnelsOk s) : TunnelsOk s' := by
  cases he with
  | manage _ _ => exact hi.manage _
  | exit => exact ⟨hi.sessions, hi.known⟩
  | accept _ _ _ =>
    have hnext : TunnelsOk { s with next := s.next + 1 } := ⟨hi.sessions, hi.known⟩
    exact hnext.setEnd _ _
  | localReturns | receive | internalReturns => exact hi.setEnd _ _
  | spawnLocal | spawnInternal => exact (hi.setEnd _ _).spawn _ _
  | openTunnel _ _ hlt =>
    have hnext : TunnelsOk { s with nextTunnel := s.nextTunnel + 1 } := ⟨hi.sessions, hi.known⟩
    refine hnext.goto _ _ ?_
    intro i hsession
    cases hsession
    exact hlt
  | fallBack _ _ =>
    refine hi.goto _ _ ?_
    intro i hsession
    cases hsession
  | transfer _ _ _ _ =>
    refine (hi.setEnd _ _).goto _ _ ?_
    intro i hsession
    cases hsession
  | join hp hpc =>
    refine hi.goto _ _ ?_
    intro i hsession
    cases hsession
    exact hi.known _ (List.mem_of_getElem? hp) _ (by rw [hpc]; rfl)
  | release | hangUp => exact hi.release _ _
  | sessions hle hok =>
    refine ⟨hok hi.sessions, ?_⟩
    intro h hh i hsession
    exact Nat.lt_of_lt_of_le (hi.known h hh i hsession) hle

theorem reachable_tunnelsOk (h : system.Reachable s) : TunnelsOk s := by
  refine System.invariant (S := system) (I := TunnelsOk) ?_ ?_ h
  · constructor
    · intro x hx
      cases hx
    · intro h hh
      cases hh
  · intro s a s' _ hi hs
    exact (step_effect hs).tunnelsOk hi

/-! ## After the manager has closed its visitors -/

def LoopPc.weight : LoopPc → Nat
  | .accepting => 1
  | .accepted _ => 5
  | .returned => 0

def Endpoint.weight (e : Endpoint) : Nat :=
  5 * e.acceptCh.buf.length + e.localLoop.elim 0 LoopPc.weight + e.internalLoop.weight

def HandlerPc.weight : HandlerPc → Nat
  | .opening _ => 3
  | .wrapping _ _ _ => 2
  | .transferring _ | .joined _ _ _ => 1
  | .returned => 0

/-- An upper bound of the steps that the loops and goroutines of closed visitors still take. -/
def State.work (s : State) : Nat :=
  (s.ends.map Endpoint.weight).sum + (s.handlers.map fun h => h.pc.weight).sum

theorem work_setEnd {v : Nat} {e : Endpoint} (he : s.ends[v]? = some e) (e' : Endpoint) :
    (s.setEnd v e').work + e.weight = s.work + e'.weight := by
  have h := sum_map_set Endpoint.weight he e'
  simp only [State.work, State.setEnd]
  omega

theorem work_goto {p : Nat} {g : Handler} (hp : s.handlers[p]? = some g) (pc : HandlerPc) :
    (s.goto p g pc).work + g.pc.weight = s.work + pc.weight := by
  have h := sum_map_set (fun h : Handler => h.pc.weight) hp { g with pc := pc }
  dsimp only at h
  simp only [State.work, State.goto]
  omega

theorem work_spawn (s : State) (v conn : Nat) : (s.spawn v conn).work = s.work + 3 := by
  simp only [State.work, State.spawn, List.map_append, List.sum_append, List.map_cons,
    List.map_nil, List.sum_cons, List.sum_nil, HandlerPc.weight]
  omega

theorem HandlerPc.weight_pos {pc : HandlerPc} (h : pc ≠ .returned) : 0 < pc.weight := by
  cases pc with
  | returned => exact absurd rfl h
  | _ => exact Nat.succ_pos _

theorem work_release {p : Nat} {h : Handler} (hp : s.handlers[p]? = some h)
    (hne : h.pc ≠ .returned) : (s.release p h).work < s.work := by
  have hw := work_goto hp .returned
  have hpos := HandlerPc.weight_pos hne
  have hzero : HandlerPc.returned.weight = 0 := rfl
  change (s.goto p h .returned).work < s.work
  omega

/-- A loop or goroutine of closed visitors goes on for the last times. -/
theorem Effect.work_lt (he : Effect s .server s') (hi : EndsOk s) (hclosed : s.vm.AllClosed) :
    s'.vm = s.vm ∧ s'.next = s.next ∧ s'.work < s.work := by
  have hall : ∀ v e, s.ends[v]? = some e → s.isClosed v = true := by
    intro v e hv
    refine hclosed v ?_
    rw [← hi.started]
    exact (List.getElem?_eq_some_iff.mp hv).1
  cases he with
  | accept hv _ hopen =>
    rw [hall _ _ hv] at hopen
    cases hopen
  | @localReturns v e hv hl =>
    refine ⟨rfl, rfl, ?_⟩
    have hw := work_setEnd hv { e with localLoop := some .returned }
    simp only [Endpoint.weight, hl, Option.elim_some, LoopPc.weight] at hw
    omega
  | @receive v conn e ch hv hl hrecv =>
    refine ⟨rfl, rfl, ?_⟩
    have hw := work_setEnd hv { e with acceptCh := ch, internalLoop := .accepted conn }
    simp only [Endpoint.weight, hl, LoopPc.weight, (Chan.recv_value hrecv).1,
      List.length_cons] at hw
    omega
  | @internalReturns v e hv hl _ =>
    refine ⟨rfl, rfl, ?_⟩
    have hw := work_setEnd hv { e with internalLoop := .returned }
    simp only [Endpoint.weight, hl, LoopPc.weight] at hw
    omega
  | @spawnLocal v conn e hv hl =>
    refine ⟨rfl, rfl, ?_⟩
    have hw := work_setEnd hv { e with localLoop := some .accepting }
    rw [work_spawn]
    simp only [Endpoint.weight, hl, Option.elim_some, LoopPc.weight] at hw
    omega
  | @spawnInternal v conn e hv hl =>
    refine ⟨rfl, rfl, ?_⟩
    have hw := work_setEnd hv { e with internalLoop := .accepting }
    rw [work_spawn]
    simp only [Endpoint.weight, hl, LoopPc.weight] at hw
    omega
  | @openTunnel p conn session h hp hpc _ =>
    refine ⟨rfl, rfl, ?_⟩
    have hw := work_goto hp (.wrapping conn s.nextTunnel session)
    simp only [hpc, HandlerPc.weight] at hw
    change (s.goto p h (.wrapping conn s.nextTunnel session)).work < s.work
    omega
  | @fallBack p conn h hp hpc =>
    refine ⟨rfl, rfl, ?_⟩
    have hw := work_goto hp (.transferring conn)
    simp only [hpc, HandlerPc.weight] at hw
    omega
  | @join p conn tunnel session h hp hpc =>
    refine ⟨rfl, rfl, ?_⟩
    have hw := work_goto hp (.joined conn tunnel session)
    simp only [hpc, HandlerPc.weight] at hw
    omega
  | transfer _ _ hv hsend =>
    -- the channel is closed
    have hch := hi.closed _ _ hv (hall _ _ hv)
    rw [(Chan.trySend_ok hsend).1] at hch
    cases hch
  | release hp hne _ => exact ⟨rfl, rfl, work_release hp hne⟩

/-- What happens beside them gives them nothing more to do. -/
theorem Effect.work_le (he : Effect s .outside s') :
    (s.vm.AllClosed → s'.vm.AllClosed) ∧ s'.next = s.next ∧ s'.work ≤ s.work := by
  cases he with
  | exit => exact ⟨id, rfl, Nat.le_refl _⟩
  | hangUp hp hne => exact ⟨id, rfl, Nat.le_of_lt (work_release hp hne)⟩
  | sessions _ _ => exact ⟨id, rfl, Nat.le_refl _⟩

/-- Where no loop of closed visitors can go on, no connection waits. -/
theorem nothing_waits (hi : EndsOk s) (hclosed : s.vm.AllClosed)
    (hstuck : ∀ a : Action, a.party = .server → step s a = none) : s.waiting = [] := by
  refine List.flatMap_eq_nil_iff.mpr ?_
  intro e he
  obtain ⟨v, hv⟩ := List.mem_iff_getElem?.mp he
  have hlt : v < s.vm.nextVisitor := by
    rw [← hi.started]
    exact (List.getElem?_eq_some_iff.mp hv).1
  have hinternal : e.internalLoop = .returned := by
    cases hl : e.internalLoop with
    | returned => rfl
    | accepted conn =>
      have hstep := hstuck (.spawnInternal v) rfl
      simp [step, hv, hl] at hstep
    | accepting =>
      have hstep := hstuck (.acceptInternal v) rfl
      simp only [step, hv, hl, if_true] at hstep
      split at hstep
      · rename_i hblock
        have hopen := Chan.recv_block hblock
        rw [hi.closed v e hv (hclosed v hlt)] at hopen
        cases hopen
      · cases hstep
      · cases hstep
  have hlocal : e.localLoop.bind LoopPc.conn? = none := by
    cases hl : e.localLoop with
    | none => rfl
    | some pc =>
      cases pc with
      | accepted conn =>
        have hstep := hstuck (.spawnLocal v) rfl
        simp [step, hv, hl] at hstep
      | accepting => rfl
      | returned => rfl
  rw [Endpoint.conns, (hi.drained v e hv hinternal).2, hlocal, hinternal]
  rfl

/-- A goroutine of closed visitors that cannot go on has returned or is in `Join` on a session
that its visitor has not closed. -/
theorem returned_or_stranded (hi : EndsOk s) (ht : TunnelsOk s) (hclosed : s.vm.AllClosed)
    (hstuck : ∀ a : Action, a.party = .server → step s a = none) {h : Handler}
    (hh : h ∈ s.handlers) : h.pc = .returned ∨ Stranded s h := by
  obtain ⟨p, hp⟩ := List.mem_iff_getElem?.mp hh
  cases hpc : h.pc with
  | returned => exact Or.inl rfl
  | opening conn =>
    have hstep := hstuck (.openTunnel p none) rfl
    simp only [step, hp, hpc] at hstep
    split at hstep <;> cases hstep
  | transferring conn =>
    have hstep := hstuck (.transfer p) rfl
    simp only [step, hp, hpc] at hstep
    split at hstep <;> cases hstep
  | wrapping conn tunnel i =>
    have hstep := hstuck (.wrap p true) rfl
    simp [step, hp, hpc] at hstep
  | joined conn tunnel i =>
    have hlt := ht.known h hh i (by rw [hpc]; rfl)
    obtain ⟨x, hx⟩ : ∃ x, s.sessions[i]? = some x := ⟨_, List.getElem?_eq_getElem hlt⟩
    refine Or.inr ⟨conn, tunnel, i, x, hpc, hx, ?_⟩
    obtain ⟨hvisitor, hopen⟩ := ht.sessions x (List.mem_of_getElem? hx)
    cases hstatus : x.status with
    | replaced => exact Or.inl rfl
    | closed =>
      have hstep := hstuck (.joinEnds p) rfl
      simp [step, hp, hpc, hx, hstatus] at hstep
    | installed =>
      -- the visitor is closed, and with it the session it had then
      refine Or.inr ⟨rfl, ?_⟩
      by_contra hlate
      have hrunning := hopen hstatus (by simpa using hlate)
      rw [State.isClosed, hclosed x.visitor (hi.started ▸ hvisitor)] at hrunning
      cases hrunning

/-- After `Close` of the manager, and unless it is called again or has a late tick, no connection
is accepted any more, and the loops and goroutines take at most `work` steps, whatever sessions
are still installed or closed and whoever hangs up meanwhile. Where none of them can go on, every
connection of a user and of the tunnel is closed, except those of goroutines in `Join` on a
session that `Init` had overwritten, or that came after its visitor was closed. -/
theorem close_releases_conns {order : List String} {s₁ : State} (h : system.Reachable s)
    (hclose : step s (.close order) = some s₁) {as : List Action}
    (has : ∀ a ∈ as, a.party ≠ .manager) (hrun : system.run s₁ as = some s') :
    s'.next = s₁.next ∧ as.countP (fun a => a.party = .server) ≤ s₁.work ∧
      ((∀ a : Action, a.party = .server → step s' a = none) →
        List.range s₁.next ~ s'.held ++ s'.closed ∧
          List.range s'.nextTunnel ~ s'.tunnels ++ s'.tunnelsClosed ∧
          ∀ h ∈ s'.handlers, h.pc = .returned ∨ Stranded s' h) := by
  have hr₁ : system.Reachable s₁ := h.next (a := .close order) hclose
  have hclosed : s₁.vm.AllClosed := by
    obtain ⟨vm, hvm, rfl⟩ := Option.map_eq_some_iff.mp hclose
    exact ((reachable_endsOk h).manager.close hvm).2
  obtain ⟨⟨hends, hclosed', hnext⟩, hcount⟩ := System.run_of_countP (S := system)
    (A := fun a => a.party ≠ .manager) (I := fun s => EndsOk s ∧ s.vm.AllClosed ∧ s.next = s₁.next)
    State.work (fun a => a.party = .server)
    (by
      intro s a s' hi ha hs
      have he := step_effect hs
      cases hparty : a.party with
      | manager => exact absurd hparty ha
      | server =>
        rw [hparty] at he
        obtain ⟨hvm, hnext, hlt⟩ := he.work_lt hi.1 hi.2.1
        exact ⟨⟨he.endsOk hi.1, hvm ▸ hi.2.1, hnext.trans hi.2.2⟩, hlt⟩
      | outside =>
        rw [hparty] at he
        obtain ⟨hkept, hnext, hle⟩ := he.work_le
        exact ⟨⟨he.endsOk hi.1, hkept hi.2.1, hnext.trans hi.2.2⟩, hle⟩)
    ⟨reachable_endsOk hr₁, hclosed, rfl⟩ has hrun
  refine ⟨hnext, by omega, ?_⟩
  intro hstuck
  have hr' := hr₁.run hrun
  have hplaced := reachable_placed hr'
  refine ⟨?_, ?_, ?_⟩
  · rw [List.perm_iff_count]
    intro n
    rw [← hnext, hplaced.users n, nothing_waits hends hclosed' hstuck, List.count_nil,
      Nat.zero_add, List.count_append]
  · rw [List.perm_iff_count]
    intro n
    rw [hplaced.tunnels n, List.count_append]
  · intro g hg
    exact returned_or_stranded hends (reachable_tunnelsOk hr') hclosed' hstuck hg

/-- A user connection is joined on the first visitor's session while another takes its place, and
a second one waits at the other visitor. -/
def joinedAndReplaced : List Action :=
  [.updateAll fallbackCfgs [] fun _ => true, .install 0, .acceptLocal 0, .spawnLocal 0,
    .openTunnel 0 (some 0), .wrap 0 true, .install 0, .acceptLocal 0, .spawnLocal 0,
    .openTunnel 1 none, .transfer 1]

/-- The second visitor gets no tunnel either and has no fallback. -/
def serveTransferred : List Action := [.acceptInternal 1, .spawnInternal 1, .openTunnel 2 none]

theorem close_releases_conns_transferred : ∃ s s₁ s', system.Reachable s ∧ s.waiting = [1] ∧
    step s (.close ["a", "b"]) = some s₁ ∧ system.run s₁ serveTransferred = some s' ∧
    s'.closed = [1] ∧ s'.held = [0] ∧
    serveTransferred.countP (fun a => a.party = .server) ≤ s₁.work := by
  obtain ⟨s, hs, hp⟩ := System.reachable_of_run (S := system) (l := joinedAndReplaced)
    (p := fun s => decide (s.waiting = [1]) &&
      ((step s (.close ["a", "b"])).bind fun s₁ =>
        (system.run s₁ serveTransferred).map fun s' => (s'.closed, s'.held)) == some ([1], [0]))
    (by decide +kernel)
  simp only [Bool.and_eq_true, decide_eq_true_eq, beq_iff_eq, Option.bind_eq_some_iff,
    Option.map_eq_some_iff, Prod.mk.injEq] at hp
  obtain ⟨hwaiting, s₁, hclose, s', hrun, hclosed, hheld⟩ := hp
  exact ⟨s, s₁, s', hs, hwaiting, hclose, hrun, hclosed, hheld,
    (close_releases_conns hs hclose (by decide) hrun).2.1⟩

/-! ## What is left -/

/-- A step of a loop or goroutine does not move one that is left in `Join`. -/
theorem Effect.stranded (he : Effect s .server s') {p : Nat} {h : Handler}
    (hp : s.handlers[p]? = some h) (hleft : Stranded s h) :
    s'.handlers[p]? = some h ∧ Stranded s' h := by
  have hkept : ∀ {p' : Nat} {g : Handler} (pc : HandlerPc), s.handlers[p']? = some g →
      g ≠ h → (s.handlers.set p' { g with pc := pc })[p]? = some h := by
    intro p' g pc hp' hne
    rw [List.getElem?_set_ne]
    · exact hp
    · rintro rfl
      exact hne (Option.some.inj (hp'.symm.trans hp))
  have hjoined : ∀ {g : Handler}, (∀ conn tunnel i, g.pc ≠ .joined conn tunnel i) → g ≠ h := by
    rintro g hg rfl
    exact not_stranded hg hleft
  have hspawn : ∀ g, (s.handlers ++ [g])[p]? = some h := by
    intro g
    rw [List.getElem?_append_left (List.getElem?_eq_some_iff.mp hp).1]
    exact hp
  cases he with
  | accept | localReturns | receive | internalReturns => exact ⟨hp, hleft⟩
  | spawnLocal | spawnInternal => exact ⟨hspawn _, hleft⟩
  | openTunnel hp' hpc | fallBack hp' hpc | transfer hp' hpc | join hp' hpc =>
    exact ⟨hkept _ hp' (hjoined (by simp [hpc])), hleft⟩
  | release hp' _ hfree =>
    refine ⟨hkept _ hp' ?_, hleft⟩
    rintro rfl
    exact hfree hleft

/-- The exception is needed: a goroutine in `Join` on such a session keeps both of its connections
however the loops and goroutines go on; the user or the other side has to end it. -/
theorem stranded_keeps_conns {p : Nat} {h : Handler} (hp : s.handlers[p]? = some h)
    (hleft : Stranded s h) {as : List Action} (has : ∀ a ∈ as, a.party = .server)
    (hrun : system.run s as = some s') : s'.handlers[p]? = some h ∧ Stranded s' h := by
  refine System.run_invariant (S := system) (P := fun _ a => a.party = .server)
    (I := fun s => s.handlers[p]? = some h ∧ Stranded s h) ?_ ⟨hp, hleft⟩
    (System.along_of_forall fun _ a _ _ heq _ => has a (by simp [heq])) hrun
  rintro s a s' ⟨hp, hleft⟩ ha hs
  have he := step_effect hs
  rw [ha] at he
  exact he.stranded hp hleft

end FrpXtcp.Client.UserConns

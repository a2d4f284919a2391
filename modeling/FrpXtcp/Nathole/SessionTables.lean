import FrpXtcp.Nathole.Sessions

/-!
# Invariants of the sessions

What holds in every state, whatever the schedule: a registered proxy is open and has its
loop, a session in the table belongs to a handler that has not returned, and a handler that
was woken finds a client message and a transporter.
-/
namespace FrpXtcp.Nathole.Sessions

open FrpXtcp.Lib
open FrpXtcp.Server.Proxy (XTCPProxy)

variable {env : Env} {s s' : State} {a : Action}

/-- The call has a session in the table, or had one. -/
def HandlerPc.isOpen : HandlerPc → Prop
  | .idle | .done => False
  | _ => True

/-- The handler has been notified and has not sent both responses. -/
def HandlerPc.awake : HandlerPc → Prop
  | .analysing | .classified .. | .keyed .. | .failed _ | .responding .. => True
  | _ => False

theorem run_ok {pxy : XTCPProxy} {c c' : Controller} {p : Nat} (h : pxy.run c p = .ok c') :
    ∃ cfg : ClientCfg, cfg.sidCh = p ∧ c'.clientCfgs = c.clientCfgs.insert pxy.name cfg := by
  simp only [XTCPProxy.run, listenClient] at h
  split at h <;> cases h
  exact ⟨_, rfl, rfl⟩

section Listening

/-- A registered proxy is open and has its loop; a loop returns after the close only. -/
structure Listening (s : State) : Prop where
  cfg : ∀ n cfg, s.clientCfgs.get? n = some cfg →
    (s.pxys cfg.sidCh).name = n ∧ (s.pxys cfg.sidCh).closed = false ∧ s.loop cfg.sidCh ≠ .off
  closed : ∀ p, s.closeCh p = true → (s.pxys p).closed = true
  exited : ∀ p, s.loop p = .exited → s.closeCh p = true
  new : ∀ p, s.loop p = .off → (s.pxys p).closed = false

theorem Listening.init (env : Env) : Listening (init env) := by
  refine ⟨?_, ?_, ?_, fun _ _ => rfl⟩
  · intro n cfg h
    cases h
  · intro p h
    cases h
  · intro p h
    cases h

/-- A loop that was running goes on or returns. -/
theorem Listening.setLoop (h : Listening s) {p : Nat} {pc : LoopPc} (hoff : pc ≠ .off)
    (hexit : pc = .exited → s.closeCh p = true) : Listening (s.setLoop p pc) := by
  refine ⟨?_, h.closed, ?_, ?_⟩
  · intro n cfg hc
    obtain ⟨hn, hclosed, hl⟩ := h.cfg n cfg hc
    refine ⟨hn, hclosed, ?_⟩
    simp only [State.setLoop, Function.update_apply]
    split
    · exact hoff
    · exact hl
  · intro q hq
    simp only [State.setLoop, Function.update_apply] at hq
    split at hq
    · rename_i hqp
      exact hqp ▸ hexit hq
    · exact h.exited q hq
  · intro q hq
    simp only [State.setLoop, Function.update_apply] at hq
    split at hq
    · exact absurd hq hoff
    · exact h.new q hq

theorem Listening.step (h : Listening s) (he : Effect env s a s') : Listening s' := by
  cases he with
  | @run p ctl hoff hrun =>
    obtain ⟨cfg₀, hch, hins⟩ := run_ok hrun
    have hl : Listening (s.setLoop p .select) := h.setLoop (by simp) (by simp)
    refine ⟨?_, hl.closed, hl.exited, hl.new⟩
    intro n cfg hc
    simp only [hins, GoMap.get?_insert] at hc
    split at hc
    · rename_i hn
      cases hc
      subst hch
      exact ⟨hn.symm, h.new _ hoff, by simp [State.setLoop]⟩
    · exact hl.cfg n cfg hc
  | @close p hl hopen =>
    refine ⟨?_, ?_, h.exited, ?_⟩
    · intro n cfg hc
      simp only [GoMap.get?_erase] at hc
      split at hc
      · cases hc
      · rename_i hn
        obtain ⟨hname, hclosed, hloop⟩ := h.cfg n cfg hc
        have hne : cfg.sidCh ≠ p := by
          rintro rfl
          exact hn hname.symm
        simp only [Function.update_of_ne hne]
        exact ⟨hname, hclosed, hloop⟩
    · intro q hq
      simp only [Function.update_apply]
      split
      · rfl
      · exact h.closed q hq
    · intro q hq
      have hne : q ≠ p := by
        rintro rfl
        exact hl hq
      simp only [Function.update_of_ne hne]
      exact h.new q hq
  | @closeCh p hc =>
    refine ⟨h.cfg, ?_, ?_, h.new⟩
    · intro q hq
      simp only [Function.update_apply] at hq
      split at hq
      · rename_i hqp
        exact hqp ▸ hc
      · exact h.closed q hq
    · intro q hq
      simp only [Function.update_apply]
      split
      · rfl
      · exact h.exited q hq
  | exit hl hc => exact h.setLoop (by simp) fun _ => hc
  | @receive i cfg hpc hl =>
    have hb : Listening (s.setLoop cfg.sidCh (.busy (s.session i).sid)) :=
      h.setLoop (by simp) (by simp)
    exact ⟨hb.cfg, hb.closed, hb.exited, hb.new⟩
  | finish hl => exact h.setLoop (by simp) (by simp)
  | _ => exact ⟨h.cfg, h.closed, h.exited, h.new⟩

end Listening

section Table

/-- A session in the table is there under its sid, and its handler has not returned. -/
def Table (s : State) : Prop :=
  ∀ sid h, s.sessions.get? sid = some h → (s.session h).sid = sid ∧ (s.handler h).isOpen

variable {i : Nat} {pc : HandlerPc} {x : Session}

theorem Table.goto (h : Table s) (hpc : pc.isOpen) : Table (s.goto i pc) := by
  intro sid j hj
  obtain ⟨hsid, hopen⟩ := h sid j hj
  refine ⟨hsid, ?_⟩
  simp only [State.goto, Function.update_apply]
  split
  · exact hpc
  · exact hopen

/-- A handler outside the table may go anywhere. -/
theorem Table.goto_of_not_open (h : Table s) (hn : ¬ (s.handler i).isOpen) :
    Table (s.goto i pc) := by
  intro sid j hj
  obtain ⟨hsid, hopen⟩ := h sid j hj
  have hne : j ≠ i := by
    rintro rfl
    exact hn hopen
  refine ⟨hsid, ?_⟩
  simp only [State.goto, Function.update_of_ne hne]
  exact hopen

theorem Table.setSession (h : Table s) (hx : x.sid = (s.session i).sid) :
    Table (s.setSession i x) := by
  intro sid j hj
  obtain ⟨hsid, hopen⟩ := h sid j hj
  refine ⟨?_, hopen⟩
  simp only [State.setSession, Function.update_apply]
  split
  · rename_i hji
    exact hx.trans (hji ▸ hsid)
  · exact hsid

theorem Table.step (h : Table s) (he : Effect env s a s') : Table s' := by
  cases he with
  | receive hpc hl => exact Table.goto (s := s.setLoop _ _) h trivial
  | replied hidle => exact h.goto_of_not_open (by rw [hidle]; exact id)
  | @created i tr m user sid cfg hidle hcfg =>
    intro sid' j hj
    simp only [GoMap.get?_insert] at hj
    split at hj
    · rename_i hs
      cases hj
      simp [State.goto, State.setSession, HandlerPc.isOpen, hs]
    · obtain ⟨hsid, hopen⟩ := h sid' j hj
      have hne : j ≠ i := by
        rintro rfl
        rw [hidle] at hopen
        exact hopen
      simp only [State.goto, State.setSession, Function.update_of_ne hne]
      exact ⟨hsid, hopen⟩
  | @woken i hpc hn =>
    have hx : Table (s.setSession i { s.session i with notifyCh := false }) := h.setSession rfl
    exact hx.goto trivial
  | timedOut hpc => exact h.goto trivial
  | failed hpc hcm herr => exact h.goto trivial
  | classified hpc hcm hok => exact h.goto trivial
  | keyed hpc hm => exact h.goto trivial
  | recommended hpc hget => exact h.goto trivial
  | refused hpc hm => exact h.goto trivial
  | responded hpc => exact h.goto trivial
  | slept hpc => exact h.goto trivial
  | @left i now hpc =>
    intro sid j hj
    simp only [GoMap.get?_erase] at hj
    split at hj
    · cases hj
    · rename_i hs
      obtain ⟨hsid, hopen⟩ := h sid j hj
      have hne : j ≠ i := by
        rintro rfl
        exact hs hsid.symm
      simp only [State.goto, Function.update_of_ne hne]
      exact ⟨hsid, hopen⟩
  | visitorSent hpc => exact h.goto trivial
  | clientSent hpc htr => exact h.goto trivial
  | wroteMsg hk => exact h.setSession rfl
  | wroteTransporter hk => exact h.setSession rfl
  | notified hk => exact h.setSession rfl
  | _ => exact h

end Table

section Clients

/-- The session that a call of `HandleClient` has found, its message and its transporter. -/
def ClientPc.args : ClientPc → Option (Nat × NatHoleClient × Nat)
  | .idle | .dropped => none
  | .found h m tr | .wroteMsg h m tr | .wroteTransporter h m tr | .notified h m tr =>
    some (h, m, tr)

/-- Both fields that `HandleClient` writes are set. -/
def HasClient (x : Session) : Prop := x.clientMsg.isSome ∧ x.clientTransporter.isSome

/-- `HandleClient` notifies after both writes, so a handler that was woken finds them. -/
structure Clients (s : State) : Prop where
  handled : ∀ k h m tr, (s.call k).args = some (h, m, tr) → s.handler h ≠ .idle
  wroteMsg : ∀ k h m tr, s.call k = .wroteMsg h m tr → (s.session h).clientMsg.isSome
  wroteTransporter : ∀ k h m tr, s.call k = .wroteTransporter h m tr → HasClient (s.session h)
  notify : ∀ h, (s.session h).notifyCh = true → HasClient (s.session h)
  awake : ∀ h, (s.handler h).awake → HasClient (s.session h)

variable {i k : Nat} {pc : HandlerPc} {x : Session}

theorem Clients.init (env : Env) : Clients (init env) := by
  refine ⟨?_, ?_, ?_, ?_, ?_⟩
  · intro k h m tr hk
    cases hk
  · intro k h m tr hk
    cases hk
  · intro k h m tr hk
    cases hk
  · intro h hn
    cases hn
  · intro h ha
    exact ha.elim

theorem Clients.of_eq (h : Clients s) (hc : s'.call = s.call) (hh : s'.handler = s.handler)
    (hs : s'.session = s.session) : Clients s' := by
  refine ⟨?_, ?_, ?_, ?_, ?_⟩
  · rw [hc, hh]
    exact h.handled
  · rw [hc, hs]
    exact h.wroteMsg
  · rw [hc, hs]
    exact h.wroteTransporter
  · rw [hs]
    exact h.notify
  · rw [hh, hs]
    exact h.awake

theorem Clients.goto (h : Clients s) (hpc : pc ≠ .idle)
    (ha : pc.awake → HasClient (s.session i)) : Clients (s.goto i pc) := by
  refine ⟨?_, h.wroteMsg, h.wroteTransporter, h.notify, ?_⟩
  · intro k j m tr hk
    simp only [State.goto, Function.update_apply]
    split
    · exact hpc
    · exact h.handled k j m tr hk
  · intro j hj
    simp only [State.goto, Function.update_apply] at hj
    split at hj
    · rename_i hji
      exact hji ▸ ha hj
    · exact h.awake j hj

/-- A write that keeps what is there. -/
theorem Clients.setSession (h : Clients s)
    (hm : (s.session i).clientMsg.isSome → x.clientMsg.isSome)
    (ht : (s.session i).clientTransporter.isSome → x.clientTransporter.isSome)
    (hn : x.notifyCh = true → HasClient x) : Clients (s.setSession i x) := by
  have hkeep : ∀ j, HasClient (s.session j) → HasClient ((s.setSession i x).session j) := by
    intro j hj
    simp only [State.setSession, Function.update_apply]
    split
    · rename_i hji
      subst hji
      exact ⟨hm hj.1, ht hj.2⟩
    · exact hj
  refine ⟨h.handled, ?_, ?_, ?_, ?_⟩
  · intro k j m tr hk
    have hj := h.wroteMsg k j m tr hk
    simp only [State.setSession, Function.update_apply]
    split
    · rename_i hji
      exact hm (hji ▸ hj)
    · exact hj
  · intro k j m tr hk
    exact hkeep j (h.wroteTransporter k j m tr hk)
  · intro j hj
    by_cases hji : j = i
    · subst hji
      simp only [State.setSession, Function.update_self] at hj ⊢
      exact hn hj
    · simp only [State.setSession, Function.update_of_ne hji] at hj ⊢
      exact h.notify j hj
  · intro j hj
    exact hkeep j (h.awake j hj)

theorem Clients.setCall (h : Clients s) {c : ClientPc}
    (hc : ∀ j m tr, c.args = some (j, m, tr) → s.handler j ≠ .idle)
    (hm : ∀ j m tr, c = .wroteMsg j m tr → (s.session j).clientMsg.isSome)
    (ht : ∀ j m tr, c = .wroteTransporter j m tr → HasClient (s.session j)) :
    Clients (s.setCall k c) := by
  refine ⟨?_, ?_, ?_, h.notify, h.awake⟩
  · intro k' j m tr hk
    simp only [State.setCall, Function.update_apply] at hk
    split at hk
    · exact hc j m tr hk
    · exact h.handled k' j m tr hk
  · intro k' j m tr hk
    simp only [State.setCall, Function.update_apply] at hk
    split at hk
    · exact hm j m tr hk
    · exact h.wroteMsg k' j m tr hk
  · intro k' j m tr hk
    simp only [State.setCall, Function.update_apply] at hk
    split at hk
    · exact ht j m tr hk
    · exact h.wroteTransporter k' j m tr hk

/-- No call has the session of a handler that starts. -/
theorem Clients.create (h : Clients s) (hidle : s.handler i = .idle) {cfg : ClientCfg}
    (hx : x.notifyCh = false) : Clients ((s.setSession i x).goto i (.sending cfg)) := by
  have hne : ∀ k j m tr, (s.call k).args = some (j, m, tr) → j ≠ i := by
    rintro k j m tr hk rfl
    exact h.handled k j m tr hk hidle
  refine ⟨?_, ?_, ?_, ?_, ?_⟩
  · intro k j m tr hk
    simp only [State.goto, State.setSession, Function.update_of_ne (hne k j m tr hk)]
    exact h.handled k j m tr hk
  · intro k j m tr hk
    have hji : j ≠ i := hne k j m tr (by rw [show s.call k = _ from hk]; rfl)
    simp only [State.goto, State.setSession, Function.update_of_ne hji]
    exact h.wroteMsg k j m tr hk
  · intro k j m tr hk
    have hji : j ≠ i := hne k j m tr (by rw [show s.call k = _ from hk]; rfl)
    simp only [State.goto, State.setSession, Function.update_of_ne hji]
    exact h.wroteTransporter k j m tr hk
  · intro j hj
    by_cases hji : j = i
    · subst hji
      simp only [State.goto, State.setSession, Function.update_self, hx] at hj
      cases hj
    · simp only [State.goto, State.setSession, Function.update_of_ne hji] at hj ⊢
      exact h.notify j hj
  · intro j hj
    by_cases hji : j = i
    · subst hji
      simp only [State.goto, State.setSession, Function.update_self] at hj
      exact hj.elim
    · simp only [State.goto, State.setSession, Function.update_of_ne hji] at hj ⊢
      exact h.awake j hj

theorem HandlerPc.ne_idle_of_isOpen {pc : HandlerPc} (h : pc.isOpen) : pc ≠ .idle := by
  rintro rfl
  exact h

/-- A handler that is awake stays so until it has sent its responses. -/
theorem Clients.goto_awake (h : Clients s) (ha : (s.handler i).awake) (hpc : pc ≠ .idle) :
    Clients (s.goto i pc) :=
  h.goto hpc fun _ => h.awake i ha

theorem Clients.step (h : Clients s) (ht : Table s) (he : Effect env s a s') : Clients s' := by
  cases he with
  | @receive i cfg hpc hl =>
    have hg : Clients (s.goto i .waiting) := h.goto nofun nofun
    exact hg.of_eq rfl rfl rfl
  | @replied i tr m user sid hidle =>
    have hg : Clients (s.goto i .done) := h.goto nofun nofun
    exact hg.of_eq rfl rfl rfl
  | @created i tr m user sid cfg hidle hcfg =>
    let x : Session := { sid := sid, visitorMsg := m, visitorTransporter := tr }
    have hc : Clients ((s.setSession i x).goto i (.sending cfg)) := h.create hidle rfl
    exact hc.of_eq rfl rfl rfl
  | @woken i hpc hn =>
    have hx : Clients (s.setSession i { s.session i with notifyCh := false }) :=
      h.setSession id id nofun
    refine hx.goto nofun fun _ => ?_
    simp only [State.setSession, Function.update_self]
    exact h.notify i hn
  | timedOut hpc => exact h.goto nofun nofun
  | failed hpc hcm herr => exact h.goto_awake (by rw [hpc]; trivial) nofun
  | classified hpc hcm hok => exact h.goto_awake (by rw [hpc]; trivial) nofun
  | keyed hpc hm => exact h.goto_awake (by rw [hpc]; trivial) nofun
  | @recommended i now mode index cm cf vf key analyzer row hpc hget =>
    have hg (v c) : Clients (s.goto i (.responding v c false false)) :=
      h.goto_awake (by rw [hpc]; trivial) nofun
    exact (hg _ _).of_eq rfl rfl rfl
  | refused hpc hm => exact h.goto_awake (by rw [hpc]; trivial) nofun
  | responded hpc => exact h.goto nofun nofun
  | slept hpc => exact h.goto nofun nofun
  | @left i now hpc =>
    have hg : Clients (s.goto i .done) := h.goto nofun nofun
    exact hg.of_eq rfl rfl rfl
  | @visitorSent i v c cDone hpc =>
    have hg : Clients (s.goto i (.responding v c true cDone)) :=
      h.goto_awake (by rw [hpc]; trivial) nofun
    exact hg.of_eq rfl rfl rfl
  | @clientSent i tr v c vDone hpc htr =>
    have hg : Clients (s.goto i (.responding v c vDone true)) :=
      h.goto_awake (by rw [hpc]; trivial) nofun
    exact hg.of_eq rfl rfl rfl
  | @dropped k tr m hidle =>
    have hc : Clients (s.setCall k .dropped) := h.setCall nofun nofun nofun
    exact hc.of_eq rfl rfl rfl
  | @found k tr i m hidle hget =>
    have hi := HandlerPc.ne_idle_of_isOpen (ht m.sid i hget).2
    have hc : Clients (s.setCall k (.found i m tr)) := by
      refine h.setCall ?_ nofun nofun
      rintro j m' tr' hj
      cases hj
      exact hi
    exact hc.of_eq rfl rfl rfl
  | @wroteMsg k i tr m hk =>
    have hi := h.handled k i m tr (by rw [hk]; rfl)
    have hx : Clients (s.setSession i { s.session i with clientMsg := some m }) :=
      h.setSession (fun _ => rfl) id fun hn => ⟨rfl, (h.notify i hn).2⟩
    refine hx.setCall ?_ ?_ nofun
    · rintro j m' tr' hj
      cases hj
      exact hi
    · rintro j m' tr' hj
      cases hj
      simp [State.setSession]
  | @wroteTransporter k i tr m hk =>
    have hi := h.handled k i m tr (by rw [hk]; rfl)
    have hm := h.wroteMsg k i m tr hk
    have hx : Clients (s.setSession i { s.session i with clientTransporter := some tr }) :=
      h.setSession id (fun _ => rfl) fun _ => ⟨hm, rfl⟩
    refine hx.setCall ?_ nofun ?_
    · rintro j m' tr' hj
      cases hj
      exact hi
    · rintro j m' tr' hj
      cases hj
      simp only [State.setSession, Function.update_self]
      exact ⟨hm, rfl⟩
  | @notified k i tr m hk =>
    have hi := h.handled k i m tr (by rw [hk]; rfl)
    have hboth := h.wroteTransporter k i m tr hk
    have hx : Clients (s.setSession i { s.session i with notifyCh := true }) :=
      h.setSession id id fun _ => hboth
    refine hx.setCall ?_ nofun nofun
    rintro j m' tr' hj
    cases hj
    exact hi
  | _ => exact h.of_eq rfl rfl rfl

end Clients

/-- What every step keeps, whatever the schedule. -/
structure Inv (s : State) : Prop where
  listening : Listening s
  table : Table s
  clients : Clients s
  analyzer : AnalyzerRuns.AllWellFormed s.analyzer

theorem Inv.init (env : Env) : Inv (init env) := by
  refine ⟨.init env, ?_, .init env, ?_⟩
  · intro sid h hs
    cases hs
  · intro key r hr
    cases hr

theorem Inv.step (h : Inv s) (he : Effect env s a s') : Inv s' := by
  refine ⟨h.listening.step he, h.table.step he, h.clients.step h.table he, ?_⟩
  cases he with
  | @recommended i now mode index cm cf vf key analyzer row hpc hget =>
    have hnext := AnalyzerRuns.AllWellFormed.next h.analyzer
      (.getRecommandBehaviors key cf vf now)
    simp only [AnalyzerRuns.next, hget] at hnext
    exact hnext
  | analyzer => exact AnalyzerRuns.AllWellFormed.next h.analyzer _
  | _ => exact h.analyzer

end FrpXtcp.Nathole.Sessions

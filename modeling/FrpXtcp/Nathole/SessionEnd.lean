import FrpXtcp.Nathole.SessionTables

/-!
# Sessions and closing proxies

A handler sends its sid on a channel that is never closed, and nothing but the loop of the
proxy it has looked up receives from it. `XTCPProxy.Close` stops that loop without a look at
the handlers that hold the channel. As long as no proxy is closed in that window, every
handler that sends has a running loop, and every session can be brought to its end by its
handler and that loop.
-/
namespace FrpXtcp.Nathole.Sessions

open FrpXtcp.Lib

variable {env : Env} {s s' : State} {a : Action}

/-- The loop has started and not returned. -/
def LoopPc.running : LoopPc → Prop
  | .select | .busy _ => True
  | .off | .exited => False

section Sending

/-- `closeCh` of a proxy is closed only while no handler that has looked the proxy up is
still to send its sid. -/
def ClosesUnused (s : State) : Action → Prop
  | .closeCh p => ∀ h cfg, s.handler h = .sending cfg → cfg.sidCh ≠ p
  | _ => True

/-- A handler that sends holds the channel of a proxy that is not closed. -/
def Sending (s : State) : Prop :=
  ∀ h cfg, s.handler h = .sending cfg →
    s.closeCh cfg.sidCh = false ∧ s.loop cfg.sidCh ≠ .off

/-- A handler starts to send with the proxy that is registered. -/
theorem Effect.sending (he : Effect env s a s') {i : Nat} {cfg : ClientCfg}
    (hi : s'.handler i = .sending cfg) :
    s.handler i = .sending cfg ∨ ∃ n, s.clientCfgs.get? n = some cfg := by
  cases he with
  | created hidle hcfg =>
    simp only [State.goto, State.setSession, Function.update_apply] at hi
    split at hi
    · cases hi
      exact Or.inr ⟨_, hcfg⟩
    · exact Or.inl hi
  | receive | replied | woken | timedOut | failed | classified | keyed | recommended | refused
  | responded | slept | left | visitorSent | clientSent =>
    simp only [State.goto, State.setSession, State.setLoop, Function.update_apply] at hi
    split at hi
    · cases hi
    · exact Or.inl hi
  | _ => exact Or.inl hi

theorem Effect.closeCh_eq (he : Effect env s a s') {p : Nat} (hp : a ≠ .closeCh p) :
    s'.closeCh p = s.closeCh p := by
  cases he with
  | @closeCh q hq =>
    have hne : p ≠ q := by
      rintro rfl
      exact hp rfl
    exact Function.update_of_ne hne _ _
  | _ => rfl

theorem Effect.loop_ne_off (he : Effect env s a s') {p : Nat} (hp : s.loop p ≠ .off) :
    s'.loop p ≠ .off := by
  cases he with
  | run | exit | receive | finish =>
    simp only [State.goto, State.setLoop, Function.update_apply]
    split
    · simp
    · exact hp
  | _ => exact hp

theorem Sending.step (h : Sending s) (hinv : Inv s) (hc : ClosesUnused s a)
    (he : Effect env s a s') : Sending s' := by
  intro i cfg hi
  have hold : s.closeCh cfg.sidCh = false ∧ s.loop cfg.sidCh ≠ .off := by
    rcases he.sending hi with hi | ⟨n, hn⟩
    · exact h i cfg hi
    · obtain ⟨-, hclosed, hloop⟩ := hinv.listening.cfg n cfg hn
      refine ⟨Bool.eq_false_iff.mpr fun hch => ?_, hloop⟩
      rw [hinv.listening.closed _ hch] at hclosed
      cases hclosed
  refine ⟨?_, he.loop_ne_off hold.2⟩
  by_cases ha : a = .closeCh cfg.sidCh
  · subst ha
    -- the step closes the channel of a handler that sends
    cases he with
    | closeCh hp => exact absurd rfl (hc i cfg hi)
  · rw [he.closeCh_eq ha]
    exact hold.1

theorem reachableBy_inv (hr : (system env).ReachableBy ClosesUnused s) : Inv s ∧ Sending s := by
  refine System.invariant_by (I := fun s => Inv s ∧ Sending s) ⟨.init env, ?_⟩ ?_ hr
  · intro h cfg hi
    cases hi
  · intro s a s' _ hs hc hstep
    have he := step_effect hstep
    exact ⟨hs.1.step he, hs.2.step hs.1 hc he⟩

end Sending

section Ends

/-- A statement of handler `h` after its section under the mutex. -/
def Action.OfHandler (h : Nat) : Action → Prop
  | .wake i | .timeout i | .handler i _ | .sendVisitor i | .sendClient i => i = h
  | _ => False

/-- A turn of the loop of proxy `p`. -/
def Action.OfLoop (p : Nat) : Action → Prop
  | .exit q | .finish q | .receive q _ => q = p
  | _ => False

/-- The action belongs to handler `h`, or to the loop that is to take its sid. -/
def Serves (s : State) (h : Nat) (a : Action) : Prop :=
  a.OfHandler h ∨ ∃ cfg, s.handler h = .sending cfg ∧ a.OfLoop cfg.sidCh

/-- Handler `h` alone can bring the session `sid` to its end. -/
def Ends (env : Env) (h : Nat) (sid : String) (s : State) : Prop :=
  (system env).CanReach (Action.OfHandler h) (fun s => s.sessions.get? sid = none) s

variable {h : Nat} {sid : String}

/-- One more statement of the handler. -/
theorem Ends.handler {now : Int} (hstep : handlerStep env s h now = some s')
    (hs : Ends env h sid s') : Ends env h sid s :=
  .step (a := .handler h now) rfl hstep hs

theorem ends_leaving (hpc : s.handler h = .leaving) (hsid : (s.session h).sid = sid) :
    Ends env h sid s := by
  have hstep : handlerStep env s h 0 =
      some { s.goto h .done with sessions := s.sessions.erase (s.session h).sid } := by
    simp only [handlerStep, hpc]
  exact .handler hstep (.here (by simp [hsid]))

theorem ends_sleeping (hpc : s.handler h = .sleeping) (hsid : (s.session h).sid = sid) :
    Ends env h sid s := by
  have hstep : handlerStep env s h 0 = some (s.goto h .leaving) := by
    simp only [handlerStep, hpc]
  exact .handler hstep (ends_leaving (State.goto_handler ..) hsid)

theorem ends_responded {v c : NatHoleResponse} (hpc : s.handler h = .responding v c true true)
    (hsid : (s.session h).sid = sid) : Ends env h sid s := by
  have hstep : handlerStep env s h 0 = some (s.goto h .sleeping) := by
    simp only [handlerStep, hpc]
  exact .handler hstep (ends_sleeping (State.goto_handler ..) hsid)

theorem ends_clientSent {v c : NatHoleResponse} {vDone : Bool}
    (hpc : s.handler h = .responding v c vDone true) (hsid : (s.session h).sid = sid) :
    Ends env h sid s := by
  cases vDone with
  | true => exact ends_responded hpc hsid
  | false =>
    have hstep : step env s (.sendVisitor h) =
        some { s.goto h (.responding v c true true) with
          vSent := Function.update s.vSent h (some ((s.session h).visitorTransporter, v)) } := by
      simp only [step, hpc]
    refine .step (a := .sendVisitor h) rfl hstep ?_
    exact ends_responded (State.goto_handler ..) hsid

theorem ends_responding {v c : NatHoleResponse} {vDone cDone : Bool}
    (hpc : s.handler h = .responding v c vDone cDone) (hsid : (s.session h).sid = sid)
    (hcl : HasClient (s.session h)) : Ends env h sid s := by
  cases cDone with
  | true => exact ends_clientSent hpc hsid
  | false =>
    obtain ⟨tr, htr⟩ := Option.isSome_iff_exists.mp hcl.2
    have hstep : step env s (.sendClient h) =
        some { s.goto h (.responding v c vDone true) with
          cSent := Function.update s.cSent h (some (tr, c)) } := by
      simp only [step, hpc, htr]
    refine .step (a := .sendClient h) rfl hstep ?_
    exact ends_clientSent (State.goto_handler ..) hsid

theorem ends_failed {err : String} (hpc : s.handler h = .failed err)
    (hsid : (s.session h).sid = sid) (hcl : HasClient (s.session h)) : Ends env h sid s := by
  obtain ⟨m, hm⟩ := Option.isSome_iff_exists.mp hcl.1
  have hstep : handlerStep env s h 0 = some (s.goto h (.responding
      (errorResponses (s.session h).visitorMsg.transactionID m.transactionID err).1
      (errorResponses (s.session h).visitorMsg.transactionID m.transactionID err).2
      false false)) := by
    simp only [handlerStep, hpc, hm]
  exact .handler hstep (ends_responding (State.goto_handler ..) hsid hcl)

theorem ends_keyed {cm : NatHoleClient} {cf vf : NatFeature} {key : String}
    (hpc : s.handler h = .keyed cm cf vf key) (hsid : (s.session h).sid = sid)
    (hcl : HasClient (s.session h)) (han : AnalyzerRuns.AllWellFormed s.analyzer) :
    Ends env h sid s := by
  obtain ⟨b, row, hget, -, -⟩ :=
    AnalyzerRuns.getRecommandBehaviors_wellFormed han key cf vf 0
  have hstep : handlerStep env s h 0 = some
      { s.goto h (.responding
          (makeResponses (s.session h).sid (s.session h).visitorMsg cm b.mode row.1 row.2 cf vf).1
          (makeResponses (s.session h).sid (s.session h).visitorMsg cm b.mode row.1 row.2 cf vf).2
          false false) with
        analyzer := AnalyzerRuns.next s.analyzer (.getRecommandBehaviors key cf vf 0) } := by
    simp only [handlerStep, hpc, hget]
  exact .handler hstep (ends_responding (State.goto_handler ..) hsid hcl)

theorem ends_classified {cm : NatHoleClient} {cf vf : NatFeature}
    (hpc : s.handler h = .classified cm cf vf) (hsid : (s.session h).sid = sid)
    (hcl : HasClient (s.session h)) (han : AnalyzerRuns.AllWellFormed s.analyzer) :
    Ends env h sid s := by
  obtain ⟨m, hm⟩ := Option.isSome_iff_exists.mp hcl.1
  have hstep : handlerStep env s h 0 = some (s.goto h (.keyed cm cf vf
      (genAnalysisKey env.md5 (s.session h).visitorMsg.mappedAddrs vf m.mappedAddrs cf))) := by
    simp only [handlerStep, hpc, hm]
  exact .handler hstep (ends_keyed (State.goto_handler ..) hsid hcl han)

theorem ends_analysing (hpc : s.handler h = .analysing) (hsid : (s.session h).sid = sid)
    (hcl : HasClient (s.session h)) (han : AnalyzerRuns.AllWellFormed s.analyzer) :
    Ends env h sid s := by
  obtain ⟨cm, hm⟩ := Option.isSome_iff_exists.mp hcl.1
  cases hc : classifyBoth (s.session h).visitorMsg cm with
  | error err =>
    have hstep : handlerStep env s h 0 = some (s.goto h (.failed err)) := by
      simp only [handlerStep, hpc, hm, hc]
    exact .handler hstep (ends_failed (State.goto_handler ..) hsid hcl)
  | ok f =>
    have hstep : handlerStep env s h 0 = some (s.goto h (.classified cm f.1 f.2)) := by
      simp only [handlerStep, hpc, hm, hc]
    exact .handler hstep (ends_classified (State.goto_handler ..) hsid hcl han)

/-- The timeout ends the wait, whether or not the client answers. -/
theorem ends_waiting (hpc : s.handler h = .waiting) (hsid : (s.session h).sid = sid) :
    Ends env h sid s := by
  have hstep : step env s (.timeout h) = some (s.goto h .leaving) := by
    simp only [step, hpc]
  exact .step (a := .timeout h) rfl hstep (ends_leaving (State.goto_handler ..) hsid)

/-- Past the send, a handler needs nobody else. -/
theorem Inv.ends (hinv : Inv s) (hsid : s.sessions.get? sid = some h)
    (hns : ∀ cfg, s.handler h ≠ .sending cfg) : Ends env h sid s := by
  obtain ⟨hs, hopen⟩ := hinv.table sid h hsid
  have hcl := hinv.clients.awake h
  cases hpc : s.handler h with
  | idle =>
    rw [hpc] at hopen
    exact hopen.elim
  | sending cfg => exact absurd hpc (hns cfg)
  | waiting => exact ends_waiting hpc hs
  | analysing => exact ends_analysing hpc hs (hcl (by rw [hpc]; trivial)) hinv.analyzer
  | classified cm cf vf => exact ends_classified hpc hs (hcl (by rw [hpc]; trivial)) hinv.analyzer
  | keyed cm cf vf key => exact ends_keyed hpc hs (hcl (by rw [hpc]; trivial)) hinv.analyzer
  | failed err => exact ends_failed hpc hs (hcl (by rw [hpc]; trivial))
  | responding v c vDone cDone => exact ends_responding hpc hs (hcl (by rw [hpc]; trivial))
  | sleeping => exact ends_sleeping hpc hs
  | leaving => exact ends_leaving hpc hs
  | done =>
    rw [hpc] at hopen
    exact hopen.elim

variable (env) in
/-- With the loop of its proxy running, a handler that sends gets rid of its sid. -/
theorem ends_sending {cfg : ClientCfg} (hpc : s.handler h = .sending cfg)
    (hsid : (s.session h).sid = sid) (hl : (s.loop cfg.sidCh).running) :
    (system env).CanReach (fun a => a.OfHandler h ∨ a.OfLoop cfg.sidCh)
      (fun s => s.sessions.get? sid = none) s := by
  have hselect : ∀ t : State, t.handler h = .sending cfg → (t.session h).sid = sid →
      t.loop cfg.sidCh = .select →
      (system env).CanReach (fun a => a.OfHandler h ∨ a.OfLoop cfg.sidCh)
        (fun s => s.sessions.get? sid = none) t := by
    intro t hpc hsid hl
    have hstep : step env t (.receive cfg.sidCh h) =
        some ((t.setLoop cfg.sidCh (.busy (t.session h).sid)).goto h .waiting) := by
      simp only [step, hpc, hl, and_self, if_true]
    refine .step (a := .receive cfg.sidCh h) (Or.inr rfl) hstep ?_
    exact System.CanReach.mono (fun _ => Or.inl) (ends_waiting (State.goto_handler ..) hsid)
  cases hloop : s.loop cfg.sidCh with
  | off =>
    rw [hloop] at hl
    exact hl.elim
  | select => exact hselect s hpc hsid hloop
  | busy other =>
    have hstep : step env s (.finish cfg.sidCh) = some (s.setLoop cfg.sidCh .select) := by
      simp only [step, hloop]
    refine .step (a := .finish cfg.sidCh) (Or.inr rfl) hstep ?_
    exact hselect _ hpc hsid (by simp [State.setLoop])
  | exited =>
    rw [hloop] at hl
    exact hl.elim

theorem Sending.running (h : Sending s) (hinv : Inv s) {i : Nat} {cfg : ClientCfg}
    (hi : s.handler i = .sending cfg) : (s.loop cfg.sidCh).running := by
  obtain ⟨hch, hoff⟩ := h i cfg hi
  cases hl : s.loop cfg.sidCh with
  | off => exact absurd hl hoff
  | select => trivial
  | busy sid => trivial
  | exited =>
    rw [hinv.listening.exited _ hl] at hch
    cases hch

/-- No handler is stranded as long as no proxy is closed under a handler that is to send: the
loop it sends to runs, and the handler and that loop can end every session. -/
theorem handlers_not_stranded (hr : (system env).ReachableBy ClosesUnused s) :
    (∀ h cfg, s.handler h = .sending cfg → (s.loop cfg.sidCh).running) ∧
    ∀ sid h, s.sessions.get? sid = some h →
      (system env).CanReach (Serves s h) (fun s => s.sessions.get? sid = none) s := by
  obtain ⟨hinv, hsend⟩ := reachableBy_inv hr
  refine ⟨fun h cfg hi => hsend.running hinv hi, ?_⟩
  intro sid h hsid
  by_cases hns : ∃ cfg, s.handler h = .sending cfg
  · obtain ⟨cfg, hi⟩ := hns
    have hends := ends_sending env hi (hinv.table sid h hsid).1 (hsend.running hinv hi)
    exact hends.mono fun a ha => ha.imp id fun hl => ⟨cfg, hi, hl⟩
  · have hends : Ends env h sid s := hinv.ends hsid fun cfg hi => hns ⟨cfg, hi⟩
    exact System.CanReach.mono (fun _ => Or.inl) hends

/-- Whether handler 0 stands at its send on the channel of proxy 0. -/
def State.sends (s : State) : Bool :=
  match s.handler 0 with
  | .sending cfg => cfg.sidCh == 0
  | _ => false

theorem State.sends_iff : s.sends = true ↔ ∃ cfg, s.handler 0 = .sending cfg ∧ cfg.sidCh = 0 := by
  unfold State.sends
  split
  · rename_i cfg hpc
    simp [hpc]
  · rename_i hno
    simp only [Bool.false_eq_true, false_iff]
    rintro ⟨cfg, hpc, -⟩
    exact hno cfg hpc

/-- While the proxy is open, its loop takes the sid. -/
theorem handlers_not_stranded_sending :
    ∃ s, (system sampleEnv).ReachableBy ClosesUnused s ∧ s.sessions.get? "s1" = some 0 ∧
      (∃ cfg, s.handler 0 = .sending cfg ∧ (s.loop cfg.sidCh).running) ∧
      (system sampleEnv).CanReach (Serves s 0) (fun s => s.sessions.get? "s1" = none) s := by
  have hc : (system sampleEnv).Along ClosesUnused (init sampleEnv)
      [.run 0, .visit 0 sampleVisitor 1 "u" "s1"] :=
    ⟨trivial, fun _ _ => ⟨trivial, fun _ _ => trivial⟩⟩
  obtain ⟨s, hr, hp⟩ := System.reachableBy_of_run
    (p := fun s => s.sends && s.sessions.get? "s1" == some 0) hc (by decide +kernel)
  simp only [Bool.and_eq_true, beq_iff_eq, State.sends_iff] at hp
  obtain ⟨⟨cfg, hpc, -⟩, hsid⟩ := hp
  obtain ⟨hrun, hends⟩ := handlers_not_stranded hr
  exact ⟨s, hr, hsid, ⟨cfg, hpc, hrun 0 cfg hpc⟩, hends "s1" 0 hsid⟩

/-- A handler that sends to a loop that has returned has no step left. -/
theorem stranded_disabled {cfg : ClientCfg} (hpc : s.handler h = .sending cfg)
    (hl : s.loop cfg.sidCh = .exited) {a : Action} (ha : Serves s h a) : step env s a = none := by
  rcases ha with ha | ⟨cfg', hpc', ha⟩
  · cases a with
    | wake i | timeout i | sendVisitor i | sendClient i =>
      obtain rfl : i = h := ha
      simp only [step, hpc]
    | handler i now =>
      obtain rfl : i = h := ha
      simp only [step, handlerStep, hpc]
    | _ => exact ha.elim
  · obtain rfl : cfg' = cfg := by
      rw [hpc] at hpc'
      cases hpc'
      rfl
    cases a with
    | exit q | finish q =>
      obtain rfl : q = cfg'.sidCh := ha
      simp [step, hl]
    | receive q i =>
      obtain rfl : q = cfg'.sidCh := ha
      simp only [step, hl]
      split <;> simp
    | _ => exact ha.elim

/-- A close between the lookup and the send: the loop returns and the handler stays at its
send, with its session in the table. -/
theorem handler_stranded :
    ∃ s, (system sampleEnv).Reachable s ∧ s.sessions.get? "s1" = some 0 ∧
      (∃ cfg, s.handler 0 = .sending cfg ∧ s.loop cfg.sidCh = .exited) ∧
      ¬ (system sampleEnv).CanReach (Serves s 0) (fun s => s.sessions.get? "s1" = none) s := by
  obtain ⟨s, hr, hp⟩ := System.reachable_of_run (S := system sampleEnv)
    (l := [.run 0, .visit 0 sampleVisitor 1 "u" "s1", .close 0, .closeCh 0, .exit 0])
    (p := fun s => s.sends && s.sessions.get? "s1" == some 0 && s.loop 0 == .exited)
    (by decide +kernel)
  simp only [Bool.and_eq_true, beq_iff_eq, State.sends_iff] at hp
  obtain ⟨⟨⟨cfg, hpc, hch⟩, hsid⟩, hl⟩ := hp
  rw [← hch] at hl
  refine ⟨s, hr, hsid, ⟨cfg, hpc, hl⟩, ?_⟩
  intro hends
  cases hends with
  | here hgone =>
    rw [hsid] at hgone
    cases hgone
  | step ha hstep _ =>
    have hnone : (system sampleEnv).step s _ = none := stranded_disabled hpc hl ha
    rw [hnone] at hstep
    cases hstep

end Ends

end FrpXtcp.Nathole.Sessions

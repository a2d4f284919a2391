import FrpXtcp.Nathole.SessionTables

/-!
# Which messages a session pairs

A handler reads the client message of its session for the analysis, again for the analysis
key or for the error responses, and the transporter when it sends. `HandleClient` overwrites
both fields whenever a message with the sid arrives. The responses of a session therefore
belong to one visitor message and one client message exactly as long as the messages that
reach the session before its client response are the same message from the same transporter.
-/
namespace FrpXtcp.Nathole.Sessions

open FrpXtcp.Lib

variable {env : Env} {s s' : State} {a : Action}

/-- A call of `HandleClient` for `m` from `tr` has found session `h`. -/
def Found (s : State) (h : Nat) (m : NatHoleClient) (tr : Nat) : Prop :=
  ∃ k, (s.call k).args = some (h, m, tr)

section Origin

variable {h k tr : Nat} {m : NatHoleClient}

theorem Found.setCall (hf : Found s h m tr) {c : ClientPc}
    (hc : (s.call k).args = none ∨ (s.call k).args = c.args) : Found (s.setCall k c) h m tr := by
  obtain ⟨k', hk'⟩ := hf
  refine ⟨k', ?_⟩
  simp only [State.setCall, Function.update_apply]
  split
  · rename_i hkk
    subst hkk
    rcases hc with hc | hc
    · rw [hc] at hk'
      cases hk'
    · exact hc ▸ hk'
  · exact hk'

theorem Found.of_setCall {c : ClientPc} (hf : Found (s.setCall k c) h m tr) :
    Found s h m tr ∨ c.args = some (h, m, tr) := by
  obtain ⟨k', hk'⟩ := hf
  simp only [State.setCall, Function.update_apply] at hk'
  split at hk'
  · exact Or.inr hk'
  · exact Or.inl ⟨k', hk'⟩

/-- A call keeps the session it has found. -/
theorem Effect.found_mono (he : Effect env s a s') (hf : Found s h m tr) : Found s' h m tr := by
  cases he with
  | dropped hidle => exact hf.setCall (Or.inl (by rw [hidle]; rfl))
  | found hidle hget => exact hf.setCall (Or.inl (by rw [hidle]; rfl))
  | @wroteMsg k i tr' m' hk =>
    have hargs : (s.call k).args = (ClientPc.wroteMsg i m' tr').args := by
      rw [hk]
      rfl
    exact hf.setCall (Or.inr hargs)
  | @wroteTransporter k i tr' m' hk =>
    have hargs : (s.call k).args = (ClientPc.wroteTransporter i m' tr').args := by
      rw [hk]
      rfl
    exact hf.setCall (Or.inr hargs)
  | @notified k i tr' m' hk =>
    have hargs : (s.call k).args = (ClientPc.notified i m' tr').args := by
      rw [hk]
      rfl
    exact hf.setCall (Or.inr hargs)
  | _ => exact hf

/-- A call finds a session by its lookup. -/
theorem Effect.found_inv (he : Effect env s a s') (hf : Found s' h m tr) :
    Found s h m tr ∨ ∃ k, a = .lookup k m tr ∧ s.sessions.get? m.sid = some h := by
  cases he with
  | dropped hidle =>
    rcases Found.of_setCall hf with hf | hf
    · exact Or.inl hf
    · cases hf
  | found hidle hget =>
    rcases Found.of_setCall hf with hf | hf
    · exact Or.inl hf
    · cases hf
      exact Or.inr ⟨_, rfl, hget⟩
  | wroteMsg hk | wroteTransporter hk | notified hk =>
    rcases Found.of_setCall hf with hf | hf
    · exact Or.inl hf
    · cases hf
      exact Or.inl ⟨_, by rw [hk]; rfl⟩
  | _ => exact Or.inl hf

theorem Effect.clientMsg (he : Effect env s a s') (hm : (s'.session h).clientMsg = some m) :
    (s.session h).clientMsg = some m ∨ ∃ tr, Found s h m tr := by
  cases he with
  | created hidle hcfg =>
    simp only [State.goto, State.setSession, Function.update_apply] at hm
    split at hm
    · cases hm
    · exact Or.inl hm
  | wroteMsg hk =>
    simp only [State.setCall, State.setSession, Function.update_apply] at hm
    split at hm
    · rename_i hi
      cases hm
      exact Or.inr ⟨_, _, by rw [hk, hi]; rfl⟩
    · exact Or.inl hm
  | woken | wroteTransporter | notified =>
    simp only [State.goto, State.setCall, State.setSession, Function.update_apply] at hm
    split at hm
    · rename_i hi
      exact Or.inl (hi ▸ hm)
    · exact Or.inl hm
  | _ => exact Or.inl hm

theorem Effect.clientTransporter (he : Effect env s a s')
    (ht : (s'.session h).clientTransporter = some tr) :
    (s.session h).clientTransporter = some tr ∨ ∃ m, Found s h m tr := by
  cases he with
  | created hidle hcfg =>
    simp only [State.goto, State.setSession, Function.update_apply] at ht
    split at ht
    · cases ht
    · exact Or.inl ht
  | wroteTransporter hk =>
    simp only [State.setCall, State.setSession, Function.update_apply] at ht
    split at ht
    · rename_i hi
      cases ht
      exact Or.inr ⟨_, _, by rw [hk, hi]; rfl⟩
    · exact Or.inl ht
  | woken | wroteMsg | notified =>
    simp only [State.goto, State.setCall, State.setSession, Function.update_apply] at ht
    split at ht
    · rename_i hi
      exact Or.inl (hi ▸ ht)
    · exact Or.inl ht
  | _ => exact Or.inl ht

theorem Effect.delivered_subset (he : Effect env s a s') : s.delivered ⊆ s'.delivered := by
  cases he with
  | dropped | found => exact List.subset_append_left _ _
  | _ => exact List.Subset.refl _

theorem Effect.visited_subset (he : Effect env s a s') : s.visited ⊆ s'.visited := by
  cases he with
  | replied | created => exact List.subset_append_left _ _
  | _ => exact List.Subset.refl _

/-- The visitor message of the session and the transporter it is answered on came together. -/
def Visited (s : State) (h : Nat) : Prop :=
  ((s.session h).visitorMsg, (s.session h).visitorTransporter) ∈ s.visited

/-- What a session holds came with a call that found it, and every such call was delivered. -/
structure Origin (s : State) : Prop where
  visited : ∀ h, (s.handler h).isOpen → Visited s h
  msg : ∀ h m, (s.session h).clientMsg = some m → ∃ tr, Found s h m tr
  transporter : ∀ h tr, (s.session h).clientTransporter = some tr → ∃ m, Found s h m tr
  delivered : ∀ h m tr, Found s h m tr → (m, tr) ∈ s.delivered

theorem Origin.init (env : Env) : Origin (init env) := by
  refine ⟨?_, ?_, ?_, ?_⟩
  · intro h ho
    exact ho.elim
  · intro h m hm
    cases hm
  · intro h tr ht
    cases ht
  · rintro h m tr ⟨k, hk⟩
    cases hk

theorem Visited.setSession {i : Nat} {x : Session} (hv : Visited s h)
    (h2 : x.visitorMsg = (s.session i).visitorMsg)
    (h3 : x.visitorTransporter = (s.session i).visitorTransporter) :
    Visited (s.setSession i x) h := by
  unfold Visited
  simp only [State.setSession, Function.update_apply]
  split
  · rename_i hi
    rw [h2, h3, ← hi]
    exact hv
  · exact hv

/-- A handler goes on only from where its session is open. -/
theorem Effect.isOpen_inv (he : Effect env s a s') (hi : (s'.handler h).isOpen) :
    (s.handler h).isOpen ∨ s.handler h = .idle ∧ ∃ m tr user sid, a = .visit h m tr user sid := by
  cases he with
  | replied hpc | created hpc =>
    simp only [State.goto, State.setSession, Function.update_apply] at hi
    split at hi
    · rename_i hj
      subst hj
      exact Or.inr ⟨hpc, _, _, _, _, rfl⟩
    · exact Or.inl hi
  | receive hpc | woken hpc | timedOut hpc | failed hpc | classified hpc | keyed hpc
  | recommended hpc | refused hpc | responded hpc | slept hpc | left hpc | visitorSent hpc
  | clientSent hpc =>
    simp only [State.goto, State.setSession, State.setLoop, Function.update_apply] at hi
    split at hi
    · rename_i hj
      exact Or.inl (by rw [hj, hpc]; trivial)
    · exact Or.inl hi
  | _ => exact Or.inl hi

/-- A handler gets its session once, with the message and the transporter of its call. -/
theorem Effect.visited (he : Effect env s a s') (ho : ∀ h, (s.handler h).isOpen → Visited s h)
    (hi : (s'.handler h).isOpen) : Visited s' h := by
  rcases he.isOpen_inv hi with hopen | ⟨hidle, m, tr, user, sid, rfl⟩
  · have hv := ho h hopen
    have hsub := he.visited_subset
    cases he with
    | created hpc =>
      have hne : h ≠ _ := fun hj => by rw [hj, hpc] at hopen; exact hopen
      unfold Visited
      simp only [State.goto, State.setSession, Function.update_of_ne hne]
      exact hsub hv
    | woken | wroteMsg | wroteTransporter | notified => exact hv.setSession rfl rfl
    | replied => exact hsub hv
    | _ => exact hv
  · cases he with
    | replied => simp [State.goto, HandlerPc.isOpen] at hi
    | created => simp [Visited, State.goto, State.setSession]

theorem Origin.step (ho : Origin s) (he : Effect env s a s') : Origin s' := by
  refine ⟨fun h => he.visited ho.visited, ?_, ?_, ?_⟩
  · intro h m hm
    obtain ⟨tr, hf⟩ := (he.clientMsg hm).elim (ho.msg h m) id
    exact ⟨tr, he.found_mono hf⟩
  · intro h tr ht
    obtain ⟨m, hf⟩ := (he.clientTransporter ht).elim (ho.transporter h tr) id
    exact ⟨m, he.found_mono hf⟩
  · intro h m tr hf
    rcases he.found_inv hf with hf | ⟨k, rfl, -⟩
    · exact he.delivered_subset (ho.delivered h m tr hf)
    · cases he <;> simp

end Origin

section Single

/-- The message finds its session only if every earlier one that did was the same message
from the same transporter, or if the client response has been sent. -/
def SameClient (s : State) : Action → Prop
  | .lookup _ m tr => ∀ h, s.sessions.get? m.sid = some h →
      (s.cSent h).isSome ∨ ∀ m' tr', Found s h m' tr' → m' = m ∧ tr' = tr
  | _ => True

/-- Before its client response a session has been found with one message only. -/
def Single (s : State) : Prop :=
  ∀ h, s.cSent h = none → ∀ m tr m' tr', Found s h m tr → Found s h m' tr' → m' = m ∧ tr' = tr

theorem Effect.cSent_none (he : Effect env s a s') {h : Nat} (hc : s'.cSent h = none) :
    s.cSent h = none := by
  cases he with
  | clientSent =>
    simp only [Function.update_apply] at hc
    split at hc
    · cases hc
    · exact hc
  | _ => exact hc

theorem Single.step (hs : Single s) (hc : SameClient s a) (he : Effect env s a s') :
    Single s' := by
  intro h hsent m tr m' tr' hf hf'
  have hold := he.cSent_none hsent
  have hnew {k : Nat} {m tr} (ha : a = .lookup k m tr) (hget : s.sessions.get? m.sid = some h)
      {m' tr'} (hf' : Found s h m' tr') : m' = m ∧ tr' = tr := by
    subst ha
    rcases hc h hget with hsome | hall
    · rw [hold] at hsome
      cases hsome
    · exact hall m' tr' hf'
  rcases he.found_inv hf with hf | ⟨k, ha, hget⟩ <;>
    rcases he.found_inv hf' with hf' | ⟨k', ha', hget'⟩
  · exact hs h hold m tr m' tr' hf hf'
  · obtain ⟨h1, h2⟩ := hnew ha' hget' hf
    exact ⟨h1.symm, h2.symm⟩
  · exact hnew ha hget hf'
  · rw [ha] at ha'
    cases ha'
    exact ⟨rfl, rfl⟩

end Single

section Pairing

/-- Nothing has been sent for the session. -/
def Silent (s : State) (h : Nat) : Prop := s.vSent h = none ∧ s.cSent h = none

/-- The responses `v` and `c` are those for the visitor message of session `h` and one client
message that found it, and what has been sent is theirs, on the transporters of these two. -/
def Decided (env : Env) (s : State) (h : Nat) (v c : NatHoleResponse) : Prop :=
  ∃ cm tr analyzer now, Found s h cm tr ∧
    respond env.md5 analyzer now (s.session h).sid (s.session h).visitorMsg cm = some (v, c) ∧
    (∀ x, s.vSent h = some x → x = ((s.session h).visitorTransporter, v)) ∧
    (∀ x, s.cSent h = some x → x.2 = c ∧ (cm, x.1) ∈ s.delivered) ∧ Visited s h

/-- What a handler at `pc` has made of its messages. -/
def PairedAt (env : Env) (s : State) (h : Nat) : HandlerPc → Prop
  | .idle | .sending _ | .waiting | .analysing => Silent s h
  | .classified cm cf vf =>
    Silent s h ∧ classifyBoth (s.session h).visitorMsg cm = .ok (cf, vf) ∧ ∃ tr, Found s h cm tr
  | .keyed cm cf vf key =>
    Silent s h ∧ classifyBoth (s.session h).visitorMsg cm = .ok (cf, vf) ∧
      (∃ tr, Found s h cm tr) ∧
      key = genAnalysisKey env.md5 (s.session h).visitorMsg.mappedAddrs vf cm.mappedAddrs cf
  | .failed err =>
    Silent s h ∧ ∃ cm tr, Found s h cm tr ∧
      classifyBoth (s.session h).visitorMsg cm = .error err
  | .responding v c vDone cDone =>
    Decided env s h v c ∧ (vDone = false → s.vSent h = none) ∧ (cDone = false → s.cSent h = none)
  | .sleeping | .leaving | .done => Silent s h ∨ ∃ v c, Decided env s h v c

def Pairing (env : Env) (s : State) : Prop := ∀ h, PairedAt env s h (s.handler h)

/-- What `PairedAt` depends on is kept for session `h`. -/
structure Frame (s s' : State) (h : Nat) : Prop where
  sid : (s'.session h).sid = (s.session h).sid
  visitorMsg : (s'.session h).visitorMsg = (s.session h).visitorMsg
  visitorTransporter : (s'.session h).visitorTransporter = (s.session h).visitorTransporter
  vSent : s'.vSent h = s.vSent h
  cSent : s'.cSent h = s.cSent h
  found : ∀ m tr, Found s h m tr → Found s' h m tr
  delivered : s.delivered ⊆ s'.delivered
  visited : s.visited ⊆ s'.visited

variable {h i : Nat} {pc : HandlerPc} {v c : NatHoleResponse}

theorem Frame.silent (hf : Frame s s' h) (hs : Silent s h) : Silent s' h :=
  ⟨hf.vSent.trans hs.1, hf.cSent.trans hs.2⟩

theorem Frame.decided (hf : Frame s s' h) (hd : Decided env s h v c) : Decided env s' h v c := by
  obtain ⟨cm, tr, an, now, hfound, hresp, hv, hc, hvis⟩ := hd
  refine ⟨cm, tr, an, now, hf.found cm tr hfound, ?_, ?_, ?_, ?_⟩
  · rw [hf.sid, hf.visitorMsg]
    exact hresp
  · rw [hf.vSent, hf.visitorTransporter]
    exact hv
  · rw [hf.cSent]
    exact fun x hx => ⟨(hc x hx).1, hf.delivered (hc x hx).2⟩
  · rw [Visited, hf.visitorMsg, hf.visitorTransporter]
    exact hf.visited hvis

theorem Frame.pairedAt (hf : Frame s s' h) (hp : PairedAt env s h pc) : PairedAt env s' h pc := by
  cases pc with
  | idle | sending | waiting | analysing => exact hf.silent hp
  | classified cm cf vf =>
    obtain ⟨hs, hcl, tr, hfound⟩ := hp
    refine ⟨hf.silent hs, ?_, tr, hf.found cm tr hfound⟩
    rw [hf.visitorMsg]
    exact hcl
  | keyed cm cf vf key =>
    obtain ⟨hs, hcl, ⟨tr, hfound⟩, hkey⟩ := hp
    refine ⟨hf.silent hs, ?_, ⟨tr, hf.found cm tr hfound⟩, ?_⟩
    · rw [hf.visitorMsg]
      exact hcl
    · rw [hf.visitorMsg]
      exact hkey
  | failed err =>
    obtain ⟨hs, cm, tr, hfound, hcl⟩ := hp
    refine ⟨hf.silent hs, cm, tr, hf.found cm tr hfound, ?_⟩
    rw [hf.visitorMsg]
    exact hcl
  | responding v c vDone cDone =>
    obtain ⟨hd, hv, hc⟩ := hp
    exact ⟨hf.decided hd, fun h => hf.vSent.trans (hv h), fun h => hf.cSent.trans (hc h)⟩
  | sleeping | leaving | done =>
    rcases hp with hs | ⟨v, c, hd⟩
    · exact Or.inl (hf.silent hs)
    · exact Or.inr ⟨v, c, hf.decided hd⟩

theorem Pairing.goto (hp : Pairing env s) (hpc : PairedAt env s i pc) :
    Pairing env (s.goto i pc) := by
  intro j
  simp only [State.goto, Function.update_apply]
  split
  · rename_i hji
    subst hji
    exact hpc
  · exact hp j

theorem Pairing.frame (hp : Pairing env s) (hh : s'.handler = s.handler)
    (hf : ∀ j, Frame s s' j) : Pairing env s' := by
  intro j
  rw [hh]
  exact (hf j).pairedAt (hp j)

/-- A write to a session that leaves the visitor's side alone. -/
theorem Frame.setSession {x : Session} (h1 : x.sid = (s.session i).sid)
    (h2 : x.visitorMsg = (s.session i).visitorMsg)
    (h3 : x.visitorTransporter = (s.session i).visitorTransporter) (j : Nat) :
    Frame s (s.setSession i x) j := by
  refine ⟨?_, ?_, ?_, rfl, rfl, fun _ _ => id, List.Subset.refl _, List.Subset.refl _⟩ <;>
    simp only [State.setSession, Function.update_apply] <;> split
  · rename_i hji
    rw [h1, hji]
  · rfl
  · rename_i hji
    rw [h2, hji]
  · rfl
  · rename_i hji
    rw [h3, hji]
  · rfl

theorem Pairing.pairedAt (hp : Pairing env s) (hpc : s.handler i = pc) : PairedAt env s i pc :=
  hpc ▸ hp i

theorem Pairing.create (hp : Pairing env s) {x : Session} {cfg : ClientCfg}
    (hidle : s.handler i = .idle) :
    Pairing env ((s.setSession i x).goto i (.sending cfg)) := by
  intro j
  by_cases hji : j = i
  · subst hji
    rw [State.goto_handler]
    exact hp.pairedAt hidle
  · have hf : Frame s ((s.setSession i x).goto i (.sending cfg)) j := by
      refine ⟨?_, ?_, ?_, rfl, rfl, fun _ _ => id, List.Subset.refl _, List.Subset.refl _⟩ <;>
        simp only [State.goto, State.setSession, Function.update_of_ne hji]
    have hh : ((s.setSession i x).goto i (.sending cfg)).handler j = s.handler j :=
      Function.update_of_ne hji _ _
    rw [hh]
    exact hf.pairedAt (hp j)

/-- The key and the behaviours that a handler gets are those of the message it classified. -/
theorem Pairing.recommended (hp : Pairing env s) (ho : Origin s) {cm : NatHoleClient}
    {cf vf : NatFeature} {key : String} (hpc : s.handler i = .keyed cm cf vf key)
    {now mode index : Int} {analyzer : Analyzer} {row : Row}
    (hget : s.analyzer.getRecommandBehaviors key cf vf now = (analyzer, mode, index, some row)) :
    let r := makeResponses (s.session i).sid (s.session i).visitorMsg cm mode row.1 row.2 cf vf
    PairedAt env s i (.responding r.1 r.2 false false) := by
  obtain ⟨hs, hcl, ⟨tr, hf⟩, rfl⟩ := hp.pairedAt hpc
  have hvis := ho.visited i (by rw [hpc]; trivial)
  refine ⟨⟨cm, tr, s.analyzer, now, hf, ?_, ?_, ?_, hvis⟩, fun _ => hs.1, fun _ => hs.2⟩
  · simp only [respond, hcl, hget, Option.map_some]
  · intro x hx
    rw [hs.1] at hx
    cases hx
  · intro x hx
    rw [hs.2] at hx
    cases hx

/-- The same for the error responses. -/
theorem Pairing.refused (hp : Pairing env s) (hone : Single s) (ho : Origin s) {err : String}
    (hpc : s.handler i = .failed err) {m : NatHoleClient}
    (hm : (s.session i).clientMsg = some m) :
    let r := errorResponses (s.session i).visitorMsg.transactionID m.transactionID err
    PairedAt env s i (.responding r.1 r.2 false false) := by
  obtain ⟨hs, cm, tr, hf, hcl⟩ := hp.pairedAt hpc
  obtain ⟨tr', hf'⟩ := ho.msg i m hm
  obtain ⟨rfl, -⟩ := hone i hs.2 cm tr m tr' hf hf'
  have hvis := ho.visited i (by rw [hpc]; trivial)
  refine ⟨⟨m, tr, s.analyzer, 0, hf, ?_, ?_, ?_, hvis⟩, fun _ => hs.1, fun _ => hs.2⟩
  · simp only [respond, hcl]
  · intro x hx
    rw [hs.1] at hx
    cases hx
  · intro x hx
    rw [hs.2] at hx
    cases hx

theorem Pairing.visitorSent (hp : Pairing env s) {cDone : Bool}
    (hpc : s.handler i = .responding v c false cDone) :
    Pairing env { s.goto i (.responding v c true cDone) with
      vSent := Function.update s.vSent i (some ((s.session i).visitorTransporter, v)) } := by
  intro j
  by_cases hji : j = i
  · subst hji
    obtain ⟨⟨cm, tr, an, now, hf, hresp, hv, hc, hvis⟩, -, hcn⟩ := hp.pairedAt hpc
    simp only [State.goto, Function.update_self]
    refine ⟨⟨cm, tr, an, now, hf, hresp, ?_, hc, hvis⟩, by simp, hcn⟩
    intro x hx
    simp only [Function.update_self] at hx
    exact (Option.some.inj hx).symm
  · simp only [State.goto, Function.update_of_ne hji]
    have hframe : Frame s { s.goto i (.responding v c true cDone) with
        vSent := Function.update s.vSent i (some ((s.session i).visitorTransporter, v)) } j :=
      ⟨rfl, rfl, rfl, Function.update_of_ne hji _ _, rfl, fun _ _ => id, List.Subset.refl _,
        List.Subset.refl _⟩
    exact hframe.pairedAt (hp j)

/-- The transporter at the time of the send is the one of the message that was classified. -/
theorem Pairing.clientSent (hp : Pairing env s) (hone : Single s) (ho : Origin s) {vDone : Bool}
    (hpc : s.handler i = .responding v c vDone false) {tr : Nat}
    (htr : (s.session i).clientTransporter = some tr) :
    Pairing env { s.goto i (.responding v c vDone true) with
      cSent := Function.update s.cSent i (some (tr, c)) } := by
  intro j
  by_cases hji : j = i
  · subst hji
    obtain ⟨⟨cm, tr₀, an, now, hf, hresp, hv, hc, hvis⟩, hvn, hcn⟩ := hp.pairedAt hpc
    obtain ⟨m, hm⟩ := ho.transporter j tr htr
    obtain ⟨rfl, rfl⟩ := hone j (hcn rfl) cm tr₀ m tr hf hm
    simp only [State.goto, Function.update_self]
    refine ⟨⟨m, tr, an, now, hf, hresp, hv, ?_, hvis⟩, hvn, by simp⟩
    intro x hx
    simp only [Function.update_self] at hx
    cases hx
    exact ⟨rfl, ho.delivered j m tr hm⟩
  · simp only [State.goto, Function.update_of_ne hji]
    have hframe : Frame s { s.goto i (.responding v c vDone true) with
        cSent := Function.update s.cSent i (some (tr, c)) } j :=
      ⟨rfl, rfl, rfl, rfl, Function.update_of_ne hji _ _, fun _ _ => id, List.Subset.refl _,
        List.Subset.refl _⟩
    exact hframe.pairedAt (hp j)

theorem Pairing.step (hp : Pairing env s) (hone : Single s) (ho : Origin s)
    (he : Effect env s a s') : Pairing env s' := by
  have hfound (h : Nat) (m : NatHoleClient) (tr : Nat) : Found s h m tr → Found s' h m tr :=
    he.found_mono
  have hdel := he.delivered_subset
  have hvis := he.visited_subset
  cases he with
  | @receive i cfg hpc hl =>
    have hl : Pairing env (s.setLoop cfg.sidCh (.busy (s.session i).sid)) := hp
    exact hl.goto (hp.pairedAt hpc)
  | @replied i tr m user sid hidle =>
    have hg : Pairing env (s.goto i .done) := hp.goto (Or.inl (hp.pairedAt hidle))
    exact hg.frame rfl fun j =>
      ⟨rfl, rfl, rfl, rfl, rfl, fun _ _ => id, List.Subset.refl _, hvis⟩
  | @created i tr m user sid cfg hidle hcfg =>
    let x : Session := { sid := sid, visitorMsg := m, visitorTransporter := tr }
    have hc : Pairing env ((s.setSession i x).goto i (.sending cfg)) := hp.create hidle
    exact hc.frame rfl fun j =>
      ⟨rfl, rfl, rfl, rfl, rfl, fun _ _ => id, List.Subset.refl _, hvis⟩
  | @woken i hpc hn =>
    have hx : Pairing env (s.setSession i { s.session i with notifyCh := false }) :=
      hp.frame rfl (Frame.setSession rfl rfl rfl)
    exact hx.goto (hp.pairedAt hpc)
  | timedOut hpc => exact hp.goto (Or.inl (hp.pairedAt hpc))
  | failed hpc hcm herr =>
    obtain ⟨tr, hf⟩ := ho.msg _ _ hcm
    exact hp.goto ⟨hp.pairedAt hpc, _, tr, hf, herr⟩
  | classified hpc hcm hok => exact hp.goto ⟨hp.pairedAt hpc, hok, ho.msg _ _ hcm⟩
  | keyed hpc hm =>
    obtain ⟨hs, hcl, tr, hf⟩ := hp.pairedAt hpc
    obtain ⟨tr', hf'⟩ := ho.msg _ _ hm
    obtain ⟨rfl, -⟩ := hone _ hs.2 _ tr _ tr' hf hf'
    exact hp.goto ⟨hs, hcl, ⟨tr, hf⟩, rfl⟩
  | recommended hpc hget => exact hp.goto (hp.recommended ho hpc hget)
  | refused hpc hm => exact hp.goto (hp.refused hone ho hpc hm)
  | responded hpc => exact hp.goto (Or.inr ⟨_, _, (hp.pairedAt hpc).1⟩)
  | slept hpc =>
    have hpair := hp.pairedAt hpc
    exact hp.goto hpair
  | left hpc =>
    have hpair := hp.pairedAt hpc
    exact hp.goto hpair
  | visitorSent hpc => exact hp.visitorSent hpc
  | clientSent hpc htr => exact hp.clientSent hone ho hpc htr
  | dropped | found =>
    exact hp.frame rfl fun j => ⟨rfl, rfl, rfl, rfl, rfl, hfound j, hdel, hvis⟩
  | @wroteMsg k i tr m hk =>
    refine hp.frame rfl fun j => ?_
    have hx := Frame.setSession (s := s) (i := i) (x := { s.session i with clientMsg := some m })
      rfl rfl rfl j
    exact ⟨hx.sid, hx.visitorMsg, hx.visitorTransporter, rfl, rfl, hfound j, hdel, hvis⟩
  | @wroteTransporter k i tr m hk =>
    refine hp.frame rfl fun j => ?_
    have hx := Frame.setSession (s := s) (i := i)
      (x := { s.session i with clientTransporter := some tr }) rfl rfl rfl j
    exact ⟨hx.sid, hx.visitorMsg, hx.visitorTransporter, rfl, rfl, hfound j, hdel, hvis⟩
  | @notified k i tr m hk =>
    refine hp.frame rfl fun j => ?_
    have hx := Frame.setSession (s := s) (i := i) (x := { s.session i with notifyCh := true })
      rfl rfl rfl j
    exact ⟨hx.sid, hx.visitorMsg, hx.visitorTransporter, rfl, rfl, hfound j, hdel, hvis⟩
  | _ => exact hp

theorem Pairing.init (env : Env) : Pairing env (init env) := by
  intro h
  exact (⟨rfl, rfl⟩ : Silent (Sessions.init env) h)

theorem reachableBy_pairing (hr : (system env).ReachableBy SameClient s) :
    Origin s ∧ Single s ∧ Pairing env s := by
  refine System.invariant_by (I := fun s => Origin s ∧ Single s ∧ Pairing env s)
    ⟨.init env, ?_, .init env⟩ ?_ hr
  · rintro h - m tr m' tr' ⟨k, hk⟩
    cases hk
  · rintro s a s' - ⟨ho, hone, hp⟩ hc hstep
    have he := step_effect hstep
    exact ⟨ho.step he, hone.step hc he, hp.step hone ho he⟩

/-- Whatever a handler has sent belongs to the visitor message of its call and to one client
message: both responses are computed from these two, carry their transactions and go to the
transporters that delivered them. -/
theorem responses_paired (hr : (system env).ReachableBy SameClient s) {h : Nat}
    (hsent : (s.vSent h).isSome ∨ (s.cSent h).isSome) :
    ∃ vm vt cm analyzer now v c, (vm, vt) ∈ s.visited ∧
      respond env.md5 analyzer now (s.session h).sid vm cm = some (v, c) ∧
      v.transactionID = vm.transactionID ∧ c.transactionID = cm.transactionID ∧
      (∀ x, s.vSent h = some x → x = (vt, v)) ∧
      ∀ x, s.cSent h = some x → x.2 = c ∧ (cm, x.1) ∈ s.delivered := by
  obtain ⟨-, -, hp⟩ := reachableBy_pairing hr
  have hns : ¬ Silent s h := by
    rintro ⟨hv, hc⟩
    rw [hv, hc] at hsent
    simp at hsent
  have hd : ∃ v c, Decided env s h v c := by
    have hpc := hp h
    cases hh : s.handler h with
    | idle | sending | waiting | analysing =>
      rw [hh] at hpc
      exact absurd hpc hns
    | classified | keyed | failed =>
      rw [hh] at hpc
      exact absurd hpc.1 hns
    | responding v c vDone cDone =>
      rw [hh] at hpc
      exact ⟨v, c, hpc.1⟩
    | sleeping | leaving | done =>
      rw [hh] at hpc
      exact hpc.resolve_left hns
  obtain ⟨v, c, cm, tr, an, now, -, hresp, hv, hc, hvis⟩ := hd
  obtain ⟨hvt, hct⟩ := respond_transactionID hresp
  exact ⟨_, _, cm, an, now, v, c, hvis, hresp, hvt, hct, hv, hc⟩

/-- The session up to the responses, with one client message. -/
def sampleRun : List Action :=
  [.run 0, .visit 0 sampleVisitor 1 "u" "s1", .receive 0 0, .lookup 0 (sampleClient "c1") 2,
    .client 0, .client 0, .client 0, .wake 0, .handler 0 0, .handler 0 0, .handler 0 0]

theorem Effect.not_found (he : Effect env s a s') (ha : ∀ k m tr, a ≠ .lookup k m tr)
    (hs : ∀ h m tr, ¬ Found s h m tr) (h : Nat) (m : NatHoleClient) (tr : Nat) :
    ¬ Found s' h m tr := by
  intro hf
  rcases he.found_inv hf with hf | ⟨k, hl, -⟩
  · exact hs h m tr hf
  · exact ha k m tr hl

theorem responses_paired_both :
    ∃ s, (system sampleEnv).ReachableBy SameClient s ∧
      ((s.vSent 0).isSome ∧ (s.cSent 0).isSome) ∧
      ∃ vm vt cm analyzer now v c, (vm, vt) ∈ s.visited ∧
        respond sampleEnv.md5 analyzer now (s.session 0).sid vm cm = some (v, c) ∧
        (∀ x, s.vSent 0 = some x → x = (vt, v)) ∧
        ∀ x, s.cSent 0 = some x → x.2 = c ∧ (cm, x.1) ∈ s.delivered := by
  have hc : (system sampleEnv).Along SameClient (init sampleEnv)
      (sampleRun ++ [.sendVisitor 0, .sendClient 0]) := by
    refine ⟨trivial, fun s₁ h₁ => ⟨trivial, fun s₂ h₂ => ⟨trivial, fun s₃ h₃ => ⟨?_, ?_⟩⟩⟩⟩
    · -- the first message finds a session that no other has found
      have h₀ : ∀ h m tr, ¬ Found (init sampleEnv) h m tr := by
        rintro h m tr ⟨k, hk⟩
        cases hk
      have e₁ : Effect sampleEnv (init sampleEnv) (.run 0) s₁ := step_effect h₁
      have e₂ : Effect sampleEnv s₁ (.visit 0 sampleVisitor 1 "u" "s1") s₂ := step_effect h₂
      have e₃ : Effect sampleEnv s₂ (.receive 0 0) s₃ := step_effect h₃
      have hn := e₃.not_found (fun _ _ _ h => by cases h)
        (e₂.not_found (fun _ _ _ h => by cases h) (e₁.not_found (fun _ _ _ h => by cases h) h₀))
      exact fun h _ => Or.inr fun m' tr' hf => absurd hf (hn h m' tr')
    · exact fun _ _ => ⟨trivial, fun _ _ => ⟨trivial, fun _ _ => ⟨trivial, fun _ _ =>
        ⟨trivial, fun _ _ => ⟨trivial, fun _ _ => ⟨trivial, fun _ _ => ⟨trivial, fun _ _ =>
        ⟨trivial, fun _ _ => ⟨trivial, fun _ _ => trivial⟩⟩⟩⟩⟩⟩⟩⟩⟩
  obtain ⟨s, hr, hp⟩ := System.reachableBy_of_run
    (p := fun s => (s.vSent 0).isSome && (s.cSent 0).isSome) hc (by decide +kernel)
  simp only [Bool.and_eq_true] at hp
  obtain ⟨vm, vt, cm, an, now, v, c, hvis, hresp, -, -, hv, hct⟩ :=
    responses_paired hr (Or.inl hp.1)
  exact ⟨s, hr, hp, vm, vt, cm, an, now, v, c, hvis, hresp, hv, hct⟩

/-- A second client message from another control arrives between the analysis and the send:
the response for the first message goes to the second control. -/
theorem response_misdelivered :
    ∃ s, (system sampleEnv).Reachable s ∧ (s.vSent 0).isSome ∧ (s.cSent 0).isSome ∧
      ¬ ∃ vm vt cm analyzer now v c, (vm, vt) ∈ s.visited ∧
        respond sampleEnv.md5 analyzer now (s.session 0).sid vm cm = some (v, c) ∧
        v.transactionID = vm.transactionID ∧ c.transactionID = cm.transactionID ∧
        (∀ x, s.vSent 0 = some x → x = (vt, v)) ∧
        ∀ x, s.cSent 0 = some x → x.2 = c ∧ (cm, x.1) ∈ s.delivered := by
  obtain ⟨s, hr, hp⟩ := System.reachable_of_run (S := system sampleEnv)
    (l := sampleRun ++ [.lookup 1 (sampleClient "c2") 3, .client 1, .client 1,
      .sendVisitor 0, .sendClient 0])
    (p := fun s => (s.vSent 0).isSome && (s.cSent 0).any fun x =>
      x.2.transactionID == "c1" &&
        s.delivered.all fun d => d.2 != x.1 || d.1.transactionID == "c2")
    (by decide +kernel)
  simp only [Bool.and_eq_true] at hp
  obtain ⟨hv, hc⟩ := hp
  cases hx : s.cSent 0 with
  | none => simp [hx] at hc
  | some x =>
    simp only [hx, Option.any_some, Bool.and_eq_true, beq_iff_eq, List.all_eq_true] at hc
    refine ⟨s, hr, hv, by rw [hx]; rfl, ?_⟩
    rintro ⟨vm, vt, cm, an, now, v, c, -, -, -, hct, -, hsent⟩
    obtain ⟨rfl, hmem⟩ := hsent x hx
    have hcm : cm.transactionID = "c2" := by simpa using hc.2 _ hmem
    rw [hc.1, hcm] at hct
    exact absurd hct (by decide)

end Pairing

end FrpXtcp.Nathole.Sessions

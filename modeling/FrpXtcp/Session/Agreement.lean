import FrpXtcp.Lib.Handshake
import FrpXtcp.Session.SessionInvariant

/-!
# What client and server know of each other's proxies

For each proxy name a session is one handshake of `Lib.Handshake`, with the requests and
responses of that name. The responses carry only the name, so a response to an old
request can be taken for the response to a new one. If the client asks again only when
its last request has been answered, both sides agree whenever nothing is in flight.
-/
namespace FrpXtcp.Session

open FrpXtcp.Lib
open FrpXtcp.Client
open FrpXtcp.Naming (addUserPrefix stripUserPrefix)
open FrpXtcp.Server (PxyThread)
open FrpXtcp.Server.Proxy (NewProxy Op XTCPProxyConfig newProxyConfigurerFromMsg)

/-- The requests about one wire name. -/
def ask? (name : String) : Request → Option (Ask NewProxy)
  | .newProxy m => if m.proxyName = name then some (.opening m) else none
  | .closeProxy n => if n = name then some .closing else none

/-- The responses about one wire name: `true` is success. -/
def answer? (name : String) (r : NewProxyResp) : Option Bool :=
  if r.proxyName = name then some (r.error = "") else none

/-- What the client believes about the proxy `n`. -/
def side (pm : Manager) (n : String) : Side NewProxy :=
  match pm.proxies.get? n with
  | none => .down
  | some w =>
    match (pm.wrappers w).phase with
    | .running => .up (pm.wrappers w).newProxyMsg
    | .waitStart => .waiting (pm.wrappers w).newProxyMsg
    | _ => .down

/-- The response that is being handled, if it is for the current wrapper of `n`. -/
def heard (pm : Manager) (n : String) : Option (Nat × NewProxyResp) → Option Bool
  | some (w, r) => if pm.proxies.get? n = some w then some (r.error = "") else none
  | none => none

def busy (name : String) (o : Op) : Option NewProxy → Option (NewProxy × Option Bool)
  | some m => if m.proxyName = name then some (m, verdict o) else none
  | none => none

/-- The handshake about the proxy `n`. -/
def link (env : Env) (s : State) (n : String) : Link NewProxy XTCPProxyConfig where
  side := side s.pm n
  asks := s.toServer.filterMap (ask? (addUserPrefix env.user n))
  busy := busy (addUserPrefix env.user n) (s.server.ops (reader env)) s.handling
  held := registered env.ctl s.server (addUserPrefix env.user n)
  answers := s.toClient.filterMap (answer? (addUserPrefix env.user n))
  heard := heard s.pm n s.starting

/-- What the server registers for a message. -/
def value (env : Env) (m : NewProxy) : Option XTCPProxyConfig :=
  (newProxyConfigurerFromMsg env.check m).toOption

/-- A `NewProxy` for a wire name that is not answered, or whose answer is not handled. -/
def unanswered (s : State) (name : String) : Bool :=
  s.toServer.any (fun x => match x with
    | .newProxy m => m.proxyName = name
    | .closeProxy _ => false) ||
  s.handling.any (fun m => m.proxyName = name) ||
  s.toClient.any (fun r => r.proxyName = name) ||
  s.starting.any (fun x => x.2.proxyName = name)

/-- `checkWorker` is due to ask for a proxy only when no earlier request for its wire
name is unanswered. -/
def Patient (s : State) : Action → Prop
  | .checkWorker w now =>
    (s.pm.wrappers w).due now = true → unanswered s (s.pm.wrappers w).wireName = false
  | _ => True

instance (s : State) (a : Action) : Decidable (Patient s a) := by
  cases a <;> unfold Patient <;> infer_instance

section Links

variable {env : Env} {s s' : State} {n : String}

/-- The handshake about `n` goes on as a patient one. -/
def Follows (env : Env) (s s' : State) (n : String) : Prop :=
  (Link.system (value env)).ReachableBy Link.Patient (link env s n) →
    (Link.system (value env)).ReachableBy Link.Patient (link env s' n)

theorem Follows.same (h : link env s' n = link env s n) : Follows env s s' n := by
  intro hr
  rw [h]
  exact hr

theorem Follows.move {a : Link.Move NewProxy} (hp : Link.Patient (link env s n) a)
    (h : Link.step (value env) (link env s n) a = some (link env s' n)) : Follows env s s' n :=
  fun hr => hr.step hp h

theorem side_setWrapper_ne {pm : Manager} {w : Nat} {pw : Wrapper}
    (h : pm.proxies.get? n ≠ some w) : side (pm.setWrapper w pw) n = side pm n := by
  unfold side
  cases hw : pm.proxies.get? n with
  | none => simp [Manager.setWrapper, hw]
  | some v =>
    have hv : v ≠ w := fun he => h (by rw [hw, he])
    simp [Manager.setWrapper, hw, hv]

theorem ask?_ne {x : Request} {name : String} (h : x.proxyName ≠ name) : ask? name x = none := by
  cases x with
  | newProxy m => exact if_neg h
  | closeProxy n => exact if_neg h

/-- Different proxies have different names on the wire. -/
theorem wire_ne {user n n' : String} (h : n ≠ n') : addUserPrefix user n ≠ addUserPrefix user n' :=
  fun he => h (Naming.addUserPrefix_inj he)

/-- The link after a step of the client's wrappers. -/
theorem link_client (pm : Manager) (sent : List Request) :
    link env { s with pm := pm, toServer := s.toServer ++ sent } n =
      { link env s n with
        side := side pm n
        asks := (link env s n).asks ++ sent.filterMap (ask? (addUserPrefix env.user n))
        heard := heard pm n s.starting } := by
  simp [link]

theorem ask?_newProxy {m : NewProxy} {name : String} (h : m.proxyName = name) :
    [Request.newProxy m].filterMap (ask? name) = [.opening m] := by
  simp [ask?, h]

theorem ask?_other {x : Request} {name : String} (h : x.proxyName ≠ name) :
    [x].filterMap (ask? name) = [] := by
  simp [ask?_ne h]

theorem heard_congr {pm pm' : Manager} (h : pm'.proxies.get? n = pm.proxies.get? n)
    (r : Option (Nat × NewProxyResp)) : heard pm' n r = heard pm n r := by
  unfold heard
  split
  · rw [h]
  · rfl

theorem side_congr {pm pm' : Manager} (h : pm'.proxies.get? n = pm.proxies.get? n)
    (hw : ∀ w, pm.proxies.get? n = some w → pm'.wrappers w = pm.wrappers w) :
    side pm' n = side pm n := by
  unfold side
  rw [h]
  cases hg : pm.proxies.get? n with
  | none => rfl
  | some w => simp only [hw w hg]

/-- The client's steps on other proxies. -/
theorem link_others {pm : Manager} {sent : List Request}
    (hmap : pm.proxies.get? n = s.pm.proxies.get? n)
    (hw : ∀ w, s.pm.proxies.get? n = some w → pm.wrappers w = s.pm.wrappers w)
    (hsent : sent.filterMap (ask? (addUserPrefix env.user n)) = []) :
    link env { s with pm := pm, toServer := s.toServer ++ sent } n = link env s n := by
  rw [link_client, side_congr hmap hw, heard_congr hmap, hsent, List.append_nil]
  rfl

/-- A new wrapper does not wait for a response. -/
theorem heard_new (hi : Inv env s) {pm : Manager}
    (hn : pm.proxies.get? n = some s.pm.nextWrapper) : heard pm n s.starting = none := by
  unfold heard
  split
  · rename_i w r hst
    rw [if_neg]
    intro hw
    have hlt := (hi.starting w r hst).1
    rw [hn] at hw
    exact Nat.lt_irrefl _ (Option.some.inj hw ▸ hlt)
  · rfl

theorem link_updateNext (hi : Inv env s) {pm : Manager} {sent : List Request}
    (hu : s.pm.updateNext env.user = some (pm, sent)) :
    Follows env s { s with pm := pm, toServer := s.toServer ++ sent } n := by
  obtain ⟨u, ⟨rfl, rfl⟩ | ⟨m, w, hw, rfl, rfl⟩ | ⟨cfg, hfree, rfl, rfl⟩⟩ := updateNext_cases hu
  · exact .same (link_others rfl (fun _ _ => rfl) rfl)
  · obtain ⟨hlt, hname, -⟩ := hi.client.named m w hw
    have hwire : (s.pm.wrappers w).wireName = addUserPrefix env.user m := by
      rw [hi.wire hlt, hname]
    by_cases hn : n = m
    · subst hn
      refine .move (a := .closing) trivial ?_
      have hgone : ∀ pm' : Manager, pm'.proxies = s.pm.proxies.erase n →
          side pm' n = .down ∧ ∀ r, heard pm' n r = none := by
        intro pm' hpm
        have hnone : pm'.proxies.get? n = none := by simp [hpm]
        refine ⟨by simp [side, hnone], fun r => ?_⟩
        unfold heard
        split <;> simp [hnone]
      rw [link_client, (hgone _ rfl).1, (hgone _ rfl).2]
      simp [Link.step, Wrapper.closeMsg, ask?, hwire]
    · refine .same (link_others (by simp [hn]) (fun v hv => ?_) (ask?_other ?_))
      · have hvw : v ≠ w := fun he => hn (by rw [← (hi.client.named n v hv).2.1, he, hname])
        simp [Manager.setWrapper, hvw]
      · rw [Wrapper.closeMsg, Request.proxyName, hwire]
        exact (wire_ne hn).symm
  · refine .same ?_
    by_cases hn : n = cfg.name
    · subst hn
      have hold : heard s.pm cfg.name s.starting = none := by
        unfold heard
        split <;> simp [hfree]
      rw [link_client]
      simp only [link, hold, side, hfree, heard_new hi, GoMap.get?_insert, if_true,
        Manager.setWrapper, Function.update_self, Wrapper.new, List.filterMap_nil, List.append_nil]
    · refine link_others (by simp [hn]) (fun v hv => ?_) rfl
      simp [Manager.setWrapper, Nat.ne_of_lt (hi.client.named n v hv).1]

/-- Nothing is on its way for a name without unanswered requests. -/
theorem answered_of (hi : Inv env s)
    (h : unanswered s (addUserPrefix env.user n) = false) : (link env s n).Answered := by
  simp only [unanswered, Bool.or_eq_false_iff, List.any_eq_false, decide_eq_true_eq] at h
  obtain ⟨⟨⟨hasks, hhandling⟩, hanswers⟩, hstarting⟩ := h
  refine ⟨fun m hm => ?_, ?_, ?_, ?_⟩
  · obtain ⟨x, hx, he⟩ := List.mem_filterMap.mp hm
    have hno := hasks x hx
    cases x with
    | newProxy m' =>
      have hother : m'.proxyName ≠ addUserPrefix env.user n := by simpa using hno
      simp [ask?, hother] at he
    | closeProxy n' => simp [ask?] at he
  · show busy _ _ s.handling = none
    cases hm : s.handling with
    | none => rfl
    | some m =>
      rw [hm] at hhandling
      exact if_neg (by simpa using hhandling)
  · refine List.filterMap_eq_nil_iff.mpr fun r hr => ?_
    exact if_neg (by simpa using hanswers r hr)
  · show heard s.pm n s.starting = none
    cases hst : s.starting with
    | none => rfl
    | some x =>
      obtain ⟨v, r⟩ := x
      refine if_neg fun hv => ?_
      -- the current wrapper would be looking at a response with its own name
      obtain ⟨hlt, hwire⟩ := hi.starting v r hst
      rw [hst] at hstarting
      refine absurd ?_ (by simpa using hstarting : ¬ r.proxyName = addUserPrefix env.user n)
      rw [← hwire, hi.wire hlt, (hi.client.named n v hv).2.1]

theorem link_checkWorker (hi : Inv env s) {w now : Nat} (hw : w < s.pm.nextWrapper)
    (hp : Patient s (.checkWorker w now)) :
    Follows env s { s with
      pm := s.pm.setWrapper w ((s.pm.wrappers w).checkWorker now).1
      toServer := s.toServer ++ ((s.pm.wrappers w).checkWorker now).2 } n := by
  rcases checkWorker_cases (hi.client.healthy w hw) now with ⟨-, he⟩ | ⟨hdue, he⟩
  · rw [he]
    refine .same (link_others rfl (fun v _ => ?_) rfl)
    simp [Manager.setWrapper]
  · rw [he]
    obtain ⟨hrun, hclosed⟩ := due_phase hdue
    have hcur := (hi.client.current w hw).resolve_left hclosed
    by_cases hn : n = (s.pm.wrappers w).name
    · subst hn
      refine .move (a := .opening (s.pm.wrappers w).newProxyMsg) ?_ ?_
      · exact answered_of hi (hi.wire hw ▸ hp hdue)
      · rw [link_client, ask?_newProxy (hi.wire hw)]
        have hup : ∀ m, (link env s (s.pm.wrappers w).name).side ≠ .up m := by
          intro m hm
          simp only [link, side, hcur] at hm
          split at hm
          · exact hrun ‹_›
          · cases hm
          · cases hm
        have hside : side (s.pm.setWrapper w
            { s.pm.wrappers w with phase := .waitStart, lastSendStartMsg := now })
            (s.pm.wrappers w).name = .waiting (s.pm.wrappers w).newProxyMsg := by
          simp [side, Manager.setWrapper, hcur, Wrapper.newProxyMsg]
        rw [hside]
        simp only [Link.step]
        rfl
    · refine .same (link_others rfl (fun v hv => ?_) (ask?_other ?_))
      · have hvw : v ≠ w := fun he => hn (by rw [← (hi.client.named n v hv).2.1, he])
        simp [Manager.setWrapper, hvw]
      · rw [Request.proxyName, Wrapper.newProxyMsg, hi.wire hw]
        exact (wire_ne hn).symm

theorem answer?_ne {r : NewProxyResp} {name : String} (h : r.proxyName ≠ name) :
    answer? name r = none := if_neg h

/-- A response reaches the client. -/
theorem link_startProxy (hi : Inv env s) (hs : step env s .startProxy = some s') :
    Follows env s s' n := by
  simp only [step] at hs
  split at hs
  · rename_i r rest hst hu hq
    obtain ⟨m, hm⟩ := hi.answers r (by rw [hq]; exact List.mem_cons_self)
    rw [hm, Naming.stripUserPrefix_addUserPrefix] at hs
    by_cases hn : n = m
    · subst hn
      have hanswers : (link env s n).answers =
          (r.error = "" : Bool) :: rest.filterMap (answer? (addUserPrefix env.user n)) := by
        simp [link, hq, answer?, hm]
      have hheard : (link env s n).heard = none := by simp [link, heard, hst]
      split at hs <;> cases hs
      · rename_i hnone
        have hside : (link env s n).side = .down := by simp [link, side, hnone]
        refine .move (a := .drop) trivial ?_
        simp only [Link.step, hside, hanswers]
        simp [link, side, hnone]
      · rename_i w hw
        refine .move (a := .hear) trivial ?_
        simp only [Link.step, hheard, hanswers]
        simp [link, heard, hw]
    · have hr : answer? (addUserPrefix env.user n) r = none := answer?_ne (hm ▸ (wire_ne hn).symm)
      refine .same ?_
      split at hs <;> cases hs
      · simp [link, hq, hr]
      · rename_i w hw
        have hne : s.pm.proxies.get? n ≠ some w := fun he =>
          hn ((hi.client.named n w he).2.1.symm.trans (hi.client.named m w hw).2.1)
        simp [link, hq, hr, heard, hst, hne]
  · cases hs

/-- `SetRunningStatus` is the client's reaction to an answer. -/
theorem side_setRunningStatus {pm : Manager} {w : Nat} {pw : Wrapper} {respErr : String}
    (hw : pm.proxies.get? n = some w) (hsame : SameProxy (pm.wrappers w) pw)
    (h : ((pm.wrappers w).phase ≠ .waitStart ∧ pw = pm.wrappers w) ∨
      ((pm.wrappers w).phase = .waitStart ∧
        pw.phase = if respErr = "" then .running else .startErr)) :
    side (pm.setWrapper w pw) n = Link.Side.hear (respErr = "") (side pm n) := by
  rcases h with ⟨hphase, rfl⟩ | ⟨hphase, hpw⟩
  · rw [Manager.setWrapper_self]
    cases hside : side pm n with
    | waiting m =>
      simp only [side, hw] at hside
      split at hside
      · cases hside
      · exact absurd ‹_› hphase
      · cases hside
    | _ => rfl
  · by_cases he : respErr = ""
    · simp [side, Manager.setWrapper, hw, hphase, hpw, he, Link.Side.hear, hsame.newProxyMsg]
    · simp [side, Manager.setWrapper, hw, hphase, hpw, he, Link.Side.hear]

/-- The client takes the response to heart. -/
theorem link_setRunningStatus {now : Nat}
    (hs : step env s (.setRunningStatus now) = some s') : Follows env s s' n := by
  simp only [step] at hs
  split at hs <;> cases hs
  rename_i w r hst
  obtain ⟨pw', err, heq, hsame, hcases⟩ :=
    setRunningStatus_cases (s.pm.wrappers w) r.remoteAddr r.error now
  rw [heq]
  by_cases hw : s.pm.proxies.get? n = some w
  · refine .move (a := .settle) trivial ?_
    have hheard : (link env s n).heard = some (r.error = "" : Bool) := by
      simp [link, heard, hst, hw]
    simp only [Link.step, hheard]
    simp [link, heard, side_setRunningStatus hw hsame hcases]
  · refine .same ?_
    simp [link, side_setWrapper_ne hw, heard, hst, hw]

/-- The server reads a `NewProxy`. With a bad configuration it is rejected at once. -/
theorem link_newProxy (hi : Inv env s) {m : NewProxy} {rest : List Request}
    {sv : Server.Proxy.State PxyThread} (hh : s.handling = none)
    (hq : s.toServer = .newProxy m :: rest)
    (hsv : Server.Proxy.step env.check s.server
      (.registerProxy (reader env) env.ctl env.user m) = some sv) :
    Follows env s { s with server := sv, toServer := rest, handling := some m } n := by
  obtain ⟨-, hverdict, hmap⟩ := register_begins env.check_ne hsv
  have hheld : registered env.ctl sv (addUserPrefix env.user n) =
      registered env.ctl s.server (addUserPrefix env.user n) :=
    registered_of_map hi.server hsv (by rw [hmap])
  by_cases hn : m.proxyName = addUserPrefix env.user n
  · intro hr
    have hrecv : Link.step (value env) (link env s n) .recv =
        some { link env s n with
          asks := rest.filterMap (ask? (addUserPrefix env.user n)), busy := some (m, none) } := by
      have hbusy : (link env s n).busy = none := by simp [link, busy, hh]
      have hasks : (link env s n).asks =
          .opening m :: rest.filterMap (ask? (addUserPrefix env.user n)) := by
        simp [link, hq, ask?, hn]
      simp only [Link.step, hbusy, hasks]
    have hworking := hr.step (show Link.Patient (link env s n) .recv from trivial) hrecv
    have hlink : link env { s with server := sv, toServer := rest, handling := some m } n =
        { link env s n with
          asks := rest.filterMap (ask? (addUserPrefix env.user n))
          busy := some (m, verdict (sv.ops (reader env))) } := by
      simp [link, busy, hn, hheld]
    rw [hlink]
    cases hv : verdict (sv.ops (reader env)) with
    | none => exact hworking
    | some b =>
      cases b with
      | false => exact hworking.step (a := .reject) trivial rfl
      | true => exact absurd hv hverdict
  · refine .same ?_
    have hask : ask? (addUserPrefix env.user n) (.newProxy m) = none := ask?_ne hn
    simp [link, busy, hh, hn, hheld, hq, hask]

/-- The server reads a `CloseProxy`. -/
theorem link_closeProxy (hi : Inv env s) {name : String} {rest : List Request}
    {sv : Server.Proxy.State PxyThread} (hh : s.handling = none)
    (hq : s.toServer = .closeProxy name :: rest)
    (hsv : Server.Proxy.step env.check s.server
      (.closeProxy (reader env) env.ctl name) = some sv) :
    Follows env s { s with server := sv, toServer := rest } n := by
  obtain ⟨-, hmap⟩ := close_begins hsv
  by_cases hn : name = addUserPrefix env.user n
  · refine .move (a := .recv) trivial ?_
    have hbusy : (link env s n).busy = none := by simp [link, busy, hh]
    have hasks : (link env s n).asks =
        .closing :: rest.filterMap (ask? (addUserPrefix env.user n)) := by
      simp [link, hq, ask?, hn]
    have hgone : registered env.ctl sv (addUserPrefix env.user n) = none := by
      simp [registered, hmap, hn]
    simp only [Link.step, hbusy, hasks]
    simp [link, busy, hh, hgone]
  · refine .same ?_
    have hask : ask? (addUserPrefix env.user n) (.closeProxy name) = none := ask?_ne hn
    have hheld : registered env.ctl sv (addUserPrefix env.user n) =
        registered env.ctl s.server (addUserPrefix env.user n) :=
      registered_of_map hi.server hsv (by rw [hmap, if_neg (Ne.symm hn)])
    simp [link, busy, hh, hheld, hq, hask]

theorem link_next (hi : Inv env s) {sv : Server.Proxy.State PxyThread}
    (hsv : Server.Proxy.step env.check s.server (.next (reader env)) = some sv) :
    Follows env s { s with server := sv } n := by
  rcases Option.eq_none_or_eq_some s.handling with hh | ⟨m, hh⟩
  · have hmap := (Rests.next (hi.rests hh) hsv).2
    have hheld : registered env.ctl sv (addUserPrefix env.user n) =
        registered env.ctl s.server (addUserPrefix env.user n) :=
      registered_of_map hi.server hsv (by rw [hmap])
    refine .same ?_
    simp [link, busy, hh, hheld]
  · obtain ⟨hnone, -, hdecides⟩ := Handles.next hi.server (hi.handles m hh) hsv
    have hkept : sv.proxies env.ctl = s.server.proxies env.ctl →
        registered env.ctl sv (addUserPrefix env.user n) =
          registered env.ctl s.server (addUserPrefix env.user n) :=
      fun hmap => registered_of_map hi.server hsv (by rw [hmap])
    by_cases hn : m.proxyName = addUserPrefix env.user n
    · have hbusy : (link env s n).busy = some (m, none) := by
        simp only [link, busy, hh, if_pos hn]
        exact congrArg (fun v => some (m, v)) hnone
      have hlink : link env { s with server := sv } n =
          { link env s n with
            busy := some (m, verdict (sv.ops (reader env)))
            held := registered env.ctl sv (addUserPrefix env.user n) } := by
        simp [link, busy, hh, hn]
      cases hdecides with
      | nothing hv hmap =>
        refine .same ?_
        rw [hlink, show verdict (sv.ops (reader env)) = none from hv, hkept hmap, ← hbusy]
        rfl
      | rejects hv hmap =>
        refine .move (a := .reject) trivial ?_
        rw [hlink, show verdict (sv.ops (reader env)) = some false from hv, hkept hmap]
        simp only [Link.step, hbusy]
        rfl
      | accepts cfg hv hcfg hmap =>
        refine .move (a := .accept) trivial ?_
        rw [hlink, show verdict (sv.ops (reader env)) = some true from hv, hmap, if_pos hn.symm]
        have hvalue : value env m = some cfg := by simp [value, hcfg, Except.toOption]
        simp only [Link.step, hbusy, hvalue, Option.map_some]
    · have hheld : registered env.ctl sv (addUserPrefix env.user n) =
          registered env.ctl s.server (addUserPrefix env.user n) := by
        cases hdecides with
        | nothing _ hmap => exact hkept hmap
        | rejects _ hmap => exact hkept hmap
        | accepts cfg _ _ hmap => rw [hmap, if_neg (Ne.symm hn)]
      refine .same ?_
      simp [link, busy, hh, hn, hheld]

/-- The response says what the server has decided. -/
theorem response_verdict {m : NewProxy} {o : Op} {r : NewProxyResp}
    (hm : Handles env.check s.server m o) (h : response env m o = some r) :
    verdict o = some (r.error = "" : Bool) := by
  unfold response at h
  split at h
  · cases h
    rfl
  · rename_i err
    cases h
    have hne : generateResponseErrorString s!"new proxy [{m.proxyName}] error" err env.detailed ≠
        "" := by
      unfold generateResponseErrorString
      split
      · exact hm
      · exact append_ne_empty (append_ne_empty (by decide))
    simp [verdict, hne]
  · cases h

theorem link_respond (hi : Inv env s) (hs : step env s .respond = some s') :
    Follows env s s' n := by
  simp only [step] at hs
  split at hs
  · cases hs
  · rename_i m hh
    simp only [Option.map_eq_some_iff] at hs
    obtain ⟨r, hr, rfl⟩ := hs
    have hname := response_proxyName hr
    by_cases hn : m.proxyName = addUserPrefix env.user n
    · refine .move (a := .answer) trivial ?_
      have hbusy : (link env s n).busy = some (m, some (r.error = "" : Bool)) := by
        simp only [link, busy, hh, if_pos hn, response_verdict (hi.handles m hh) hr]
      simp only [Link.step, hbusy]
      simp [link, busy, answer?, hname, hn]
    · refine .same ?_
      have hans : answer? (addUserPrefix env.user n) r = none := answer?_ne (hname ▸ hn)
      simp [link, busy, hh, hn, hans]

/-- Every step of a patient session is a patient step of each handshake, or none. -/
theorem follows_step {a : Action} (hi : Inv env s) (hp : Patient s a)
    (hs : step env s a = some s') (n : String) : Follows env s s' n := by
  cases a with
  | updateAll cfgs order =>
    simp only [step, Option.map_eq_some_iff] at hs
    obtain ⟨pm, hpm, rfl⟩ := hs
    unfold Manager.updateAll at hpm
    split at hpm <;> cases hpm
    exact .same rfl
  | updateNext =>
    simp only [step, Option.map_eq_some_iff] at hs
    obtain ⟨⟨pm, sent⟩, hu, rfl⟩ := hs
    exact link_updateNext hi hu
  | checkWorker w now =>
    simp only [step] at hs
    split at hs <;> cases hs
    exact link_checkWorker hi ‹_› hp
  | startProxy => exact link_startProxy hi hs
  | setRunningStatus now => exact link_setRunningStatus hs
  | recv =>
    simp only [step] at hs
    split at hs
    · simp only [Option.map_eq_some_iff] at hs
      obtain ⟨sv, hsv, rfl⟩ := hs
      exact link_newProxy hi ‹_› ‹_› hsv
    · simp only [Option.map_eq_some_iff] at hs
      obtain ⟨sv, hsv, rfl⟩ := hs
      exact link_closeProxy hi ‹_› ‹_› hsv
    · cases hs
  | next =>
    simp only [step, Option.map_eq_some_iff] at hs
    obtain ⟨sv, hsv, rfl⟩ := hs
    exact link_next hi hsv
  | respond => exact link_respond hi hs
  | other a =>
    simp only [step] at hs
    split at hs
    · rename_i ha
      simp only [Option.map_eq_some_iff] at hs
      obtain ⟨sv, hsv, rfl⟩ := hs
      obtain ⟨hops, hmap⟩ := other_frame hi.server ha hsv
      have hops : sv.ops (reader env) = s.server.ops (reader env) := hops
      have hheld : registered env.ctl sv (addUserPrefix env.user n) =
          registered env.ctl s.server (addUserPrefix env.user n) :=
        registered_of_map hi.server hsv (by rw [hmap])
      exact .same (by simp [link, hops, hheld])
    · cases hs

theorem reachable_link (h : (system env).ReachableBy Patient s) (n : String) :
    (Link.system (value env)).ReachableBy Link.Patient (link env s n) := by
  refine System.invariant_by
    (I := fun x => (Link.system (value env)).ReachableBy Link.Patient (link env x n))
    ?_ (fun x a x' hx hl hp hs => ?_) h
  · exact .init
  · exact follows_step (reachable_inv hx.reachable) hp hs n hl

end Links

/-- No `NewProxy`, `CloseProxy` or `NewProxyResp` is in flight or being handled. -/
structure Quiescent (s : State) : Prop where
  toServer : s.toServer = []
  handling : s.handling = none
  toClient : s.toClient = []
  starting : s.starting = none

/-- A wrapper of the proxy `n` runs on the client exactly if the control has registered
the wire name of `n`, and then with the configuration of that wrapper. -/
structure Agree (env : Env) (s : State) (n : String) : Prop where
  registered_of_running : ∀ w, s.pm.proxies.get? n = some w →
    (s.pm.wrappers w).phase = .running →
    ∃ cfg, newProxyConfigurerFromMsg env.check (s.pm.wrappers w).newProxyMsg = .ok cfg ∧
      registered env.ctl s.server (addUserPrefix env.user n) = some cfg
  running_of_registered : ∀ cfg,
    registered env.ctl s.server (addUserPrefix env.user n) = some cfg →
    ∃ w, s.pm.proxies.get? n = some w ∧ (s.pm.wrappers w).phase = .running ∧
      newProxyConfigurerFromMsg env.check (s.pm.wrappers w).newProxyMsg = .ok cfg

theorem value_eq_some {env : Env} {m : NewProxy} {cfg : XTCPProxyConfig} :
    value env m = some cfg ↔ newProxyConfigurerFromMsg env.check m = .ok cfg := by
  unfold value
  cases newProxyConfigurerFromMsg env.check m <;> simp [Except.toOption]

theorem side_eq_up {pm : Manager} {n : String} {m : NewProxy} (h : side pm n = .up m) :
    ∃ w, pm.proxies.get? n = some w ∧ (pm.wrappers w).phase = .running ∧
      (pm.wrappers w).newProxyMsg = m := by
  unfold side at h
  split at h
  · cases h
  · rename_i w hw
    split at h
    · cases h
      exact ⟨w, hw, ‹_›, rfl⟩
    · cases h
    · cases h

/-- In every session whose client asks for a proxy only when its earlier requests for
the same name have been answered, client and server agree on all proxies whenever
nothing is in flight. -/
theorem proxies_agree {env : Env} {s : State} (h : (system env).ReachableBy Patient s)
    (hq : Quiescent s) (n : String) : Agree env s n := by
  have hinv := Link.reachable_inv (reachable_link h n)
  have hlq : (link env s n).Quiescent := by
    refine ⟨?_, ?_, ?_, ?_⟩
    · simp [link, hq.toServer]
    · simp [link, busy, hq.handling]
    · simp [link, hq.toClient]
    · simp [link, heard, hq.starting]
  refine ⟨fun w hw hrun => ?_, fun cfg hcfg => ?_⟩
  · have hup : (link env s n).side = .up (s.pm.wrappers w).newProxyMsg := by
      simp [link, side, hw, hrun]
    obtain ⟨cfg, hv, hheld⟩ := hinv.held_of_up hup
    exact ⟨cfg, value_eq_some.mp hv, hheld⟩
  · obtain ⟨m, hup, hv⟩ := hinv.up_of_held hlq hcfg
    obtain ⟨w, hw, hrun, rfl⟩ := side_eq_up hup
    exact ⟨w, hw, hrun, value_eq_some.mp hv⟩

/-- The client of user `alice`, served by control 0. -/
def sampleEnv : Env := ⟨"alice", 0, fun _ => none, true, nofun⟩

def ssh (secretkey : String) : ProxyConfig :=
  ⟨"ssh", "xtcp", none, [], false, false, [], "127.0.0.1", 22, secretkey, [], none⟩

/-- The client loads a configuration with the one proxy `ssh`. -/
def reload (secretkey : String) (order : List String) : List Action :=
  .updateAll [ssh secretkey] order :: List.replicate (3 + order.length) .updateNext

/-- The server reads a `NewProxy` and registers it. -/
def register : List Action := .recv :: List.replicate 4 .next ++ [.respond]

/-- The server reads a `NewProxy` for a name that is taken. -/
def refuse : List Action := [.recv, .next, .respond]

def hear (now : Nat) : List Action := [.startProxy, .setRunningStatus now]

/-- Another client of `alice` opens a proxy `ssh`. -/
def otherOpens : List Action :=
  .other (.registerProxy (.handler 1) 1 "alice"
      ⟨"alice.ssh", "xtcp", false, false, [], [], "x", []⟩) ::
    List.replicate 4 (.other (.next (.handler 1)))

def otherCloses : List Action :=
  .other (.closeProxy (.handler 1) 1 "alice.ssh") ::
    List.replicate 2 (.other (.next (.handler 1)))

/-- The other client has the name first; the client gets it at its second attempt and
then changes the configuration. -/
theorem proxies_agree_reload :
    ∃ s, (system sampleEnv).ReachableBy Patient s ∧ Quiescent s ∧
      s.pm.proxies.get? "ssh" = some 1 ∧ (s.pm.wrappers 1).phase = .running ∧
      registered 0 s.server "alice.ssh" =
        some ⟨"alice.ssh", "xtcp", false, false, [], [], "b", []⟩ := by
  obtain ⟨s, h, hp⟩ := System.reachableBy_of_run (S := system sampleEnv) (C := Patient)
    (l := otherOpens ++ reload "a" [] ++ [.checkWorker 0 (1 * second)] ++ refuse ++
      hear (1 * second) ++ otherCloses ++ [.checkWorker 0 (32 * second)] ++ register ++
      hear (33 * second) ++ reload "b" ["ssh"] ++ [.recv, .next, .next] ++
      [.checkWorker 1 (34 * second)] ++ register ++ hear (35 * second))
    (p := fun s => decide (s.toServer = [] ∧ s.handling = none ∧ s.toClient = [] ∧
      s.starting = none ∧ s.pm.proxies.get? "ssh" = some 1 ∧
      (s.pm.wrappers 1).phase = .running ∧ (s.pm.wrappers 1).newProxyMsg =
        ⟨"alice.ssh", "xtcp", false, false, [], [], "b", []⟩))
    (by decide +kernel) (by decide +kernel)
  obtain ⟨h1, h2, h3, h4, hw, hrun, hmsg⟩ := of_decide_eq_true hp
  refine ⟨s, h, ⟨h1, h2, h3, h4⟩, hw, hrun, ?_⟩
  obtain ⟨cfg, hcfg, hreg⟩ :=
    (proxies_agree h ⟨h1, h2, h3, h4⟩ "ssh").registered_of_running 1 hw hrun
  rw [hmsg] at hcfg
  cases hcfg
  exact hreg

/-- Two sessions that end in disagreement. In the first the response to the request of
the old wrapper makes the new wrapper run, whose own request is refused. In the second
the client asks again after 20 s without a response; the refusal of the first request
arrives late, and the success of the second one is ignored. -/
theorem stale_response_taken :
    (∃ s, (system sampleEnv).Reachable s ∧ Quiescent s ∧
      (∃ w, s.pm.proxies.get? "ssh" = some w ∧ (s.pm.wrappers w).phase = .running) ∧
      registered 0 s.server "alice.ssh" = none ∧ ¬ Agree sampleEnv s "ssh") ∧
    ∃ s, (system sampleEnv).Reachable s ∧ Quiescent s ∧
      (∃ w, s.pm.proxies.get? "ssh" = some w ∧ (s.pm.wrappers w).phase = .startErr) ∧
      registered 0 s.server "alice.ssh" =
        some ⟨"alice.ssh", "xtcp", false, false, [], [], "a", []⟩ ∧
      ¬ Agree sampleEnv s "ssh" := by
  constructor
  · obtain ⟨s, h, hp⟩ := System.reachable_of_run (S := system sampleEnv)
      (l := reload "a" [] ++ [.checkWorker 0 (1 * second)] ++ register ++ reload "b" ["ssh"] ++
        [.checkWorker 1 (2 * second)] ++ hear (2 * second) ++ [.recv, .next, .next] ++
        otherOpens ++ refuse ++ hear (3 * second))
      (p := fun s => decide (s.toServer = [] ∧ s.handling = none ∧ s.toClient = [] ∧
        s.starting = none ∧ s.pm.proxies.get? "ssh" = some 1 ∧
        (s.pm.wrappers 1).phase = .running ∧ registered 0 s.server "alice.ssh" = none))
      (by decide +kernel)
    obtain ⟨h1, h2, h3, h4, hw, hrun, hreg⟩ := of_decide_eq_true hp
    refine ⟨s, h, ⟨h1, h2, h3, h4⟩, ⟨1, hw, hrun⟩, hreg, fun ha => ?_⟩
    obtain ⟨cfg, -, hcfg⟩ := ha.registered_of_running 1 hw hrun
    cases hreg.symm.trans hcfg
  · obtain ⟨s, h, hp⟩ := System.reachable_of_run (S := system sampleEnv)
      (l := otherOpens ++ reload "a" [] ++ [.checkWorker 0 (1 * second)] ++ refuse ++
        [.checkWorker 0 (22 * second)] ++ otherCloses ++ hear (22 * second) ++ register ++
        hear (23 * second))
      (p := fun s => decide (s.toServer = [] ∧ s.handling = none ∧ s.toClient = [] ∧
        s.starting = none ∧ s.pm.proxies.get? "ssh" = some 0 ∧
        (s.pm.wrappers 0).phase = .startErr ∧
        registered 0 s.server "alice.ssh" =
          some ⟨"alice.ssh", "xtcp", false, false, [], [], "a", []⟩))
      (by decide +kernel)
    obtain ⟨h1, h2, h3, h4, hw, herr, hreg⟩ := of_decide_eq_true hp
    refine ⟨s, h, ⟨h1, h2, h3, h4⟩, ⟨0, hw, herr⟩, hreg, fun ha => ?_⟩
    obtain ⟨w, hw', hrun, -⟩ := ha.running_of_registered _ hreg
    cases hw.symm.trans hw'
    cases herr.symm.trans hrun

end FrpXtcp.Session

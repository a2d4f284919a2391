import FrpXtcp.Client.ProxyInvariant
import FrpXtcp.Server.LifecycleTables
import FrpXtcp.Session.ProxySession

/-!
# What holds throughout a session

The server's handler is at rest or works on the message it has read, and no other control
changes what the session's control has registered.
-/
namespace FrpXtcp.Session

open FrpXtcp.Lib
open FrpXtcp.Client
open FrpXtcp.Naming (addUserPrefix stripUserPrefix)
open FrpXtcp.Server (PxyThread)
open FrpXtcp.Server.Lifecycle (Shared)
open FrpXtcp.Server.Proxy (NewProxy Op Placed XTCPProxyConfig newProxyConfigurerFromMsg)

section Server

variable {check : Server.Proxy.AnnotationCheck} {c : Nat} {sv sv' : Server.Proxy.State PxyThread}
variable {a : Server.Proxy.Action PxyThread}

/-- The configuration that control `c` has registered under a name. -/
def registered (c : Nat) (sv : Server.Proxy.State PxyThread) (n : String) :
    Option XTCPProxyConfig :=
  ((sv.proxies c).get? n).map fun p => (sv.pxys p).cfg

/-- The configuration of a proxy never changes. -/
theorem step_cfg {p : Nat} (hp : p < sv.nextPxy)
    (hs : Server.Proxy.step check sv a = some sv') : (sv'.pxys p).cfg = (sv.pxys p).cfg := by
  have hclose : ∀ q t o, ((Server.Proxy.closePxy sv t q o).pxys p).cfg = (sv.pxys p).cfg := by
    intro q t o
    by_cases hq : p = q
    · subst hq
      simp only [Server.Proxy.closePxy, Function.update_self, Server.Proxy.XTCPProxy.close]
      split <;> rfl
    · simp [Server.Proxy.closePxy, hq]
  cases a with
  | registerProxy t d user m =>
    simp only [Server.Proxy.step] at hs
    split at hs <;> cases hs
    unfold Server.Proxy.beginRegister
    split
    · rfl
    · simp [Nat.ne_of_lt hp]
  | closeProxy t d name =>
    simp only [Server.Proxy.step] at hs
    split at hs <;> cases hs
    unfold Server.Proxy.beginClose
    split <;> rfl
  | closeProxies t d order =>
    simp only [Server.Proxy.step] at hs
    split at hs <;> cases hs
    rfl
  | next t =>
    simp only [Server.Proxy.step, Server.Proxy.next] at hs
    split at hs
    · split at hs <;> cases hs <;> rfl
    · split at hs <;> cases hs <;> rfl
    · split at hs <;> cases hs <;> rfl
    · cases hs
      rfl
    · cases hs
      exact hclose _ _ _
    · cases hs
      exact hclose _ _ _
    · cases hs
      rfl
    · cases hs

/-- The proxies in the map of a control have been made. -/
theorem made_of_map (h : Shared sv) {n : String} {p : Nat} (hp : (sv.proxies c).get? n = some p) :
    p < sv.nextPxy := by
  obtain ⟨place, hplaced⟩ := h.placed
  have hplace : place p = .ctl c := ((hplaced.tables.ctl c n p).mp hp).2
  refine Nat.lt_of_not_le fun hle => ?_
  rw [(hplaced.calls.fresh p).mpr hle] at hplace
  cases hplace

/-- A step that leaves the map of a control alone leaves what is registered alone. -/
theorem registered_of_map (h : Shared sv) (hs : Server.Proxy.step check sv a = some sv')
    {n : String} (hmap : (sv'.proxies c).get? n = (sv.proxies c).get? n) :
    registered c sv' n = registered c sv n := by
  unfold registered
  rw [hmap]
  cases hp : (sv.proxies c).get? n with
  | none => rfl
  | some p => exact congrArg some (step_cfg (made_of_map h hp) hs)

/-- The goroutines of other controls. -/
theorem other_frame (h : Shared sv) (ha : Server.Lifecycle.pxyAllowed c .off a = true)
    (hs : Server.Proxy.step check sv a = some sv') :
    sv'.ops (.handler c) = sv.ops (.handler c) ∧ sv'.proxies c = sv.proxies c := by
  obtain ⟨hown, hhandler, hworker⟩ := Server.Lifecycle.thread_of_allowed ha
  have hthread : a.thread ≠ .handler c := fun ht => by cases hhandler ht
  refine ⟨(Server.Proxy.step_frame hs).1 _ (fun he => hthread he.symm), ?_⟩
  cases a with
  | registerProxy t d user m =>
    simp only [Server.Proxy.step] at hs
    split at hs <;> cases hs
    unfold Server.Proxy.beginRegister
    split <;> rfl
  | closeProxy t d name =>
    obtain rfl : t = .handler d := hown
    have hd : c ≠ d := fun he => hthread (by rw [he]; rfl)
    simp only [Server.Proxy.step] at hs
    split at hs <;> cases hs
    unfold Server.Proxy.beginClose
    split
    · rfl
    · exact Function.update_of_ne hd _ _
  | closeProxies t d order =>
    obtain rfl : t = .worker d := hown
    have hd : c ≠ d := fun he => hworker (by rw [he]; rfl)
    simp only [Server.Proxy.step] at hs
    split at hs <;> cases hs
    exact Function.update_of_ne hd _ _
  | next t =>
    rcases (Server.Proxy.next_frame hs).2.2.2 c with he | ⟨p, hp⟩
    · exact he
    · exact absurd (h.insert_handler hp) hthread

/-- What `RegisterProxy` has decided. -/
def verdict : Op → Option Bool
  | .registered _ _ => some true
  | .rejected _ _ _ => some false
  | _ => none

/-- Where the handler of a control is while it works on `m`. -/
def Handles (check : Server.Proxy.AnnotationCheck) (sv : Server.Proxy.State PxyThread)
    (m : NewProxy) : Op → Prop
  | .exist _ p | .run _ p | .add _ p | .insert _ p =>
    p < sv.nextPxy ∧ newProxyConfigurerFromMsg check m = .ok (sv.pxys p).cfg
  | .registered _ _ => True
  | .rollback _ _ err | .rejected _ _ err => err ≠ ""
  | _ => False

theorem Handles.of_step {m : NewProxy} {o : Op} (h : Handles check sv m o)
    (hnext : sv.nextPxy ≤ sv'.nextPxy)
    (hcfg : ∀ p, p < sv.nextPxy → (sv'.pxys p).cfg = (sv.pxys p).cfg) : Handles check sv' m o := by
  have hmade : ∀ p, (p < sv.nextPxy ∧ newProxyConfigurerFromMsg check m = .ok (sv.pxys p).cfg) →
      p < sv'.nextPxy ∧ newProxyConfigurerFromMsg check m = .ok (sv'.pxys p).cfg :=
    fun p hp => ⟨Nat.lt_of_lt_of_le hp.1 hnext, by rw [hcfg p hp.1]; exact hp.2⟩
  cases o with
  | exist d p => exact hmade p h
  | run d p => exact hmade p h
  | add d p => exact hmade p h
  | insert d p => exact hmade p h
  | _ => exact h

theorem step_nextPxy (hs : Server.Proxy.step check sv a = some sv') :
    sv.nextPxy ≤ sv'.nextPxy := by
  cases a with
  | registerProxy t d user m =>
    simp only [Server.Proxy.step] at hs
    split at hs <;> cases hs
    unfold Server.Proxy.beginRegister
    split
    · exact Nat.le_refl _
    · exact Nat.le_succ _
  | closeProxy t d name =>
    simp only [Server.Proxy.step] at hs
    split at hs <;> cases hs
    unfold Server.Proxy.beginClose
    split <;> exact Nat.le_refl _
  | closeProxies t d order =>
    simp only [Server.Proxy.step] at hs
    split at hs <;> cases hs
    exact Nat.le_refl _
  | next t =>
    simp only [Server.Proxy.step, Server.Proxy.next] at hs
    repeat' split at hs
    all_goals
      cases hs
      try exact Nat.le_refl _

/-- Every text that the server builds around a name or a type can be told from no error. -/
theorem append_ne_empty {x y : String} (hx : x ≠ "") : x ++ y ≠ "" := by
  simp [hx]

theorem newProxyConfigurerFromMsg_error (hne : ∀ as err, check as = some err → err ≠ "")
    {m : NewProxy} {err : String} (h : newProxyConfigurerFromMsg check m = .error err) :
    err ≠ "" := by
  simp only [newProxyConfigurerFromMsg] at h
  split at h
  · cases h
    exact append_ne_empty (by decide)
  · split at h
    · cases h
      exact hne _ _ ‹_›
    · cases h

theorem listenClient_error {natHole : Nathole.Controller} {name sk err : String}
    {users : List String} {p : Nat}
    (h : Nathole.listenClient natHole name sk users p = .error err) :
    err ≠ "" := by
  unfold Nathole.listenClient at h
  split at h <;> cases h
  exact append_ne_empty (append_ne_empty (by decide))

theorem add_error {pm : Server.Proxy.Manager} {name err : String} {p : Nat}
    (h : pm.add name p = .error err) : err ≠ "" := by
  unfold Server.Proxy.Manager.add at h
  split at h <;> cases h
  exact append_ne_empty (append_ne_empty (by decide))

/-- `RegisterProxy` begins. -/
theorem register_begins (hne : ∀ as err, check as = some err → err ≠ "") {user : String}
    {m : NewProxy}
    (hs : Server.Proxy.step check sv (.registerProxy (.handler c) c user m) = some sv') :
    Handles check sv' m (sv'.ops (.handler c)) ∧ verdict (sv'.ops (.handler c)) ≠ some true ∧
      sv'.proxies c = sv.proxies c := by
  simp only [Server.Proxy.step] at hs
  split at hs <;> cases hs
  unfold Server.Proxy.beginRegister
  split
  · rename_i err herr
    simp only [Server.Proxy.setOp, Function.update_self]
    exact ⟨newProxyConfigurerFromMsg_error hne herr, by rintro ⟨⟩, trivial⟩
  · rename_i cfg hcfg
    simp only [Function.update_self]
    refine ⟨⟨Nat.lt_succ_self _, ?_⟩, by rintro ⟨⟩, trivial⟩
    simpa using hcfg

/-- `CloseProxy` begins. -/
theorem close_begins {name : String}
    (hs : Server.Proxy.step check sv (.closeProxy (.handler c) c name) = some sv') :
    (∃ rest, sv'.ops (.handler c) = .closing c rest) ∧
      ∀ n, (sv'.proxies c).get? n = if n = name then none else (sv.proxies c).get? n := by
  simp only [Server.Proxy.step] at hs
  split at hs <;> cases hs
  unfold Server.Proxy.beginClose
  split
  · rename_i hnone
    refine ⟨⟨[], by simp [Server.Proxy.setOp]⟩, fun n => ?_⟩
    by_cases hn : n = name
    · subst hn
      simpa [Server.Proxy.setOp] using hnone
    · simp [Server.Proxy.setOp, hn]
  · exact ⟨⟨_, Function.update_self _ _ _⟩, fun n => by simp⟩

/-- What one statement of `RegisterProxy` decides: nothing, or a rejection, or it is the
insertion in the map. -/
inductive Decides (check : Server.Proxy.AnnotationCheck) (c : Nat) (m : NewProxy)
    (sv sv' : Server.Proxy.State PxyThread) : Prop
  | nothing : verdict (sv'.ops (.handler c)) = none → sv'.proxies c = sv.proxies c →
      Decides check c m sv sv'
  | rejects : verdict (sv'.ops (.handler c)) = some false → sv'.proxies c = sv.proxies c →
      Decides check c m sv sv'
  | accepts (cfg : XTCPProxyConfig) : verdict (sv'.ops (.handler c)) = some true →
      newProxyConfigurerFromMsg check m = .ok cfg →
      (∀ n, registered c sv' n = if n = m.proxyName then some cfg else registered c sv n) →
      Decides check c m sv sv'

theorem Handles.next {m : NewProxy} (h : Shared sv) (hm : Handles check sv m (sv.ops (.handler c)))
    (hs : Server.Proxy.step check sv (.next (.handler c)) = some sv') :
    verdict (sv.ops (.handler c)) = none ∧ Handles check sv' m (sv'.ops (.handler c)) ∧
      Decides check c m sv sv' := by
  have hnext : Server.Proxy.next sv (.handler c) = some sv' := hs
  cases ho : sv.ops (.handler c) with
  | exist d p =>
    rw [ho] at hm
    simp only [Server.Proxy.next, ho] at hnext
    split at hnext <;> cases hnext
    · refine ⟨rfl, ?_, .rejects (by simp [Server.Proxy.setOp, verdict]) rfl⟩
      simp only [Server.Proxy.setOp, Function.update_self]
      exact append_ne_empty (append_ne_empty (by decide))
    · refine ⟨rfl, ?_, .nothing (by simp [Server.Proxy.setOp, verdict]) rfl⟩
      simp only [Server.Proxy.setOp, Function.update_self]
      exact hm
  | run d p =>
    rw [ho] at hm
    simp only [Server.Proxy.next, ho] at hnext
    split at hnext <;> cases hnext
    · rename_i err herr
      refine ⟨rfl, ?_, .rejects (by simp [Server.Proxy.setOp, verdict]) rfl⟩
      simp only [Server.Proxy.setOp, Function.update_self]
      exact listenClient_error herr
    · refine ⟨rfl, ?_, .nothing (by simp [Server.Proxy.setOp, verdict]) rfl⟩
      simp only [Server.Proxy.setOp, Function.update_self]
      exact hm
  | add d p =>
    rw [ho] at hm
    simp only [Server.Proxy.next, ho] at hnext
    split at hnext <;> cases hnext
    · rename_i err herr
      refine ⟨rfl, ?_, .nothing (by simp [Server.Proxy.setOp, verdict]) rfl⟩
      simp only [Server.Proxy.setOp, Function.update_self]
      exact add_error herr
    · refine ⟨rfl, ?_, .nothing (by simp [Server.Proxy.setOp, verdict]) rfl⟩
      simp only [Server.Proxy.setOp, Function.update_self]
      exact hm
  | insert d p =>
    rw [ho] at hm
    obtain rfl : c = d := h.threads (.handler c) d (by rw [ho]; rfl)
    simp only [Server.Proxy.next, ho, Option.some.injEq] at hnext
    subst hnext
    refine ⟨rfl, ?_, .accepts (sv.pxys p).cfg (by simp [Server.Proxy.setOp, verdict]) hm.2 ?_⟩
    · simp [Server.Proxy.setOp, Handles]
    · intro n
      have hname : (sv.pxys p).name = m.proxyName :=
        Server.Proxy.newProxyConfigurerFromMsg_name hm.2
      simp only [registered, Server.Proxy.setOp, Function.update_self, GoMap.get?_insert, hname]
      split <;> rfl
  | rollback d p err =>
    rw [ho] at hm
    simp only [Server.Proxy.next, ho, Option.some.injEq] at hnext
    subst hnext
    refine ⟨rfl, ?_, .rejects (by simp [Server.Proxy.closePxy, verdict]) rfl⟩
    simp only [Server.Proxy.closePxy, Function.update_self]
    exact hm
  | registered d p => simp [Server.Proxy.next, ho] at hnext
  | rejected d p err => simp [Server.Proxy.next, ho] at hnext
  | idle => simp [Server.Proxy.next, ho] at hnext
  | closing d rest =>
    rw [ho] at hm
    exact hm.elim
  | deleting d p rest =>
    rw [ho] at hm
    exact hm.elim

/-- The handler does not work on a `NewProxy`. -/
def Rests : Op → Prop
  | .exist _ _ | .run _ _ | .add _ _ | .insert _ _ | .rollback _ _ _ => False
  | _ => True

theorem Rests.next (hr : Rests (sv.ops (.handler c)))
    (hs : Server.Proxy.step check sv (.next (.handler c)) = some sv') :
    Rests (sv'.ops (.handler c)) ∧ sv'.proxies c = sv.proxies c := by
  have hnext : Server.Proxy.next sv (.handler c) = some sv' := hs
  constructor
  · cases ho : sv.ops (.handler c) with
    | closing d rest =>
      cases rest with
      | nil => simp [Server.Proxy.next, ho] at hnext
      | cons p rest =>
        simp only [Server.Proxy.next, ho, Option.some.injEq] at hnext
        subst hnext
        simp [Server.Proxy.closePxy, Rests]
    | deleting d p rest =>
      simp only [Server.Proxy.next, ho, Option.some.injEq] at hnext
      subst hnext
      simp [Server.Proxy.setOp, Rests]
    | idle => simp [Server.Proxy.next, ho] at hnext
    | registered d p => simp [Server.Proxy.next, ho] at hnext
    | rejected d p err => simp [Server.Proxy.next, ho] at hnext
    | _ =>
      rw [ho] at hr
      exact hr.elim
  · rcases (Server.Proxy.next_frame hnext).2.2.2 c with he | ⟨p, hp⟩
    · exact he
    · rw [hp] at hr
      exact hr.elim

end Server

/-- The invariant of a session. All names on the wire are those of the client's user. -/
structure Inv (env : Env) (s : State) : Prop where
  client : ClientOk env.user s.pm
  starting : ∀ w r, s.starting = some (w, r) →
    w < s.pm.nextWrapper ∧ (s.pm.wrappers w).wireName = r.proxyName
  server : Shared s.server
  rests : s.handling = none → Rests (s.server.ops (reader env))
  handles : ∀ m, s.handling = some m → Handles env.check s.server m (s.server.ops (reader env))
  asks : ∀ x ∈ s.toServer, ∃ n, x.proxyName = addUserPrefix env.user n
  handling : ∀ m, s.handling = some m → ∃ n, m.proxyName = addUserPrefix env.user n
  answers : ∀ r ∈ s.toClient, ∃ n, r.proxyName = addUserPrefix env.user n

section Steps

variable {env : Env} {s s' : State}

theorem inv_init : Inv env init :=
  ⟨clientOk_init, nofun, Server.Lifecycle.shared_init, fun _ => trivial, nofun, nofun, nofun, nofun⟩

/-- The client's wrappers change and send messages about their own names. -/
theorem Inv.clientStep (h : Inv env s) {pm : Manager} {sent : List Request}
    (hok : ClientOk env.user pm)
    (hold : ∀ w, w < s.pm.nextWrapper →
      w < pm.nextWrapper ∧ (pm.wrappers w).wireName = (s.pm.wrappers w).wireName)
    (hsent : ∀ x ∈ sent, ∃ n, x.proxyName = addUserPrefix env.user n) :
    Inv env { s with pm := pm, toServer := s.toServer ++ sent } := by
  refine ⟨hok, fun w r hw => ?_, h.server, h.rests, h.handles, fun x hx => ?_, h.handling,
    h.answers⟩
  · obtain ⟨hlt, hwire⟩ := h.starting w r hw
    exact ⟨(hold w hlt).1, (hold w hlt).2.trans hwire⟩
  · rcases List.mem_append.mp hx with hx | hx
    · exact h.asks x hx
    · exact hsent x hx

/-- The name of a request that a wrapper sends. -/
theorem Inv.wire (h : Inv env s) {w : Nat} (hw : w < s.pm.nextWrapper) :
    (s.pm.wrappers w).wireName = addUserPrefix env.user (s.pm.wrappers w).name :=
  h.client.wire w hw

theorem Inv.updateNext (h : Inv env s) {pm : Manager} {sent : List Request}
    (hu : s.pm.updateNext env.user = some (pm, sent)) :
    Inv env { s with pm := pm, toServer := s.toServer ++ sent } := by
  have hok := h.client.updateNext hu
  obtain ⟨u, ⟨rfl, rfl⟩ | ⟨n, w, hw, rfl, rfl⟩ | ⟨cfg, hfree, rfl, rfl⟩⟩ := updateNext_cases hu
  · exact h.clientStep hok (fun w hw => ⟨hw, rfl⟩) nofun
  · refine h.clientStep hok (fun v hv => ⟨hv, ?_⟩) (fun x hx => ?_)
    · show ((s.pm.setWrapper w (s.pm.wrappers w).stop.1).wrappers v).wireName = _
      exact Manager.setWrapper_same Wrapper.wireName (by rfl) v
    · obtain rfl := List.mem_singleton.mp hx
      exact ⟨_, h.wire (h.client.named n w hw).1⟩
  · refine h.clientStep hok (fun v hv => ⟨Nat.lt_succ_of_lt hv, ?_⟩) nofun
    simp [Manager.setWrapper, Nat.ne_of_lt hv]

theorem Inv.checkWorker (h : Inv env s) {w now : Nat} (hw : w < s.pm.nextWrapper) :
    Inv env { s with
      pm := s.pm.setWrapper w ((s.pm.wrappers w).checkWorker now).1
      toServer := s.toServer ++ ((s.pm.wrappers w).checkWorker now).2 } := by
  have hok := h.client.checkWorker hw now
  rcases checkWorker_cases (h.client.healthy w hw) now with ⟨-, he⟩ | ⟨-, he⟩
  · rw [he] at hok ⊢
    exact h.clientStep hok
      (fun v hv => ⟨hv, Manager.setWrapper_same Wrapper.wireName (by rfl) v⟩) nofun
  · rw [he] at hok ⊢
    refine h.clientStep hok
      (fun v hv => ⟨hv, Manager.setWrapper_same Wrapper.wireName (by rfl) v⟩) fun x hx => ?_
    obtain rfl := List.mem_singleton.mp hx
    exact ⟨_, h.wire hw⟩

theorem Inv.startProxy (h : Inv env s) (hs : step env s .startProxy = some s') : Inv env s' := by
  simp only [step] at hs
  split at hs
  · rename_i resp rest hst hu hq
    have hrest : ∀ r ∈ rest, ∃ n, r.proxyName = addUserPrefix env.user n := fun r hr =>
      h.answers r (by rw [hq]; exact List.mem_cons_of_mem _ hr)
    split at hs <;> cases hs
    · exact { h with answers := hrest }
    · rename_i w hw
      refine { h with answers := hrest, starting := fun v r hv => ?_ }
      cases hv
      obtain ⟨n, hn⟩ := h.answers resp (by rw [hq]; exact List.mem_cons_self)
      rw [hn, Naming.stripUserPrefix_addUserPrefix] at hw
      obtain ⟨hlt, hname, -⟩ := h.client.named n w hw
      exact ⟨hlt, by rw [h.wire hlt, hname, hn]⟩
  · cases hs

theorem Inv.setRunningStatus (h : Inv env s) {now : Nat}
    (hs : step env s (.setRunningStatus now) = some s') : Inv env s' := by
  simp only [step] at hs
  split at hs <;> cases hs
  rename_i w resp hst
  obtain ⟨pw', err, heq, hsame, hclosed⟩ :=
    setRunningStatus_same (s.pm.wrappers w) resp.remoteAddr resp.error now
  rw [heq]
  have hmoved : Inv env { s with pm := s.pm.setWrapper w pw', toServer := s.toServer ++ [] } :=
    h.clientStep (h.client.setWrapper hsame hclosed)
      (fun v hv => ⟨hv, Manager.setWrapper_same Wrapper.wireName hsame.wireName v⟩) nofun
  exact { hmoved with starting := nofun }

/-- The server reads a request. -/
theorem Inv.recv (h : Inv env s) (hs : step env s .recv = some s') : Inv env s' := by
  simp only [step] at hs
  split at hs
  · rename_i m rest hh hq
    simp only [Option.map_eq_some_iff] at hs
    obtain ⟨sv, hsv, rfl⟩ := hs
    have hrest : ∀ x ∈ rest, ∃ n, x.proxyName = addUserPrefix env.user n := fun x hx =>
      h.asks x (by rw [hq]; exact List.mem_cons_of_mem _ hx)
    have hm := h.asks (.newProxy m) (by rw [hq]; exact List.mem_cons_self)
    refine ⟨h.client, h.starting, h.server.step (by rfl) hsv, nofun, fun m' hm' => ?_, hrest,
      fun m' hm' => ?_, h.answers⟩
    · cases hm'
      exact (register_begins env.check_ne hsv).1
    · cases hm'
      exact hm
  · rename_i name rest hh hq
    simp only [Option.map_eq_some_iff] at hs
    obtain ⟨sv, hsv, rfl⟩ := hs
    refine ⟨h.client, h.starting, h.server.step (by rfl) hsv, fun _ => ?_, fun m hm => ?_,
      fun x hx => h.asks x (by rw [hq]; exact List.mem_cons_of_mem _ hx), h.handling, h.answers⟩
    · obtain ⟨⟨rest', ho⟩, -⟩ := close_begins hsv
      show Rests (sv.ops (.handler env.ctl))
      rw [ho]
      trivial
    · rw [hh] at hm
      cases hm
  · cases hs

theorem Inv.next (h : Inv env s) (hs : step env s .next = some s') : Inv env s' := by
  simp only [step, Option.map_eq_some_iff] at hs
  obtain ⟨sv, hsv, rfl⟩ := hs
  exact ⟨h.client, h.starting, h.server.step (by trivial) hsv,
    fun hn => (Rests.next (h.rests hn) hsv).1,
    fun m hm => (Handles.next h.server (h.handles m hm) hsv).2.1, h.asks, h.handling, h.answers⟩

theorem response_proxyName {m : NewProxy} {o : Op} {r : NewProxyResp}
    (h : response env m o = some r) : r.proxyName = m.proxyName := by
  unfold response at h
  split at h <;> cases h <;> rfl

theorem Inv.respond (h : Inv env s) (hs : step env s .respond = some s') : Inv env s' := by
  simp only [step] at hs
  split at hs
  · cases hs
  · rename_i m hm
    simp only [Option.map_eq_some_iff] at hs
    obtain ⟨r, hr, rfl⟩ := hs
    refine ⟨h.client, h.starting, h.server, fun _ => ?_, nofun, h.asks, nofun, fun x hx => ?_⟩
    · show Rests (s.server.ops (reader env))
      unfold response at hr
      split at hr
      · rename_i ho
        rw [ho]
        trivial
      · rename_i ho
        rw [ho]
        trivial
      · cases hr
    · rcases List.mem_append.mp hx with hx | hx
      · exact h.answers x hx
      · obtain rfl := List.mem_singleton.mp hx
        rw [response_proxyName hr]
        exact h.handling m hm

theorem Inv.other (h : Inv env s) {a : Server.Proxy.Action PxyThread}
    (hs : step env s (.other a) = some s') : Inv env s' := by
  simp only [step] at hs
  split at hs
  · rename_i ha
    simp only [Option.map_eq_some_iff] at hs
    obtain ⟨sv, hsv, rfl⟩ := hs
    have hown := (Server.Lifecycle.thread_of_allowed ha).1
    have hops : sv.ops (reader env) = s.server.ops (reader env) := (other_frame h.server ha hsv).1
    refine ⟨h.client, h.starting, h.server.step hown hsv, fun hn => ?_, fun m hm => ?_, h.asks,
      h.handling, h.answers⟩
    · rw [hops]
      exact h.rests hn
    · rw [hops]
      exact (h.handles m hm).of_step (step_nextPxy hsv) (fun p hp => step_cfg hp hsv)
  · cases hs

theorem inv_step {a : Action} (h : Inv env s) (hs : step env s a = some s') : Inv env s' := by
  cases a with
  | updateAll cfgs order =>
    simp only [step, Option.map_eq_some_iff] at hs
    obtain ⟨pm, hpm, rfl⟩ := hs
    unfold Manager.updateAll at hpm
    split at hpm <;> cases hpm
    exact { h with client := ⟨h.client.named, h.client.current, h.client.wire, h.client.healthy⟩ }
  | updateNext =>
    simp only [step, Option.map_eq_some_iff] at hs
    obtain ⟨⟨pm, sent⟩, hu, rfl⟩ := hs
    exact h.updateNext hu
  | checkWorker w now =>
    simp only [step] at hs
    split at hs <;> cases hs
    exact h.checkWorker ‹_›
  | startProxy => exact h.startProxy hs
  | setRunningStatus now => exact h.setRunningStatus hs
  | recv => exact h.recv hs
  | next => exact h.next hs
  | respond => exact h.respond hs
  | other a => exact h.other hs

theorem reachable_inv (h : (system env).Reachable s) : Inv env s :=
  System.invariant (I := Inv env) inv_init (fun _ _ _ _ hi hs => inv_step hi hs) h

end Steps

end FrpXtcp.Session

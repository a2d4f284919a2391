import FrpXtcp.Client.ProxyInvariant
import FrpXtcp.Lib.Transition

/-!
# Reloads of the client's proxies

Runs of a proxy manager: `UpdateAll` in rounds, the workers of all wrappers that were ever
started, and responses of the server, which `StartProxy` first looks up and then hands to the
wrapper. Every message is recorded with the wrapper that sends it.
-/
namespace FrpXtcp.Client.Reload

open FrpXtcp.Lib
open FrpXtcp.Naming (stripUserPrefix)

/-- `starting` is the wrapper that `StartProxy` has found for a response whose
`SetRunningStatus` is still to come. `stops` counts the calls of `Stop`. `listed` and `prior`
are the configurations that the last `UpdateAll` was given and the proxies it found. -/
structure State where
  pm : Manager
  starting : Option (Nat × NewProxyResp)
  sent : List (Nat × Request)
  stops : Nat → Nat
  listed : List ProxyConfig
  prior : GoMap String Nat

def init : State := ⟨.init, none, [], fun _ => 0, [], .empty⟩

/-- `handleNewProxyResp` runs in the goroutine that reads from the server, so there is one
response at a time. -/
inductive Action where
  | updateAll (cfgs : List ProxyConfig) (order : List String)
  | updateNext
  | checkWorker (w now : Nat)
  | startProxy (resp : NewProxyResp)
  | setRunningStatus (now : Nat)

/-- The wrapper that the next round of `UpdateAll` stops. -/
def stopping (pm : Manager) : Option Nat :=
  match pm.update with
  | .removing cfgs (name :: _) =>
    (pm.proxies.get? name).filter fun w =>
      (Manager.keyBy cfgs).get? name ≠ some (pm.wrappers w).cfg
  | _ => none

variable (user : String)

def step (s : State) : Action → Option State
  | .updateAll cfgs order =>
    (s.pm.updateAll cfgs order).map fun pm =>
      { s with pm := pm, listed := cfgs, prior := s.pm.proxies }
  | .updateNext =>
    (s.pm.updateNext user).map fun r =>
      { s with
        pm := r.1
        sent := s.sent ++ r.2.map fun m => ((stopping s.pm).getD 0, m)
        stops := fun w => s.stops w + if stopping s.pm = some w then 1 else 0 }
  | .checkWorker w now =>
    if w < s.pm.nextWrapper then
      let r := (s.pm.wrappers w).checkWorker now
      some { s with pm := s.pm.setWrapper w r.1, sent := s.sent ++ r.2.map fun m => (w, m) }
    else none
  | .startProxy resp =>
    -- `StartProxy` needs the lock that `UpdateAll` holds
    match s.starting, s.pm.update with
    | none, .idle =>
      match s.pm.proxies.get? (stripUserPrefix user resp.proxyName) with
      | none => some s
      | some w => some { s with starting := some (w, resp) }
    | _, _ => none
  | .setRunningStatus now =>
    match s.starting with
    | none => none
    | some (w, resp) =>
      let r := (s.pm.wrappers w).setRunningStatus resp.remoteAddr resp.error now
      some { s with
        pm := s.pm.setWrapper w r.1
        starting := none
        sent := s.sent ++ r.2.1.map fun m => (w, m) }

def system : System State Action := ⟨init, step user⟩

/-- What the actions do, as long as no proxy is unhealthy. -/
inductive Effect (s : State) : Action → State → Prop
  | begin {cfgs : List ProxyConfig} {order : List String} (hidle : s.pm.update = .idle)
      (hperm : order.Perm (s.pm.proxies.toList.map Prod.fst)) :
      Effect s (.updateAll cfgs order)
        { s with
          pm := { s.pm with update := .removing cfgs order }
          listed := cfgs
          prior := s.pm.proxies }
  | removed {cfgs : List ProxyConfig} (h : s.pm.update = .removing cfgs []) :
      Effect s .updateNext { s with pm := { s.pm with update := .adding cfgs } }
  | missing {cfgs : List ProxyConfig} {name : String} {names : List String}
      (h : s.pm.update = .removing cfgs (name :: names)) (hn : s.pm.proxies.get? name = none) :
      Effect s .updateNext { s with pm := { s.pm with update := .removing cfgs names } }
  | keep {cfgs : List ProxyConfig} {name : String} {names : List String} {w : Nat}
      (h : s.pm.update = .removing cfgs (name :: names)) (hw : s.pm.proxies.get? name = some w)
      (hk : (Manager.keyBy cfgs).get? name = some (s.pm.wrappers w).cfg) :
      Effect s .updateNext { s with pm := { s.pm with update := .removing cfgs names } }
  | stop {cfgs : List ProxyConfig} {name : String} {names : List String} {w : Nat}
      (h : s.pm.update = .removing cfgs (name :: names)) (hw : s.pm.proxies.get? name = some w)
      (hk : (Manager.keyBy cfgs).get? name ≠ some (s.pm.wrappers w).cfg) :
      Effect s .updateNext
        { s with
          pm := { s.pm.setWrapper w (s.pm.wrappers w).stop.1 with
            proxies := s.pm.proxies.erase name, update := .removing cfgs names }
          sent := s.sent ++ [(w, (s.pm.wrappers w).closeMsg)]
          stops := fun v => s.stops v + if w = v then 1 else 0 }
  | finish (h : s.pm.update = .adding []) :
      Effect s .updateNext { s with pm := { s.pm with update := .idle } }
  | present {cfg : ProxyConfig} {cfgs : List ProxyConfig} (h : s.pm.update = .adding (cfg :: cfgs))
      (hn : (s.pm.proxies.get? cfg.name).isSome) :
      Effect s .updateNext { s with pm := { s.pm with update := .adding cfgs } }
  | add {cfg : ProxyConfig} {cfgs : List ProxyConfig} (h : s.pm.update = .adding (cfg :: cfgs))
      (hn : s.pm.proxies.get? cfg.name = none) :
      Effect s .updateNext
        { s with
          pm := { s.pm.setWrapper s.pm.nextWrapper (.new user cfg) with
            proxies := s.pm.proxies.insert cfg.name s.pm.nextWrapper
            nextWrapper := s.pm.nextWrapper + 1, update := .adding cfgs } }
  | rest {w now : Nat} (hw : w < s.pm.nextWrapper) : Effect s (.checkWorker w now) s
  | ask {w now : Nat} (hw : w < s.pm.nextWrapper) (hdue : (s.pm.wrappers w).due now = true) :
      Effect s (.checkWorker w now)
        { s with
          pm := s.pm.setWrapper w
            { s.pm.wrappers w with phase := .waitStart, lastSendStartMsg := now }
          sent := s.sent ++ [(w, .newProxy (s.pm.wrappers w).newProxyMsg)] }
  | unknown {resp : NewProxyResp} : Effect s (.startProxy resp) s
  | found {resp : NewProxyResp} {w : Nat} (hidle : s.pm.update = .idle) :
      Effect s (.startProxy resp) { s with starting := some (w, resp) }
  | status {w now : Nat} {pw : Wrapper} (hsame : SameProxy (s.pm.wrappers w) pw)
      (hclosed : pw.phase = .closed ↔ (s.pm.wrappers w).phase = .closed) :
      Effect s (.setRunningStatus now)
        { s with pm := s.pm.setWrapper w pw, starting := none }

variable {user} {s s' : State}

theorem updateNext_effect (h : step user s .updateNext = some s') :
    Effect user s .updateNext s' := by
  obtain ⟨⟨pm, sent⟩, hn, rfl⟩ := Option.map_eq_some_iff.mp h
  have hnone : (stopping s.pm = none ∧ sent = []) →
      { s with
        pm := pm
        sent := s.sent ++ sent.map fun m => ((stopping s.pm).getD 0, m)
        stops := fun w => s.stops w + if stopping s.pm = some w then 1 else 0 } =
      { s with pm := pm } := by
    rintro ⟨hs, rfl⟩
    simp [hs]
  unfold Manager.updateNext at hn
  split at hn
  · cases hn
  · rename_i cfgs hu
    cases hn
    rw [hnone ⟨by simp [stopping, hu], rfl⟩]
    exact .removed hu
  · rename_i cfgs name names hu
    dsimp only at hn
    split at hn
    · rename_i hw
      cases hn
      rw [hnone ⟨by simp [stopping, hu, hw], rfl⟩]
      exact .missing hu hw
    · rename_i w hw
      split at hn
      · rename_i hk
        cases hn
        have hs : stopping s.pm = some w := by simp [stopping, hu, hw, Option.filter, hk]
        simp only [hs, Wrapper.stop, List.map_cons, List.map_nil, Option.getD_some,
          Option.some.injEq]
        exact .stop hu hw hk
      · rename_i hk
        cases hn
        have hk := not_not.mp hk
        rw [hnone ⟨by simp [stopping, hu, hw, Option.filter, hk], rfl⟩]
        exact .keep hu hw hk
  · rename_i hu
    cases hn
    rw [hnone ⟨by simp [stopping, hu], rfl⟩]
    exact .finish hu
  · rename_i cfg cfgs hu
    dsimp only at hn
    split at hn
    · rename_i hp
      cases hn
      rw [hnone ⟨by simp [stopping, hu], rfl⟩]
      exact .present hu hp
    · rename_i hp
      cases hn
      rw [hnone ⟨by simp [stopping, hu], rfl⟩]
      exact .add hu (by simpa using hp)

theorem step_effect {a : Action} (hc : ClientOk user s.pm) (h : step user s a = some s') :
    Effect user s a s' := by
  cases a with
  | updateAll cfgs order =>
    obtain ⟨pm, hn, rfl⟩ := Option.map_eq_some_iff.mp h
    unfold Manager.updateAll at hn
    split at hn
    · rename_i hb
      cases hn
      exact .begin hb.1 hb.2
    · cases hn
  | updateNext => exact updateNext_effect h
  | checkWorker w now =>
    simp only [step] at h
    split at h
    · rename_i hw
      rcases checkWorker_cases (hc.healthy w hw) now with ⟨-, he⟩ | ⟨hdue, he⟩
      · rw [he, Manager.setWrapper_self, List.map_nil, List.append_nil] at h
        cases h
        exact .rest hw
      · rw [he] at h
        cases h
        exact .ask hw hdue
    · cases h
  | startProxy resp =>
    simp only [step] at h
    split at h
    · split at h
      · cases h
        exact .unknown
      · cases h
        exact .found ‹_›
    · cases h
  | setRunningStatus now =>
    simp only [step] at h
    split at h
    · cases h
    · rename_i w resp hst
      obtain ⟨pw, err, he, hsame, hclosed⟩ :=
        setRunningStatus_same (s.pm.wrappers w) resp.remoteAddr resp.error now
      rw [he, List.map_nil, List.append_nil] at h
      cases h
      exact .status hsame hclosed

/-- What a step changes of the wrappers: they keep their names, a stopped one stays so and
asks for nothing, one that is stopped says so, and a new one has only stopped namesakes. -/
structure Change (s s' : State) (l : List (Nat × Request)) : Prop where
  made : s.pm.nextWrapper ≤ s'.pm.nextWrapper ∧ s'.pm.nextWrapper ≤ s.pm.nextWrapper + 1
  same : ∀ w, w < s.pm.nextWrapper → SameProxy (s.pm.wrappers w) (s'.pm.wrappers w)
  sent : s'.sent = s.sent ++ l
  single : l.length ≤ 1
  senders : ∀ p ∈ l, p.1 < s.pm.nextWrapper
  closed : ∀ w, w < s.pm.nextWrapper → (s.pm.wrappers w).phase = .closed →
    (s'.pm.wrappers w).phase = .closed ∧ ∀ m, (w, .newProxy m) ∉ l
  closes : ∀ w, w < s.pm.nextWrapper → (s.pm.wrappers w).phase ≠ .closed →
    (s'.pm.wrappers w).phase = .closed → (w, (s.pm.wrappers w).closeMsg) ∈ l
  stops : ∀ w, s'.stops w = s.stops w + if w < s.pm.nextWrapper ∧
    (s.pm.wrappers w).phase ≠ .closed ∧ (s'.pm.wrappers w).phase = .closed then 1 else 0
  fresh : ∀ w, s.pm.nextWrapper ≤ w → w < s'.pm.nextWrapper →
    (s'.pm.wrappers w).phase ≠ .closed ∧ ∀ v, v < s.pm.nextWrapper →
      (s.pm.wrappers v).name = (s'.pm.wrappers w).name → (s.pm.wrappers v).phase = .closed

/-- The wrappers and the messages stay as they are. -/
theorem Change.of_eq (hn : s'.pm.nextWrapper = s.pm.nextWrapper)
    (hw : s'.pm.wrappers = s.pm.wrappers) (hm : s'.sent = s.sent) (hs : s'.stops = s.stops) :
    Change s s' [] where
  made := by omega
  same w _ := by rw [hw]; exact ⟨rfl, rfl, rfl, rfl⟩
  sent := by rw [hm, List.append_nil]
  single := Nat.zero_le _
  senders := nofun
  closed w _ hc := ⟨by rw [hw]; exact hc, nofun⟩
  closes w _ hc hc' := absurd (by rw [← hw]; exact hc') hc
  stops w := by
    rw [hs, hw, if_neg, Nat.add_zero]
    rintro ⟨-, hne, he⟩
    exact hne he
  fresh w hle hlt := absurd hlt (by omega)

/-- One wrapper changes its status. -/
theorem Change.of_status {w : Nat} {pw : Wrapper} {l : List (Nat × Request)}
    (hsame : SameProxy (s.pm.wrappers w) pw)
    (hclosed : pw.phase = .closed ↔ (s.pm.wrappers w).phase = .closed)
    (hpm : s'.pm = s.pm.setWrapper w pw) (hm : s'.sent = s.sent ++ l) (hs : s'.stops = s.stops)
    (hl : l = [] ∨ w < s.pm.nextWrapper ∧ (s.pm.wrappers w).phase ≠ .closed ∧
      ∃ m, l = [(w, .newProxy m)]) : Change s s' l := by
  have hphase : ∀ v, (s'.pm.wrappers v).phase = .closed ↔ (s.pm.wrappers v).phase = .closed := by
    intro v
    rw [hpm, Manager.setWrapper_wrappers]
    split
    · rename_i hv
      rw [hclosed, hv]
    · exact Iff.rfl
  have hnext : s'.pm.nextWrapper = s.pm.nextWrapper := by rw [hpm]; rfl
  refine ⟨by omega, fun v _ => ?_, hm, ?_, ?_, fun v _ hc => ⟨(hphase v).mpr hc, ?_⟩,
    fun v _ hc hc' => absurd ((hphase v).mp hc') hc, fun v => ?_,
    fun v hle hlt => absurd hlt (by omega)⟩
  · rw [hpm, Manager.setWrapper_wrappers]
    split
    · rename_i hv
      rw [hv]
      exact hsame
    · exact ⟨rfl, rfl, rfl, rfl⟩
  · rcases hl with rfl | ⟨-, -, m, rfl⟩
    · exact Nat.zero_le _
    · exact Nat.le_refl _
  · rcases hl with rfl | ⟨hw, -, m, rfl⟩
    · exact nofun
    · intro p hp
      rw [List.mem_singleton.mp hp]
      exact hw
  · rcases hl with rfl | ⟨-, hne, m, rfl⟩
    · exact nofun
    · intro m' hm'
      cases List.mem_singleton.mp hm'
      exact hne hc
  · rw [hs, if_neg, Nat.add_zero]
    rintro ⟨-, hne, he⟩
    exact hne ((hphase v).mp he)

/-- A wrapper that is not stopped yet is stopped. -/
theorem Change.of_stop {w : Nat} (hw : w < s.pm.nextWrapper)
    (hopen : (s.pm.wrappers w).phase ≠ .closed)
    (hn : s'.pm.nextWrapper = s.pm.nextWrapper)
    (hpm : s'.pm.wrappers = (s.pm.setWrapper w (s.pm.wrappers w).stop.1).wrappers)
    (hm : s'.sent = s.sent ++ [(w, (s.pm.wrappers w).closeMsg)])
    (hs : s'.stops = fun v => s.stops v + if w = v then 1 else 0) :
    Change s s' [(w, (s.pm.wrappers w).closeMsg)] := by
  have hv : ∀ v, s'.pm.wrappers v =
      if v = w then (s.pm.wrappers w).stop.1 else s.pm.wrappers v := by
    intro v
    rw [hpm, Manager.setWrapper_wrappers]
  refine ⟨by omega, fun v _ => ?_, hm, Nat.le_refl _, ?_, fun v _ hc => ⟨?_, ?_⟩,
    fun v _ hc hc' => ?_, fun v => ?_, fun v hle hlt => absurd hlt (by omega)⟩
  · rw [hv]
    split
    · rename_i he
      rw [he]
      exact ⟨rfl, rfl, rfl, rfl⟩
    · exact ⟨rfl, rfl, rfl, rfl⟩
  · intro p hp
    rw [List.mem_singleton.mp hp]
    exact hw
  · rw [hv]
    split
    · rfl
    · exact hc
  · intro m hm'
    cases List.mem_singleton.mp hm'
  · rw [hv] at hc'
    by_cases he : v = w
    · rw [he]
      exact List.mem_singleton.mpr rfl
    · rw [if_neg he] at hc'
      exact absurd hc' hc
  · rw [hs]
    by_cases he : w = v
    · subst he
      dsimp only
      rw [if_pos rfl, if_pos ⟨hw, hopen, by rw [hv, if_pos rfl]; rfl⟩]
    · have hsame : s'.pm.wrappers v = s.pm.wrappers v := by
        rw [hv, if_neg fun h => he h.symm]
      dsimp only
      rw [if_neg he, if_neg]
      rintro ⟨-, hne, hc⟩
      rw [hsame] at hc
      exact hne hc

/-- A wrapper is made for a name that the map does not have. -/
theorem Change.of_new (hc : ClientOk user s.pm) {cfg : ProxyConfig}
    (hfree : s.pm.proxies.get? cfg.name = none)
    (hn : s'.pm.nextWrapper = s.pm.nextWrapper + 1)
    (hpm : s'.pm.wrappers = (s.pm.setWrapper s.pm.nextWrapper (.new user cfg)).wrappers)
    (hm : s'.sent = s.sent) (hs : s'.stops = s.stops) : Change s s' [] := by
  have hold : ∀ v, v < s.pm.nextWrapper → s'.pm.wrappers v = s.pm.wrappers v := by
    intro v hv
    rw [hpm, Manager.setWrapper_wrappers, if_neg (Nat.ne_of_lt hv)]
  refine ⟨by omega, fun v hv => ?_, by rw [hm, List.append_nil], Nat.zero_le _, nofun,
    fun v hv hcl => ⟨by rw [hold v hv]; exact hcl, nofun⟩, fun v hv hne hcl => ?_, fun v => ?_,
    fun v hle hlt => ?_⟩
  · rw [hold v hv]
    exact ⟨rfl, rfl, rfl, rfl⟩
  · rw [hold v hv] at hcl
    exact absurd hcl hne
  · rw [hs, if_neg, Nat.add_zero]
    rintro ⟨hv, hne, hcl⟩
    rw [hold v hv] at hcl
    exact hne hcl
  · have hv : v = s.pm.nextWrapper := by omega
    rw [hpm, Manager.setWrapper_wrappers, if_pos hv]
    refine ⟨nofun, fun u hu hname => ?_⟩
    -- a namesake in the map would be found there
    refine (hc.current u hu).resolve_right fun hmap => ?_
    rw [hname] at hmap
    exact absurd (hmap.symm.trans hfree) nofun

theorem Effect.change {a : Action} (hc : ClientOk user s.pm) (he : Effect user s a s') :
    ∃ l, Change s s' l := by
  cases he with
  | stop h hw hk =>
    obtain ⟨hlt, -, hopen⟩ := hc.named _ _ hw
    exact ⟨_, .of_stop hlt hopen rfl rfl rfl rfl⟩
  | add h hn => exact ⟨_, .of_new hc hn rfl rfl rfl rfl⟩
  | @ask w now hw hdue =>
    have hopen := (due_phase hdue).2
    have hsame : SameProxy (s.pm.wrappers w)
        { s.pm.wrappers w with phase := .waitStart, lastSendStartMsg := now } :=
      ⟨rfl, rfl, rfl, rfl⟩
    exact ⟨_, .of_status hsame ⟨nofun, fun h => absurd h hopen⟩ rfl rfl rfl
      (.inr ⟨hw, hopen, _, rfl⟩)⟩
  | status hsame hclosed =>
    exact ⟨[], .of_status hsame hclosed rfl (List.append_nil _).symm rfl (.inl rfl)⟩
  | _ => exact ⟨[], .of_eq rfl rfl rfl rfl⟩

theorem Effect.clientOk {a : Action} (hc : ClientOk user s.pm) (he : Effect user s a s') :
    ClientOk user s'.pm := by
  cases he with
  | stop h hw hk => exact (hc.stop hw).update _
  | add h hn => exact (hc.new hn).update _
  | ask hw hdue =>
    exact hc.setWrapper ⟨rfl, rfl, rfl, rfl⟩ ⟨nofun, fun h => absurd h (due_phase hdue).2⟩
  | status hsame hclosed => exact hc.setWrapper hsame hclosed
  | rest hw => exact hc
  | unknown => exact hc
  | found h => exact hc
  | _ => exact hc.update _

/-- Every stopped wrapper was stopped once and has told the server, and no wrapper asks for a
proxy before its stopped namesakes have. -/
structure Inv (user : String) (s : State) : Prop where
  client : ClientOk user s.pm
  stops : ∀ w, s.stops w =
    if w < s.pm.nextWrapper ∧ (s.pm.wrappers w).phase = .closed then 1 else 0
  closing : ∀ w, w < s.pm.nextWrapper → (s.pm.wrappers w).phase = .closed →
    (w, (s.pm.wrappers w).closeMsg) ∈ s.sent
  senders : ∀ p ∈ s.sent, p.1 < s.pm.nextWrapper
  earlier : ∀ w w', w < w' → w' < s.pm.nextWrapper →
    (s.pm.wrappers w).name = (s.pm.wrappers w').name → (s.pm.wrappers w).phase = .closed
  order : ∀ pre w' m post, s.sent = pre ++ (w', .newProxy m) :: post → ∀ w, w < w' →
    (s.pm.wrappers w).name = (s.pm.wrappers w').name → (w, (s.pm.wrappers w).closeMsg) ∈ pre

theorem inv_init : Inv user init where
  client := clientOk_init
  stops w := (if_neg fun h => absurd h.1 (Nat.not_lt_zero w)).symm
  closing w h := absurd h (Nat.not_lt_zero w)
  senders := nofun
  earlier w w' _ h := absurd h (Nat.not_lt_zero w')
  order pre w' m post h := absurd h.symm (by simp [init])

/-- A message of a longer stream is one of the old stream or a new one. -/
theorem append_eq_split {α : Type} {old l pre post : List α} {x : α} (hl : l.length ≤ 1)
    (h : old ++ l = pre ++ x :: post) :
    (∃ post', old = pre ++ x :: post') ∨ (pre = old ∧ l = [x]) := by
  match l with
  | [] => exact .inl ⟨post, by rw [← h, List.append_nil]⟩
  | [y] =>
    rcases List.eq_nil_or_concat post with rfl | ⟨post', z, rfl⟩
    · obtain ⟨rfl, hxy⟩ := List.append_inj' h rfl
      exact .inr ⟨rfl, hxy⟩
    · have h' : old ++ [y] = (pre ++ x :: post') ++ [z] := by simpa using h
      exact .inl ⟨post', (List.append_inj' h' rfl).1⟩
  | _ :: _ :: _ => exact absurd hl (by simp)

theorem Inv.change (hi : Inv user s) (hc : ClientOk user s'.pm) {l : List (Nat × Request)}
    (h : Change s s' l) : Inv user s' := by
  have hmade := h.made
  refine ⟨hc, fun w => ?_, fun w hw hcl => ?_, fun p hp => ?_, fun w w' hlt hw' hname => ?_,
    fun pre w' m post hsent w hlt hname => ?_⟩
  · rw [h.stops, hi.stops]
    by_cases hw : w < s.pm.nextWrapper
    · have hw' : w < s'.pm.nextWrapper := by omega
      by_cases hcl : (s.pm.wrappers w).phase = .closed
      · simp [hw, hw', hcl, (h.closed w hw hcl).1]
      · simp [hw, hw', hcl]
    · have hopen : ¬ (w < s'.pm.nextWrapper ∧ (s'.pm.wrappers w).phase = .closed) :=
        fun hb => (h.fresh w (by omega) hb.1).1 hb.2
      simp [hw, hopen]
  · have hw' : w < s.pm.nextWrapper := by
      by_contra hge
      exact (h.fresh w (by omega) hw).1 hcl
    rw [(h.same w hw').closeMsg, h.sent]
    by_cases hold : (s.pm.wrappers w).phase = .closed
    · exact List.mem_append_left _ (hi.closing w hw' hold)
    · exact List.mem_append_right _ (h.closes w hw' hold hcl)
  · rw [h.sent] at hp
    rcases List.mem_append.mp hp with hp | hp
    · have := hi.senders p hp
      omega
    · have := h.senders p hp
      omega
  · by_cases hold : w' < s.pm.nextWrapper
    · have hw : w < s.pm.nextWrapper := by omega
      rw [(h.same w hw).name, (h.same w' hold).name] at hname
      exact (h.closed w hw (hi.earlier w w' hlt hold hname)).1
    · have hw : w < s.pm.nextWrapper := by omega
      rw [(h.same w hw).name] at hname
      exact (h.closed w hw ((h.fresh w' (by omega) hw').2 w hw hname)).1
  · have hmem : (w', Request.newProxy m) ∈ s'.sent := by
      rw [hsent]
      exact List.mem_append_right _ List.mem_cons_self
    rw [h.sent] at hsent hmem
    have hw' : w' < s.pm.nextWrapper := by
      rcases List.mem_append.mp hmem with hp | hp
      · exact hi.senders _ hp
      · exact h.senders _ hp
    have hw : w < s.pm.nextWrapper := by omega
    rw [(h.same w hw).name, (h.same w' hw').name] at hname
    rw [(h.same w hw).closeMsg]
    rcases append_eq_split h.single hsent with ⟨post', hold⟩ | ⟨rfl, -⟩
    · exact hi.order pre w' m post' hold w hlt hname
    · exact hi.closing w hw (hi.earlier w w' hlt hw' hname)

theorem inv_step {a : Action} (hi : Inv user s) (h : step user s a = some s') : Inv user s' := by
  have he := step_effect hi.client h
  obtain ⟨l, hl⟩ := he.change hi.client
  exact hi.change (he.clientOk hi.client) hl

theorem inv_reachable (h : (system user).Reachable s) : Inv user s :=
  System.invariant (I := Inv user) inv_init (fun _ _ _ _ hi hs => inv_step hi hs) h

end FrpXtcp.Client.Reload

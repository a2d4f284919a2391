import FrpXtcp.Client.ProxyInvariant
import FrpXtcp.Client.VisitorManager
import FrpXtcp.Lib.Transition

/-!
# Reloads of a closed control

When the connection to the server is lost, `Control.worker` closes the managers of the
control, but the service keeps the control until the next login, and a reload still reaches
it. Neither manager knows that it was closed: the field `closed` of `proxy.Manager` is never
read, and the visitor manager looks at `stopCh` in `keepVisitorsRunning` only.
-/
namespace FrpXtcp.Client.Closing

open FrpXtcp.Lib

/-- `pmClosed` is whether a `Close` of the proxy manager has returned; for the visitor manager
`stopCh` says so. -/
structure State where
  pm : Manager
  pmClosed : Bool
  vm : VisitorManager

def init : State := ⟨.init, false, .init⟩

/-- The workers of the wrappers go on at any time, and a response may reach a wrapper that
`StartProxy` has found before. -/
inductive Action where
  | updateProxies (cfgs : List ProxyConfig) (order : List String)
  | updateNext
  | closeProxies (order : List String)
  | checkWorker (w now : Nat)
  | setRunningStatus (w : Nat) (remoteAddr respErr : String) (now : Nat)
  | updateVisitors (cfgs : List VisitorConfig) (order : List String) (runs : VisitorConfig → Bool)
  | closeVisitors (order : List String)
  | tick (order : List String) (runs : VisitorConfig → Bool)
  | exit

variable (user : String)

def step (s : State) : Action → Option State
  | .updateProxies cfgs order => (s.pm.updateAll cfgs order).map fun pm => { s with pm := pm }
  | .updateNext => (s.pm.updateNext user).map fun r => { s with pm := r.1 }
  | .closeProxies order =>
    (s.pm.close order).map fun r => { s with pm := r.1, pmClosed := true }
  | .checkWorker w now =>
    if w < s.pm.nextWrapper then
      some { s with pm := s.pm.setWrapper w ((s.pm.wrappers w).checkWorker now).1 }
    else none
  | .setRunningStatus w remoteAddr respErr now =>
    let r := (s.pm.wrappers w).setRunningStatus remoteAddr respErr now
    some { s with pm := s.pm.setWrapper w r.1 }
  | .updateVisitors cfgs order runs =>
    (s.vm.updateAll cfgs order runs).map fun vm => { s with vm := vm }
  | .closeVisitors order => (s.vm.close order).map fun vm => { s with vm := vm }
  | .tick order runs => (s.vm.tick order runs).map fun vm => { s with vm := vm }
  | .exit => s.vm.exit.map fun vm => { s with vm := vm }

def system : System State Action := ⟨init, step user⟩

/-- A closed manager is asked for nothing new: no proxy at all, and only visitors that it
still has in the same configuration or that cannot run. -/
def NothingNew (s : State) : Action → Prop
  | .updateProxies cfgs _ => s.pmClosed = true → cfgs = []
  | .updateVisitors cfgs _ runs => s.vm.stopped = true → ∀ cfg ∈ cfgs,
    s.vm.cfgs.get? cfg.name = (VisitorManager.keyBy cfgs).get? cfg.name ∨ runs cfg = false
  | .tick _ runs => s.vm.stopped = true → ∀ entry ∈ s.vm.cfgs.toList,
    (s.vm.visitors.get? entry.2.name).isSome ∨ runs entry.2 = false
  | _ => True

instance (s : State) : (a : Action) → Decidable (NothingNew s a)
  | .updateProxies cfgs _ => inferInstanceAs (Decidable (s.pmClosed = true → cfgs = []))
  | .updateVisitors cfgs _ runs =>
    inferInstanceAs (Decidable (s.vm.stopped = true → ∀ cfg ∈ cfgs,
      s.vm.cfgs.get? cfg.name = (VisitorManager.keyBy cfgs).get? cfg.name ∨ runs cfg = false))
  | .tick _ runs =>
    inferInstanceAs (Decidable (s.vm.stopped = true → ∀ entry ∈ s.vm.cfgs.toList,
      (s.vm.visitors.get? entry.2.name).isSome ∨ runs entry.2 = false))
  | .updateNext | .closeProxies _ | .checkWorker _ _ | .setRunningStatus _ _ _ _
  | .closeVisitors _ | .exit => isTrue trivial

/-- An `UpdateAll` without configurations. -/
def ListsNone : Update → Prop
  | .idle => True
  | .removing cfgs _ => cfgs = []
  | .adding cfgs => cfgs = []

variable {user} {s s' : State}

theorem updateNext_empty {pm pm' : Manager} {sent : List Request}
    (hp : ∀ n, pm.proxies.get? n = none) (he : ListsNone pm.update)
    (h : pm.updateNext user = some (pm', sent)) :
    pm'.proxies = pm.proxies ∧ ListsNone pm'.update := by
  unfold Manager.updateNext at h
  split at h
  · cases h
  · rename_i hu
    cases h
    rw [hu] at he
    exact ⟨rfl, he⟩
  · rename_i cfgs name names hu
    dsimp only at h
    rw [hp] at h
    cases h
    rw [hu] at he
    exact ⟨rfl, he⟩
  · cases h
    exact ⟨rfl, trivial⟩
  · rename_i hu
    rw [hu] at he
    cases he

structure Inv (user : String) (s : State) : Prop where
  client : ClientOk user s.pm
  visitors : s.vm.Ok
  quiet : s.pmClosed = true → (∀ n, s.pm.proxies.get? n = none) ∧ ListsNone s.pm.update
  closed : s.vm.stopped = true → s.vm.AllClosed

theorem inv_init : Inv user init :=
  ⟨clientOk_init, VisitorManager.ok_init, nofun, nofun⟩

/-- The manager of the proxies changes and stays quiet if it was. -/
theorem Inv.proxies (hi : Inv user s) {pm : Manager} (hc : ClientOk user pm)
    (hq : s.pmClosed = true → (∀ n, pm.proxies.get? n = none) ∧ ListsNone pm.update) :
    Inv user { s with pm := pm } := ⟨hc, hi.visitors, hq, hi.closed⟩

theorem Inv.updateProxies (hi : Inv user s) {cfgs : List ProxyConfig} {order : List String}
    (hn : s.pmClosed = true → cfgs = []) {pm : Manager}
    (h : s.pm.updateAll cfgs order = some pm) : Inv user { s with pm := pm } := by
  unfold Manager.updateAll at h
  split at h
  · cases h
    exact hi.proxies (hi.client.update _) fun hcl => ⟨(hi.quiet hcl).1, hn hcl⟩
  · cases h

theorem Inv.updateNext (hi : Inv user s) {pm : Manager} {sent : List Request}
    (h : s.pm.updateNext user = some (pm, sent)) : Inv user { s with pm := pm } := by
  refine hi.proxies (hi.client.updateNext h) fun hcl => ?_
  obtain ⟨hp, he⟩ := hi.quiet hcl
  obtain ⟨hp', he'⟩ := updateNext_empty hp he h
  exact ⟨hp' ▸ hp, he'⟩

theorem inv_step {a : Action} (hi : Inv user s) (hn : NothingNew s a)
    (h : step user s a = some s') : Inv user s' := by
  cases a with
  | updateProxies cfgs order =>
    obtain ⟨pm, hpm, rfl⟩ := Option.map_eq_some_iff.mp h
    exact hi.updateProxies hn hpm
  | updateNext =>
    obtain ⟨⟨pm, sent⟩, hpm, rfl⟩ := Option.map_eq_some_iff.mp h
    exact hi.updateNext hpm
  | closeProxies order =>
    obtain ⟨⟨pm, sent⟩, hpm, rfl⟩ := Option.map_eq_some_iff.mp h
    obtain ⟨hok, hp, hidle⟩ := hi.client.close hpm
    exact ⟨hok, hi.visitors, fun _ => ⟨hp, by rw [hidle]; trivial⟩, hi.closed⟩
  | checkWorker w now =>
    simp only [step] at h
    split at h
    · rename_i hw
      cases h
      exact hi.proxies (hi.client.checkWorker hw now) hi.quiet
    · cases h
  | setRunningStatus w remoteAddr respErr now =>
    cases h
    obtain ⟨pw, err, he, hsame, hclosed⟩ :=
      setRunningStatus_same (s.pm.wrappers w) remoteAddr respErr now
    rw [he]
    exact hi.proxies (hi.client.setWrapper hsame hclosed) hi.quiet
  | updateVisitors cfgs order runs =>
    obtain ⟨vm, hvm, rfl⟩ := Option.map_eq_some_iff.mp h
    refine ⟨hi.client, hi.visitors.updateAll hvm, hi.quiet, fun hs => ?_⟩
    have hs : s.vm.stopped = true := VisitorManager.updateAll_stopped hvm ▸ hs
    exact (hi.closed hs).updateAll (hn hs) hvm
  | closeVisitors order =>
    obtain ⟨vm, hvm, rfl⟩ := Option.map_eq_some_iff.mp h
    obtain ⟨hok, hclosed⟩ := hi.visitors.close hvm
    exact ⟨hi.client, hok, hi.quiet, fun _ => hclosed⟩
  | tick order runs =>
    obtain ⟨vm, hvm, rfl⟩ := Option.map_eq_some_iff.mp h
    refine ⟨hi.client, hi.visitors.tick hvm, hi.quiet, fun hs => ?_⟩
    have hs : s.vm.stopped = true := VisitorManager.tick_stopped hvm ▸ hs
    have hsame := VisitorManager.tick_eq
      (fun name cfg hc => hn hs (name, cfg) ((GoMap.mem_toList_iff ..).mpr hc)) hvm
    rw [hsame]
    exact hi.closed hs
  | exit =>
    obtain ⟨vm, hvm, rfl⟩ := Option.map_eq_some_iff.mp h
    rw [VisitorManager.exit_some hvm]
    exact ⟨hi.client, hi.visitors.exit, hi.quiet, hi.closed⟩

/-- Nothing runs on a control that was closed, as long as nothing new is asked of it. -/
theorem closed_control_quiet (h : (system user).ReachableBy NothingNew s) :
    (s.pmClosed = true → ∀ w, w < s.pm.nextWrapper → (s.pm.wrappers w).phase = .closed) ∧
    (s.vm.stopped = true → ∀ v, v < s.vm.nextVisitor → (s.vm.started v).closed = true) := by
  have hi : Inv user s := by
    refine System.invariant_by (I := Inv user) inv_init ?_ h
    exact fun s a s' _ hi hn hs => inv_step hi hn hs
  refine ⟨fun hc w hw => ?_, hi.closed⟩
  refine (hi.client.current w hw).resolve_right fun hm => ?_
  rw [(hi.quiet hc).1] at hm
  cases hm

def sampleProxy : ProxyConfig :=
  ⟨"a", "xtcp", none, [], false, false, [], "127.0.0.1", 80, "key", [], none⟩

def sampleVisitor : VisitorConfig :=
  ⟨⟨"v", "xtcp", none, ⟨false, false⟩, "key", "", "a", "127.0.0.1", 9000⟩, "quic", false, 8, 90,
    "", 1000, none⟩

/-- A control with a proxy and a visitor is closed. -/
def closedAfterUse : List Action :=
  [.updateVisitors [sampleVisitor] [] fun _ => true, .updateProxies [sampleProxy] [], .updateNext,
    .updateNext, .updateNext, .checkWorker 0 1, .closeProxies ["a"], .closeVisitors ["v"]]

/-- A reload with the same visitor and no proxies reaches the closed control. -/
theorem closed_control_quiet_unchanged : ∃ s, (system "").ReachableBy NothingNew s ∧
    s.pmClosed = true ∧ s.vm.stopped = true ∧ s.pm.nextWrapper = 1 ∧ s.vm.nextVisitor = 1 ∧
    (s.pm.wrappers 0).phase = .closed ∧ (s.vm.started 0).closed = true := by
  obtain ⟨s, hs, hp⟩ := System.reachableBy_of_run (S := system "") (C := NothingNew)
    (l := closedAfterUse ++
      [.updateVisitors [sampleVisitor] ["v"] fun _ => true, .updateProxies [] [], .updateNext,
        .updateNext, .tick ["v"] fun _ => true])
    (p := fun s : State => decide (s.pmClosed = true ∧ s.vm.stopped = true ∧
      s.pm.nextWrapper = 1 ∧ s.vm.nextVisitor = 1))
    (by decide +kernel) (by decide +kernel)
  obtain ⟨hpm, hvm, hw, hv⟩ := of_decide_eq_true hp
  obtain ⟨hwrappers, hvisitors⟩ := closed_control_quiet hs
  exact ⟨s, hs, hpm, hvm, hw, hv, hwrappers hpm 0 (by omega), hvisitors hvm 0 (by omega)⟩

/-- A reload with a proxy and a visitor starts them on a closed control, and so does a tick
that finds a visitor missing whose port has become free. -/
theorem closed_control_quiet_fails :
    (∃ s, (system "").Reachable s ∧ s.pmClosed = true ∧ s.vm.stopped = true ∧
      (∃ w, w < s.pm.nextWrapper ∧ (s.pm.wrappers w).phase ≠ .closed) ∧
      ∃ v, v < s.vm.nextVisitor ∧ (s.vm.started v).closed = false) ∧
    (∃ s, (system "").Reachable s ∧ s.pmClosed = true ∧ s.vm.stopped = true ∧
      ∃ v, v < s.vm.nextVisitor ∧ (s.vm.started v).closed = false) := by
  constructor
  · obtain ⟨s, hs, hp⟩ := System.reachable_of_run (S := system "")
      (l := [.closeProxies [], .closeVisitors [],
        .updateVisitors [sampleVisitor] [] fun _ => true, .updateProxies [sampleProxy] [],
        .updateNext, .updateNext, .updateNext])
      (p := fun s : State => decide (s.pmClosed = true ∧ s.vm.stopped = true ∧
        0 < s.pm.nextWrapper ∧ (s.pm.wrappers 0).phase = .new ∧
        0 < s.vm.nextVisitor ∧ (s.vm.started 0).closed = false))
      (by decide +kernel)
    obtain ⟨hpm, hvm, hw, hphase, hv, hopen⟩ := of_decide_eq_true hp
    exact ⟨s, hs, hpm, hvm, ⟨0, hw, by rw [hphase]; exact nofun⟩, 0, hv, hopen⟩
  · obtain ⟨s, hs, hp⟩ := System.reachable_of_run (S := system "")
      (l := [.updateVisitors [sampleVisitor] [] fun _ => false, .closeProxies [],
        .closeVisitors [], .tick ["v"] fun _ => true])
      (p := fun s : State => decide (s.pmClosed = true ∧ s.vm.stopped = true ∧
        0 < s.vm.nextVisitor ∧ (s.vm.started 0).closed = false))
      (by decide +kernel)
    obtain ⟨hpm, hvm, hv, hopen⟩ := of_decide_eq_true hp
    exact ⟨s, hs, hpm, hvm, 0, hv, hopen⟩

end FrpXtcp.Client.Closing

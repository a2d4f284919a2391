import FrpXtcp.Lib.GoMap

/-!
# The client's visitors

`visitor.Manager` keeps the configured visitors running: `UpdateAll` replaces those whose
configuration has changed and starts the new ones, and `keepVisitorsRunning` tries again to
start the ones that are missing (`client/visitor/visitor_manager.go`). Every operation holds
the lock of the manager throughout.
-/
namespace FrpXtcp.Client

open FrpXtcp.Lib

structure VisitorTransport where
  useEncryption : Bool
  useCompression : Bool
  deriving DecidableEq

structure VisitorBaseConfig where
  name : String
  type : String
  enabled : Option Bool
  transport : VisitorTransport
  secretKey : String
  serverUser : String
  serverName : String
  bindAddr : String
  bindPort : Int64
  deriving DecidableEq

/-- `v1.XTCPVisitorConfig` -/
structure VisitorConfig extends VisitorBaseConfig where
  protocol : String
  keepTunnelOpen : Bool
  maxRetriesAnHour : Int64
  minRetryInterval : Int64
  fallbackTo : String
  fallbackTimeoutMs : Int64
  disableAssistedAddrs : Option Bool
  deriving DecidableEq

/-- A visitor whose `Run` has succeeded. -/
structure Visitor where
  cfg : VisitorConfig
  closed : Bool

/-- The goroutine of `keepVisitorsRunning`. -/
inductive Ticker where
  | off
  | running
  | exited
  deriving DecidableEq

/-- `visitor.Manager`, with the visitors started so far. `stopped` is whether `stopCh` is
closed. -/
structure VisitorManager where
  cfgs : GoMap String VisitorConfig
  visitors : GoMap String Nat
  started : Nat → Visitor
  nextVisitor : Nat
  stopped : Bool
  ticker : Ticker

namespace VisitorManager

def init : VisitorManager :=
  ⟨.empty, .empty,
    fun _ => ⟨⟨⟨"", "", none, ⟨false, false⟩, "", "", "", "", 0⟩, "", false, 0, 0, "", 0, none⟩,
      false⟩,
    0, false, .off⟩

/-- `visitor.Close` -/
def closeVisitor (vm : VisitorManager) (v : Nat) : VisitorManager :=
  { vm with started := Function.update vm.started v { vm.started v with closed := true } }

/-- `startVisitor`. Whether `Run` succeeds depends on the port. -/
def startVisitor (runs : VisitorConfig → Bool) (vm : VisitorManager) (cfg : VisitorConfig) :
    VisitorManager :=
  if runs cfg then
    { vm with
      visitors := vm.visitors.insert cfg.name vm.nextVisitor
      started := Function.update vm.started vm.nextVisitor ⟨cfg, false⟩
      nextVisitor := vm.nextVisitor + 1 }
  else vm

/-- `lo.KeyBy` -/
def keyBy (cfgs : List VisitorConfig) : GoMap String VisitorConfig :=
  cfgs.foldl (fun m cfg => m.insert cfg.name cfg) .empty

/-- Close the visitor of a name, if there is one. -/
def closeNamed (vm : VisitorManager) (name : String) : VisitorManager :=
  match vm.visitors.get? name with
  | none => vm
  | some v => vm.closeVisitor v

/-- One round of the loop of `UpdateAll` over the old configurations. -/
def removeNext (cfgsMap : GoMap String VisitorConfig) (vm : VisitorManager) (name : String) :
    VisitorManager :=
  match vm.cfgs.get? name with
  | none => vm
  | some oldCfg =>
    if cfgsMap.get? name ≠ some oldCfg then
      { vm.closeNamed name with
        cfgs := vm.cfgs.erase name
        visitors := vm.visitors.erase name }
    else vm

/-- One round of the loop of `UpdateAll` over the new configurations. -/
def addNext (runs : VisitorConfig → Bool) (vm : VisitorManager) (cfg : VisitorConfig) :
    VisitorManager :=
  if (vm.cfgs.get? cfg.name).isSome then vm
  else startVisitor runs { vm with cfgs := vm.cfgs.insert cfg.name cfg } cfg

/-- The first `UpdateAll` with a visitor starts `keepVisitorsRunning`. -/
def launch (vm : VisitorManager) (cfgs : List VisitorConfig) : VisitorManager :=
  if cfgs ≠ [] ∧ vm.ticker = .off then { vm with ticker := .running } else vm

/-- `UpdateAll`, which ranges over the old configurations in any order. -/
def updateAll (vm : VisitorManager) (cfgs : List VisitorConfig) (order : List String)
    (runs : VisitorConfig → Bool) : Option VisitorManager :=
  if order.Perm (vm.cfgs.toList.map Prod.fst) then
    some (cfgs.foldl (addNext runs) (order.foldl (removeNext (keyBy cfgs)) (vm.launch cfgs)))
  else none

/-- `Close` leaves the maps as they are. -/
def close (vm : VisitorManager) (order : List String) : Option VisitorManager :=
  if order.Perm (vm.visitors.toList.map Prod.fst) then
    some { order.foldl closeNamed vm with stopped := true }
  else none

/-- One round of the loop of a tick. -/
def tickNext (runs : VisitorConfig → Bool) (vm : VisitorManager) (name : String) :
    VisitorManager :=
  match vm.cfgs.get? name with
  | none => vm
  | some cfg => if (vm.visitors.get? cfg.name).isSome then vm else startVisitor runs vm cfg

/-- `keepVisitorsRunning` takes the case of the ticker. The select may do so when `stopCh` is
closed as well. -/
def tick (vm : VisitorManager) (order : List String) (runs : VisitorConfig → Bool) :
    Option VisitorManager :=
  if vm.ticker = .running ∧ order.Perm (vm.cfgs.toList.map Prod.fst) then
    some (order.foldl (tickNext runs) vm)
  else none

/-- `keepVisitorsRunning` takes the case of `stopCh`. -/
def exit (vm : VisitorManager) : Option VisitorManager :=
  if vm.ticker = .running ∧ vm.stopped then some { vm with ticker := .exited } else none

/-- Every visitor that was started is closed or in the map, under a configured name. -/
structure Ok (vm : VisitorManager) : Prop where
  keyed : ∀ name cfg, vm.cfgs.get? name = some cfg → cfg.name = name
  configured : ∀ name v, vm.visitors.get? name = some v → (vm.cfgs.get? name).isSome
  kept : ∀ v, v < vm.nextVisitor →
    (vm.started v).closed = true ∨ ∃ name, vm.visitors.get? name = some v

/-- All visitors that were started are closed. -/
def AllClosed (vm : VisitorManager) : Prop :=
  ∀ v, v < vm.nextVisitor → (vm.started v).closed = true

variable {vm vm' : VisitorManager} {runs : VisitorConfig → Bool}

theorem ok_init : Ok init where
  keyed name cfg h := absurd h (by rw [init, GoMap.get?_empty]; exact nofun)
  configured name v h := absurd h (by rw [init, GoMap.get?_empty]; exact nofun)
  kept v h := absurd h (Nat.not_lt_zero v)

theorem closeNamed_frame (vm : VisitorManager) (name : String) :
    (vm.closeNamed name).cfgs = vm.cfgs ∧ (vm.closeNamed name).visitors = vm.visitors ∧
      (vm.closeNamed name).nextVisitor = vm.nextVisitor := by
  unfold closeNamed
  split <;> exact ⟨rfl, rfl, rfl⟩

theorem closeNamed_closed {name : String} {v : Nat}
    (h : (vm.started v).closed = true ∨ vm.visitors.get? name = some v) :
    ((vm.closeNamed name).started v).closed = true := by
  unfold closeNamed
  cases hn : vm.visitors.get? name with
  | none =>
    rw [hn] at h
    exact h.resolve_right nofun
  | some u =>
    dsimp only [closeVisitor]
    by_cases hv : v = u
    · rw [hv, Function.update_self]
    · rw [Function.update_of_ne hv]
      refine h.resolve_right fun hu => hv ?_
      exact (Option.some.inj (hn.symm.trans hu)).symm

/-- A removal keeps the invariant, and closes what it takes out. -/
theorem Ok.removeNext (h : Ok vm) (cfgsMap : GoMap String VisitorConfig) (name : String) :
    Ok (vm.removeNext cfgsMap name) := by
  unfold VisitorManager.removeNext
  split
  · exact h
  · split
    · obtain ⟨-, -, hnext⟩ := vm.closeNamed_frame name
      refine ⟨fun n cfg hc => ?_, fun n v hv => ?_, fun v hv => ?_⟩
      · rw [GoMap.get?_erase] at hc
        split at hc
        · cases hc
        · exact h.keyed n cfg hc
      · rw [GoMap.get?_erase] at hv ⊢
        split at hv
        · cases hv
        · rename_i hne
          rw [if_neg hne]
          exact h.configured n v hv
      · rcases h.kept v (hnext ▸ hv) with hc | ⟨n, hn⟩
        · exact .inl (closeNamed_closed (.inl hc))
        · by_cases he : n = name
          · exact .inl (closeNamed_closed (.inr (he ▸ hn)))
          · refine .inr ⟨n, ?_⟩
            rw [GoMap.get?_erase, if_neg he]
            exact hn
    · exact h

/-- A visitor is started under a configured name that has none. -/
theorem Ok.startVisitor (h : Ok vm) {cfg : VisitorConfig} (hc : (vm.cfgs.get? cfg.name).isSome)
    (hfree : vm.visitors.get? cfg.name = none) : Ok (startVisitor runs vm cfg) := by
  unfold VisitorManager.startVisitor
  split
  · refine ⟨h.keyed, fun n v hv => ?_, fun v hv => ?_⟩
    · rw [GoMap.get?_insert] at hv
      split at hv
      · rename_i hn
        rw [hn]
        exact hc
      · exact h.configured n v hv
    · rcases Nat.lt_succ_iff_lt_or_eq.mp hv with hv | rfl
      · dsimp only
        rw [Function.update_of_ne (Nat.ne_of_lt hv)]
        rcases h.kept v hv with hclosed | ⟨n, hn⟩
        · exact .inl hclosed
        refine .inr ⟨n, ?_⟩
        rw [GoMap.get?_insert, if_neg]
        · exact hn
        · rintro rfl
          exact absurd (hn.symm.trans hfree) (by simp)
      · exact .inr ⟨cfg.name, by simp⟩
  · exact h

theorem Ok.addNext (h : Ok vm) (cfg : VisitorConfig) : Ok (addNext runs vm cfg) := by
  unfold VisitorManager.addNext
  split
  · exact h
  · rename_i hnone
    have hnone : vm.cfgs.get? cfg.name = none := by simpa using hnone
    have hok : Ok { vm with cfgs := vm.cfgs.insert cfg.name cfg } := by
      refine ⟨fun n c hc => ?_, fun n v hv => ?_, h.kept⟩
      · rw [GoMap.get?_insert] at hc
        split at hc
        · rename_i hn
          cases hc
          exact hn.symm
        · exact h.keyed n c hc
      · rw [GoMap.get?_insert]
        split
        · rfl
        · exact h.configured n v hv
    -- a visitor of that name would be configured
    have hfree : vm.visitors.get? cfg.name = none := by
      refine Option.eq_none_iff_forall_ne_some.mpr fun v hv => ?_
      have := h.configured cfg.name v hv
      rw [hnone] at this
      cases this
    exact hok.startVisitor (by simp) hfree

theorem Ok.tickNext (h : Ok vm) (name : String) : Ok (tickNext runs vm name) := by
  unfold VisitorManager.tickNext
  split
  · exact h
  · rename_i cfg hc
    split
    · exact h
    · rename_i hfree
      refine h.startVisitor ?_ (by simpa using hfree)
      rw [h.keyed name cfg hc, hc]
      rfl

theorem Ok.closeNamed (h : Ok vm) (name : String) : Ok (vm.closeNamed name) := by
  obtain ⟨hcfgs, hvisitors, hnext⟩ := vm.closeNamed_frame name
  refine ⟨hcfgs ▸ h.keyed, fun n v hv => ?_, fun v hv => ?_⟩
  · rw [hvisitors] at hv
    rw [hcfgs]
    exact h.configured n v hv
  · rw [hvisitors]
    exact (h.kept v (hnext ▸ hv)).imp_left fun hc => closeNamed_closed (.inl hc)

theorem launch_frame (vm : VisitorManager) (cfgs : List VisitorConfig) :
    (vm.launch cfgs).cfgs = vm.cfgs ∧ (vm.launch cfgs).visitors = vm.visitors ∧
      (vm.launch cfgs).started = vm.started ∧ (vm.launch cfgs).nextVisitor = vm.nextVisitor ∧
      (vm.launch cfgs).stopped = vm.stopped := by
  unfold launch
  split <;> exact ⟨rfl, rfl, rfl, rfl, rfl⟩

theorem Ok.launch (h : Ok vm) (cfgs : List VisitorConfig) : Ok (vm.launch cfgs) := by
  unfold VisitorManager.launch
  split
  · exact ⟨h.keyed, h.configured, h.kept⟩
  · exact h

theorem Ok.updateAll (h : Ok vm) {cfgs : List VisitorConfig} {order : List String}
    (hu : vm.updateAll cfgs order runs = some vm') : Ok vm' := by
  unfold VisitorManager.updateAll at hu
  split at hu
  · cases hu
    refine List.foldlRecOn cfgs _ ?_ fun vm hok cfg _ => hok.addNext cfg
    exact List.foldlRecOn order _ (h.launch cfgs) fun vm hok name _ => hok.removeNext _ name
  · cases hu

theorem Ok.tick (h : Ok vm) {order : List String} (ht : vm.tick order runs = some vm') :
    Ok vm' := by
  unfold VisitorManager.tick at ht
  split at ht
  · cases ht
    exact List.foldlRecOn order _ h fun vm hok name _ => hok.tickNext name
  · cases ht

/-- The loop of `Close` closes the visitors of its names. -/
theorem closeAll_closed (order : List String) {v : Nat}
    (h : (vm.started v).closed = true ∨ ∃ name ∈ order, vm.visitors.get? name = some v) :
    ((order.foldl closeNamed vm).started v).closed = true := by
  induction order generalizing vm with
  | nil => exact h.resolve_right (by simp)
  | cons n order ih =>
    refine ih ?_
    rcases h with hc | ⟨m, hm, hv⟩
    · exact .inl (closeNamed_closed (.inl hc))
    · rcases List.mem_cons.mp hm with rfl | hm
      · exact .inl (closeNamed_closed (.inr hv))
      · refine .inr ⟨m, hm, ?_⟩
        rw [(vm.closeNamed_frame n).2.1]
        exact hv

theorem closeAll_next (vm : VisitorManager) (order : List String) :
    (order.foldl closeNamed vm).nextVisitor = vm.nextVisitor :=
  List.foldlRecOn (motive := fun vm' : VisitorManager => vm'.nextVisitor = vm.nextVisitor) order _
    rfl fun vm' h name _ => (vm'.closeNamed_frame name).2.2.trans h

/-- `Close` closes every visitor. -/
theorem Ok.close (h : Ok vm) {order : List String} (hc : vm.close order = some vm') :
    Ok vm' ∧ AllClosed vm' := by
  unfold VisitorManager.close at hc
  split at hc
  · rename_i hperm
    cases hc
    have hok : Ok (order.foldl VisitorManager.closeNamed vm) :=
      List.foldlRecOn order _ h fun vm hok name _ => hok.closeNamed name
    refine ⟨⟨hok.keyed, hok.configured, hok.kept⟩, fun v hv => closeAll_closed order ?_⟩
    refine (h.kept v (closeAll_next vm order ▸ hv)).imp_right fun ⟨n, hn⟩ => ⟨n, ?_, hn⟩
    exact hperm.mem_iff.mpr (List.mem_map_of_mem ((GoMap.mem_toList_iff ..).mpr hn))
  · cases hc

theorem startVisitor_stopped (vm : VisitorManager) (cfg : VisitorConfig) :
    (startVisitor runs vm cfg).stopped = vm.stopped := by
  unfold startVisitor
  split <;> rfl

/-- Only `Close` closes `stopCh`. -/
theorem updateAll_stopped {cfgs : List VisitorConfig} {order : List String}
    (hu : vm.updateAll cfgs order runs = some vm') : vm'.stopped = vm.stopped := by
  unfold updateAll at hu
  split at hu
  · cases hu
    refine List.foldlRecOn (motive := fun vm₁ : VisitorManager => vm₁.stopped = vm.stopped) cfgs _
      ?_ fun vm₁ h₁ cfg _ => ?_
    · refine List.foldlRecOn (motive := fun vm₁ : VisitorManager => vm₁.stopped = vm.stopped)
        order _ (vm.launch_frame cfgs).2.2.2.2 fun vm₁ h₁ name _ => ?_
      unfold removeNext closeNamed
      split
      · exact h₁
      · split
        · split <;> exact h₁
        · exact h₁
    · unfold addNext
      split
      · exact h₁
      · exact (startVisitor_stopped _ cfg).trans h₁
  · cases hu

theorem tick_stopped {order : List String} (ht : vm.tick order runs = some vm') :
    vm'.stopped = vm.stopped := by
  unfold tick at ht
  split at ht
  · cases ht
    refine List.foldlRecOn (motive := fun vm₁ : VisitorManager => vm₁.stopped = vm.stopped) order _
      rfl fun vm₁ h₁ name _ => ?_
    unfold tickNext
    split
    · exact h₁
    · split
      · exact h₁
      · exact (startVisitor_stopped _ _).trans h₁
  · cases ht

theorem AllClosed.removeNext (h : AllClosed vm) (cfgsMap : GoMap String VisitorConfig)
    (name : String) : AllClosed (vm.removeNext cfgsMap name) := by
  unfold VisitorManager.removeNext
  split
  · exact h
  · split
    · intro v hv
      refine closeNamed_closed (.inl (h v ?_))
      exact (vm.closeNamed_frame name).2.2 ▸ hv
    · exact h

/-- A configuration that is listed as it is stays. -/
theorem removeNext_cfgs {cfgsMap : GoMap String VisitorConfig} {name : String}
    (h : vm.cfgs.get? name = cfgsMap.get? name) (n : String) :
    (vm.removeNext cfgsMap n).cfgs.get? name = cfgsMap.get? name := by
  unfold VisitorManager.removeNext
  split
  · exact h
  · rename_i oldCfg hold
    split
    · rename_i hdel
      rw [GoMap.get?_erase, if_neg]
      · exact h
      · rintro rfl
        rw [← h] at hdel
        exact hdel hold
    · exact h

theorem keyBy_isSome {cfgs : List VisitorConfig} {cfg : VisitorConfig} (h : cfg ∈ cfgs) :
    ((keyBy cfgs).get? cfg.name).isSome := by
  rw [keyBy, GoMap.get?_foldl_insert, GoMap.get?_empty, Option.or_none, List.find?_isSome]
  exact ⟨cfg, List.mem_reverse.mpr h, by simp⟩

/-- Adding starts nothing that is configured already or cannot run. -/
theorem AllClosed.addNext (h : AllClosed vm) {cfg : VisitorConfig}
    (hc : (vm.cfgs.get? cfg.name).isSome ∨ runs cfg = false) :
    AllClosed (addNext runs vm cfg) ∧
      ∀ name, (vm.cfgs.get? name).isSome → ((addNext runs vm cfg).cfgs.get? name).isSome := by
  unfold VisitorManager.addNext
  split
  · exact ⟨h, fun _ hn => hn⟩
  · rename_i hnone
    have hrun : runs cfg = false := hc.resolve_left hnone
    unfold VisitorManager.startVisitor
    rw [hrun, if_neg Bool.false_ne_true]
    refine ⟨h, fun name hn => ?_⟩
    rw [GoMap.get?_insert]
    split
    · rfl
    · exact hn

/-- An `UpdateAll` whose configurations are all there already, or cannot run, starts none. -/
theorem AllClosed.updateAll (h : AllClosed vm) {cfgs : List VisitorConfig} {order : List String}
    (hc : ∀ cfg ∈ cfgs, vm.cfgs.get? cfg.name = (keyBy cfgs).get? cfg.name ∨ runs cfg = false)
    (hu : vm.updateAll cfgs order runs = some vm') : AllClosed vm' := by
  unfold VisitorManager.updateAll at hu
  split at hu
  · cases hu
    obtain ⟨hcfgs, -, hstarted, hnext, -⟩ := vm.launch_frame cfgs
    have hlaunch : AllClosed (vm.launch cfgs) := by
      intro v hv
      rw [hstarted]
      exact h v (hnext ▸ hv)
    -- the first loop closes visitors and keeps what is listed
    have hremoved := List.foldlRecOn
      (motive := fun vm₁ => AllClosed vm₁ ∧
        ∀ cfg ∈ cfgs, vm₁.cfgs.get? cfg.name = (keyBy cfgs).get? cfg.name ∨ runs cfg = false)
      order (VisitorManager.removeNext (keyBy cfgs)) ⟨hlaunch, hcfgs ▸ hc⟩
      fun vm₁ h₁ name _ => ⟨h₁.1.removeNext _ name, fun cfg hm =>
        (h₁.2 cfg hm).imp_left fun he => removeNext_cfgs he name⟩
    refine (List.foldlRecOn
      (motive := fun vm₁ => AllClosed vm₁ ∧
        ∀ cfg ∈ cfgs, (vm₁.cfgs.get? cfg.name).isSome ∨ runs cfg = false)
      cfgs (VisitorManager.addNext runs) ⟨hremoved.1, fun cfg hm => ?_⟩
      fun vm₁ h₁ cfg hm => ?_).1
    · refine (hremoved.2 cfg hm).imp_left fun he => ?_
      rw [he]
      exact keyBy_isSome hm
    · obtain ⟨hclosed, hkept⟩ := h₁.1.addNext (h₁.2 cfg hm)
      exact ⟨hclosed, fun c hc' => (h₁.2 c hc').imp_left (hkept c.name)⟩
  · cases hu

/-- A tick that finds every visitor, or cannot start the missing ones, changes nothing. -/
theorem tick_eq {order : List String}
    (hc : ∀ name cfg, vm.cfgs.get? name = some cfg →
      (vm.visitors.get? cfg.name).isSome ∨ runs cfg = false)
    (ht : vm.tick order runs = some vm') : vm' = vm := by
  unfold VisitorManager.tick at ht
  split at ht
  · cases ht
    refine List.foldlRecOn (motive := fun vm₁ => vm₁ = vm) order _ rfl ?_
    rintro vm₁ rfl name -
    unfold tickNext
    split
    · rfl
    · rename_i cfg hcfg
      split
      · rfl
      · rename_i hfree
        have hrun := (hc name cfg hcfg).resolve_left hfree
        rw [startVisitor, hrun, if_neg Bool.false_ne_true]
  · cases ht

theorem startVisitor_next (vm : VisitorManager) (cfg : VisitorConfig) :
    vm.nextVisitor ≤ (startVisitor runs vm cfg).nextVisitor := by
  unfold startVisitor
  split
  · exact Nat.le_succ _
  · exact Nat.le_refl _

theorem addNext_next (vm : VisitorManager) (cfg : VisitorConfig) :
    vm.nextVisitor ≤ (addNext runs vm cfg).nextVisitor := by
  unfold addNext
  split
  · exact Nat.le_refl _
  · exact startVisitor_next { vm with cfgs := vm.cfgs.insert cfg.name cfg } cfg

theorem tickNext_next (vm : VisitorManager) (name : String) :
    vm.nextVisitor ≤ (tickNext runs vm name).nextVisitor := by
  unfold tickNext
  split
  · exact Nat.le_refl _
  · split
    · exact Nat.le_refl _
    · exact startVisitor_next vm _

theorem removeNext_next (vm : VisitorManager) (cfgsMap : GoMap String VisitorConfig)
    (name : String) : (vm.removeNext cfgsMap name).nextVisitor = vm.nextVisitor := by
  unfold removeNext
  split
  · rfl
  · split
    · exact (vm.closeNamed_frame name).2.2
    · rfl

/-- Visitors are numbered as they are started. -/
theorem updateAll_next {cfgs : List VisitorConfig} {order : List String}
    (hu : vm.updateAll cfgs order runs = some vm') : vm.nextVisitor ≤ vm'.nextVisitor := by
  unfold updateAll at hu
  split at hu
  · cases hu
    refine List.foldlRecOn (motive := fun vm₁ : VisitorManager => vm.nextVisitor ≤ vm₁.nextVisitor)
      cfgs _ ?_ fun vm₁ h₁ cfg _ => Nat.le_trans h₁ (addNext_next vm₁ cfg)
    refine List.foldlRecOn (motive := fun vm₁ : VisitorManager => vm.nextVisitor ≤ vm₁.nextVisitor)
      order _ (Nat.le_of_eq (vm.launch_frame cfgs).2.2.2.1.symm) fun vm₁ h₁ name _ => ?_
    rw [removeNext_next]
    exact h₁
  · cases hu

theorem tick_next {order : List String} (ht : vm.tick order runs = some vm') :
    vm.nextVisitor ≤ vm'.nextVisitor := by
  unfold tick at ht
  split at ht
  · cases ht
    exact List.foldlRecOn
      (motive := fun vm₁ : VisitorManager => vm.nextVisitor ≤ vm₁.nextVisitor) order _
      (Nat.le_refl _) fun vm₁ h₁ name _ => Nat.le_trans h₁ (tickNext_next vm₁ name)
  · cases ht

theorem close_next {order : List String} (hc : vm.close order = some vm') :
    vm'.nextVisitor = vm.nextVisitor := by
  unfold close at hc
  split at hc
  · cases hc
    exact closeAll_next vm order
  · cases hc

theorem exit_some (he : vm.exit = some vm') : vm' = { vm with ticker := .exited } := by
  unfold exit at he
  split at he
  · exact (Option.some.inj he).symm
  · cases he

theorem Ok.exit (h : Ok vm) : Ok { vm with ticker := .exited } :=
  ⟨h.keyed, h.configured, h.kept⟩

end VisitorManager

end FrpXtcp.Client

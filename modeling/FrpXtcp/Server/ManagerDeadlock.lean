import FrpXtcp.Server.LifecycleOrder
import FrpXtcp.Server.ManagerLocks

/-!
# No deadlock among the manager's locks

Every method keeps the documented order of the locks, whatever it reads and whatever the
code outside answers. What `Lib.LockOrder` says about such programs then holds of the
goroutines that run them.
-/
namespace FrpXtcp.Server.ManagerLocks

open FrpXtcp.Lib

variable {env : Env}

section Ordered

variable {α : Type} {Q : α → List (Lock × LockMode) → Prop} {H : List (Lock × LockMode)}

theorem locked_ordered {c : Nat} {f : Core → α × Core} (hH : ∀ h ∈ H, h.1.rank < 2)
    (hQ : ∀ a, Q a H) : (locked c f).Ordered Lock.rank Q H := by
  simp only [locked, Prog.ordered_bind, Prog.ordered_acquire, Prog.ordered_modifyGet,
    Prog.ordered_release, Prog.ordered_pure]
  exact ⟨hH, fun s => hQ _⟩

theorem waitForHandoff_ordered {c : Nat} {Q : Unit → List (Lock × LockMode) → Prop}
    (hQ : Q () []) : (waitForHandoff c).Ordered Lock.rank Q [] := by
  refine (Prog.ordered_bind ..).mpr (locked_ordered (by simp) fun barrier => ?_)
  cases barrier with
  | none => exact hQ
  | some d => simpa using hQ

theorem close_ordered {c : Nat} {Q : Unit → List (Lock × LockMode) → Prop} (hQ : Q () []) :
    (close c).Ordered Lock.rank Q [] := by
  refine (Prog.ordered_bind ..).mpr (locked_ordered (by simp) fun _ => ?_)
  simpa [interruptReadAndClose] using hQ

theorem replaced_ordered {c newCtl : Nat} {Q : Unit → List (Lock × LockMode) → Prop}
    (hQ : Q () []) : (replaced c newCtl).Ordered Lock.rank Q [] := by
  refine (Prog.ordered_bind ..).mpr (locked_ordered (by simp) fun _ => ?_)
  refine (Prog.ordered_bind ..).mpr (locked_ordered (by simp) fun _ => ?_)
  simpa [interruptReadAndClose] using hQ

theorem registerWithControlID_ordered {reg : Registry.Registration} {now : Nat}
    {Q : Bool → List (Lock × LockMode) → Prop} (hH : ∀ h ∈ H, h.1.rank < 3) (hQ : ∀ b, Q b H) :
    (registerWithControlID reg now).Ordered Lock.rank Q H := by
  unfold registerWithControlID
  split
  · exact hQ false
  · simp only [Prog.ordered_bind, Prog.ordered_acquire, Prog.ordered_modifyGet,
      Prog.ordered_release, Prog.ordered_pure]
    exact ⟨hH, fun s => hQ _⟩

theorem markOffline_ordered {runID : String} {id : UInt64} {now : Nat}
    {Q : Unit → List (Lock × LockMode) → Prop} (hH : ∀ h ∈ H, h.1.rank < 3) (hQ : Q () H) :
    (markOfflineByRunIDAndControlID runID id now).Ordered Lock.rank Q H := by
  simp only [markOfflineByRunIDAndControlID, Prog.ordered_bind, Prog.ordered_acquire,
    Prog.ordered_modify, Prog.ordered_release]
  exact ⟨hH, fun _ => hQ⟩

/-- `lockCurrentRun` starts with nothing held and returns with the gate, or with nothing. -/
theorem lockCurrentRun_ordered {runID : String} {allowClosed : Bool}
    {Q : Option (Nat × Nat) → List (Lock × LockMode) → Prop} (hnone : Q none [])
    (hsome : ∀ e g, Q (some (e, g)) [(.runMu g, .exclusive)]) :
    (lockCurrentRun runID allowClosed).Ordered Lock.rank Q [] := by
  simp only [lockCurrentRun, Prog.ordered_bind, Prog.ordered_acquire, Prog.ordered_gets,
    Prog.ordered_release]
  refine ⟨by simp, fun s => ?_⟩
  split
  · exact hnone
  · simp only [Prog.ordered_bind, Prog.ordered_acquire, Prog.ordered_gets, Prog.ordered_release]
    refine ⟨by simp, by simp [Lock.rank], fun s => ?_⟩
    split
    · simpa using hnone
    · exact hsome _ _

/-- The same for a method that starts with it; the rest begins with the gate held. -/
theorem behindGate_ordered {runID : String} {allowClosed : Bool}
    {f : Option (Nat × Nat) → Code α} (hnone : (f none).Ordered Lock.rank Q [])
    (hsome : ∀ e g, (f (some (e, g))).Ordered Lock.rank Q [(.runMu g, .exclusive)]) :
    (lockCurrentRun runID allowClosed >>= f).Ordered Lock.rank Q [] :=
  (Prog.ordered_bind ..).mpr (lockCurrentRun_ordered hnone hsome)

/-- The gate of the entry that `Add` found. -/
def oldGate (old : Option (Nat × Nat)) : List (Lock × LockMode) :=
  (old.map fun o => (Lock.runMu o.2, LockMode.exclusive)).toList

theorem lockOld_ordered {old : Option (Nat × Nat)} {Q : Unit → List (Lock × LockMode) → Prop}
    (hQ : Q () (oldGate old)) : (lockOld old).Ordered Lock.rank Q [] := by
  cases old with
  | none => exact hQ
  | some o => simpa [lockOld, oldGate] using hQ

theorem unlockOld_ordered {old : Option (Nat × Nat)} {Q : Unit → List (Lock × LockMode) → Prop}
    (hQ : Q () []) : (unlockOld old).Ordered Lock.rank Q (oldGate old) := by
  cases old with
  | none => exact hQ
  | some o => simpa [unlockOld, oldGate] using hQ

theorem addCurrent_ordered {c : Nat} {old : Option (Nat × Nat)}
    {Q : Option String → List (Lock × LockMode) → Prop} (hQ : ∀ err, Q err []) :
    (addCurrent env c old).Ordered Lock.rank Q ((.cmMu, .exclusive) :: oldGate old) := by
  have hranks : ∀ h ∈ (Lock.cmMu, LockMode.exclusive) :: oldGate old, h.1.rank < 2 := by
    cases old <;> simp [oldGate, Lock.rank]
  unfold addCurrent
  simp only [Prog.ordered_bind, Prog.ordered_modifyGet]
  intro s
  refine locked_ordered hranks fun err => ?_
  cases err with
  | some err =>
    simp only [Prog.ordered_bind, Prog.ordered_release]
    exact unlockOld_ordered (hQ _)
  | none =>
    cases old with
    | none => simpa [oldGate] using fun _ => hQ none
    | some o =>
      simp only [Prog.ordered_bind, Prog.ordered_gets]
      intro s
      refine locked_ordered hranks fun barrier => ?_
      refine locked_ordered hranks fun _ => ?_
      simp only [oldGate, Option.map_some, Option.toList_some, Prog.ordered_modify,
        Prog.ordered_release]
      exact fun _ => replaced_ordered (hQ none)

theorem add_ordered {c : Nat} {Q : Option String → List (Lock × LockMode) → Prop}
    (hQ : ∀ err, Q err []) : (add env c).Ordered Lock.rank Q [] := by
  simp only [add, Prog.ordered_bind, Prog.ordered_acquire, Prog.ordered_gets,
    Prog.ordered_release]
  refine ⟨by simp, fun s => ?_⟩
  generalize (s.ctlsByRunID.get? (env.runID c)).map _ = old
  refine lockOld_ordered ⟨?_, fun s => ?_⟩
  · cases old <;> simp [oldGate, Lock.rank]
  split
  · simp only [Prog.ordered_bind, Prog.ordered_release, Prog.ordered_pure]
    exact unlockOld_ordered (hQ _)
  simp only [Prog.ordered_bind, Prog.ordered_gets]
  intro s
  split
  · simp only [Prog.ordered_bind, Prog.ordered_release, Prog.ordered_jump]
    exact unlockOld_ordered rfl
  · exact addCurrent_ordered hQ

theorem activateOnline_ordered {c e now : Nat}
    {Q : Bool × Option String → List (Lock × LockMode) → Prop} (hH : ∀ h ∈ H, h.1.rank < 3)
    (hQ : ∀ r, Q r H) : (activateOnline env c e now).Ordered Lock.rank Q H := by
  simp only [activateOnline, Prog.ordered_bind, Prog.ordered_gets]
  intro s
  refine registerWithControlID_ordered hH fun conflict => ?_
  split
  · exact hQ _
  · simpa using fun _ => hQ _

theorem activateLocked_ordered {c e now : Nat}
    {Q : Bool × Option String → List (Lock × LockMode) → Prop} (hH : ∀ h ∈ H, h.1.rank < 2)
    (hQ : ∀ r, Q r H) : (activateLocked env c e now).Ordered Lock.rank Q H := by
  have hranks : ∀ h ∈ (Lock.lifecycleMu c, LockMode.exclusive) :: H, h.1.rank < 3 := by
    rw [List.forall_mem_cons]
    exact ⟨by simp [Lock.rank], fun h hh => Nat.lt_succ_of_lt (hH h hh)⟩
  simp only [activateLocked, Prog.ordered_bind, Prog.ordered_acquire, Prog.ordered_gets]
  refine ⟨hH, fun s => ?_⟩
  split
  · simpa using hQ _
  split
  · simpa using hQ _
  · simp only [Prog.ordered_bind]
    exact activateOnline_ordered hranks fun r => by simpa using hQ r

theorem activate_ordered {c now : Nat} {Q : Bool × Option String → List (Lock × LockMode) → Prop}
    (hQ : ∀ r, Q r []) : (activate env c now).Ordered Lock.rank Q [] := by
  refine behindGate_ordered (hQ _) fun e g => ?_
  simp only [Prog.ordered_bind, Prog.ordered_acquire, Prog.ordered_gets]
  refine ⟨by simp [Lock.rank], fun s => ?_⟩
  split
  · simp only [Prog.ordered_bind]
    exact activateLocked_ordered (by simp [Lock.rank]) fun r => by simpa using hQ r
  · simpa using hQ _

theorem completeLoginLocked_ordered {c : Nat}
    {Q : Bool × Option String → List (Lock × LockMode) → Prop} (hH : ∀ h ∈ H, h.1.rank < 2)
    (hQ : ∀ r, Q r H) : (completeLoginLocked c).Ordered Lock.rank Q H := by
  simp only [completeLoginLocked, Prog.ordered_bind, Prog.ordered_acquire, Prog.ordered_gets]
  refine ⟨hH, fun s => ?_⟩
  split
  · simpa using hQ _
  · simp only [Prog.ordered_bind, Prog.ordered_outside]
    intro err
    cases err with
    | some err => simpa using hQ _
    | none => simpa using fun s => hQ _

theorem completeLogin_ordered {c : Nat}
    {Q : Bool × Option String → List (Lock × LockMode) → Prop} (hQ : ∀ r, Q r []) :
    (completeLogin env c).Ordered Lock.rank Q [] := by
  refine behindGate_ordered (hQ _) fun e g => ?_
  simp only [Prog.ordered_bind, Prog.ordered_gets]
  intro s
  split
  · simp only [Prog.ordered_bind]
    exact completeLoginLocked_ordered (by simp [Lock.rank]) fun r => by simpa using hQ r
  · simpa using hQ _

theorem remove_ordered {c now : Nat} {Q : Bool → List (Lock × LockMode) → Prop}
    (hQ : ∀ r, Q r []) : (remove env c now).Ordered Lock.rank Q [] := by
  refine behindGate_ordered (hQ _) fun e g => ?_
  simp only [Prog.ordered_bind, Prog.ordered_acquire, Prog.ordered_gets]
  refine ⟨by simp [Lock.rank], fun s => ?_⟩
  split
  · simp only [Prog.ordered_bind, Prog.ordered_modify, Prog.ordered_gets]
    intro _ s
    split
    · simp only [Prog.ordered_bind]
      exact markOffline_ordered (by simp [Lock.rank]) (by simpa using hQ _)
    · simpa using hQ _
  · simpa using hQ _

theorem getByID_ordered {runID : String} {Q : Option Nat → List (Lock × LockMode) → Prop}
    (hQ : ∀ r, Q r []) : (getByID runID).Ordered Lock.rank Q [] := by
  refine behindGate_ordered (hQ _) fun e g => ?_
  simp only [Prog.ordered_bind, Prog.ordered_gets]
  exact fun s => locked_ordered (by simp [Lock.rank]) fun running => by simpa using hQ _

theorem admitVisitorByRunID_ordered {runID : String}
    {Q : Bool × Option String → List (Lock × LockMode) → Prop} (hQ : ∀ r, Q r []) :
    (admitVisitorByRunID runID).Ordered Lock.rank Q [] := by
  refine behindGate_ordered (hQ _) fun e g => ?_
  simp only [Prog.ordered_bind, Prog.ordered_acquire, Prog.ordered_gets]
  refine fun s => ⟨by simp [Lock.rank], fun s => ?_⟩
  split
  · simpa using fun err => hQ _
  · simpa using hQ _

theorem registerWorkConn_ordered {c conn : Nat}
    {Q : Option String → List (Lock × LockMode) → Prop} (hQ : ∀ r, Q r []) :
    (registerWorkConn env c conn).Ordered Lock.rank Q [] := by
  refine behindGate_ordered ?_ fun e g => ?_
  · simp only [Prog.ordered_bind, Prog.ordered_acquire, Prog.ordered_gets, Prog.ordered_release]
    refine ⟨by simp, fun s => ?_⟩
    split
    · exact hQ _
    · exact hQ _
  · simp only [Prog.ordered_bind, Prog.ordered_gets]
    intro s
    split
    · simp only [Prog.ordered_bind]
      exact locked_ordered (by simp [Lock.rank]) fun r => by simpa using hQ r
    · simpa using hQ _

theorem closeAll_ordered {now : Nat → Nat} (ctls : List Nat) :
    (closeAll env now ctls).Ordered Lock.rank (fun _ H => H = []) [] := by
  induction ctls with
  | nil => exact rfl
  | cons c ctls ih =>
    simp only [closeAll, Prog.ordered_bind]
    exact remove_ordered fun _ => close_ordered ih

theorem worker_ordered {c : Nat} {order : List Nat} {now : Nat} :
    (worker env c order now).Ordered Lock.rank (fun _ H => H = []) [] := by
  simp only [worker, Prog.ordered_bind, Prog.ordered_gets]
  intro s
  split
  · exact rfl
  · exact rfl
  · exact (Prog.ordered_bind ..).mpr (locked_ordered (by simp) fun _ => rfl)
  · exact (Prog.ordered_bind ..).mpr (locked_ordered (by simp) fun _ => rfl)
  · split
    · simp only [Prog.ordered_bind]
      exact remove_ordered fun _ => by simp
    · simp
  · simp

/-- Every method keeps the order and ends with nothing held. -/
theorem body_ordered (o : Op) : (body env o).Ordered Lock.rank (fun _ H => H = []) [] := by
  cases o with
  | add c => exact (Prog.ordered_bind ..).mpr (add_ordered fun _ => rfl)
  | activate c now => exact (Prog.ordered_bind ..).mpr (activate_ordered fun _ => rfl)
  | completeLogin c => exact (Prog.ordered_bind ..).mpr (completeLogin_ordered fun _ => rfl)
  | remove c now => exact (Prog.ordered_bind ..).mpr (remove_ordered fun _ => rfl)
  | getByID r => exact (Prog.ordered_bind ..).mpr (getByID_ordered fun _ => rfl)
  | admitVisitorByRunID r =>
    exact (Prog.ordered_bind ..).mpr (admitVisitorByRunID_ordered fun _ => rfl)
  | registerWorkConn c conn =>
    exact (Prog.ordered_bind ..).mpr (registerWorkConn_ordered fun _ => rfl)
  | cmClose order now =>
    simp only [body, cmClose, Prog.ordered_bind, Prog.ordered_acquire, Prog.ordered_modifyGet,
      Prog.ordered_release]
    exact ⟨by simp, fun s => closeAll_ordered _⟩
  | waitForHandoff c => exact waitForHandoff_ordered rfl
  | close c => exact close_ordered rfl
  | replaced c newCtl => exact replaced_ordered rfl
  | worker c order now => exact worker_ordered

end Ordered

/-- A goroutine that holds a lock waits only for locks that come later in the documented
order, and never holds two run gates or two `lifecycleMu`. So no goroutines wait for each
other in a circle, and every goroutine that waits for a lock can get it, by steps of the
goroutines that are already running, once the callbacks return. -/
theorem no_lock_deadlock {s : State} (h : (system env).Reachable s) :
    (∀ t l l', s.Holds t l → s.Waits t l' → l.rank < l'.rank) ∧
    (∀ t g g', s.Holds t (.runMu g) → s.Holds t (.runMu g') → g = g') ∧
    (∀ t c c', s.Holds t (.lifecycleMu c) → s.Holds t (.lifecycleMu c') → c = c') ∧
    (∀ t, ¬ Relation.TransGen s.WaitsFor t t) ∧
    ∀ t l, s.Waits t l →
      (system env).CanReach Locks.Action.Continues (fun s' => s'.Holds t l) s := by
  have hi : Locks.Inv Lock.rank s := Locks.inv_reachable body_ordered h
  refine ⟨fun t l l' => hi.rank_lt, fun t g g' hg hg' => ?_, fun t c c' hc hc' => ?_, hi.acyclic,
    fun t l hw => hi.acquires body_ordered hw⟩
  · exact Lock.runMu.inj (hi.eq_of_rank_eq hg hg' rfl)
  · exact Lock.lifecycleMu.inj (hi.eq_of_rank_eq hc hc' rfl)

/-- Every client logs in with the same session. -/
def oneRunEnv : Env where
  sess _ := Lifecycle.sampleSession
  check _ := none
  splitHostPort _ := none

/-- `Add` holds `cm.mu` and waits for the `lifecycleMu` of its control, `GetByID` waits
for `Add`. -/
theorem no_lock_deadlock_waiting :
    ∃ s, (system oneRunEnv).Reachable s ∧ s.Holds 0 .cmMu ∧ s.Waits 0 (.lifecycleMu 7) ∧
      s.WaitsFor 1 0 ∧ Lock.rank .cmMu < Lock.rank (.lifecycleMu 7) ∧
      ¬ Relation.TransGen s.WaitsFor 0 0 ∧
      (system oneRunEnv).CanReach Locks.Action.Continues (fun s' => s'.Holds 1 .cmMu) s := by
  obtain ⟨s, h, ht⟩ := System.reachable_of_run (S := system oneRunEnv)
    (l := .start 0 (.add 7) :: .start 1 (.getByID "run-a") :: List.replicate 7 (.step 0))
    (p := fun s => decide ((s.locks .cmMu).writer = .active 0 ∧
      (s.prog 0).wants = some (.lifecycleMu 7) ∧ (s.prog 1).wants = some .cmMu)) (by decide +kernel)
  obtain ⟨hw, h0, h1⟩ := of_decide_eq_true ht
  have h10 : s.WaitsFor 1 0 := Locks.State.waitsFor_of_active h1 hw
  obtain ⟨hrank, -, -, hcycle, hget⟩ := no_lock_deadlock h
  have hcm : s.Holds 0 .cmMu := ⟨.exclusive, hw⟩
  exact ⟨s, h, hcm, h0, h10, hrank 0 _ _ hcm h0, hcycle 0, hget 1 .cmMu h1⟩

end FrpXtcp.Server.ManagerLocks

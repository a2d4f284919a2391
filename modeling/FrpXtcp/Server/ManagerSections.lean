import FrpXtcp.Server.ManagerLocks

/-!
# The methods alone

A method that no other goroutine interferes with does what `ManagerCore` says of its
section: the programs of `ManagerLocks` cut the sections into statements and add the
locks, and change nothing else.
-/
namespace FrpXtcp.Server.ManagerLocks

open FrpXtcp.Lib

variable {env : Env} {r : Option String} {s : Core}

@[simp]
theorem locked_eval {α : Type} (c : Nat) (f : Core → α × Core) :
    (locked c f).eval r s = some (f s) := rfl

theorem visible?_eq_some {runID : String} {allowClosed : Bool} {e : Nat}
    (h : visible? runID allowClosed s = some e) :
    (s.closed = false ∨ allowClosed = true) ∧ s.ctlsByRunID.get? runID = some e := by
  simpa [visible?, or_iff_not_imp_left] using h

@[simp]
theorem lockCurrentRun_eval (runID : String) (allowClosed : Bool) :
    (lockCurrentRun runID allowClosed).eval r s =
      some ((visible? runID allowClosed s).map fun e => (e, (s.entries e).runMu), s) := by
  cases h : visible? runID allowClosed s with
  | none => simp [lockCurrentRun, h]
  | some e => simp [lockCurrentRun, h, Option.filter_some]

@[simp]
theorem registerWithControlID_eval (reg : Registry.Registration) (now : Nat) :
    (registerWithControlID reg now).eval r s =
      some ((Registry.registerWithControlID s.registry reg now).2.2,
        { s with registry := (Registry.registerWithControlID s.registry reg now).1 }) := by
  by_cases h : reg.runID = ""
  · simp [registerWithControlID, Registry.registerWithControlID, h]
  · simp [registerWithControlID, h]

section Add

/-- `Replaced` marks the old control once more. -/
def afterReplaced (s : Core) (c : Nat) : Core := s.setCtl c ((s.life c).ctl.markReplaced c).1

theorem addCurrent_eval (c : Nat) (e? : Option Nat) :
    (addCurrent env c (e?.map fun e => (e, (s.entries e).runMu))).eval r s =
      some ((s.admitEntry env c e?).2,
        if (s.admitEntry env c e?).2.isSome then (s.admitEntry env c e?).1
        else e?.elim (s.admitEntry env c e?).1 fun e =>
          afterReplaced (s.admitEntry env c e?).1 (s.entries e).ctl) := by
  unfold Core.admitEntry
  simp only [addCurrent, admitControl, Prog.eval_bind, Prog.eval_modifyGet, locked_eval,
    Option.bind_some]
  cases (s.life c).ctl.admitTo (env.runID c) (s.nextControlID + 1) with
  | error err => cases e? <;> rfl
  | ok ctl => cases e? <;> rfl

/-- `Add` on its own, with the second marking of the control that it replaces. -/
theorem add_eval {c : Nat} (hopen : s.closed = false) :
    (add env c).eval r s =
      let e? := s.ctlsByRunID.get? (env.runID c)
      let res := s.admitEntry env c e?
      some (res.2,
        if res.2.isSome then res.1
        else e?.elim res.1 fun e => afterReplaced res.1 (s.entries e).ctl) := by
  have hlock (old : Option (Nat × Nat)) : (lockOld old).eval r s = some ((), s) := by
    cases old <;> rfl
  dsimp only
  rw [← addCurrent_eval (r := r)]
  simp [add, hlock, hopen, Function.comp_def]

end Add

theorem activateLocked_eval {c e : Nat} (now : Nat) (hopen : s.closed = false)
    (hget : s.ctlsByRunID.get? (env.runID c) = some e) (ho : s.owns e c) :
    (activateLocked env c e now).eval r s =
      some ((s.activate env c e now).2, (s.activate env c e now).1) := by
  have hcurrent :
      ¬ (s.closed = true ∨ s.ctlsByRunID.get? (env.runID c) ≠ some e ∨ ¬ s.owns e c) := by
    simp [hopen, hget, ho]
  unfold Core.activate
  rw [if_neg hcurrent]
  simp only [activateLocked, Prog.eval_bind, Prog.eval_acquire, Prog.eval_gets, Option.bind_some]
  split
  · rfl
  split
  · rfl
  · simp only [activateOnline, Prog.eval_bind, Prog.eval_gets, registerWithControlID_eval,
      Option.bind_some]
    split
    · rfl
    · rfl

theorem activate_eval {c e : Nat} (now : Nat) (he : visible? (env.runID c) false s = some e) :
    (activate env c now).eval r s =
      some ((s.activate env c e now).2, (s.activate env c e now).1) := by
  obtain ⟨hopen, hget⟩ := visible?_eq_some he
  replace hopen : s.closed = false := by simpa using hopen
  by_cases ho : s.owns e c
  · simp [activate, he, hopen, hget, ho, activateLocked_eval now hopen hget ho]
  · simp [activate, Core.activate, he, ho]

theorem remove_eval {c e : Nat} (now : Nat) (he : visible? (env.runID c) true s = some e) :
    (remove env c now).eval r s = some ((s.remove env c e now).2, (s.remove env c e now).1) := by
  obtain ⟨-, hget⟩ := visible?_eq_some he
  simp only [remove, Prog.eval_bind, lockCurrentRun_eval, he, Option.map_some, Option.bind_some,
    Prog.eval_acquire, Prog.eval_gets]
  unfold Core.remove
  by_cases ho : s.owns e c
  · by_cases hon : (s.entries e).registryOnline = true
    · simp_all [markOfflineByRunIDAndControlID]
    · simp_all
  · simp_all

theorem getByID_eval {runID : String} {e : Nat} (he : visible? runID false s = some e) :
    (getByID runID).eval r s =
      some
        (if (s.life (s.entries e).ctl).ctl.state = .running then some (s.entries e).ctl else none,
          s) := by
  simp [getByID, he]

theorem registerWorkConn_eval {c e : Nat} (conn : Nat)
    (he : visible? (env.runID c) false s = some e) (ho : s.owns e c) :
    (registerWorkConn env c conn).eval r s =
      some (((s.life c).putConn (env.runID c) conn).2,
        s.setLife c ((s.life c).putConn (env.runID c) conn).1) := by
  simp [registerWorkConn, he, ho]

theorem completeLogin_eval {c e : Nat} (he : visible? (env.runID c) false s = some e)
    (ho : s.owns e c) (hp : (s.life c).ctl.state = .pending)
    (ha : (s.life c).ctl.activated = true) :
    (completeLogin env c).eval none s = some ((true, none), s.setLife c (s.life c).start) := by
  simp [completeLogin, completeLoginLocked, he, ho, hp, ha, Control.startLocked]

theorem close_eval (c : Nat) :
    (close c).eval r s = some ((), s.setCtl c (s.life c).ctl.close) := by
  simp [close, interruptReadAndClose]

end FrpXtcp.Server.ManagerLocks

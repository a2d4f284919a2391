import Mathlib.Data.List.Perm.Basic
import FrpXtcp.Lib.Transition

/-!
# The controls of a client service

`Service.Run` (`client/service.go`) logs in, starts `keepControllerWorking` and waits for the end
of its context; `keepControllerWorking` waits for the end of the control it finds and logs in
again. Both log in through `loopLoginUntilSuccess`, which installs the new control under `ctlMu`,
and `stop` closes the installed one under the same lock. The other reads of `svr.ctl` take no
lock. A control ends when its connection does, also on its own.
-/
namespace FrpXtcp.Client.ServiceRuns

open FrpXtcp.Lib
open scoped List

/-- `loopLoginUntilSuccess`: at the head of the loop in `BackoffUntil`, in `Dial`, with a session,
with a new control, with a control that runs, in the wait for the ticker, or done. -/
inductive LoginPc where
  | top
  | dialing
  | dialed
  | made (ctl : Nat)
  | ran (ctl : Nat)
  | resting
  | returned
  deriving DecidableEq

/-- `Run`. In `stop` it holds `ctlMu` first as long as a graceful close of the control takes, and
then with `svr.ctl` set to nil. -/
inductive MainPc where
  | login (l : LoginPc)
  | spawning
  | waiting
  | stopping (failed : Bool)
  | locked (failed : Bool)
  | cleared (failed : Bool)
  | returned (failed : Bool)
  deriving DecidableEq

/-- `keepControllerWorking`: before its first read of `svr.ctl`, waiting for a control, at the head
of its loop, in a login, past the nil test on `svr.ctl`, waiting for the new control, in the wait
for the ticker, at its end, or dereferencing nil. -/
inductive KeepPc where
  | idle
  | starting
  | watching (ctl : Nat)
  | head
  | login (l : LoginPc)
  | found
  | guarding (ctl : Nat)
  | resting
  | ended
  | panicked
  deriving DecidableEq

structure State where
  /-- The context of the service. -/
  cancelled : Bool
  ctl : Option Nat
  /-- Controls are numbered as they are made. -/
  nextCtl : Nat
  /-- The controls whose `Done` channel is closed. -/
  done : List Nat
  /-- The controls that the service has closed, the last one first. -/
  closed : List Nat
  main : MainPc
  keep : KeepPc
  deriving DecidableEq

inductive LoginAct where
  | check
  | dial (ok : Bool)
  | newControl (ok : Bool)
  | run
  | install
  | wake
  | stopped
  deriving DecidableEq

inductive Action where
  | mainLogin (a : LoginAct)
  | keepLogin (a : LoginAct)
  /-- The next statement of `Run`, outside the login. -/
  | main
  /-- The next statement of `keepControllerWorking`, outside the login. -/
  | keep
  /-- The wait of its loop ends because the context has. -/
  | keepStopped
  /-- `Close` or `GracefulClose`. -/
  | cancel
  | finish (ctl : Nat)
  deriving DecidableEq

def MainPc.holdsLock : MainPc → Bool
  | .locked _ | .cleared _ => true
  | _ => false

/-- `stop` has set `svr.ctl` to nil. -/
def MainPc.stopped : MainPc → Bool
  | .cleared _ | .returned _ => true
  | _ => false

/-- `close and replace previous control`, or the end of it in `stop`. -/
def State.setCtl (s : State) (ctl : Option Nat) : State :=
  { s with ctl := ctl, closed := s.ctl.toList ++ s.closed }

/-- A step of the login; `exits` is `firstLoginExit`. -/
def loginStep (exits : Bool) (s : State) : LoginPc → LoginAct → Option (State × LoginPc)
  | .top, .check => some (s, if s.cancelled then .returned else .dialing)
  | .dialing, .dial true => some (s, .dialed)
  | .dialing, .dial false => some ({ s with cancelled := s.cancelled || exits }, .resting)
  | .dialed, .newControl true => some ({ s with nextCtl := s.nextCtl + 1 }, .made s.nextCtl)
  | .dialed, .newControl false => some (s, .resting)
  | .made k, .run => some (s, .ran k)
  | .ran k, .install => if s.main.holdsLock then none else some (s.setCtl (some k), .returned)
  | .resting, .wake => some (s, .top)
  | .resting, .stopped => if s.cancelled then some (s, .returned) else none
  | _, _ => none

def mainStep (s : State) : Option State :=
  match s.main with
  | .login .returned =>
    some { s with main := if s.ctl = none then .stopping true else .spawning }
  | .spawning => some { s with main := .waiting, keep := .starting }
  | .waiting => if s.cancelled then some { s with main := .stopping false } else none
  | .stopping failed => some { s with main := .locked failed }
  | .locked failed => some { s.setCtl none with main := .cleared failed }
  | .cleared failed => some { s with main := .returned failed }
  | _ => none

/-- `<-svr.ctl.Done()`, up to the wait: there is no such channel behind a nil pointer. -/
def awaitDone (ctl : Option Nat) (wait : Nat → KeepPc) : KeepPc :=
  match ctl with
  | none => .panicked
  | some k => wait k

def keepStep (s : State) : Option State :=
  match s.keep with
  | .starting => some { s with keep := awaitDone s.ctl .watching }
  | .watching k => if k ∈ s.done then some { s with keep := .head } else none
  | .head => some { s with keep := if s.cancelled then .ended else .login .top }
  | .login .returned => some { s with keep := if s.ctl = none then .resting else .found }
  | .found => some { s with keep := awaitDone s.ctl .guarding }
  | .guarding k => if k ∈ s.done then some { s with keep := .resting } else none
  | .resting => some { s with keep := .head }
  | _ => none

/-- `loginFailExit` is that of the configuration. -/
def step (loginFailExit : Bool) (s : State) : Action → Option State
  | .mainLogin a =>
    match s.main with
    | .login l => (loginStep loginFailExit s l a).map fun p => { p.1 with main := .login p.2 }
    | _ => none
  | .keepLogin a =>
    match s.keep with
    | .login l => (loginStep false s l a).map fun p => { p.1 with keep := .login p.2 }
    | _ => none
  | .main => mainStep s
  | .keep => keepStep s
  | .keepStopped =>
    if s.keep = .resting ∧ s.cancelled then some { s with keep := .ended } else none
  | .cancel => some { s with cancelled := true }
  | .finish k =>
    -- The worker that closes `Done` is started by the control's `Run`.
    if k < s.nextCtl ∧ k ∉ s.done ∧ s.main ≠ .login (.made k) ∧ s.keep ≠ .login (.made k) then
      some { s with done := k :: s.done }
    else none

def init : State := ⟨false, none, 0, [], [], .login .top, .idle⟩

def system (loginFailExit : Bool) : System State Action := ⟨init, step loginFailExit⟩

/-! ## What a step does -/

section Moves

variable {exits : Bool} {s s' : State}

inductive LoginMove (exits : Bool) (s : State) : LoginPc → State → LoginPc → Prop
  | gaveUp (h : s.cancelled = true) : LoginMove exits s .top s .returned
  | dials (h : s.cancelled = false) : LoginMove exits s .top s .dialing
  | dialFailed :
    LoginMove exits s .dialing { s with cancelled := s.cancelled || exits } .resting
  | dialed : LoginMove exits s .dialing s .dialed
  | controlFailed : LoginMove exits s .dialed s .resting
  | made : LoginMove exits s .dialed { s with nextCtl := s.nextCtl + 1 } (.made s.nextCtl)
  | ran (k : Nat) : LoginMove exits s (.made k) s (.ran k)
  | installed (k : Nat) (h : s.main.holdsLock = false) :
    LoginMove exits s (.ran k) (s.setCtl (some k)) .returned
  | woke : LoginMove exits s .resting s .top
  | stopped (h : s.cancelled = true) : LoginMove exits s .resting s .returned

theorem loginStep_move {l l' : LoginPc} {a : LoginAct} (h : loginStep exits s l a = some (s', l')) :
    LoginMove exits s l s' l' := by
  unfold loginStep at h
  split at h
  · obtain ⟨rfl, rfl⟩ := Prod.mk.inj (Option.some.inj h)
    by_cases hc : s.cancelled = true
    · rw [if_pos hc]
      exact .gaveUp hc
    · rw [if_neg hc]
      exact .dials (Bool.eq_false_iff.mpr hc)
  · obtain ⟨rfl, rfl⟩ := Prod.mk.inj (Option.some.inj h)
    exact .dialed
  · obtain ⟨rfl, rfl⟩ := Prod.mk.inj (Option.some.inj h)
    exact .dialFailed
  · obtain ⟨rfl, rfl⟩ := Prod.mk.inj (Option.some.inj h)
    exact .made
  · obtain ⟨rfl, rfl⟩ := Prod.mk.inj (Option.some.inj h)
    exact .controlFailed
  · obtain ⟨rfl, rfl⟩ := Prod.mk.inj (Option.some.inj h)
    exact .ran _
  · split at h
    · cases h
    · obtain ⟨rfl, rfl⟩ := Prod.mk.inj (Option.some.inj h)
      exact .installed _ (Bool.eq_false_iff.mpr ‹_›)
  · obtain ⟨rfl, rfl⟩ := Prod.mk.inj (Option.some.inj h)
    exact .woke
  · split at h
    · obtain ⟨rfl, rfl⟩ := Prod.mk.inj (Option.some.inj h)
      exact .stopped ‹_›
    · cases h
  · cases h

inductive Move (loginFailExit : Bool) (s : State) : State → Prop
  | mainLogin {l l' : LoginPc} {t : State} (hm : s.main = .login l)
      (h : LoginMove loginFailExit s l t l') : Move loginFailExit s { t with main := .login l' }
  | keepLogin {l l' : LoginPc} {t : State} (hk : s.keep = .login l)
      (h : LoginMove false s l t l') : Move loginFailExit s { t with keep := .login l' }
  | failed (hm : s.main = .login .returned) (hc : s.ctl = none) :
      Move loginFailExit s { s with main := .stopping true }
  | logged (hm : s.main = .login .returned) (hc : s.ctl ≠ none) :
      Move loginFailExit s { s with main := .spawning }
  | spawned (hm : s.main = .spawning) :
      Move loginFailExit s { s with main := .waiting, keep := .starting }
  | stops (hm : s.main = .waiting) (hc : s.cancelled = true) :
      Move loginFailExit s { s with main := .stopping false }
  | locks {failed : Bool} (hm : s.main = .stopping failed) :
      Move loginFailExit s { s with main := .locked failed }
  | clears {failed : Bool} (hm : s.main = .locked failed) :
      Move loginFailExit s { s.setCtl none with main := .cleared failed }
  | returns {failed : Bool} (hm : s.main = .cleared failed) :
      Move loginFailExit s { s with main := .returned failed }
  | panics (hk : s.keep = .starting ∨ s.keep = .found) (hc : s.ctl = none) :
      Move loginFailExit s { s with keep := .panicked }
  | watches {k : Nat} (hk : s.keep = .starting) (hc : s.ctl = some k) :
      Move loginFailExit s { s with keep := .watching k }
  | watched {k : Nat} (hk : s.keep = .watching k) (hd : k ∈ s.done) :
      Move loginFailExit s { s with keep := .head }
  | ends (hk : s.keep = .head ∨ s.keep = .resting) (hc : s.cancelled = true) :
      Move loginFailExit s { s with keep := .ended }
  | again (hk : s.keep = .head) (hc : s.cancelled = false) :
      Move loginFailExit s { s with keep := .login .top }
  | misses (hk : s.keep = .login .returned) (hc : s.ctl = none) :
      Move loginFailExit s { s with keep := .resting }
  | finds (hk : s.keep = .login .returned) (hc : s.ctl ≠ none) :
      Move loginFailExit s { s with keep := .found }
  | guards {k : Nat} (hk : s.keep = .found) (hc : s.ctl = some k) :
      Move loginFailExit s { s with keep := .guarding k }
  | guarded {k : Nat} (hk : s.keep = .guarding k) (hd : k ∈ s.done) :
      Move loginFailExit s { s with keep := .resting }
  | wakes (hk : s.keep = .resting) : Move loginFailExit s { s with keep := .head }
  | cancels : Move loginFailExit s { s with cancelled := true }
  | finishes (k : Nat) (hk : k < s.nextCtl) : Move loginFailExit s { s with done := k :: s.done }

theorem mainStep_move (h : mainStep s = some s') : Move exits s s' := by
  unfold mainStep at h
  split at h
  · obtain rfl := Option.some.inj h
    by_cases hc : s.ctl = none
    · rw [if_pos hc]
      exact .failed ‹_› hc
    · rw [if_neg hc]
      exact .logged ‹_› hc
  · obtain rfl := Option.some.inj h
    exact .spawned ‹_›
  · split at h
    · obtain rfl := Option.some.inj h
      exact .stops ‹_› ‹_›
    · cases h
  · obtain rfl := Option.some.inj h
    exact .locks ‹_›
  · obtain rfl := Option.some.inj h
    exact .clears ‹_›
  · obtain rfl := Option.some.inj h
    exact .returns ‹_›
  · cases h

theorem keepStep_move (h : keepStep s = some s') : Move exits s s' := by
  unfold keepStep at h
  split at h
  · obtain rfl := Option.some.inj h
    rcases s.ctl.eq_none_or_eq_some with hc | ⟨k, hc⟩
    · rw [show awaitDone s.ctl .watching = .panicked by rw [hc]; rfl]
      exact .panics (.inl ‹_›) hc
    · rw [show awaitDone s.ctl .watching = .watching k by rw [hc]; rfl]
      exact .watches ‹_› hc
  · split at h
    · obtain rfl := Option.some.inj h
      exact .watched ‹_› ‹_›
    · cases h
  · obtain rfl := Option.some.inj h
    by_cases hc : s.cancelled = true
    · rw [if_pos hc]
      exact .ends (.inl ‹_›) hc
    · rw [if_neg hc]
      exact .again ‹_› (Bool.eq_false_iff.mpr hc)
  · obtain rfl := Option.some.inj h
    by_cases hc : s.ctl = none
    · rw [if_pos hc]
      exact .misses ‹_› hc
    · rw [if_neg hc]
      exact .finds ‹_› hc
  · obtain rfl := Option.some.inj h
    rcases s.ctl.eq_none_or_eq_some with hc | ⟨k, hc⟩
    · rw [show awaitDone s.ctl .guarding = .panicked by rw [hc]; rfl]
      exact .panics (.inr ‹_›) hc
    · rw [show awaitDone s.ctl .guarding = .guarding k by rw [hc]; rfl]
      exact .guards ‹_› hc
  · split at h
    · obtain rfl := Option.some.inj h
      exact .guarded ‹_› ‹_›
    · cases h
  · obtain rfl := Option.some.inj h
    exact .wakes ‹_›
  · cases h

theorem step_move {a : Action} (h : step exits s a = some s') : Move exits s s' := by
  cases a with
  | mainLogin a =>
    simp only [step] at h
    split at h
    · obtain ⟨p, hp, rfl⟩ := Option.map_eq_some_iff.mp h
      exact .mainLogin ‹_› (loginStep_move hp)
    · cases h
  | keepLogin a =>
    simp only [step] at h
    split at h
    · obtain ⟨p, hp, rfl⟩ := Option.map_eq_some_iff.mp h
      exact .keepLogin ‹_› (loginStep_move hp)
    · cases h
  | main => exact mainStep_move h
  | keep => exact keepStep_move h
  | keepStopped =>
    simp only [step] at h
    split at h
    · rename_i hk
      obtain rfl := Option.some.inj h
      exact .ends (.inr hk.1) hk.2
    · cases h
  | cancel =>
    obtain rfl := Option.some.inj h
    exact .cancels
  | finish k =>
    simp only [step] at h
    split at h
    · rename_i hk
      obtain rfl := Option.some.inj h
      exact .finishes k hk.1
    · cases h

end Moves

/-! ## One control at a time -/

/-- The control that a login has made and not yet installed. -/
def LoginPc.flight : LoginPc → Option Nat
  | .made k | .ran k => some k
  | _ => none

def MainPc.flight : MainPc → Option Nat
  | .login l => l.flight
  | _ => none

def KeepPc.flight : KeepPc → Option Nat
  | .login l => l.flight
  | _ => none

/-- Every control has ended. -/
def Quiet (s : State) : Prop := ∀ k < s.nextCtl, k ∈ s.done

/-- What holds of a login that starts in the state of all its controls being over. -/
def LoginOk (s : State) : LoginPc → Prop
  | .made k | .ran k => k + 1 = s.nextCtl
  | .returned => True
  | _ => Quiet s

def MainOk (s : State) : MainPc → Prop
  | .login l =>
    s.keep = .idle ∧ (l.flight = none → s.ctl = none → s.nextCtl = 0) ∧
      (l = .returned → s.ctl = none → s.cancelled = true) ∧ (l ≠ .returned → s.ctl = none) ∧
      LoginOk s l
  | .spawning => s.keep = .idle ∧ s.ctl ≠ none
  | .waiting => s.keep ≠ .idle ∧ s.ctl ≠ none
  | .stopping failed | .locked failed =>
    s.cancelled = true ∧ (failed = true → s.keep = .idle) ∧ (failed = false → s.ctl ≠ none)
  | .cleared _ | .returned _ => s.cancelled = true

def KeepOk (s : State) : KeepPc → Prop
  | .watching k | .guarding k => k + 1 = s.nextCtl
  | .head | .resting => Quiet s ∨ s.cancelled = true
  | .login l => LoginOk s l
  | .ended => s.cancelled = true
  | .panicked => s.main.stopped = true
  | _ => True

/-- The controls that a login has made and not yet installed. -/
def State.flight (s : State) : List Nat := s.main.flight.toList ++ s.keep.flight.toList

structure Inv (s : State) : Prop where
  placed : List.range s.nextCtl ~ s.flight ++ s.ctl.toList ++ s.closed
  older : ∀ k, k + 1 < s.nextCtl → k ∈ s.done
  newest : ∀ k, s.ctl = some k → s.flight = [] → k + 1 = s.nextCtl
  ended : ∀ k ∈ s.done, k < s.nextCtl
  main : MainOk s s.main
  keep : KeepOk s s.keep

variable {loginFailExit : Bool} {s s' : State}

theorem inv_init : Inv init := by
  constructor
  · exact .refl _
  · intro k hk
    exact absurd hk (Nat.not_lt_zero _)
  · intro k hk
    cases hk
  · intro k hk
    cases hk
  · refine ⟨rfl, fun _ _ => rfl, ?_, fun _ => rfl, ?_⟩
    · intro h
      cases h
    · intro k hk
      exact absurd hk (Nat.not_lt_zero _)
  · trivial

/-- `keepControllerWorking` runs only after the first login. -/
theorem Inv.main_flight (hi : Inv s) (hk : s.keep ≠ .idle) : s.main.flight = none := by
  have hm := hi.main
  cases hpc : s.main with
  | login l =>
    rw [hpc] at hm
    exact absurd hm.1 hk
  | _ => rfl

/-- `svr.ctl` is nil before the first login and once `stop` has set it so, and at no other
time. -/
theorem Inv.stopped (hi : Inv s) (hk : s.keep ≠ .idle) (hc : s.ctl = none) :
    s.main.stopped = true := by
  have hm := hi.main
  cases hpc : s.main with
  | login l =>
    rw [hpc] at hm
    exact absurd hm.1 hk
  | spawning =>
    rw [hpc] at hm
    exact absurd hm.1 hk
  | waiting =>
    rw [hpc] at hm
    exact absurd hc hm.2
  | stopping failed =>
    rw [hpc] at hm
    cases failed with
    | false => exact absurd hc (hm.2.2 rfl)
    | true => exact absurd (hm.2.1 rfl) hk
  | locked failed =>
    rw [hpc] at hm
    cases failed with
    | false => exact absurd hc (hm.2.2 rfl)
    | true => exact absurd (hm.2.1 rfl) hk
  | cleared failed => rfl
  | returned failed => rfl

theorem Inv.cancelled (hi : Inv s) (hs : s.main.stopped = true) : s.cancelled = true := by
  have hmain := hi.main
  cases hpc : s.main with
  | cleared failed =>
    rw [hpc] at hmain
    exact hmain
  | returned failed =>
    rw [hpc] at hmain
    exact hmain
  | _ =>
    rw [hpc] at hs
    cases hs

/-- Outside a login, `keepControllerWorking` reads the newest control. -/
theorem Inv.last (hi : Inv s) {k : Nat} (hk : s.keep ≠ .idle) (hf : s.keep.flight = none)
    (hc : s.ctl = some k) : k + 1 = s.nextCtl := by
  apply hi.newest k hc
  rw [State.flight, hi.main_flight hk, hf]
  rfl

/-- What a step does to the controls. -/
inductive Change (s s' : State) : Prop
  | still (flight : s'.flight = s.flight) (ctl : s'.ctl = s.ctl) (closed : s'.closed = s.closed)
      (nextCtl : s'.nextCtl = s.nextCtl) (done : ∀ k ∈ s.done, k ∈ s'.done)
  | made (quiet : Quiet s) (before : s.flight = []) (flight : s'.flight = [s.nextCtl])
      (ctl : s'.ctl = s.ctl) (closed : s'.closed = s.closed)
      (nextCtl : s'.nextCtl = s.nextCtl + 1) (done : s'.done = s.done)
  | installed {k : Nat} (newest : k + 1 = s.nextCtl) (before : s.flight = [k])
      (flight : s'.flight = []) (ctl : s'.ctl = some k)
      (closed : s'.closed = s.ctl.toList ++ s.closed) (nextCtl : s'.nextCtl = s.nextCtl)
      (done : s'.done = s.done)
  | stopped (flight : s'.flight = s.flight) (ctl : s'.ctl = none)
      (closed : s'.closed = s.ctl.toList ++ s.closed) (nextCtl : s'.nextCtl = s.nextCtl)
      (done : s'.done = s.done)

theorem Move.change (h : Move loginFailExit s s') (hi : Inv s) : Change s s' := by
  -- Only the two logins and `stop` do anything to the controls.
  have hrest : ∀ {t : State}, t.flight = s.flight → t.ctl = s.ctl → t.closed = s.closed →
      t.nextCtl = s.nextCtl → t.done = s.done → Change s t :=
    fun hf hc hcl hn hd => .still hf hc hcl hn fun k hk => hd ▸ hk
  have hmain := hi.main
  have hkeep := hi.keep
  cases h with
  | mainLogin hm h =>
    rw [hm] at hmain
    cases h with
    | made =>
      refine .made hmain.2.2.2.2 ?_ ?_ rfl rfl rfl rfl
      · simp [State.flight, hm, hmain.1, MainPc.flight, LoginPc.flight, KeepPc.flight]
      · simp [State.flight, hmain.1, MainPc.flight, LoginPc.flight, KeepPc.flight]
    | installed k hl =>
      refine .installed hmain.2.2.2.2 ?_ ?_ rfl rfl rfl rfl
      · simp [State.flight, hm, hmain.1, MainPc.flight, LoginPc.flight, KeepPc.flight]
      · simp [State.flight, State.setCtl, hmain.1, MainPc.flight, LoginPc.flight, KeepPc.flight]
    | _ =>
      refine hrest ?_ rfl rfl rfl rfl
      simp [State.flight, hm, MainPc.flight, LoginPc.flight]
  | keepLogin hk h =>
    rw [hk] at hkeep
    have hflight := hi.main_flight (by rw [hk]; simp)
    cases h with
    | made =>
      refine .made hkeep ?_ ?_ rfl rfl rfl rfl
      · simp [State.flight, hk, hflight, LoginPc.flight, KeepPc.flight]
      · simp [State.flight, hflight, LoginPc.flight, KeepPc.flight]
    | installed k hl =>
      refine .installed hkeep ?_ ?_ rfl rfl rfl rfl
      · simp [State.flight, hk, hflight, LoginPc.flight, KeepPc.flight]
      · simp [State.flight, State.setCtl, hflight, LoginPc.flight, KeepPc.flight]
    | _ =>
      refine hrest ?_ rfl rfl rfl rfl
      simp [State.flight, hk, KeepPc.flight, LoginPc.flight]
  | clears hm =>
    refine .stopped ?_ rfl rfl rfl rfl
    simp [State.flight, State.setCtl, hm, MainPc.flight]
  | spawned hm =>
    rw [hm] at hmain
    refine hrest ?_ rfl rfl rfl rfl
    simp [State.flight, hm, hmain.1, MainPc.flight, KeepPc.flight]
  | panics hk hc =>
    refine hrest ?_ rfl rfl rfl rfl
    rcases hk with hk | hk <;> simp [State.flight, hk, KeepPc.flight]
  | ends hk hc =>
    refine hrest ?_ rfl rfl rfl rfl
    rcases hk with hk | hk <;> simp [State.flight, hk, KeepPc.flight]
  | finishes k hk => exact .still rfl rfl rfl rfl fun j hj => List.mem_cons_of_mem _ hj
  | cancels => exact hrest rfl rfl rfl rfl rfl
  | _ =>
    refine hrest ?_ rfl rfl rfl rfl
    simp_all [State.flight, MainPc.flight, KeepPc.flight, LoginPc.flight]

theorem Change.placed (h : Change s s') (hi : Inv s) :
    List.range s'.nextCtl ~ s'.flight ++ s'.ctl.toList ++ s'.closed := by
  have hplaced := hi.placed
  cases h with
  | still flight ctl closed nextCtl done => rwa [flight, ctl, closed, nextCtl]
  | made quiet before flight ctl closed nextCtl done =>
    rw [before] at hplaced
    rw [flight, ctl, closed, nextCtl, List.range_succ]
    exact (List.perm_append_singleton _ _).trans (hplaced.cons _)
  | installed newest before flight ctl closed nextCtl done =>
    rw [before] at hplaced
    rw [flight, ctl, closed, nextCtl]
    exact hplaced
  | stopped flight ctl closed nextCtl done =>
    rw [flight, ctl, closed, nextCtl, Option.toList_none, List.append_nil, ← List.append_assoc]
    exact hplaced

theorem Change.older (h : Change s s') (hi : Inv s) : ∀ k, k + 1 < s'.nextCtl → k ∈ s'.done := by
  have holder := hi.older
  intro k hk
  cases h with
  | still flight ctl closed nextCtl done => exact done k (holder k (nextCtl ▸ hk))
  | made quiet before flight ctl closed nextCtl done =>
    rw [done]
    exact quiet k (by omega)
  | installed newest before flight ctl closed nextCtl done =>
    rw [done]
    exact holder k (nextCtl ▸ hk)
  | stopped flight ctl closed nextCtl done =>
    rw [done]
    exact holder k (nextCtl ▸ hk)

theorem Change.newest (h : Change s s') (hi : Inv s) :
    ∀ k, s'.ctl = some k → s'.flight = [] → k + 1 = s'.nextCtl := by
  intro k hk hflight
  cases h with
  | still flight ctl closed nextCtl done =>
    rw [nextCtl]
    exact hi.newest k (ctl ▸ hk) (flight ▸ hflight)
  | made quiet before flight ctl closed nextCtl done =>
    rw [flight] at hflight
    cases hflight
  | installed newest before flight ctl closed nextCtl done =>
    rw [ctl] at hk
    obtain rfl := Option.some.inj hk
    rw [nextCtl]
    exact newest
  | stopped flight ctl closed nextCtl done =>
    rw [ctl] at hk
    cases hk

theorem Inv.quiet {k : Nat} (hi : Inv s) (hk : k + 1 = s.nextCtl) (hd : k ∈ s.done) :
    Quiet s := by
  intro j hj
  by_cases hjk : j = k
  · rw [hjk]
    exact hd
  · exact hi.older j (by omega)

theorem Move.ended (h : Move loginFailExit s s') (hi : Inv s) : ∀ k ∈ s'.done, k < s'.nextCtl := by
  have hended := hi.ended
  cases h with
  | mainLogin hm h =>
    cases h with
    | made => exact fun k hk => Nat.lt_succ_of_lt (hended k hk)
    | _ => exact hended
  | keepLogin hk h =>
    cases h with
    | made => exact fun k hk => Nat.lt_succ_of_lt (hended k hk)
    | _ => exact hended
  | finishes k hk =>
    intro j hj
    rcases List.mem_cons.mp hj with rfl | hj
    · exact hk
    · exact hended j hj
  | _ => exact hended

/-- Time passes: nothing is undone and no control is made. -/
structure Later (s s' : State) : Prop where
  nextCtl : s'.nextCtl = s.nextCtl
  done : ∀ k ∈ s.done, k ∈ s'.done
  cancelled : s.cancelled = true → s'.cancelled = true
  stopped : s.main.stopped = true → s'.main.stopped = true

theorem Quiet.later (h : Quiet s) (hl : Later s s') : Quiet s' := by
  intro k hk
  rw [hl.nextCtl] at hk
  exact hl.done k (h k hk)

theorem LoginOk.later {l : LoginPc} (h : LoginOk s l) (hl : Later s s') : LoginOk s' l := by
  cases l with
  | made k => exact h.trans hl.nextCtl.symm
  | ran k => exact h.trans hl.nextCtl.symm
  | returned => trivial
  | _ => exact Quiet.later h hl

theorem KeepOk.later {pc : KeepPc} (h : KeepOk s pc) (hl : Later s s') : KeepOk s' pc := by
  cases pc with
  | watching k => exact h.trans hl.nextCtl.symm
  | guarding k => exact h.trans hl.nextCtl.symm
  | head => exact h.imp (·.later hl) hl.cancelled
  | resting => exact h.imp (·.later hl) hl.cancelled
  | login l => exact LoginOk.later h hl
  | ended => exact hl.cancelled h
  | panicked => exact hl.stopped h
  | _ => trivial

theorem LoginMove.keep {exits : Bool} {l l' : LoginPc} (h : LoginMove exits s l s' l') :
    s'.keep = s.keep := by
  cases h <;> rfl

theorem Move.keepOk (h : Move loginFailExit s s') (hi : Inv s) : KeepOk s' s'.keep := by
  have hmain := hi.main
  have hkeep := hi.keep
  -- A step of `Run` that leaves `svr.ctl` changes nothing that the other goroutine relies on.
  have hother : ∀ pc : MainPc, (s.main.stopped = true → pc.stopped = true) →
      KeepOk { s with main := pc } s.keep := fun pc hm =>
    hkeep.later ⟨rfl, fun _ hk => hk, fun hc => hc, hm⟩
  cases h with
  | mainLogin hm h =>
    rw [hm] at hmain
    rw [show State.keep _ = s.keep from h.keep, hmain.1]
    trivial
  | keepLogin hk h =>
    rw [hk] at hkeep
    cases h with
    | gaveUp hc => trivial
    | made => rfl
    | installed k hl => trivial
    | stopped hc => trivial
    | _ => exact hkeep
  | failed hm hc => exact hother _ (by simp [hm, MainPc.stopped])
  | logged hm hc => exact hother _ (by simp [hm, MainPc.stopped])
  | spawned hm => trivial
  | stops hm hc => exact hother _ (by simp [hm, MainPc.stopped])
  | locks hm => exact hother _ (by simp [hm, MainPc.stopped])
  | clears hm => exact hkeep.later ⟨rfl, fun _ hk => hk, fun hc => hc, fun _ => rfl⟩
  | returns hm => exact hother _ fun _ => rfl
  | panics hk hc => exact hi.stopped (by rcases hk with hk | hk <;> simp [hk]) hc
  | watches hk hc => exact hi.last (by simp [hk]) (by simp [hk, KeepPc.flight]) hc
  | watched hk hd =>
    rw [hk] at hkeep
    have hquiet : Quiet s := hi.quiet hkeep hd
    exact .inl hquiet
  | ends hk hc => exact hc
  | again hk hc =>
    rw [hk] at hkeep
    exact hkeep.resolve_right (by simp [hc])
  | misses hk hc => exact .inr (hi.cancelled (hi.stopped (by simp [hk]) hc))
  | finds hk hc => trivial
  | guards hk hc => exact hi.last (by simp [hk]) (by simp [hk, KeepPc.flight]) hc
  | guarded hk hd =>
    rw [hk] at hkeep
    have hquiet : Quiet s := hi.quiet hkeep hd
    exact .inl hquiet
  | wakes hk =>
    rw [hk] at hkeep
    exact hkeep
  | cancels => exact hkeep.later ⟨rfl, fun _ hk => hk, fun _ => rfl, fun hs => hs⟩
  | finishes k hk =>
    exact hkeep.later ⟨rfl, fun _ hd => List.mem_cons_of_mem _ hd, fun hc => hc, fun hs => hs⟩

theorem MainOk.later {pc : MainPc} (h : MainOk s pc) (hl : Later s s') (hk : s'.keep = s.keep)
    (hc : s'.ctl = s.ctl) : MainOk s' pc := by
  cases pc with
  | login l =>
    obtain ⟨hidle, hzero, hgave, hnone, hok⟩ := h
    refine ⟨hk.trans hidle, ?_, ?_, fun hl => hc.trans (hnone hl), hok.later hl⟩
    · intro hf hn
      exact hl.nextCtl.trans (hzero hf (hc.symm.trans hn))
    · intro hr hn
      exact hl.cancelled (hgave hr (hc.symm.trans hn))
  | spawning => exact ⟨hk.trans h.1, hc ▸ h.2⟩
  | waiting => exact ⟨hk ▸ h.1, hc ▸ h.2⟩
  | stopping failed => exact ⟨hl.cancelled h.1, hk ▸ h.2.1, hc ▸ h.2.2⟩
  | locked failed => exact ⟨hl.cancelled h.1, hk ▸ h.2.1, hc ▸ h.2.2⟩
  | cleared failed => exact hl.cancelled h
  | returned failed => exact hl.cancelled h

/-- A step of `keepControllerWorking`. -/
theorem MainOk.keeps (h : MainOk s s.main) (hk : s.keep ≠ .idle) (hm : s'.main = s.main)
    (hk' : s'.keep ≠ .idle) (hc : s.ctl ≠ none → s'.ctl ≠ none)
    (hcancel : s.cancelled = true → s'.cancelled = true) : MainOk s' s'.main := by
  rw [hm]
  cases hpc : s.main with
  | login l =>
    rw [hpc] at h
    exact absurd h.1 hk
  | spawning =>
    rw [hpc] at h
    exact absurd h.1 hk
  | waiting =>
    rw [hpc] at h
    exact ⟨hk', hc h.2⟩
  | stopping failed =>
    rw [hpc] at h
    exact ⟨hcancel h.1, fun hf => absurd (h.2.1 hf) hk, fun hf => hc (h.2.2 hf)⟩
  | locked failed =>
    rw [hpc] at h
    exact ⟨hcancel h.1, fun hf => absurd (h.2.1 hf) hk, fun hf => hc (h.2.2 hf)⟩
  | cleared failed =>
    rw [hpc] at h
    exact hcancel h
  | returned failed =>
    rw [hpc] at h
    exact hcancel h

theorem Move.mainOk (h : Move loginFailExit s s') (hi : Inv s) : MainOk s' s'.main := by
  have hmain := hi.main
  -- A step of the other goroutine that leaves `svr.ctl` and the context as they are.
  have hother : ∀ pc : KeepPc, s.keep ≠ .idle → pc ≠ .idle → MainOk { s with keep := pc } s.main :=
    fun pc hk hpc => hmain.keeps hk rfl hpc (fun hc => hc) fun hc => hc
  cases h with
  | mainLogin hm h =>
    rw [hm] at hmain
    obtain ⟨hidle, hzero, hgave, hnone, hok⟩ := hmain
    cases h with
    | gaveUp hc => exact ⟨hidle, hzero, fun _ _ => hc, fun hne => absurd rfl hne, trivial⟩
    | stopped hc => exact ⟨hidle, hzero, fun _ _ => hc, fun hne => absurd rfl hne, trivial⟩
    | made =>
      exact ⟨hidle, fun hf => by simp [LoginPc.flight] at hf, fun hr => by simp at hr,
        fun _ => hnone (by simp), rfl⟩
    | ran k =>
      exact ⟨hidle, fun hf => by simp [LoginPc.flight] at hf, fun hr => by simp at hr,
        fun _ => hnone (by simp), hok⟩
    | installed k hl =>
      have hsome : ∀ {p : Prop}, some k = none → p := fun hc => by cases hc
      exact ⟨hidle, fun _ hc => hsome hc, fun _ hc => hsome hc, fun hne => absurd rfl hne, trivial⟩
    | _ => exact ⟨hidle, hzero, fun hr => by simp at hr, fun _ => hnone (by simp), hok⟩
  | keepLogin hk h =>
    have hne : s.keep ≠ .idle := by simp [hk]
    cases h with
    | installed k hl =>
      exact hmain.keeps hne rfl (by simp) (fun _ hc => by cases hc) fun hc => hc
    | dialFailed => exact hmain.keeps hne rfl (by simp) (fun hc => hc) fun hc => by simp [hc]
    | _ => exact hmain.keeps hne rfl (by simp) (fun hc => hc) fun hc => hc
  | failed hm hc =>
    rw [hm] at hmain
    exact ⟨hmain.2.2.1 rfl hc, fun _ => hmain.1, fun hf => absurd hf (by decide)⟩
  | logged hm hc =>
    rw [hm] at hmain
    exact ⟨hmain.1, hc⟩
  | spawned hm =>
    rw [hm] at hmain
    exact ⟨by simp, hmain.2⟩
  | stops hm hc =>
    rw [hm] at hmain
    exact ⟨hc, fun hf => absurd hf (by decide), fun _ => hmain.2⟩
  | locks hm =>
    rw [hm] at hmain
    exact hmain
  | clears hm =>
    rw [hm] at hmain
    exact hmain.1
  | returns hm =>
    rw [hm] at hmain
    exact hmain
  | panics hk hc => exact hother _ (by rcases hk with hk | hk <;> simp [hk]) (by simp)
  | watches hk hc => exact hother _ (by simp [hk]) (by simp)
  | watched hk hd => exact hother _ (by simp [hk]) (by simp)
  | ends hk hc => exact hother _ (by rcases hk with hk | hk <;> simp [hk]) (by simp)
  | again hk hc => exact hother _ (by simp [hk]) (by simp)
  | misses hk hc => exact hother _ (by simp [hk]) (by simp)
  | finds hk hc => exact hother _ (by simp [hk]) (by simp)
  | guards hk hc => exact hother _ (by simp [hk]) (by simp)
  | guarded hk hd => exact hother _ (by simp [hk]) (by simp)
  | wakes hk => exact hother _ (by simp [hk]) (by simp)
  | cancels =>
    exact hmain.later ⟨rfl, fun _ hk => hk, fun _ => rfl, fun hs => hs⟩ rfl rfl
  | finishes k hk =>
    exact hmain.later
      ⟨rfl, fun _ hd => List.mem_cons_of_mem _ hd, fun hc => hc, fun hs => hs⟩ rfl rfl

theorem Move.inv (h : Move loginFailExit s s') (hi : Inv s) : Inv s' :=
  ⟨(h.change hi).placed hi, (h.change hi).older hi, (h.change hi).newest hi, h.ended hi,
    h.mainOk hi, h.keepOk hi⟩

theorem reachable_inv (h : (system loginFailExit).Reachable s) : Inv s :=
  System.invariant (S := system loginFailExit) inv_init
    (fun _ _ _ _ hi hs => (step_move hs).inv hi) h

/-- Each control that was ever made is in exactly one place: held by the login that made it,
installed, or closed, once. No two of them are alive at a time: the service logs in only after
the last control has ended. `svr.ctl` is dereferenced as nil only once `stop` has set it so. -/
theorem one_control_at_a_time (h : (system loginFailExit).Reachable s) :
    (List.range s.nextCtl ~ s.flight ++ s.ctl.toList ++ s.closed) ∧
      (∀ j k, j < s.nextCtl → k < s.nextCtl → j ∉ s.done → k ∉ s.done → j = k) ∧
      (s.keep = .panicked → s.main.stopped = true ∧ s.cancelled = true) := by
  have hi := reachable_inv h
  refine ⟨hi.placed, ?_, ?_⟩
  · intro j k hj hk hjd hkd
    have hlast : ∀ i, i < s.nextCtl → i ∉ s.done → i + 1 = s.nextCtl := by
      intro i hlt hid
      by_cases hil : i + 1 < s.nextCtl
      · exact absurd (hi.older i hil) hid
      · omega
    have hj' := hlast j hj hjd
    have hk' := hlast k hk hkd
    omega
  · intro hp
    have hkeep := hi.keep
    rw [hp] at hkeep
    exact ⟨hkeep, hi.cancelled hkeep⟩

/-- A login that dials before the end of the context installs its control after `stop`. -/
def lateLogin : List Action :=
  [.mainLogin .check, .mainLogin (.dial true), .mainLogin (.newControl true), .mainLogin .run,
    .mainLogin .install, .main, .main, .keep, .finish 0, .keep, .keep, .keepLogin .check, .cancel,
    .main, .main, .main, .main, .keepLogin (.dial true), .keepLogin (.newControl true),
    .keepLogin .run, .keepLogin .install, .keep, .keep]

theorem one_control_at_a_time_late :
    ∃ s, (system true).Reachable s ∧ s.main = .returned false ∧ s.keep = .guarding 1 ∧
      s.ctl = some 1 ∧ s.closed = [0] ∧
      List.range s.nextCtl ~ s.flight ++ s.ctl.toList ++ s.closed := by
  obtain ⟨s, hr, hp⟩ := System.reachable_of_run (S := system true) (l := lateLogin)
    (p := fun s => decide (s.main = .returned false ∧ s.keep = .guarding 1 ∧ s.ctl = some 1 ∧
      s.closed = [0])) (by decide +kernel)
  obtain ⟨hmain, hkeep, hctl, hclosed⟩ := of_decide_eq_true hp
  exact ⟨s, hr, hmain, hkeep, hctl, hclosed, (one_control_at_a_time hr).1⟩

/-! ## The end of the service -/

/-- `svr.ctl` is set to nil next. -/
def MainPc.clears : MainPc → Bool
  | .locked _ => true
  | _ => false

/-- In a login, past the last look at the context. -/
def KeepPc.logging : KeepPc → Bool
  | .login .dialing | .login .dialed | .login (.made _) | .login (.ran _) => true
  | _ => false

/-- `stop` does not set `svr.ctl` to nil during a login. -/
def Calm (s : State) (a : Action) : Prop :=
  a = .main → s.main.clears = true → s.keep.logging = false

instance (s : State) (a : Action) : Decidable (Calm s a) :=
  inferInstanceAs (Decidable (_ → _ → _))

/-- Nothing is left of the service, and nothing will be. -/
def Over (s : State) : Prop :=
  s.main.stopped = true → s.ctl = none ∧ s.keep.logging = false ∧ s.cancelled = true

theorem LoginMove.main {exits : Bool} {l l' : LoginPc} (h : LoginMove exits s l s' l') :
    s'.main = s.main := by
  cases h <;> rfl

theorem keepStep_main (h : keepStep s = some s') : s'.main = s.main := by
  have hkeep : ∀ {pc : KeepPc}, some { s with keep := pc } = some s' → s'.main = s.main := by
    intro pc hs
    obtain rfl := Option.some.inj hs
    rfl
  unfold keepStep at h
  split at h
  · exact hkeep h
  · split at h
    · exact hkeep h
    · cases h
  · exact hkeep h
  · exact hkeep h
  · exact hkeep h
  · split at h
    · exact hkeep h
    · cases h
  · exact hkeep h
  · cases h

/-- Where `stop` holds the lock, `Run` is moved on by its own step alone. -/
theorem action_of_locked {a : Action} {failed : Bool} (hm : s.main = .locked failed)
    (hs : step loginFailExit s a = some s') (hne : s'.main ≠ s.main) : a = .main := by
  cases a with
  | mainLogin b => simp [step, hm] at hs
  | keepLogin b =>
    simp only [step] at hs
    split at hs
    · obtain ⟨p, hp, rfl⟩ := Option.map_eq_some_iff.mp hs
      exact absurd (loginStep_move hp).main hne
    · cases hs
  | main => rfl
  | keep => exact absurd (keepStep_main hs) hne
  | keepStopped =>
    simp only [step] at hs
    split at hs
    · obtain rfl := Option.some.inj hs
      exact absurd rfl hne
    · cases hs
  | cancel =>
    obtain rfl := Option.some.inj hs
    exact absurd rfl hne
  | finish k =>
    simp only [step] at hs
    split at hs
    · obtain rfl := Option.some.inj hs
      exact absurd rfl hne
    · cases hs

theorem Over.step {a : Action} (h : Over s) (hi : Inv s) (hc : Calm s a)
    (hs : step loginFailExit s a = some s') : Over s' := by
  intro hm'
  have hmain := hi.main
  have hother : ∀ pc : KeepPc, pc.logging = false → s.main.stopped = true →
      s.ctl = none ∧ pc.logging = false ∧ s.cancelled = true :=
    fun pc hpc hm => ⟨(h hm).1, hpc, (h hm).2.2⟩
  cases step_move hs with
  | clears hm =>
    have ha := action_of_locked hm hs (by simp [hm])
    rw [hm] at hmain
    exact ⟨rfl, hc ha (by simp [hm, MainPc.clears]), hmain.1⟩
  | returns hm => exact h (by simp [hm, MainPc.stopped])
  | mainLogin hm hl => cases hm'
  | failed hm hn => cases hm'
  | logged hm hn => cases hm'
  | spawned hm => cases hm'
  | stops hm hn => cases hm'
  | locks hm => cases hm'
  | keepLogin hk hl =>
    have hm : s.main.stopped = true := hl.main ▸ hm'
    obtain ⟨hctl, hlog, hcancel⟩ := h hm
    rw [hk] at hlog
    cases hl with
    | gaveUp _ => exact ⟨hctl, rfl, hcancel⟩
    | woke => exact ⟨hctl, rfl, hcancel⟩
    | stopped _ => exact ⟨hctl, rfl, hcancel⟩
    | dials hn =>
      rw [hcancel] at hn
      cases hn
    | _ => cases hlog
  | cancels => exact ⟨(h hm').1, (h hm').2.1, rfl⟩
  | finishes k hk => exact h hm'
  | _ => exact hother _ rfl hm'

/-- If `stop` does not fall into a login, then after `Run` has returned every control has been
closed, exactly once, and none is installed, now or later. -/
theorem stop_closes_every_control (h : (system loginFailExit).ReachableBy Calm s) {failed : Bool}
    (hm : s.main = .returned failed) : s.ctl = none ∧ List.range s.nextCtl ~ s.closed := by
  have hover : Over s := by
    refine System.invariant_by (S := system loginFailExit) ?_ ?_ h
    · intro hm
      cases hm
    · intro s a s' hr ho hc hs
      exact ho.step (reachable_inv hr.reachable) hc hs
  obtain ⟨hctl, hlog, -⟩ := hover (by rw [hm]; rfl)
  have hplaced := (reachable_inv h.reachable).placed
  have hkeep : s.keep.flight = none := by
    cases hpc : s.keep with
    | login l =>
      rw [hpc] at hlog
      cases l with
      | made k => cases hlog
      | ran k => cases hlog
      | _ => rfl
    | _ => rfl
  rw [State.flight, hm, hkeep, hctl] at hplaced
  exact ⟨hctl, hplaced⟩

/-- A reconnect, and the end while the second control is up. -/
def reconnectAndStop : List Action :=
  [.mainLogin .check, .mainLogin (.dial true), .mainLogin (.newControl true), .mainLogin .run,
    .mainLogin .install, .main, .main, .keep, .finish 0, .keep, .keep, .keepLogin .check,
    .keepLogin (.dial true), .keepLogin (.newControl true), .keepLogin .run, .keepLogin .install,
    .keep, .keep, .cancel, .main, .main, .main, .main]

theorem stop_closes_every_control_reconnected :
    ∃ s, (system true).ReachableBy Calm s ∧ s.main = .returned false ∧ s.nextCtl = 2 ∧
      s.ctl = none ∧ List.range s.nextCtl ~ s.closed := by
  obtain ⟨s, hr, hp⟩ := System.reachableBy_of_run (S := system true) (C := Calm)
    (l := reconnectAndStop) (p := fun s => decide (s.main = .returned false ∧ s.nextCtl = 2))
    (by decide +kernel) (by decide +kernel)
  obtain ⟨hmain, hnext⟩ := of_decide_eq_true hp
  exact ⟨s, hr, hmain, hnext, stop_closes_every_control hr hmain⟩

/-! ## Coming back -/

/-- The steps of `keepControllerWorking` while the server answers. -/
def Reconnects (a : Action) : Prop :=
  a ∈ [.keep, .keepLogin .check, .keepLogin (.dial true), .keepLogin (.newControl true),
    .keepLogin .run, .keepLogin .install, .keepLogin .wake]

/-- A control is installed and has not ended. -/
def Connected (s : State) : Prop := ∃ k, s.ctl = some k ∧ k ∉ s.done

/-- The service runs, past its first login. -/
structure Working (s : State) : Prop where
  inv : Inv s
  main : s.main = .waiting
  running : s.cancelled = false

/-- How far the next login is from its end; a control that has already ended makes one more
round necessary. -/
def KeepPc.distance (done : List Nat) : KeepPc → Nat
  | .login (.made k) => if k ∈ done then 12 else 2
  | .login (.ran k) => if k ∈ done then 11 else 1
  | .login .returned => 10
  | .found => 9
  | .starting | .guarding _ => 8
  | .watching _ | .resting => 7
  | .head | .login .resting => 6
  | .login .top => 5
  | .login .dialing => 4
  | .login .dialed => 3
  | _ => 0

def State.distance (s : State) : Nat :=
  if s.ctl.any fun k => k ∉ s.done then 0 else s.keep.distance s.done

theorem distance_le (s : State) : s.distance ≤ s.keep.distance s.done := by
  unfold State.distance
  split
  · exact Nat.zero_le _
  · exact Nat.le_refl _

theorem distance_of_connected (h : Connected s) : s.distance = 0 := by
  obtain ⟨k, hk, hd⟩ := h
  rw [State.distance, if_pos]
  simp [hk, hd]

theorem distance_of_not_connected (h : ¬ Connected s) : s.distance = s.keep.distance s.done := by
  rw [State.distance, if_neg]
  intro hany
  cases hk : s.ctl with
  | none =>
    rw [hk] at hany
    cases hany
  | some k =>
    rw [hk] at hany
    exact h ⟨k, hk, of_decide_eq_true hany⟩

/-- The control that `keepControllerWorking` has read is the installed one. -/
theorem Working.ctl_eq (hw : Working s) {k : Nat} (hk : k + 1 = s.nextCtl)
    (hf : s.keep.flight = none) (hne : s.keep ≠ .idle) : s.ctl = some k := by
  have hmain := hw.inv.main
  rw [hw.main] at hmain
  cases hc : s.ctl with
  | none => exact absurd hc hmain.2
  | some j =>
    have hj := hw.inv.last hne hf hc
    rw [show j = k by omega]

theorem Working.next (hw : Working s) :
    Connected s ∨ ∃ a s', Reconnects a ∧ step loginFailExit s a = some s' ∧ Working s' ∧
      s'.distance < s.distance := by
  by_cases hconn : Connected s
  · exact .inl hconn
  have hmain := hw.inv.main
  have hkeep := hw.inv.keep
  rw [hw.main] at hmain
  obtain ⟨hne, hctl⟩ := hmain
  obtain ⟨c, hc⟩ := Option.ne_none_iff_exists'.mp hctl
  have hended : c ∈ s.done := by
    by_contra hd
    exact hconn ⟨c, hc, hd⟩
  have hfar := distance_of_not_connected hconn
  have hgo : ∀ (a : Action) (t : State), Reconnects a → step loginFailExit s a = some t →
      t.main = s.main → t.cancelled = s.cancelled → t.distance < s.distance →
      Connected s ∨ ∃ a s', Reconnects a ∧ step loginFailExit s a = some s' ∧ Working s' ∧
        s'.distance < s.distance := by
    intro a t ha hs hm hcan hd
    have hwt : Working t :=
      ⟨(step_move hs).inv hw.inv, hm.trans hw.main, hcan.trans hw.running⟩
    exact .inr ⟨a, t, ha, hs, hwt, hd⟩
  have hnear : ∀ t : State, t.keep.distance t.done < s.keep.distance s.done →
      t.distance < s.distance := by
    intro t hlt
    rw [hfar]
    exact Nat.lt_of_le_of_lt (distance_le t) hlt
  have hmove : ∀ (a : Action) (pc : KeepPc), Reconnects a →
      step loginFailExit s a = some { s with keep := pc } →
      pc.distance s.done < s.keep.distance s.done →
      Connected s ∨ ∃ a s', Reconnects a ∧ step loginFailExit s a = some s' ∧ Working s' ∧
        s'.distance < s.distance :=
    fun a pc ha hs hlt => hgo a _ ha hs rfl rfl (hnear _ hlt)
  -- The control it waits for is the installed one, and that has ended.
  have hover : ∀ k, k + 1 = s.nextCtl → s.keep.flight = none → k ∈ s.done := by
    intro k hk hf
    have hk' := hw.ctl_eq hk hf hne
    rw [hc] at hk'
    obtain rfl := Option.some.inj hk'
    exact hended
  cases hpc : s.keep with
  | idle => exact absurd hpc hne
  | starting =>
    exact hmove .keep (.watching c) (by simp [Reconnects])
      (by simp [step, keepStep, hpc, hc, awaitDone]) (by simp [hpc, KeepPc.distance])
  | watching k =>
    rw [hpc] at hkeep
    have hd := hover k hkeep (by simp [hpc, KeepPc.flight])
    exact hmove .keep .head (by simp [Reconnects]) (by simp [step, keepStep, hpc, hd])
      (by simp [hpc, KeepPc.distance])
  | head =>
    exact hmove .keep (.login .top) (by simp [Reconnects])
      (by simp [step, keepStep, hpc, hw.running]) (by simp [hpc, KeepPc.distance])
  | login l =>
    cases l with
    | top =>
      exact hmove (.keepLogin .check) (.login .dialing) (by simp [Reconnects])
        (by simp [step, loginStep, hpc, hw.running]) (by simp [hpc, KeepPc.distance])
    | dialing =>
      exact hmove (.keepLogin (.dial true)) (.login .dialed) (by simp [Reconnects])
        (by simp [step, loginStep, hpc]) (by simp [hpc, KeepPc.distance])
    | dialed =>
      have hfresh : s.nextCtl ∉ s.done := fun hd => Nat.lt_irrefl _ (hw.inv.ended _ hd)
      apply hgo (.keepLogin (.newControl true))
        { s with nextCtl := s.nextCtl + 1, keep := .login (.made s.nextCtl) } (by simp [Reconnects])
      · simp [step, loginStep, hpc]
      · rfl
      · rfl
      · exact hnear _ (by simp [hpc, KeepPc.distance, hfresh])
    | made k =>
      apply hmove (.keepLogin .run) (.login (.ran k)) (by simp [Reconnects])
      · simp [step, loginStep, hpc]
      · by_cases hd : k ∈ s.done <;> simp [hpc, KeepPc.distance, hd]
    | ran k =>
      apply hgo (.keepLogin .install) { s.setCtl (some k) with keep := .login .returned }
        (by simp [Reconnects])
      · simp [step, loginStep, hpc, hw.main, MainPc.holdsLock]
      · rfl
      · rfl
      · by_cases hd : k ∈ s.done
        · exact hnear _ (by simp [hpc, KeepPc.distance, hd])
        · have hdone : Connected { s.setCtl (some k) with keep := .login .returned } :=
            ⟨k, rfl, hd⟩
          rw [distance_of_connected hdone, hfar]
          simp [hpc, KeepPc.distance, hd]
    | resting =>
      exact hmove (.keepLogin .wake) (.login .top) (by simp [Reconnects])
        (by simp [step, loginStep, hpc]) (by simp [hpc, KeepPc.distance])
    | returned =>
      exact hmove .keep .found (by simp [Reconnects]) (by simp [step, keepStep, hpc, hctl])
        (by simp [hpc, KeepPc.distance])
  | found =>
    exact hmove .keep (.guarding c) (by simp [Reconnects])
      (by simp [step, keepStep, hpc, hc, awaitDone]) (by simp [hpc, KeepPc.distance])
  | guarding k =>
    rw [hpc] at hkeep
    have hd := hover k hkeep (by simp [hpc, KeepPc.flight])
    exact hmove .keep .resting (by simp [Reconnects]) (by simp [step, keepStep, hpc, hd])
      (by simp [hpc, KeepPc.distance])
  | resting =>
    exact hmove .keep .head (by simp [Reconnects]) (by simp [step, keepStep, hpc])
      (by simp [hpc, KeepPc.distance])
  | ended =>
    rw [hpc] at hkeep
    have hcancelled : s.cancelled = true := hkeep
    rw [hw.running] at hcancelled
    cases hcancelled
  | panicked =>
    rw [hpc, KeepOk, hw.main] at hkeep
    cases hkeep

/-- While its context lasts the service can always come back: from every state in which `Run`
waits, the steps of `keepControllerWorking` alone lead to a control that is up, if the server
answers. -/
theorem can_reconnect (h : (system loginFailExit).Reachable s) (hm : s.main = .waiting)
    (hc : s.cancelled = false) : (system loginFailExit).CanReach Reconnects Connected s :=
  System.canReach_of_measure (S := system loginFailExit) (I := Working) State.distance
    (fun _ hw => hw.next) ⟨reachable_inv h, hm, hc⟩

/-- The second control ends before it is installed. -/
def endsEarly : List Action :=
  [.mainLogin .check, .mainLogin (.dial true), .mainLogin (.newControl true), .mainLogin .run,
    .mainLogin .install, .main, .main, .keep, .finish 0, .keep, .keep, .keepLogin .check,
    .keepLogin (.dial false), .keepLogin .wake, .keepLogin .check, .keepLogin (.dial true),
    .keepLogin (.newControl true), .keepLogin .run, .finish 1]

theorem can_reconnect_ends_early :
    ∃ s, (system true).Reachable s ∧ s.keep = .login (.ran 1) ∧ s.done = [1, 0] ∧
      (system true).CanReach Reconnects Connected s := by
  obtain ⟨s, hr, hp⟩ := System.reachable_of_run (S := system true) (l := endsEarly)
    (p := fun s => decide (s.keep = .login (.ran 1) ∧ s.done = [1, 0] ∧ s.main = .waiting ∧
      s.cancelled = false)) (by decide +kernel)
  obtain ⟨hkeep, hdone, hmain, hrunning⟩ := of_decide_eq_true hp
  exact ⟨s, hr, hkeep, hdone, can_reconnect hr hmain hrunning⟩

end FrpXtcp.Client.ServiceRuns

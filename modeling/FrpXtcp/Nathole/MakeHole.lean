import Mathlib.Logic.Function.Basic
import FrpXtcp.Lib.Transition

/-!
# The result hand-over of `MakeHole`

The last part of `MakeHole` (`pkg/nathole/nathole.go`) on `n` listening sockets: the
main goroutine starts one waiter per socket and then selects on the unbuffered
`resultCh`, a timer and the context. A waiter whose `waitDetectMessage` succeeded
sends without blocking, so its result is taken only if the main goroutine is parked
in that select at this very moment. A schedule keeps every success exactly when no
successful waiter reaches its send while waiters are still being started, and neither the
timer nor the context comes between a success and its send.
-/
namespace FrpXtcp.Nathole.MakeHole

open FrpXtcp.Lib

universe u

/-- A socket, by its index in `listenConns`, with the peer's address, or the error. -/
abbrev Result (Addr : Type u) := Except String (Nat × Addr)

/-- `spawning i` is the loop before its `i`-th turn; at the number of sockets the
loop is over and the select is evaluated next. -/
inductive MainPc (Addr : Type u) where
  | spawning (i : Nat)
  | parked
  | returned (r : Result Addr)

/-- A waiter: inside `waitDetectMessage`, before its send, and the three ways to end. -/
inductive WaiterPc (Addr : Type u) where
  | unspawned
  | detecting
  | detected (raddr : Addr)
  | delivered (raddr : Addr)
  | discarded (raddr : Addr)
  | failed

structure State (Addr : Type u) where
  main : MainPc Addr
  waiters : Nat → WaiterPc Addr
  cancelled : Bool
  /-- `lConn.Close()` was called on the socket. -/
  closed : Nat → Bool

inductive Action (Addr : Type u) where
  | main
  | cancel
  | timeout
  | detect (i : Nat) (raddr : Addr)
  | detectErr (i : Nat)
  | send (i : Nat)

variable {Addr : Type u}

def init : State Addr := ⟨.spawning 0, fun _ => .unspawned, false, fun _ => false⟩

def errTimeout : String := "wait detect message timeout"
def errCanceled : String := "wait detect message canceled"

/-- The select of a successful waiter: hand the result over, or close the socket. -/
def trySend (s : State Addr) (i : Nat) (raddr : Addr) : State Addr :=
  match s.main with
  | .parked =>
    { s with
      main := .returned (.ok (i, raddr))
      waiters := Function.update s.waiters i (.delivered raddr) }
  | _ =>
    { s with
      waiters := Function.update s.waiters i (.discarded raddr)
      closed := Function.update s.closed i true }

def step (n : Nat) (s : State Addr) : Action Addr → Option (State Addr)
  | .main =>
    match s.main with
    | .spawning i =>
      if i < n then
        some { s with
          main := .spawning (i + 1)
          waiters := Function.update s.waiters i .detecting }
      else if s.cancelled then some { s with main := .returned (.error errCanceled) }
      else some { s with main := .parked }
    | _ => none
  | .cancel =>
    match s.main with
    | .parked => some { s with cancelled := true, main := .returned (.error errCanceled) }
    | _ => some { s with cancelled := true }
  | .timeout =>
    match s.main with
    | .parked => some { s with main := .returned (.error errTimeout) }
    | _ => none
  | .detect i raddr =>
    match s.waiters i with
    | .detecting => some { s with waiters := Function.update s.waiters i (.detected raddr) }
    | _ => none
  | .detectErr i =>
    match s.waiters i with
    | .detecting =>
      some { s with
        waiters := Function.update s.waiters i .failed
        closed := Function.update s.closed i true }
    | _ => none
  | .send i =>
    match s.waiters i with
    | .detected raddr => some (trySend s i raddr)
    | _ => none

def system (n : Nat) : System (State Addr) (Action Addr) := ⟨init, step n⟩

def MainPc.isReturned : MainPc Addr → Prop
  | .returned _ => True
  | _ => False

/-- The main goroutine has its result, has timed out, or the context is cancelled. -/
def Over (s : State Addr) : Prop := s.main.isReturned ∨ s.cancelled = true

/-- The step is not a send that falls into the default branch, which closes the
socket of a successful waiter, before the main goroutine is done. -/
def NotDropped (n : Nat) (s : State Addr) (a : Action Addr) : Prop :=
  ∀ i raddr s', a = .send i → s.waiters i = .detected raddr → step n s a = some s' →
    s'.waiters i = .discarded raddr → Over s

/-- The result of waiter `i` was taken and its socket is the one returned. -/
def Took (i : Nat) (raddr : Addr) (s : State Addr) : Prop :=
  s.main = .returned (.ok (i, raddr)) ∧ s.waiters i = .delivered raddr ∧ s.closed i = false

/-- Some waiter has succeeded and not yet sent. -/
def Pending (s : State Addr) : Prop := ∃ i raddr, s.waiters i = .detected raddr

/-- `MakeHole` has returned an open socket with the address of its peer, or a success is about
to be sent and the main goroutine is not done. -/
def Kept (s : State Addr) : Prop := (∃ i raddr, Took i raddr s) ∨ (Pending s ∧ ¬ Over s)

/-- After a waiter's success before timeout and cancellation every state keeps it, and so does
the last one, where all successful waiters have sent. -/
def ReturnsSuccess (n : Nat) (as : List (Action Addr)) : Prop :=
  ∀ pre post rest i raddr s s', as = pre ++ .detect i raddr :: (post ++ rest) →
    (system n).run init pre = some s → ¬ Over s →
    (system n).run s (.detect i raddr :: post) = some s' → Kept s'

/-- A successful waiter does not send while waiters are still being started, and the main
goroutine does not give up while a successful waiter has yet to send. -/
def Undisturbed (s : State Addr) : Action Addr → Prop
  | .send i => ∀ raddr, s.waiters i = .detected raddr → s.main = .parked ∨ Over s
  | .timeout => s.main = .parked → ¬ Pending s
  | .cancel => Pending s → Over s
  | _ => True

/-- A send is dropped exactly if the main goroutine is still starting waiters. -/
theorem notDropped_send_iff (n : Nat) (s : State Addr) (i : Nat) :
    NotDropped n s (.send i) ↔ Undisturbed s (.send i) := by
  constructor
  · intro h raddr hw
    cases hm : s.main with
    | parked => exact Or.inl rfl
    | returned r => exact Or.inr (Or.inl (by simp [hm, MainPc.isReturned]))
    | spawning k =>
      refine Or.inr (h i raddr (trySend s i raddr) rfl hw ?_ ?_)
      · simp [step, hw]
      · simp [trySend, hm]
  · rintro h j raddr s' hj hw hs hd
    cases hj
    rcases h raddr hw with hm | ho
    · simp only [step, hw, trySend, hm, Option.some.injEq] at hs
      subst hs
      simp at hd
    · exact ho

theorem Undisturbed.notDropped {n : Nat} {s : State Addr} {a : Action Addr}
    (h : Undisturbed s a) : NotDropped n s a := by
  cases a with
  | send i => exact (notDropped_send_iff n s i).mpr h
  | _ =>
    intro i raddr s' ha
    cases ha

/-- What a step does. -/
inductive Move (n : Nat) (s : State Addr) : Action Addr → State Addr → Prop
  | spawned {i : Nat} : s.main = .spawning i → i < n → Move n s .main { s with
      main := .spawning (i + 1), waiters := Function.update s.waiters i .detecting }
  | parks {i : Nat} : s.main = .spawning i → s.cancelled = false →
      Move n s .main { s with main := .parked }
  | givesUp {i : Nat} : s.main = .spawning i → s.cancelled = true →
      Move n s .main { s with main := .returned (.error errCanceled) }
  | wakes : s.main = .parked →
      Move n s .cancel { s with cancelled := true, main := .returned (.error errCanceled) }
  | cancels : s.main ≠ .parked → Move n s .cancel { s with cancelled := true }
  | timedOut : s.main = .parked →
      Move n s .timeout { s with main := .returned (.error errTimeout) }
  | detected {i : Nat} {raddr : Addr} : s.waiters i = .detecting → Move n s (.detect i raddr)
      { s with waiters := Function.update s.waiters i (.detected raddr) }
  | failed {i : Nat} : s.waiters i = .detecting → Move n s (.detectErr i) { s with
      waiters := Function.update s.waiters i .failed, closed := Function.update s.closed i true }
  | sent {i : Nat} {raddr : Addr} : s.waiters i = .detected raddr → s.main = .parked →
      Move n s (.send i) { s with
        main := .returned (.ok (i, raddr))
        waiters := Function.update s.waiters i (.delivered raddr) }
  | dropped {i : Nat} {raddr : Addr} : s.waiters i = .detected raddr → s.main ≠ .parked →
      Move n s (.send i) { s with
        waiters := Function.update s.waiters i (.discarded raddr)
        closed := Function.update s.closed i true }

variable {n : Nat} {s s' : State Addr} {a : Action Addr} {as : List (Action Addr)} {i : Nat}
  {raddr : Addr}

theorem step_move (h : step n s a = some s') : Move n s a s' := by
  cases a with
  | main =>
    simp only [step] at h
    split at h
    · rename_i i hm
      split_ifs at h with hi hc
      · cases h
        exact .spawned hm hi
      · cases h
        exact .givesUp hm hc
      · cases h
        exact .parks hm (by simpa using hc)
    · cases h
  | cancel =>
    simp only [step] at h
    split at h
    · cases h
      exact .wakes ‹_›
    · cases h
      exact .cancels ‹_›
  | timeout =>
    simp only [step] at h
    split at h
    · cases h
      exact .timedOut ‹_›
    · cases h
  | detect i raddr =>
    simp only [step] at h
    split at h
    · cases h
      exact .detected ‹_›
    · cases h
  | detectErr i =>
    simp only [step] at h
    split at h
    · cases h
      exact .failed ‹_›
    · cases h
  | send i =>
    simp only [step] at h
    split at h
    · rename_i raddr hw
      cases h
      unfold trySend
      split
      · exact .sent hw ‹_›
      · exact .dropped hw ‹_›
    · cases h

/-- A closed socket belongs to a waiter that has ended without handing over a result. -/
structure Inv (s : State Addr) : Prop where
  parked : s.main = .parked → s.cancelled = false
  unspawned : ∀ k i, s.main = .spawning k → k ≤ i → s.waiters i = .unspawned
  closed : ∀ i, s.closed i = true → s.waiters i = .failed ∨ ∃ raddr, s.waiters i = .discarded raddr

theorem inv_init : Inv (init : State Addr) :=
  ⟨fun _ => rfl, fun _ _ _ _ => rfl, fun _ h => by cases h⟩

/-- A started waiter is not one of those still to be started. -/
theorem Inv.update_waiter {w : WaiterPc Addr} (h : Inv s) (hi : s.waiters i ≠ .unspawned)
    (hc : s.closed i = false) : Inv { s with waiters := Function.update s.waiters i w } := by
  refine ⟨h.parked, ?_, ?_⟩
  · intro k j hk hkj
    have hu := h.unspawned k j hk hkj
    have hji : j ≠ i := fun he => hi (he ▸ hu)
    simpa [hji] using hu
  · intro j hj
    have hji : j ≠ i := by rintro rfl; rw [hc] at hj; cases hj
    simpa [hji] using h.closed j hj

theorem Inv.close_waiter {w : WaiterPc Addr} (h : Inv s) (hi : s.waiters i ≠ .unspawned)
    (hw : w = .failed ∨ ∃ raddr, w = .discarded raddr) :
    Inv { s with
      waiters := Function.update s.waiters i w
      closed := Function.update s.closed i true } := by
  refine ⟨h.parked, ?_, ?_⟩
  · intro k j hk hkj
    have hu := h.unspawned k j hk hkj
    have hji : j ≠ i := fun he => hi (he ▸ hu)
    simpa [hji] using hu
  · intro j hj
    by_cases hji : j = i
    · subst hji
      simpa using hw
    · simp only [Function.update_of_ne hji] at hj ⊢
      exact h.closed j hj

theorem Inv.open_of (h : Inv s) (hf : s.waiters i ≠ .failed)
    (hd : ∀ raddr, s.waiters i ≠ .discarded raddr) : s.closed i = false := by
  cases hc : s.closed i with
  | false => rfl
  | true =>
    rcases h.closed i hc with h1 | ⟨raddr, h1⟩
    · exact absurd h1 hf
    · exact absurd h1 (hd raddr)

theorem Inv.open_of_detected (h : Inv s) (hw : s.waiters i = .detected raddr) :
    s.closed i = false := h.open_of (by simp [hw]) (by simp [hw])

/-- A main goroutine that is not in its loop says nothing about the waiters. -/
theorem Inv.set_main {main : MainPc Addr} {cancelled : Bool} (h : Inv s)
    (hs : ∀ k, main ≠ .spawning k) (hp : main = .parked → cancelled = false) :
    Inv { s with main := main, cancelled := cancelled } :=
  ⟨hp, fun k _ hk => absurd hk (hs k), h.closed⟩

theorem inv_step (h : Inv s) (hs : step n s a = some s') : Inv s' := by
  cases step_move hs with
  | spawned hm hi =>
    rename_i i
    have hu := h.unspawned i i hm (Nat.le_refl i)
    refine ⟨fun hp => by simp at hp, ?_, ?_⟩
    · intro k j hk hkj
      simp only [MainPc.spawning.injEq] at hk
      have hji : j ≠ i := by omega
      simpa [hji] using h.unspawned i j hm (by omega)
    · intro j hj
      have hji : j ≠ i := by
        rintro rfl
        have := h.closed j hj
        simp [hu] at this
      simpa [hji] using h.closed j hj
  | parks _ hc => exact h.set_main (by simp) fun _ => hc
  | givesUp => exact h.set_main (by simp) (by simp)
  | wakes => exact h.set_main (by simp) (by simp)
  | cancels hm => exact ⟨fun hp => absurd hp hm, h.unspawned, h.closed⟩
  | timedOut => exact h.set_main (by simp) (by simp)
  | detected hw => exact h.update_waiter (by simp [hw]) (h.open_of (by simp [hw]) (by simp [hw]))
  | failed hw => exact h.close_waiter (by simp [hw]) (Or.inl rfl)
  | sent hw =>
    exact (h.update_waiter (by simp [hw]) (h.open_of_detected hw)).set_main (by simp) (by simp)
  | dropped hw => exact h.close_waiter (by simp [hw]) (Or.inr ⟨_, rfl⟩)

theorem reachable_inv (h : (system n).Reachable s) : Inv s :=
  System.invariant (I := Inv) inv_init (fun _ _ _ _ hi hs => inv_step hi hs) h

/-- Nothing that the other goroutines still do touches the returned socket. -/
theorem took_step (h : Took i raddr s) (hs : step n s a = some s') : Took i raddr s' := by
  obtain ⟨hm, hd, hc⟩ := h
  have hother : ∀ {j : Nat} {w : WaiterPc Addr}, s.waiters j = w → w ≠ .delivered raddr →
      i ≠ j := by
    rintro j w hw hne rfl
    exact hne (hw.symm.trans hd)
  cases step_move hs with
  | spawned hm' => cases hm.symm.trans hm'
  | parks hm' => cases hm.symm.trans hm'
  | givesUp hm' => cases hm.symm.trans hm'
  | wakes hm' => cases hm.symm.trans hm'
  | timedOut hm' => cases hm.symm.trans hm'
  | sent _ hm' => cases hm.symm.trans hm'
  | cancels => exact ⟨hm, hd, hc⟩
  | detected hw =>
    have hij := hother hw (by simp)
    exact ⟨hm, by simpa [hij] using hd, hc⟩
  | failed hw =>
    have hij := hother hw (by simp)
    exact ⟨hm, by simpa [hij] using hd, by simpa [hij] using hc⟩
  | dropped hw =>
    have hij := hother hw (by simp)
    exact ⟨hm, by simpa [hij] using hd, by simpa [hij] using hc⟩

theorem over_step (h : Over s) (hs : step n s a = some s') : Over s' := by
  cases step_move hs with
  | givesUp | wakes | timedOut | sent => exact Or.inl trivial
  | cancels => exact Or.inr rfl
  | spawned hm => exact Or.inr (h.resolve_left (by simp [hm, MainPc.isReturned]))
  | parks hm => exact Or.inr (h.resolve_left (by simp [hm, MainPc.isReturned]))
  | _ => exact h

theorem over_run (h : Over s) (hs : (system n).run s as = some s') : Over s' :=
  System.run_invariant (I := Over) (fun _ _ _ h _ ha => over_step h ha) h (System.along_true s as)
    hs

theorem not_over_of_parked (hi : Inv s) (hm : s.main = .parked) : ¬ Over s := by
  rintro (ho | hc)
  · simp [hm, MainPc.isReturned] at ho
  · rw [hi.parked hm] at hc
    cases hc

theorem not_returned (h : ¬ Over s) (r : Result Addr) : s.main ≠ .returned r := by
  intro hm
  exact h (Or.inl (by simp [hm, MainPc.isReturned]))

/-! ## A success is kept -/

/-- A step of the main goroutine before it is done, or of another waiter. -/
theorem kept_step (hi : Inv s) (h : Kept s) (hu : Undisturbed s a) (hs : step n s a = some s') :
    Kept s' := by
  rcases h with ⟨i, raddr, ht⟩ | ⟨⟨i, raddr, hw⟩, ho⟩
  · exact Or.inl ⟨i, raddr, took_step ht hs⟩
  -- the waiter `i` is about to send
  cases step_move hs with
  | spawned hm hlt =>
    rename_i j
    have hij : i ≠ j := by
      rintro rfl
      simp [hi.unspawned i i hm (Nat.le_refl i)] at hw
    refine Or.inr ⟨⟨i, raddr, by simpa [hij] using hw⟩, ?_⟩
    rintro (hr | hc)
    · exact hr
    · exact ho (Or.inr hc)
  | parks hm hc =>
    refine Or.inr ⟨⟨i, raddr, hw⟩, ?_⟩
    rintro (hr | hc')
    · exact hr
    · exact ho (Or.inr hc')
  | givesUp hm hc => exact absurd (Or.inr hc) ho
  | wakes => exact absurd (hu ⟨i, raddr, hw⟩) ho
  | cancels => exact absurd (hu ⟨i, raddr, hw⟩) ho
  | timedOut hm => exact absurd ⟨i, raddr, hw⟩ (hu hm)
  | @detected j r hj =>
    have hij : i ≠ j := by rintro rfl; rw [hw] at hj; cases hj
    exact Or.inr ⟨⟨i, raddr, by simpa [hij] using hw⟩, ho⟩
  | @failed j hj =>
    have hij : i ≠ j := by rintro rfl; rw [hw] at hj; cases hj
    exact Or.inr ⟨⟨i, raddr, by simpa [hij] using hw⟩, ho⟩
  | @sent j r hj hm =>
    exact Or.inl ⟨j, r, rfl, by simp, hi.open_of_detected hj⟩
  | @dropped j r hj hm => exact absurd (hu r hj) (not_or.mpr ⟨hm, ho⟩)

theorem kept_run (hr : (system n).Reachable s) (h : Kept s)
    (hu : (system n).Along Undisturbed s as) (hs : (system n).run s as = some s') : Kept s' := by
  refine (System.run_invariant (I := fun s => (system n).Reachable s ∧ Kept s) ?_ ⟨hr, h⟩ hu hs).2
  rintro s a s' ⟨hr, h⟩ hu ha
  exact ⟨hr.next ha, kept_step (reachable_inv hr) h hu ha⟩

theorem returnsSuccess_of_along (h : (system n).Along Undisturbed init as) :
    ReturnsSuccess n as := by
  rintro pre post rest i raddr s s' rfl hpre ho hrun
  have hr : (system n).Reachable s := System.reachable_init.run hpre
  obtain ⟨-, hcons⟩ := (System.along_append.mp h).2 s hpre
  simp only [System.run, Option.bind_eq_some_iff] at hrun
  obtain ⟨s₁, hd, hrun⟩ := hrun
  have halong := (System.along_append.mp (hcons s₁ hd)).1
  refine kept_run (hr.next hd) (Or.inr ?_) halong hrun
  have hmove : Move n s (.detect i raddr) s₁ := step_move hd
  cases hmove with
  | detected => exact ⟨⟨i, raddr, by simp⟩, ho⟩

/-! ## A disturbance loses one -/

/-- A success has happened in the schedule. -/
theorem exists_detect (hw : s.waiters i ≠ .detected raddr) (hs : (system n).run s as = some s')
    (hw' : s'.waiters i = .detected raddr) :
    ∃ pre post s₁, as = pre ++ .detect i raddr :: post ∧ (system n).run s pre = some s₁ ∧
      (system n).run s₁ (.detect i raddr :: post) = some s' := by
  induction as generalizing s with
  | nil =>
    obtain rfl := Option.some.inj hs
    exact absurd hw' hw
  | cons a as ih =>
    have hrun := hs
    simp only [System.run, Option.bind_eq_some_iff] at hs
    obtain ⟨s₁, ha, hs⟩ := hs
    by_cases hw₁ : s₁.waiters i = .detected raddr
    · -- the first action is the one
      obtain rfl : a = .detect i raddr := by
        cases step_move ha with
        | @detected j r hj =>
          by_cases hij : i = j
          · subst hij
            simpa using hw₁
          · simp [hij] at hw₁
            exact absurd hw₁ hw
        | parks | givesUp | wakes | cancels | timedOut => exact absurd hw₁ hw
        | @spawned j | @failed j | @sent j | @dropped j =>
          by_cases hij : i = j
          · subst hij
            simp at hw₁
          · simp [hij] at hw₁
            exact absurd hw₁ hw
      exact ⟨[], as, s, rfl, rfl, hrun⟩
    · obtain ⟨pre, post, s₂, rfl, hpre, hpost⟩ := ih hw₁ hs
      exact ⟨a :: pre, post, s₂, rfl, by simpa [System.run, ha] using hpre, hpost⟩

/-- A step at which a pending success is lost shows in the schedule. -/
theorem kept_of_returnsSuccess {pre post : List (Action Addr)}
    (h : ReturnsSuccess n (pre ++ a :: post)) (hpre : (system n).run init pre = some s)
    (hp : Pending s) (ho : ¬ Over s) (hs : step n s a = some s') : Kept s' := by
  obtain ⟨i, raddr, hw⟩ := hp
  obtain ⟨pre₁, pre₂, s₁, rfl, hpre₁, hrun⟩ := exists_detect (by simp [init]) hpre hw
  refine h pre₁ (pre₂ ++ [a]) post i raddr s₁ s' (by simp) hpre₁ (fun ho₁ => ?_) ?_
  · exact ho (over_run ho₁ hrun)
  · have hsnoc : (system n).run s₁ ((.detect i raddr :: pre₂) ++ [a]) = some s' := by
      rw [System.run_append, hrun]
      simpa [System.run, system] using hs
    exact hsnoc

theorem along_of_keeps (hd : (system n).Along (NotDropped n) init as)
    (hr : ReturnsSuccess n as) : (system n).Along Undisturbed init as := by
  refine System.along_of_forall fun pre a post s has hpre => ?_
  subst has
  have hi : Inv s := reachable_inv (System.reachable_init.run hpre)
  cases a with
  | send i =>
    exact (notDropped_send_iff n s i).mp ((System.along_append.mp hd).2 s hpre).1
  | timeout =>
    intro hm hp
    have ho := not_over_of_parked hi hm
    have hs : step n s .timeout = some { s with main := .returned (.error errTimeout) } := by
      simp [step, hm]
    rcases kept_of_returnsSuccess hr hpre hp ho hs with ⟨_, _, ht, -⟩ | ⟨-, ho'⟩
    · cases ht
    · exact ho' (Or.inl trivial)
  | cancel =>
    intro hp
    by_contra ho
    obtain ⟨s', hs, hc⟩ : ∃ s', step n s .cancel = some s' ∧ s'.cancelled = true ∧
        ∀ r, s'.main ≠ .returned (.ok r) := by
      cases hm : s.main with
      | parked => exact ⟨_, by simp [step, hm]; rfl, rfl, by simp⟩
      | spawning k => exact ⟨_, by simp [step, hm]; rfl, rfl, by simp⟩
      | returned r => exact absurd hm (not_returned ho r)
    rcases kept_of_returnsSuccess hr hpre hp ho hs with ⟨_, _, ht, -⟩ | ⟨-, ho'⟩
    · exact hc.2 _ ht
    · exact ho' (Or.inr hc.1)
  | _ => trivial

/-- A schedule of `MakeHole` on `n` sockets drops no success, and returns one if a waiter has
succeeded before timeout and cancellation, exactly when no successful waiter sends while the
main goroutine is still starting waiters, and the main goroutine neither times out nor is
cancelled between a success and its send. -/
theorem keeps_success_iff (n : Nat) (as : List (Action Addr)) :
    ((system n).Along (NotDropped n) init as ∧ ReturnsSuccess n as) ↔
      (system n).Along Undisturbed init as := by
  constructor
  · rintro ⟨hd, hr⟩
    exact along_of_keeps hd hr
  · intro h
    exact ⟨System.along_mono (fun _ _ hu => hu.notDropped) h, returnsSuccess_of_along h⟩

/-- Two sockets; the detect message of the first was queued before its waiter ran. -/
def earlySchedule : List (Action String) :=
  [.main, .detect 0 "203.0.113.5:4000", .send 0, .main, .main, .timeout]

theorem early_success_dropped :
    ¬ (system 2).Along (NotDropped 2) init earlySchedule ∧
      ((system 2).run init earlySchedule).map (fun s => (s.closed 0, s.main)) =
        some (true, .returned (.error errTimeout)) := by
  refine ⟨fun h => ?_, rfl⟩
  have h1 := (notDropped_send_iff 2 _ _).mp (((h.2 _ rfl).2 _ rfl).1)
  rcases h1 "203.0.113.5:4000" rfl with hm | hr | hc
  · cases hm
  · exact hr
  · cases hc

end FrpXtcp.Nathole.MakeHole

import FrpXtcp.Lib.Transition
import Mathlib.Logic.Function.Basic

/-!
# Programs that take locks

Threads run programs over shared data and a table of `sync.RWMutex`. A program reads and
changes the data in indivisible steps, locks and unlocks, calls code outside, or goes on
as another program. `call` stands for everything the program only waits for: a callback,
a write, a channel. It returns when the schedule says so, and with any result.
-/
namespace FrpXtcp.Lib

inductive LockMode where
  | shared
  | exclusive
  deriving DecidableEq

/-- The one writer that a `sync.RWMutex` lets past its inner mutex. While it is `pending`
it waits for the readers that were there before it, and new readers wait for it. -/
inductive Writer (τ : Type) where
  | none
  | pending (t : τ)
  | active (t : τ)
  deriving DecidableEq

/-- A `sync.RWMutex`. A `sync.Mutex` is one that nobody locks for reading. -/
structure RWMutex (τ : Type) where
  writer : Writer τ
  readers : List τ

namespace RWMutex

variable {τ : Type}

def free : RWMutex τ := ⟨.none, []⟩

def Holds (x : RWMutex τ) (t : τ) : LockMode → Prop
  | .shared => t ∈ x.readers
  | .exclusive => x.writer = .active t

variable [DecidableEq τ]

/-- `Unlock` and `RUnlock`; it is an error to release what one does not hold. -/
def release (x : RWMutex τ) (t : τ) : LockMode → Option (RWMutex τ)
  | .shared => if t ∈ x.readers then some { x with readers := x.readers.erase t } else none
  | .exclusive => if x.writer = .active t then some { x with writer := .none } else none

end RWMutex

/-- Programs with a result in `α`, over data `σ`, locks `L`, results `ρ` of the code
outside and program names `O`. -/
inductive Prog (σ L ρ O α : Type) where
  | pure (a : α)
  | act (f : σ → σ) (k : σ → Prog σ L ρ O α)
  | lock (m : LockMode) (l : L) (k : Prog σ L ρ O α)
  | unlock (m : LockMode) (l : L) (k : Prog σ L ρ O α)
  | call (k : ρ → Prog σ L ρ O α)
  | jump (o : O)

namespace Prog

variable {σ L ρ O α β : Type}

def bind (p : Prog σ L ρ O α) (f : α → Prog σ L ρ O β) : Prog σ L ρ O β :=
  match p with
  | .pure a => f a
  | .act g k => .act g fun s => (k s).bind f
  | .lock m l k => .lock m l (k.bind f)
  | .unlock m l k => .unlock m l (k.bind f)
  | .call k => .call fun r => (k r).bind f
  | .jump o => .jump o

instance : Monad (Prog σ L ρ O) where
  pure := .pure
  bind := .bind

def gets (f : σ → α) : Prog σ L ρ O α := .act id fun s => .pure (f s)

def modifyGet (f : σ → α × σ) : Prog σ L ρ O α := .act (fun s => (f s).2) fun s => .pure (f s).1

def modify (f : σ → σ) : Prog σ L ρ O Unit := .act f fun _ => .pure ()

/-- `Lock` and `RLock` -/
def acquire (m : LockMode) (l : L) : Prog σ L ρ O Unit := .lock m l (.pure ())

/-- `Unlock` and `RUnlock` -/
def release (m : LockMode) (l : L) : Prog σ L ρ O Unit := .unlock m l (.pure ())

def outside : Prog σ L ρ O ρ := .call .pure

/-- The result of a thread that runs alone and is always answered `r`. -/
def eval (r : ρ) : Prog σ L ρ O α → σ → Option (α × σ)
  | .pure a, s => some (a, s)
  | .act f k, s => (k s).eval r (f s)
  | .lock _ _ k, s | .unlock _ _ k, s => k.eval r s
  | .call k, s => (k r).eval r s
  | .jump _, _ => none

section Eval

variable {r : ρ} {s : σ}

@[simp]
theorem eval_bind (p : Prog σ L ρ O α) (f : α → Prog σ L ρ O β) :
    (p >>= f).eval r s = (p.eval r s).bind fun x => (f x.1).eval r x.2 := by
  change (p.bind f).eval r s = _
  induction p generalizing s with
  | pure a => rfl
  | act g k ih => exact ih s
  | lock m l k ih => exact ih
  | unlock m l k ih => exact ih
  | call k ih => exact ih r
  | jump o => rfl

@[simp]
theorem eval_pure (a : α) : (Pure.pure a : Prog σ L ρ O α).eval r s = some (a, s) := rfl

@[simp]
theorem eval_gets (f : σ → α) : (gets f : Prog σ L ρ O α).eval r s = some (f s, s) := rfl

@[simp]
theorem eval_modifyGet (f : σ → α × σ) : (modifyGet f : Prog σ L ρ O α).eval r s = some (f s) := rfl

@[simp]
theorem eval_modify (f : σ → σ) : (modify f : Prog σ L ρ O Unit).eval r s = some ((), f s) := rfl

@[simp]
theorem eval_acquire (m : LockMode) (l : L) :
    (acquire m l : Prog σ L ρ O Unit).eval r s = some ((), s) := rfl

@[simp]
theorem eval_release (m : LockMode) (l : L) :
    (release m l : Prog σ L ρ O Unit).eval r s = some ((), s) := rfl

@[simp]
theorem eval_outside : (outside : Prog σ L ρ O ρ).eval r s = some (r, s) := rfl

end Eval

/-- The lock that the next statement takes. -/
def wants : Prog σ L ρ O α → Option L
  | .lock _ l _ => some l
  | _ => none

/-- `k` is what a step of `p` can leave to do. -/
inductive Next : Prog σ L ρ O α → Prog σ L ρ O α → Prop
  | act (f : σ → σ) (k : σ → Prog σ L ρ O α) (s : σ) : Next (k s) (.act f k)
  | lock (m : LockMode) (l : L) (k : Prog σ L ρ O α) : Next k (.lock m l k)
  | unlock (m : LockMode) (l : L) (k : Prog σ L ρ O α) : Next k (.unlock m l k)
  | call (k : ρ → Prog σ L ρ O α) (r : ρ) : Next (k r) (.call k)

theorem not_next_pure (q : Prog σ L ρ O α) (a : α) : ¬ Next q (.pure a) := nofun

/-- A program that does not jump ends. -/
theorem wellFounded_next : WellFounded (Next (σ := σ) (L := L) (ρ := ρ) (O := O) (α := α)) := by
  constructor
  intro p
  induction p with
  | pure a => exact ⟨_, fun q h => absurd h (not_next_pure q a)⟩
  | act f k ih =>
    constructor
    intro q h
    cases h with
    | act _ _ s => exact ih s
  | lock m l k ih =>
    constructor
    intro q h
    cases h
    exact ih
  | unlock m l k ih =>
    constructor
    intro q h
    cases h
    exact ih
  | call k ih =>
    constructor
    intro q h
    cases h with
    | call _ r => exact ih r
  | jump o => exact ⟨_, fun q h => nomatch h⟩

end Prog

namespace Locks

/-- A thread whose program is `pure` runs nothing. -/
structure State (σ L ρ O τ : Type) where
  data : σ
  locks : L → RWMutex τ
  prog : τ → Prog σ L ρ O Unit

inductive Action (ρ O τ : Type) where
  | start (t : τ) (o : O)
  | step (t : τ)
  | returns (t : τ) (r : ρ)

/-- The action starts no program. -/
def Action.Continues {ρ O τ : Type} : Action ρ O τ → Prop
  | .start _ _ => False
  | .step _ | .returns _ _ => True

variable {σ L ρ O τ : Type} [DecidableEq L] [DecidableEq τ]

namespace State

def goto (s : State σ L ρ O τ) (t : τ) (p : Prog σ L ρ O Unit) : State σ L ρ O τ :=
  { s with prog := Function.update s.prog t p }

def setLock (s : State σ L ρ O τ) (l : L) (x : RWMutex τ) : State σ L ρ O τ :=
  { s with locks := Function.update s.locks l x }

variable (s : State σ L ρ O τ)

omit [DecidableEq L] in
@[simp]
theorem goto_prog_self (t : τ) (p : Prog σ L ρ O Unit) : (s.goto t p).prog t = p :=
  Function.update_self ..

omit [DecidableEq L] in
theorem goto_prog_of_ne {t u : τ} (hu : u ≠ t) (p : Prog σ L ρ O Unit) :
    (s.goto t p).prog u = s.prog u := Function.update_of_ne hu ..

omit [DecidableEq L] in
@[simp]
theorem goto_locks (t : τ) (p : Prog σ L ρ O Unit) : (s.goto t p).locks = s.locks := rfl

omit [DecidableEq τ] in
@[simp]
theorem setLock_prog (l : L) (x : RWMutex τ) : (s.setLock l x).prog = s.prog := rfl

omit [DecidableEq τ] in
@[simp]
theorem setLock_locks_self (l : L) (x : RWMutex τ) : (s.setLock l x).locks l = x :=
  Function.update_self ..

omit [DecidableEq τ] in
theorem setLock_locks_of_ne {l l' : L} (hl : l' ≠ l) (x : RWMutex τ) :
    (s.setLock l x).locks l' = s.locks l' := Function.update_of_ne hl ..

end State

variable (body : O → Prog σ L ρ O Unit)

/-- The next statement of a thread. -/
def exec (s : State σ L ρ O τ) (t : τ) : Option (State σ L ρ O τ) :=
  match s.prog t with
  | .act f k => some ({ s with data := f s.data }.goto t (k s.data))
  | .lock .shared l k =>
    let x := s.locks l
    if x.writer = .none then
      some ((s.setLock l { x with readers := t :: x.readers }).goto t k)
    else none
  | .lock .exclusive l k =>
    let x := s.locks l
    if x.readers = [] ∧ (x.writer = .none ∨ x.writer = .pending t) then
      some ((s.setLock l { x with writer := .active t }).goto t k)
    else if x.writer = .none then some (s.setLock l { x with writer := .pending t })
    else none
  | .unlock m l k => ((s.locks l).release t m).map fun x => (s.setLock l x).goto t k
  | .jump o => some (s.goto t (body o))
  | .pure _ | .call _ => none

def step (s : State σ L ρ O τ) : Action ρ O τ → Option (State σ L ρ O τ)
  | .start t o =>
    match s.prog t with
    | .pure _ => some (s.goto t (body o))
    | _ => none
  | .step t => exec body s t
  | .returns t r =>
    match s.prog t with
    | .call k => some (s.goto t (k r))
    | _ => none

/-- No thread runs and no lock is held. -/
def init (d : σ) : State σ L ρ O τ := ⟨d, fun _ => .free, fun _ => .pure ()⟩

def system (d : σ) : System (State σ L ρ O τ) (Action ρ O τ) := ⟨init d, step body⟩

/-- What each action does, with what it needs. -/
inductive Effect (s : State σ L ρ O τ) : Action ρ O τ → State σ L ρ O τ → Prop
  | start {t : τ} (o : O) {a : Unit} : s.prog t = .pure a →
    Effect s (.start t o) (s.goto t (body o))
  | act {t : τ} {f : σ → σ} {k : σ → Prog σ L ρ O Unit} : s.prog t = .act f k →
    Effect s (.step t) ({ s with data := f s.data }.goto t (k s.data))
  | rlock {t : τ} {l : L} {k : Prog σ L ρ O Unit} : s.prog t = .lock .shared l k →
    (s.locks l).writer = .none →
    Effect s (.step t)
      ((s.setLock l { s.locks l with readers := t :: (s.locks l).readers }).goto t k)
  | lock {t : τ} {l : L} {k : Prog σ L ρ O Unit} : s.prog t = .lock .exclusive l k →
    (s.locks l).readers = [] → (s.locks l).writer = .none ∨ (s.locks l).writer = .pending t →
    Effect s (.step t) ((s.setLock l { s.locks l with writer := .active t }).goto t k)
  | announce {t : τ} {l : L} {k : Prog σ L ρ O Unit} : s.prog t = .lock .exclusive l k →
    (s.locks l).writer = .none →
    Effect s (.step t) (s.setLock l { s.locks l with writer := .pending t })
  | unlock {t : τ} {m : LockMode} {l : L} {k : Prog σ L ρ O Unit} {x : RWMutex τ} :
    s.prog t = .unlock m l k → (s.locks l).release t m = some x →
    Effect s (.step t) ((s.setLock l x).goto t k)
  | jump {t : τ} {o : O} : s.prog t = .jump o → Effect s (.step t) (s.goto t (body o))
  | returns {t : τ} {k : ρ → Prog σ L ρ O Unit} (r : ρ) : s.prog t = .call k →
    Effect s (.returns t r) (s.goto t (k r))

variable {body}

theorem exec_effect {s s' : State σ L ρ O τ} {t : τ} (h : exec body s t = some s') :
    Effect body s (.step t) s' := by
  unfold exec at h
  split at h
  next f k hp => exact Option.some.inj h ▸ .act hp
  next l k hp =>
    simp only [Option.ite_none_right_eq_some, Option.some.injEq] at h
    exact h.2 ▸ .rlock hp h.1
  next l k hp =>
    dsimp only at h
    split at h
    next hx => exact Option.some.inj h ▸ .lock hp hx.1 hx.2
    next =>
      simp only [Option.ite_none_right_eq_some, Option.some.injEq] at h
      exact h.2 ▸ .announce hp h.1
  next m l k hp =>
    simp only [Option.map_eq_some_iff] at h
    obtain ⟨x, hx, rfl⟩ := h
    exact .unlock hp hx
  next o hp => exact Option.some.inj h ▸ .jump hp
  next => cases h
  next => cases h

theorem step_effect {s s' : State σ L ρ O τ} {a : Action ρ O τ} (h : step body s a = some s') :
    Effect body s a s' := by
  cases a with
  | start t o =>
    simp only [step] at h
    split at h
    next hp => exact Option.some.inj h ▸ .start o hp
    next => cases h
  | step t => exact exec_effect h
  | returns t r =>
    simp only [step] at h
    split at h
    next hp => exact Option.some.inj h ▸ .returns r hp
    next => cases h

end Locks

end FrpXtcp.Lib

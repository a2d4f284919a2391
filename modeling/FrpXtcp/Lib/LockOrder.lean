import FrpXtcp.Lib.LockProgram
import Mathlib.Data.Finset.Max
import Mathlib.Logic.Hydra
import Mathlib.Logic.Relation

/-!
# Ranked locks

`Prog.Ordered rank` is the lock discipline of one program, whatever the data and the code
outside do: it takes a lock only above the rank of all it holds, releases only what it
holds, and ends and jumps with nothing held. If every program is ordered, then in every
reachable state of the threads that run them no thread waits, holding a lock, for one of a
rank that is not later. Hence no threads wait for each other in a circle, and a lock that
a thread waits for can be worked free by its holders.
-/
namespace FrpXtcp.Lib

variable {σ L ρ O τ α β : Type} [DecidableEq L]

namespace Prog

variable (rank : L → Nat)

/-- The program is in order for a thread that holds `H`, and ends with `Q`. -/
def Ordered :
    Prog σ L ρ O α → (α → List (L × LockMode) → Prop) → List (L × LockMode) → Prop
  | .pure a, Q, H => Q a H
  | .act _ k, Q, H => ∀ s, (k s).Ordered Q H
  | .lock m l k, Q, H => (∀ h ∈ H, rank h.1 < rank l) ∧ k.Ordered Q ((l, m) :: H)
  | .unlock m l k, Q, H => (l, m) ∈ H ∧ k.Ordered Q (H.erase (l, m))
  | .call k, Q, H => ∀ r, (k r).Ordered Q H
  | .jump _, _, H => H = []

variable {rank} {Q : α → List (L × LockMode) → Prop} {H : List (L × LockMode)}

@[simp]
theorem ordered_bind (p : Prog σ L ρ O α) (f : α → Prog σ L ρ O β)
    (Q : β → List (L × LockMode) → Prop) (H : List (L × LockMode)) :
    (p >>= f).Ordered rank Q H ↔ p.Ordered rank (fun a H => (f a).Ordered rank Q H) H := by
  change (p.bind f).Ordered rank Q H ↔ _
  induction p generalizing H with
  | pure a => exact Iff.rfl
  | act g k ih => exact forall_congr' fun s => ih s H
  | lock m l k ih => exact and_congr_right fun _ => ih _
  | unlock m l k ih => exact and_congr_right fun _ => ih _
  | call k ih => exact forall_congr' fun r => ih r H
  | jump o => exact Iff.rfl

@[simp]
theorem ordered_pure (a : α) : (Pure.pure a : Prog σ L ρ O α).Ordered rank Q H ↔ Q a H := Iff.rfl

@[simp]
theorem ordered_gets (f : σ → α) :
    (gets f : Prog σ L ρ O α).Ordered rank Q H ↔ ∀ s, Q (f s) H := Iff.rfl

@[simp]
theorem ordered_modifyGet (f : σ → α × σ) :
    (modifyGet f : Prog σ L ρ O α).Ordered rank Q H ↔ ∀ s, Q (f s).1 H := Iff.rfl

@[simp]
theorem ordered_modify (f : σ → σ) {Q : Unit → List (L × LockMode) → Prop} :
    (modify f : Prog σ L ρ O Unit).Ordered rank Q H ↔ ∀ _ : σ, Q () H := Iff.rfl

@[simp]
theorem ordered_acquire (m : LockMode) (l : L) {Q : Unit → List (L × LockMode) → Prop} :
    (acquire m l : Prog σ L ρ O Unit).Ordered rank Q H ↔
      (∀ h ∈ H, rank h.1 < rank l) ∧ Q () ((l, m) :: H) := Iff.rfl

/-- Locks are released in the reverse order. -/
@[simp]
theorem ordered_release (m : LockMode) (l : L) {Q : Unit → List (L × LockMode) → Prop} :
    (release m l : Prog σ L ρ O Unit).Ordered rank Q ((l, m) :: H) ↔ Q () H := by
  change _ ∧ Q () (((l, m) :: H).erase (l, m)) ↔ Q () H
  simp

@[simp]
theorem ordered_outside {Q : ρ → List (L × LockMode) → Prop} :
    (outside : Prog σ L ρ O ρ).Ordered rank Q H ↔ ∀ r, Q r H := Iff.rfl

@[simp]
theorem ordered_jump (o : O) : (jump o : Prog σ L ρ O α).Ordered rank Q H ↔ H = [] := Iff.rfl

end Prog

namespace RWMutex

/-- `u` does not notice that `x` became `y`. -/
def SameFor (u : τ) (x y : RWMutex τ) : Prop :=
  (∀ m, y.Holds u m ↔ x.Holds u m) ∧ (y.writer = .pending u ↔ x.writer = .pending u)

variable {x y : RWMutex τ} {t u : τ} {m : LockMode}

theorem SameFor.refl (u : τ) (x : RWMutex τ) : SameFor u x x := ⟨fun _ => Iff.rfl, Iff.rfl⟩

theorem sameFor_rlock (hu : u ≠ t) : SameFor u x { x with readers := t :: x.readers } := by
  refine ⟨fun m => ?_, Iff.rfl⟩
  cases m with
  | shared => simp [Holds, hu]
  | exclusive => exact Iff.rfl

/-- The writer's place is only ever passed on through `none`. -/
theorem sameFor_writer {w : Writer τ} (hx : x.writer = .none ∨ x.writer = .pending t)
    (hw : w = .pending t ∨ w = .active t) (hu : u ≠ t) : SameFor u x { x with writer := w } := by
  refine ⟨fun m => ?_, ?_⟩
  · cases m with
    | shared => exact Iff.rfl
    | exclusive => obtain hx | hx := hx <;> obtain rfl | rfl := hw <;> simp [Holds, hx, hu.symm]
  · obtain hx | hx := hx <;> obtain rfl | rfl := hw <;> simp [hx, hu.symm]

variable [DecidableEq τ]

theorem release_cases (h : x.release t m = some y) :
    (m = .shared ∧ y = { x with readers := x.readers.erase t }) ∨
      (m = .exclusive ∧ x.writer = .active t ∧ y = { x with writer := .none }) := by
  cases m with
  | shared =>
    simp only [release, Option.ite_none_right_eq_some, Option.some.injEq] at h
    exact .inl ⟨rfl, h.2.symm⟩
  | exclusive =>
    simp only [release, Option.ite_none_right_eq_some, Option.some.injEq] at h
    exact .inr ⟨rfl, h.1, h.2.symm⟩

theorem release_of_holds (h : x.Holds t m) : ∃ y, x.release t m = some y := by
  cases m with
  | shared => exact ⟨_, if_pos h⟩
  | exclusive => exact ⟨_, if_pos h⟩

theorem sameFor_release (h : x.release t m = some y) (hu : u ≠ t) : SameFor u x y := by
  obtain ⟨rfl, rfl⟩ | ⟨rfl, hw, rfl⟩ := release_cases h
  · refine ⟨fun m => ?_, Iff.rfl⟩
    cases m with
    | shared => exact List.mem_erase_of_ne hu
    | exclusive => exact Iff.rfl
  · refine ⟨fun m => ?_, by simp [hw]⟩
    cases m with
    | shared => exact Iff.rfl
    | exclusive => simp [Holds, hw, hu.symm]

theorem holds_release (h : x.release t m = some y) (hn : x.readers.Nodup) (m' : LockMode) :
    y.Holds t m' ↔ x.Holds t m' ∧ m' ≠ m := by
  obtain ⟨rfl, rfl⟩ | ⟨rfl, hw, rfl⟩ := release_cases h
  · cases m' <;> simp [Holds, hn.mem_erase_iff]
  · cases m' <;> simp [Holds]

theorem nodup_release (h : x.release t m = some y) (hn : x.readers.Nodup) : y.readers.Nodup := by
  obtain ⟨-, rfl⟩ | ⟨-, -, rfl⟩ := release_cases h
  · exact hn.erase t
  · exact hn

theorem pending_release (h : x.release t m = some y) (hy : y.writer = .pending u) :
    x.writer = .pending u := by
  obtain ⟨-, rfl⟩ | ⟨-, -, rfl⟩ := release_cases h
  · exact hy
  · cases hy

end RWMutex

namespace Locks

variable {body : O → Prog σ L ρ O Unit} {rank : L → Nat}
  {s s' : State σ L ρ O τ} {a : Action ρ O τ} {t u : τ} {l : L}

/-- The thread that takes the action. -/
def Action.thread : Action ρ O τ → τ
  | .start t _ | .step t | .returns t _ => t

namespace State

def Holds (s : State σ L ρ O τ) (t : τ) (l : L) : Prop := ∃ m, (s.locks l).Holds t m

/-- The next statement of `t` takes `l`. -/
def Waits (s : State σ L ρ O τ) (t : τ) (l : L) : Prop := (s.prog t).wants = some l

/-- `u` keeps `t` from taking the lock that it waits for. -/
def WaitsFor (s : State σ L ρ O τ) (t u : τ) : Prop :=
  match s.prog t with
  | .lock .shared l _ => (s.locks l).writer = .pending u ∨ (s.locks l).writer = .active u
  | .lock .exclusive l _ =>
    ((s.locks l).writer = .pending u ∧ u ≠ t) ∨ (s.locks l).writer = .active u ∨
      u ∈ (s.locks l).readers
  | _ => False

/-- `t` stands in the way of others. -/
def Engaged (s : State σ L ρ O τ) (t : τ) : Prop :=
  ∃ l, s.Holds t l ∨ (s.locks l).writer = .pending t

end State

/-- What the locks and the program of `t` say about each other; `H` is what it holds,
with the latest first. -/
structure Disciplined (rank : L → Nat) (s : State σ L ρ O τ) (t : τ)
    (H : List (L × LockMode)) : Prop where
  ordered : (s.prog t).Ordered rank (fun _ H => H = []) H
  ranks : H.Pairwise fun a b => rank b.1 < rank a.1
  holds : ∀ l m, (s.locks l).Holds t m ↔ (l, m) ∈ H
  pending : ∀ l, (s.locks l).writer = .pending t → ∃ k, s.prog t = .lock .exclusive l k

structure Inv (rank : L → Nat) (s : State σ L ρ O τ) : Prop where
  thread : ∀ t, ∃ H, Disciplined rank s t H
  nodup : ∀ l, (s.locks l).readers.Nodup
  finite : ∃ F : Finset τ, ∀ t ∉ F, ∃ a, s.prog t = .pure a

theorem inv_init (d : σ) : Inv rank (init d : State σ L ρ O τ) := by
  refine ⟨fun t => ⟨[], rfl, .nil, fun l m => ?_, fun l h => nomatch h⟩, fun l => .nil, ∅,
    fun t _ => ⟨(), rfl⟩⟩
  cases m <;> simp [init, RWMutex.free, RWMutex.Holds]

theorem sameFor_setLock {x : RWMutex τ} (hx : (s.locks l).SameFor u x) (l' : L) :
    (s.locks l').SameFor u ((s.setLock l x).locks l') := by
  by_cases hl : l' = l
  · subst hl
    simpa using hx
  · rw [s.setLock_locks_of_ne hl]
    exact .refl u _

theorem Disciplined.frame {H : List (L × LockMode)} (h : Disciplined rank s t H)
    (hp : s'.prog t = s.prog t) (hl : ∀ l, (s.locks l).SameFor t (s'.locks l)) :
    Disciplined rank s' t H where
  ordered := hp ▸ h.ordered
  ranks := h.ranks
  holds l m := ((hl l).1 m).trans (h.holds l m)
  pending l hw := hp ▸ h.pending l ((hl l).2.mp hw)

variable [DecidableEq τ]

/-- A thread's action is nothing to the others. -/
theorem Effect.same (he : Effect body s a s') (hu : u ≠ a.thread) :
    s'.prog u = s.prog u ∧ ∀ l, (s.locks l).SameFor u (s'.locks l) := by
  cases he with
  | start o hp => exact ⟨State.goto_prog_of_ne _ hu _, fun _ => .refl u _⟩
  | act hp => exact ⟨State.goto_prog_of_ne _ hu _, fun _ => .refl u _⟩
  | rlock hp hw =>
    exact ⟨State.goto_prog_of_ne _ hu _, sameFor_setLock (RWMutex.sameFor_rlock hu)⟩
  | lock hp hr hw =>
    exact ⟨State.goto_prog_of_ne _ hu _, sameFor_setLock (RWMutex.sameFor_writer hw (.inr rfl) hu)⟩
  | announce hp hw =>
    exact ⟨rfl, sameFor_setLock (RWMutex.sameFor_writer (.inl hw) (.inl rfl) hu)⟩
  | unlock hp hx =>
    exact ⟨State.goto_prog_of_ne _ hu _, sameFor_setLock (RWMutex.sameFor_release hx hu)⟩
  | jump hp => exact ⟨State.goto_prog_of_ne _ hu _, fun _ => .refl u _⟩
  | returns r hp => exact ⟨State.goto_prog_of_ne _ hu _, fun _ => .refl u _⟩

namespace Disciplined

variable {H : List (L × LockMode)} {p k : Prog σ L ρ O Unit} {m : LockMode} {x : RWMutex τ}

/-- A move that leaves the locks alone. -/
theorem goto (h : Disciplined rank s t H) (hn : (s.prog t).wants = none)
    (hp : p.Ordered rank (fun _ H => H = []) H) : Disciplined rank (s.goto t p) t H where
  ordered := by simpa using hp
  ranks := h.ranks
  holds := h.holds
  pending l hw := by
    obtain ⟨k, hk⟩ := h.pending l hw
    rw [hk] at hn
    cases hn

/-- Taking a lock: `x` is the lock with `t` among its holders. -/
theorem acquire (h : Disciplined rank s t H) (hp : s.prog t = .lock m l k)
    (hx : ∀ m', x.Holds t m' ↔ m' = m ∨ (s.locks l).Holds t m') (hw : x.writer ≠ .pending t) :
    Disciplined rank ((s.setLock l x).goto t k) t ((l, m) :: H) := by
  have hord := h.ordered
  rw [hp] at hord
  refine ⟨by simpa using hord.2, List.pairwise_cons.mpr ⟨hord.1, h.ranks⟩, fun l' m' => ?_,
    fun l' hl' => ?_⟩
  · by_cases hl : l' = l
    · subst hl
      simp [hx, h.holds]
    · rw [State.goto_locks, s.setLock_locks_of_ne hl, h.holds]
      simp [hl]
  · by_cases hl : l' = l
    · subst hl
      simp [hw] at hl'
    · rw [State.goto_locks, s.setLock_locks_of_ne hl] at hl'
      obtain ⟨k', hk'⟩ := h.pending l' hl'
      rw [hp] at hk'
      cases hk'
      exact absurd rfl hl

theorem release (h : Disciplined rank s t H) (hp : s.prog t = .unlock m l k)
    (hn : (s.locks l).readers.Nodup) (hx : (s.locks l).release t m = some x) :
    Disciplined rank ((s.setLock l x).goto t k) t (H.erase (l, m)) := by
  have hord := h.ordered
  rw [hp] at hord
  have hnodup : H.Nodup := by
    refine h.ranks.imp fun hab he => ?_
    rw [he] at hab
    exact Nat.lt_irrefl _ hab
  have hpending (l' : L) : (s.locks l').writer ≠ .pending t := by
    intro hw
    obtain ⟨k', hk'⟩ := h.pending l' hw
    rw [hp] at hk'
    cases hk'
  refine ⟨by simpa using hord.2, h.ranks.sublist List.erase_sublist, fun l' m' => ?_,
    fun l' hl' => ?_⟩
  · rw [hnodup.mem_erase_iff, ← h.holds]
    by_cases hl : l' = l
    · subst hl
      simp [RWMutex.holds_release hx hn, and_comm]
    · rw [State.goto_locks, s.setLock_locks_of_ne hl]
      simp [hl]
  · by_cases hl : l' = l
    · subst hl
      exact absurd (RWMutex.pending_release hx (by simpa using hl')) (hpending l')
    · rw [State.goto_locks, s.setLock_locks_of_ne hl] at hl'
      exact absurd hl' (hpending l')

end Disciplined

variable (hbody : ∀ o, (body o).Ordered rank (fun _ H => H = []) [])

include hbody in
/-- An action keeps the discipline of its own thread. -/
theorem Effect.disciplined (he : Effect body s a s') (hn : ∀ l, (s.locks l).readers.Nodup)
    {H : List (L × LockMode)} (h : Disciplined rank s a.thread H) :
    ∃ H', Disciplined rank s' a.thread H' := by
  have hord := h.ordered
  cases he with
  | start o hp =>
    rw [Action.thread, hp] at hord
    obtain rfl : H = [] := hord
    exact ⟨[], h.goto (congrArg Prog.wants hp) (hbody o)⟩
  | act hp =>
    rw [Action.thread, hp] at hord
    have hdata (d : σ) : Disciplined rank { s with data := d } _ H := ⟨h.1, h.2, h.3, h.4⟩
    exact ⟨H, (hdata _).goto (congrArg Prog.wants hp) (hord _)⟩
  | @rlock t l k hp hw =>
    refine ⟨_, h.acquire hp (fun m' => ?_) (by simp [hw])⟩
    cases m' <;> simp [RWMutex.Holds, Action.thread]
  | lock hp hr hw =>
    refine ⟨_, h.acquire hp (fun m' => ?_) (by simp)⟩
    cases m' <;> simp [RWMutex.Holds, Action.thread]
  | @announce t l k hp hw =>
    refine ⟨H, h.ordered, h.ranks, fun l' m => ?_, fun l' hl' => ?_⟩
    · rw [← h.holds]
      by_cases hl : l' = l
      · subst hl
        cases m <;> simp [RWMutex.Holds, hw]
      · rw [s.setLock_locks_of_ne hl]
    · by_cases hl : l' = l
      · subst hl
        exact ⟨k, hp⟩
      · rw [s.setLock_locks_of_ne hl] at hl'
        exact h.pending l' hl'
  | unlock hp hx => exact ⟨_, h.release hp (hn _) hx⟩
  | jump hp =>
    rw [Action.thread, hp] at hord
    obtain rfl : H = [] := hord
    exact ⟨[], h.goto (congrArg Prog.wants hp) (hbody _)⟩
  | returns r hp =>
    rw [Action.thread, hp] at hord
    exact ⟨H, h.goto (congrArg Prog.wants hp) (hord r)⟩

theorem Effect.nodup (he : Effect body s a s') (hi : Inv rank s) (l : L) :
    (s'.locks l).readers.Nodup := by
  have setLock {l₀ : L} {x : RWMutex τ} (hx : x.readers.Nodup) :
      ((s.setLock l₀ x).locks l).readers.Nodup := by
    by_cases hl : l = l₀
    · subst hl
      simpa using hx
    · rw [s.setLock_locks_of_ne hl]
      exact hi.nodup l
  cases he with
  | start o hp => exact hi.nodup l
  | act hp => exact hi.nodup l
  | @rlock t l₀ k hp hw =>
    obtain ⟨H, h⟩ := hi.thread t
    have hord := h.ordered
    rw [hp] at hord
    refine setLock (List.nodup_cons.mpr ⟨fun hm => ?_, hi.nodup l₀⟩)
    exact Nat.lt_irrefl _ (hord.1 _ ((h.holds l₀ .shared).mp hm))
  | lock hp hr hw => exact setLock (hi.nodup _)
  | announce hp hw => exact setLock (hi.nodup _)
  | unlock hp hx => exact setLock (RWMutex.nodup_release hx (hi.nodup _))
  | jump hp => exact hi.nodup l
  | returns r hp => exact hi.nodup l

include hbody in
theorem Effect.inv (he : Effect body s a s') (hi : Inv rank s) : Inv rank s' := by
  refine ⟨fun u => ?_, he.nodup hi, ?_⟩
  · obtain ⟨H, h⟩ := hi.thread u
    by_cases hu : u = a.thread
    · subst hu
      exact he.disciplined hbody hi.nodup h
    · exact ⟨H, h.frame (he.same hu).1 (he.same hu).2⟩
  · obtain ⟨F, hF⟩ := hi.finite
    refine ⟨insert a.thread F, fun u hu => ?_⟩
    rw [Finset.mem_insert, not_or] at hu
    rw [(he.same hu.1).1]
    exact hF u hu.2

include hbody in
theorem inv_reachable {d : σ} (h : (system body d : System (State σ L ρ O τ) _).Reachable s) :
    Inv rank s :=
  System.invariant (I := Inv rank) (inv_init d)
    (fun _ _ _ _ hi hs => (step_effect hs).inv hbody hi) h

section Order

omit [DecidableEq τ]

omit [DecidableEq L] in
theorem State.Waits.prog (h : s.Waits t l) : ∃ m k, s.prog t = .lock m l k := by
  unfold State.Waits at h
  cases hp : s.prog t with
  | lock m l₀ k =>
    rw [hp] at h
    obtain rfl : l₀ = l := Option.some.inj h
    exact ⟨m, k, rfl⟩
  | pure _ | act _ _ | unlock _ _ _ | call _ | jump _ =>
    rw [hp] at h
    cases h

/-- A thread that holds a lock waits only for locks of later rank. -/
theorem Inv.rank_lt (hi : Inv rank s) {l' : L} (hl : s.Holds t l) (hw : s.Waits t l') :
    rank l < rank l' := by
  obtain ⟨H, h⟩ := hi.thread t
  obtain ⟨m, hm⟩ := hl
  obtain ⟨m', k, hp⟩ := hw.prog
  have hord := h.ordered
  rw [hp] at hord
  exact hord.1 (l, m) ((h.holds l m).mp hm)

/-- A thread holds at most one lock of each rank. -/
theorem Inv.eq_of_rank_eq (hi : Inv rank s) {l' : L} (hl : s.Holds t l) (hl' : s.Holds t l')
    (he : rank l = rank l') : l = l' := by
  obtain ⟨H, h⟩ := hi.thread t
  obtain ⟨m, hm⟩ := hl
  obtain ⟨m', hm'⟩ := hl'
  have hpair : H.Pairwise fun a b => rank a.1 ≠ rank b.1 := h.ranks.imp Nat.ne_of_gt
  have hsymm : Std.Symm fun a b : L × LockMode => rank a.1 ≠ rank b.1 := ⟨fun _ _ => Ne.symm⟩
  by_contra hne
  refine hpair.forall ((h.holds l m).mp hm) ((h.holds l' m').mp hm') (fun h => hne ?_) he
  exact congrArg Prod.fst h

/-- Whoever is waited for holds the lock or is its pending writer. -/
theorem Inv.waitsFor_cases (hi : Inv rank s) (h : s.WaitsFor t u) :
    ∃ l, s.Waits t l ∧ (s.Holds u l ∨ ((s.locks l).writer = .pending u ∧ u ≠ t)) := by
  unfold State.WaitsFor at h
  split at h
  next l k hp =>
    refine ⟨l, by simp [State.Waits, hp, Prog.wants], ?_⟩
    obtain hw | hw := h
    · refine .inr ⟨hw, fun hu => ?_⟩
      subst hu
      -- a pending writer is not at `RLock`
      obtain ⟨H, hd⟩ := hi.thread u
      obtain ⟨k', hk'⟩ := hd.pending l hw
      rw [hp] at hk'
      cases hk'
    · exact .inl ⟨.exclusive, hw⟩
  next l k hp =>
    refine ⟨l, by simp [State.Waits, hp, Prog.wants], ?_⟩
    obtain hw | hw | hr := h
    · exact .inr hw
    · exact .inl ⟨.exclusive, hw⟩
    · exact .inl ⟨.shared, hr⟩
  next => exact h.elim

omit [DecidableEq L] in
theorem State.waitsFor_of_active (ht : s.Waits t l) (hw : (s.locks l).writer = .active u) :
    s.WaitsFor t u := by
  obtain ⟨m, k, hp⟩ := ht.prog
  unfold State.WaitsFor
  rw [hp]
  cases m with
  | shared => exact .inr hw
  | exclusive => exact .inr (.inl hw)

theorem Inv.waits_of_pending (hi : Inv rank s) (h : (s.locks l).writer = .pending t) :
    s.Waits t l := by
  obtain ⟨H, hd⟩ := hi.thread t
  obtain ⟨k, hk⟩ := hd.pending l h
  simp [State.Waits, hk, Prog.wants]

end Order

/-- The rank that a thread waits for; a pending writer stands between its own rank and
the next, since those who wait for the same lock wait for it. -/
def State.level (rank : L → Nat) (s : State σ L ρ O τ) (t : τ) : Nat :=
  match s.prog t with
  | .lock _ l _ => 2 * rank l + if (s.locks l).writer = .pending t then 1 else 0
  | _ => 0

omit [DecidableEq L] in
theorem State.level_of_waits (h : s.Waits t l) :
    s.level rank t = 2 * rank l + if (s.locks l).writer = .pending t then 1 else 0 := by
  obtain ⟨m, k, hp⟩ := h.prog
  unfold State.level
  rw [hp]

theorem Inv.level_lt (hi : Inv rank s) (h : s.WaitsFor t u) (hu : s.Waits u l) :
    s.level rank t < s.level rank u := by
  obtain ⟨l₀, ht, hl₀ | ⟨hw, hne⟩⟩ := hi.waitsFor_cases h
  · have hlt : rank l₀ < rank l := hi.rank_lt hl₀ hu
    rw [State.level_of_waits ht, State.level_of_waits hu]
    split_ifs <;> omega
  · obtain rfl : l₀ = l := Option.some.inj ((hi.waits_of_pending hw).symm.trans hu)
    rw [State.level_of_waits ht, State.level_of_waits hu, hw]
    simp [hne]

/-- No threads wait for each other in a circle. -/
theorem Inv.acyclic (hi : Inv rank s) (t : τ) : ¬ Relation.TransGen s.WaitsFor t t := by
  have hlt {u : τ} (h : Relation.TransGen s.WaitsFor t u) :
      ∀ l, s.Waits u l → s.level rank t < s.level rank u := by
    induction h with
    | single h => exact fun l hu => hi.level_lt h hu
    | tail _ h ih =>
      intro l hu
      obtain ⟨l', hv, -⟩ := hi.waitsFor_cases h
      exact (ih l' hv).trans (hi.level_lt h hu)
  intro h
  obtain ⟨v, hv, -⟩ := Relation.TransGen.head'_iff.mp h
  obtain ⟨l, hl, -⟩ := hi.waitsFor_cases hv
  exact Nat.lt_irrefl _ (hlt h l hl)

section Progress

omit [DecidableEq τ] in
theorem Inv.engaged_of_waitsFor (hi : Inv rank s) (h : s.WaitsFor t u) : s.Engaged u := by
  obtain ⟨l, -, hl | ⟨hw, -⟩⟩ := hi.waitsFor_cases h
  · exact ⟨l, .inl hl⟩
  · exact ⟨l, .inr hw⟩

omit [DecidableEq τ] in
/-- A thread whose program ends or jumps here stands in nobody's way. -/
theorem Disciplined.not_engaged (h : Disciplined rank s t []) (hn : (s.prog t).wants = none) :
    ¬ s.Engaged t := by
  rintro ⟨l, ⟨m, hm⟩ | hw⟩
  · exact absurd ((h.holds l m).mp hm) List.not_mem_nil
  · obtain ⟨k, hk⟩ := h.pending l hw
    rw [hk] at hn
    cases hn

/-- Of the threads that stand in the way of others, one is not kept waiting. -/
theorem Inv.exists_unblocked (hi : Inv rank s) (hu : s.Engaged u) :
    ∃ v, s.Engaged v ∧ ∀ w, ¬ s.WaitsFor v w := by
  classical
  obtain ⟨F, hF⟩ := hi.finite
  have hmem {v : τ} (hv : s.Engaged v) : v ∈ F.filter s.Engaged := by
    refine Finset.mem_filter.mpr ⟨?_, hv⟩
    by_contra hn
    obtain ⟨a, ha⟩ := hF v hn
    obtain ⟨H, h⟩ := hi.thread v
    have hord := h.ordered
    rw [ha] at hord
    obtain rfl : H = [] := hord
    exact h.not_engaged (congrArg Prog.wants ha) hv
  obtain ⟨v, hv, hmax⟩ := Finset.exists_max_image _ (s.level rank) ⟨u, hmem hu⟩
  by_cases hb : ∃ w, s.WaitsFor v w
  · obtain ⟨w, hw⟩ := hb
    refine ⟨w, hi.engaged_of_waitsFor hw, fun x hx => ?_⟩
    obtain ⟨l, hl, -⟩ := hi.waitsFor_cases hx
    have hle := hmax w (hmem (hi.engaged_of_waitsFor hw))
    exact absurd (hi.level_lt hw hl) (Nat.not_lt.mpr hle)
  · exact ⟨v, (Finset.mem_filter.mp hv).2, not_exists.mp hb⟩

variable (body) in
/-- A lock that nobody keeps from `t` is there to be taken. -/
theorem exec_lock {m : LockMode} {k : Prog σ L ρ O Unit} (hp : s.prog t = .lock m l k)
    (hb : ∀ u, ¬ s.WaitsFor t u) :
    ∃ s', exec body s t = some s' ∧ s'.Holds t l ∧ s'.prog t = k := by
  cases m with
  | shared =>
    have hw : (s.locks l).writer = .none := by
      simp only [State.WaitsFor, hp, not_or] at hb
      cases hw : (s.locks l).writer with
      | none => rfl
      | pending u => exact absurd hw (hb u).1
      | active u => exact absurd hw (hb u).2
    refine ⟨_, by simp only [exec, hp]; exact if_pos hw, ⟨.shared, ?_⟩, State.goto_prog_self ..⟩
    simp [RWMutex.Holds]
  | exclusive =>
    simp only [State.WaitsFor, hp, not_or, not_and, not_not] at hb
    have hr : (s.locks l).readers = [] := List.eq_nil_iff_forall_not_mem.mpr fun u => (hb u).2.2
    have hw : (s.locks l).writer = .none ∨ (s.locks l).writer = .pending t := by
      cases hw : (s.locks l).writer with
      | none => exact .inl rfl
      | pending u => exact .inr (congrArg _ ((hb u).1 hw))
      | active u => exact absurd hw (hb u).2.1
    refine ⟨_, by simp only [exec, hp]; exact if_pos ⟨hr, hw⟩, ⟨.exclusive, ?_⟩,
      State.goto_prog_self ..⟩
    simp [RWMutex.Holds]

variable (body) in
/-- A thread that stands in the way and is not kept waiting can go on. -/
theorem Inv.moves [Nonempty ρ] (hi : Inv rank s) (ht : s.Engaged t) (hb : ∀ u, ¬ s.WaitsFor t u) :
    ∃ a s', a.Continues ∧ a.thread = t ∧ step body s a = some s' ∧
      Prog.Next (s'.prog t) (s.prog t) := by
  obtain ⟨H, h⟩ := hi.thread t
  have hord := h.ordered
  cases hp : s.prog t with
  | pure _ | jump _ =>
    rw [hp] at hord
    obtain rfl : H = [] := hord
    exact absurd ht (h.not_engaged (congrArg Prog.wants hp))
  | act f k =>
    refine ⟨.step t, _, trivial, rfl, by simp only [step, exec, hp]; rfl, ?_⟩
    simpa using Prog.Next.act f k s.data
  | lock m l k =>
    obtain ⟨s', hs, -, hk⟩ := exec_lock body hp hb
    exact ⟨.step t, s', trivial, rfl, hs, hk ▸ .lock m l k⟩
  | unlock m l k =>
    rw [hp] at hord
    obtain ⟨x, hx⟩ := RWMutex.release_of_holds ((h.holds l m).mpr hord.1)
    refine ⟨.step t, _, trivial, rfl, by simp only [step, exec, hp, hx]; rfl, ?_⟩
    simpa using Prog.Next.unlock m l k
  | call k =>
    obtain ⟨r⟩ := ‹Nonempty ρ›
    refine ⟨.returns t r, _, trivial, rfl, by simp only [step, hp]; rfl, ?_⟩
    simpa using Prog.Next.call k r

omit [DecidableEq L] in
/-- One thread of `F` going on makes less to do for `F`. -/
theorem cutExpand_prog {F : Finset τ} (ht : t ∈ F) (hn : Prog.Next (s'.prog t) (s.prog t))
    (he : ∀ u, u ≠ t → s'.prog u = s.prog u) :
    Relation.CutExpand Prog.Next (F.val.map s'.prog) (F.val.map s.prog) := by
  have hval : F.val = {t} + F.val.erase t := by
    rw [Multiset.singleton_add, Multiset.cons_erase ht]
  have hmap : (F.val.erase t).map s'.prog = (F.val.erase t).map s.prog := by
    refine Multiset.map_congr rfl fun u hu => he u ?_
    exact ((F.nodup.mem_erase_iff).mp hu).1
  rw [hval, Multiset.map_add, Multiset.map_add, hmap]
  exact Relation.cutExpand_single_add hn _

include hbody in
/-- A thread that waits for a lock can get it, by steps of its holders and without a new
program, once the code outside returns. -/
theorem Inv.acquires [Nonempty ρ] {d : σ} (hi : Inv rank s) (hw : s.Waits t l) :
    (system body d).CanReach Action.Continues (fun s' => s'.Holds t l) s := by
  obtain ⟨F, hF⟩ := hi.finite
  -- by induction on what the threads of `F` still have to do
  generalize hM : F.val.map s.prog = M
  induction M using (Prog.wellFounded_next.cutExpand).induction generalizing s with
  | _ M ih =>
    by_cases hb : ∃ u, s.WaitsFor t u
    · obtain ⟨u, hu⟩ := hb
      obtain ⟨v, hv, hfree⟩ := hi.exists_unblocked (hi.engaged_of_waitsFor hu)
      obtain ⟨a, s', hc, rfl, hs, hnext⟩ := hi.moves body hv hfree
      have he := step_effect hs
      have hne : t ≠ a.thread := by
        rintro rfl
        exact hfree u hu
      have hmem : a.thread ∈ F := by
        by_contra hn
        obtain ⟨b, hb⟩ := hF _ hn
        rw [hb] at hnext
        exact Prog.not_next_pure _ _ hnext
      have hless := cutExpand_prog hmem hnext fun u hu => (he.same hu).1
      refine .step hc hs (ih _ (hM ▸ hless) (he.inv hbody hi) ?_ ?_ rfl)
      · rwa [State.Waits, (he.same hne).1]
      · intro u hu
        rw [(he.same (ne_of_mem_of_not_mem hmem hu).symm).1]
        exact hF u hu
    · obtain ⟨m, k, hp⟩ := hw.prog
      obtain ⟨s', hs, hl, -⟩ := exec_lock body hp (not_exists.mp hb)
      exact .step (a := .step t) trivial hs (.here hl)

end Progress

end Locks
end FrpXtcp.Lib

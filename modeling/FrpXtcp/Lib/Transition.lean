import Mathlib.Tactic.Common

/-!
# Guarded transition systems and the invariant rule

A model is an executable guarded step: `step s a` is `some s'` when the action
`a` is enabled at `s` and `none` otherwise. Replay of a concrete schedule and
induction over every schedule therefore speak about the same guards.
`ReachableBy C` restricts the schedules to steps that satisfy `C`; the
unrestricted notion is the special case of the trivial condition.
-/
namespace FrpXtcp.Lib

universe u v

/-- An initial state and a guarded step. -/
structure System (σ : Type u) (α : Type v) where
  init : σ
  step : σ → α → Option σ

namespace System

variable {σ : Type u} {α : Type v} (S : System σ α)

/-- States reached from the initial one by steps that all satisfy `C`. -/
inductive ReachableBy (C : σ → α → Prop) : σ → Prop
  | init : ReachableBy C S.init
  | step {s s' : σ} {a : α} : ReachableBy C s → C s a → S.step s a = some s' → ReachableBy C s'

/-- States reached under any schedule. -/
def Reachable (s : σ) : Prop := S.ReachableBy (fun _ _ => True) s

/-- `s'` is reached from `s` by some schedule. -/
inductive Reaches (s : σ) : σ → Prop
  | refl : Reaches s s
  | step {s' s'' : σ} {a : α} : Reaches s s' → S.step s' a = some s'' → Reaches s s''

/-- A schedule of actions from `A` leads to a state where `P` holds. -/
inductive CanReach (A : α → Prop) (P : σ → Prop) : σ → Prop
  | here {s : σ} : P s → CanReach A P s
  | step {s s' : σ} {a : α} : A a → S.step s a = some s' → CanReach A P s' → CanReach A P s

/-- Replay a schedule; `none` when some action is disabled where it is taken. -/
def run (s : σ) : List α → Option σ
  | [] => some s
  | a :: as => (S.step s a).bind fun s' => run s' as

/-- `P` holds of every step that the schedule takes from `s`. -/
def Along (P : σ → α → Prop) : σ → List α → Prop
  | _, [] => True
  | s, a :: as => P s a ∧ ∀ s', S.step s a = some s' → Along P s' as

instance decidableAlong (P : σ → α → Prop) [∀ s a, Decidable (P s a)] (s : σ) :
    (as : List α) → Decidable (S.Along P s as)
  | [] => isTrue trivial
  | a :: as =>
    haveI : Decidable (∀ s', S.step s a = some s' → Along S P s' as) :=
      match _h : S.step s a with
      | none => isTrue nofun
      | some s' =>
        haveI := decidableAlong P s' as
        decidable_of_iff (Along S P s' as)
          ⟨fun ha _ hs => Option.some.inj hs ▸ ha, fun ha => ha s' rfl⟩
    inferInstanceAs (Decidable (_ ∧ _))

variable {S}

theorem reachable_init : S.Reachable S.init := .init

theorem Reachable.next {s s' : σ} {a : α} (h : S.Reachable s) (hs : S.step s a = some s') :
    S.Reachable s' := ReachableBy.step h trivial hs

theorem ReachableBy.reachable {C : σ → α → Prop} {s : σ} (h : S.ReachableBy C s) :
    S.Reachable s := by
  induction h with
  | init => exact reachable_init
  | step _ _ hs ih => exact ih.next hs

/-- What holds initially and is kept by every step holds at every reachable
state. The step premise may use that its source is itself reachable. -/
theorem invariant {I : σ → Prop} (hinit : I S.init)
    (hstep : ∀ s a s', S.Reachable s → I s → S.step s a = some s' → I s')
    {s : σ} (h : S.Reachable s) : I s := by
  induction h with
  | init => exact hinit
  | step hr _ hs ih => exact hstep _ _ _ hr ih hs

/-- The invariant rule for schedules whose steps all satisfy `C`. -/
theorem invariant_by {C : σ → α → Prop} {I : σ → Prop} (hinit : I S.init)
    (hstep : ∀ s a s', S.ReachableBy C s → I s → C s a → S.step s a = some s' → I s')
    {s : σ} (h : S.ReachableBy C s) : I s := by
  induction h with
  | init => exact hinit
  | step hr hc hs ih => exact hstep _ _ _ hr ih hc hs

theorem Reaches.reachable {s s' : σ} (h : S.Reaches s s') (hr : S.Reachable s) :
    S.Reachable s' := by
  induction h with
  | refl => exact hr
  | step _ hs ih => exact ih.next hs

theorem Reaches.trans {s s' s'' : σ} (h : S.Reaches s s') (h' : S.Reaches s' s'') :
    S.Reaches s s'' := by
  induction h' with
  | refl => exact h
  | step _ hs ih => exact ih.step hs

theorem Reaches.one {s s' : σ} {a : α} (h : S.step s a = some s') : S.Reaches s s' :=
  .step .refl h

/-- A property that every step from a reachable state keeps is never lost. -/
theorem Reaches.stable {P : σ → Prop}
    (hstep : ∀ s a s', S.Reachable s → P s → S.step s a = some s' → P s')
    {s s' : σ} (h : S.Reaches s s') (hr : S.Reachable s) (hp : P s) : P s' := by
  induction h with
  | refl => exact hp
  | step hprev hs ih => exact hstep _ _ _ (hprev.reachable hr) ih hs

theorem CanReach.mono {A B : α → Prop} {P : σ → Prop} (h : ∀ a, A a → B a) {s : σ}
    (hs : S.CanReach A P s) : S.CanReach B P s := by
  induction hs with
  | here hp => exact .here hp
  | step ha hstep _ ih => exact .step (h _ ha) hstep ih

theorem CanReach.trans {A : α → Prop} {P Q : σ → Prop} {s : σ} (h : S.CanReach A Q s)
    (hq : ∀ s', Q s' → S.CanReach A P s') : S.CanReach A P s := by
  induction h with
  | here hs => exact hq _ hs
  | step ha hstep _ ih => exact .step ha hstep ih

/-- If a state with `I` has what is wanted or an action from `A` to one with `I` that is nearer,
then what is wanted can be reached. -/
theorem canReach_of_measure {A : α → Prop} {P I : σ → Prop} (μ : σ → Nat)
    (hnext : ∀ s, I s → P s ∨ ∃ a s', A a ∧ S.step s a = some s' ∧ I s' ∧ μ s' < μ s)
    {s : σ} (hs : I s) : S.CanReach A P s := by
  induction hn : μ s using Nat.strongRecOn generalizing s with
  | _ n ih =>
    rcases hnext s hs with hp | ⟨a, s', ha, hstep, hs', hlt⟩
    · exact .here hp
    · exact .step ha hstep (ih (μ s') (hn ▸ hlt) hs' rfl)

/-- If the actions from `A` keep `I`, those of `p` lower a measure and none raises it, then a
schedule of them has no more of `p` than the measure says. -/
theorem run_of_countP {A : α → Prop} {I : σ → Prop} (μ : σ → Nat) (p : α → Bool)
    (hstep : ∀ s a s', I s → A a → S.step s a = some s' →
      I s' ∧ μ s' + (if p a then 1 else 0) ≤ μ s)
    {s s' : σ} {as : List α} (hs : I s) (ha : ∀ a ∈ as, A a) (hr : S.run s as = some s') :
    I s' ∧ μ s' + as.countP p ≤ μ s := by
  induction as generalizing s with
  | nil =>
    obtain rfl := Option.some.inj hr
    exact ⟨hs, Nat.le_refl _⟩
  | cons a as ih =>
    simp only [run, Option.bind_eq_some_iff] at hr
    obtain ⟨s₁, hs₁, hr⟩ := hr
    obtain ⟨hi, hlt⟩ := hstep s a s₁ hs (ha a List.mem_cons_self) hs₁
    obtain ⟨hi', hle⟩ := ih hi (fun b hb => ha b (List.mem_cons_of_mem a hb)) hr
    refine ⟨hi', ?_⟩
    rw [List.countP_cons]
    omega

/-- What the actions of a schedule keep holds at its end. -/
theorem run_invariant {P : σ → α → Prop} {I : σ → Prop}
    (hstep : ∀ s a s', I s → P s a → S.step s a = some s' → I s')
    {s s' : σ} {as : List α} (hs : I s) (ha : S.Along P s as) (hr : S.run s as = some s') :
    I s' := by
  induction as generalizing s with
  | nil =>
    obtain rfl := Option.some.inj hr
    exact hs
  | cons a as ih =>
    simp only [run, Option.bind_eq_some_iff] at hr
    obtain ⟨s₁, hs₁, hr⟩ := hr
    exact ih (hstep s a s₁ hs ha.1 hs₁) (ha.2 s₁ hs₁) hr

theorem along_true (s : σ) (as : List α) : S.Along (fun _ _ => True) s as := by
  induction as generalizing s with
  | nil => trivial
  | cons a as ih => exact ⟨trivial, fun s' _ => ih s'⟩

theorem along_mono {P Q : σ → α → Prop} (h : ∀ s a, P s a → Q s a) {s : σ} {as : List α}
    (hp : S.Along P s as) : S.Along Q s as := by
  induction as generalizing s with
  | nil => trivial
  | cons a as ih => exact ⟨h s a hp.1, fun s' hs => ih (hp.2 s' hs)⟩

/-- A replayed schedule whose steps all satisfy `C` ends among the states reached
under `C`. -/
theorem ReachableBy.run {C : σ → α → Prop} {s s' : σ} {as : List α} (h : S.ReachableBy C s)
    (hc : S.Along C s as) (hr : S.run s as = some s') : S.ReachableBy C s' := by
  induction as generalizing s with
  | nil =>
    obtain rfl := Option.some.inj hr
    exact h
  | cons a as ih =>
    simp only [System.run] at hr
    cases hs : S.step s a with
    | none => simp [hs] at hr
    | some s₁ =>
      rw [hs] at hr
      exact ih (h.step hc.1 hs) (hc.2 s₁ hs) hr

/-- Replay stays among the reachable states. -/
theorem Reachable.run {s s' : σ} {as : List α} (h : S.Reachable s)
    (hr : S.run s as = some s') : S.Reachable s' :=
  ReachableBy.run h (along_true s as) hr

/-- Step properties that agree at the states where `I` holds agree along every schedule
from such a state, if `I` is kept by the steps that have them. -/
theorem along_iff_of_inv {P Q : σ → α → Prop} {I : σ → Prop}
    (hiff : ∀ s a, I s → (P s a ↔ Q s a))
    (hstep : ∀ s a s', I s → P s a → S.step s a = some s' → I s')
    {s : σ} (hs : I s) (as : List α) : S.Along P s as ↔ S.Along Q s as := by
  induction as generalizing s with
  | nil => exact Iff.rfl
  | cons a as ih =>
    constructor
    · intro h
      refine ⟨(hiff s a hs).mp h.1, fun s' ha => ?_⟩
      exact (ih (hstep s a s' hs h.1 ha)).mp (h.2 s' ha)
    · intro h
      have hp : P s a := (hiff s a hs).mpr h.1
      refine ⟨hp, fun s' ha => ?_⟩
      exact (ih (hstep s a s' hs hp ha)).mpr (h.2 s' ha)

/-- Step properties that agree at every state agree along every schedule. -/
theorem along_congr {P Q : σ → α → Prop} (h : ∀ s a, P s a ↔ Q s a) (s : σ) (as : List α) :
    S.Along P s as ↔ S.Along Q s as :=
  along_iff_of_inv (I := fun _ => True) (fun s a _ => h s a) (fun _ _ _ _ _ _ => trivial)
    trivial as

theorem along_append {P : σ → α → Prop} {s : σ} {as bs : List α} :
    S.Along P s (as ++ bs) ↔
      S.Along P s as ∧ ∀ s', S.run s as = some s' → S.Along P s' bs := by
  induction as generalizing s with
  | nil => simp [Along, run]
  | cons a as ih =>
    simp only [List.cons_append, Along, run, ih]
    cases S.step s a with
    | none => simp
    | some s₁ => simp [and_assoc]

theorem run_append {s : σ} {as bs : List α} :
    S.run s (as ++ bs) = (S.run s as).bind fun s' => S.run s' bs := by
  induction as generalizing s with
  | nil => rfl
  | cons a as ih =>
    simp only [List.cons_append, run]
    cases S.step s a with
    | none => rfl
    | some s₁ => simpa using ih

/-- A property holds along a schedule if it holds of each action where it is taken. -/
theorem along_of_forall {P : σ → α → Prop} {s : σ} {as : List α}
    (h : ∀ pre a post s', as = pre ++ a :: post → S.run s pre = some s' → P s' a) :
    S.Along P s as := by
  induction as generalizing s with
  | nil => trivial
  | cons a as ih =>
    refine ⟨h [] a as s rfl rfl, fun s₁ hs => ih fun pre b post s' has hrun => ?_⟩
    refine h (a :: pre) b post s' (by rw [has]; rfl) ?_
    simpa [run, hs] using hrun

/-- A replayed schedule whose steps all satisfy `C` and whose end satisfies a test reaches
such a state under `C`. -/
theorem reachableBy_of_run {C : σ → α → Prop} {l : List α} {p : σ → Bool}
    (hc : S.Along C S.init l) (h : (S.run S.init l).map p = some true) :
    ∃ s, S.ReachableBy C s ∧ p s = true := by
  cases hr : S.run S.init l with
  | none => simp [hr] at h
  | some s => exact ⟨s, ReachableBy.init.run hc hr, by simpa [hr] using h⟩

theorem reachable_of_run {l : List α} {p : σ → Bool}
    (h : (S.run S.init l).map p = some true) : ∃ s, S.Reachable s ∧ p s = true :=
  reachableBy_of_run (along_true S.init l) h

theorem Reaches.run {s s' : σ} {l : List α} (h : S.run s l = some s') : S.Reaches s s' := by
  induction l generalizing s with
  | nil =>
    obtain rfl := Option.some.inj h
    exact .refl
  | cons a l ih =>
    simp only [System.run, Option.bind_eq_some_iff] at h
    obtain ⟨s₁, hs, hr⟩ := h
    exact (Reaches.one hs).trans (ih hr)

/-- The same for a state and one after it. -/
theorem reaches_of_run {l k : List α} {p q : σ → Bool}
    (h : ((S.run S.init l).bind fun s₀ => (S.run s₀ k).map fun s => p s₀ && q s) = some true) :
    ∃ s₀ s, S.Reachable s₀ ∧ S.Reaches s₀ s ∧ p s₀ = true ∧ q s = true := by
  simp only [Option.bind_eq_some_iff, Option.map_eq_some_iff, Bool.and_eq_true] at h
  obtain ⟨s₀, h₀, s, hs, hp, hq⟩ := h
  exact ⟨s₀, s, reachable_init.run h₀, .run hs, hp, hq⟩

end System

end FrpXtcp.Lib

import Mathlib.Logic.Basic

/-!
# Computations that leave a trace

A computation that may fail has effects on the way, whether it fails in the end or not.
`Ensures` bounds both: what its effects are, and what is known of its result.
-/
namespace FrpXtcp.Lib

universe u

/-- The effects of a computation, in their order, and how it ended. -/
structure Traced (E ε : Type u) (α : Type u) where
  trace : List E
  result : Except ε α

namespace Traced

variable {E ε α β : Type u}

instance : Monad (Traced E ε) where
  pure a := ⟨[], .ok a⟩
  bind x f :=
    match x.result with
    | .error err => ⟨x.trace, .error err⟩
    | .ok a => ⟨x.trace ++ (f a).trace, (f a).result⟩

/-- A step without effects. -/
instance : MonadLift (Except ε) (Traced E ε) := ⟨fun x => ⟨[], x⟩⟩

/-- One effect and what comes of it. -/
def perform (e : E) (x : Except ε α) : Traced E ε α := ⟨[e], x⟩

def mapError (g : ε → ε) (x : Traced E ε α) : Traced E ε α := ⟨x.trace, x.result.mapError g⟩

theorem bind_of_ok {x : Traced E ε α} {a : α} (h : x.result = .ok a) (f : α → Traced E ε β) :
    x >>= f = ⟨x.trace ++ (f a).trace, (f a).result⟩ := by
  simp only [bind, h]

theorem bind_of_error {x : Traced E ε α} {err : ε} (h : x.result = .error err)
    (f : α → Traced E ε β) : x >>= f = ⟨x.trace, .error err⟩ := by
  simp only [bind, h]

theorem result_bind_eq_ok {x : Traced E ε α} {f : α → Traced E ε β} {b : β} :
    (x >>= f).result = .ok b ↔ ∃ a, x.result = .ok a ∧ (f a).result = .ok b := by
  cases h : x.result with
  | error err => simp [bind_of_error h]
  | ok a => simp [bind_of_ok h]

@[simp] theorem result_pure (a : α) : (pure a : Traced E ε α).result = .ok a := rfl

@[simp] theorem result_lift (x : Except ε α) : (liftM x : Traced E ε α).result = x := rfl

theorem except_mapError_ok (g : ε → ε) (a : α) : (Except.ok a : Except ε α).mapError g = .ok a :=
  rfl

theorem except_mapError_error (g : ε → ε) (err : ε) :
    (Except.error err : Except ε α).mapError g = .error (g err) :=
  rfl

theorem result_mapError_eq_ok {g : ε → ε} {x : Traced E ε α} {a : α} :
    (x.mapError g).result = .ok a ↔ x.result = .ok a := by
  show x.result.mapError g = .ok a ↔ x.result = .ok a
  cases x.result with
  | error err => simp [except_mapError_error]
  | ok b => rw [except_mapError_ok]

/-- Every effect is one of `P`, and a result is one of `Q`. -/
structure Ensures (x : Traced E ε α) (P : E → Prop) (Q : α → Prop) : Prop where
  trace : ∀ e ∈ x.trace, P e
  result : ∀ a, x.result = .ok a → Q a

namespace Ensures

variable {P P' : E → Prop} {Q Q' : α → Prop} {R : β → Prop}

theorem pure {a : α} (h : Q a) : (Pure.pure a : Traced E ε α).Ensures P Q := by
  constructor
  · intro e he
    cases he
  · intro b hb
    obtain rfl := Except.ok.inj hb
    exact h

theorem lift {x : Except ε α} (h : ∀ a, x = .ok a → Q a) :
    (liftM x : Traced E ε α).Ensures P Q := by
  constructor
  · intro e he
    cases he
  · exact h

theorem bind {x : Traced E ε α} {f : α → Traced E ε β} (hx : x.Ensures P Q)
    (hf : ∀ a, Q a → (f a).Ensures P R) : (x >>= f).Ensures P R := by
  cases h : x.result with
  | error err =>
    rw [bind_of_error h]
    constructor
    · exact hx.trace
    · intro b hb
      cases hb
  | ok a =>
    have hfa := hf a (hx.result a h)
    rw [bind_of_ok h]
    constructor
    · intro e he
      rcases List.mem_append.mp he with he | he
      · exact hx.trace e he
      · exact hfa.trace e he
    · exact hfa.result

theorem mono {x : Traced E ε α} (hx : x.Ensures P Q) (hP : ∀ e, P e → P' e)
    (hQ : ∀ a, Q a → Q' a) : x.Ensures P' Q' :=
  ⟨fun e he => hP e (hx.trace e he), fun a ha => hQ a (hx.result a ha)⟩

theorem mapError {x : Traced E ε α} (hx : x.Ensures P Q) (g : ε → ε) :
    (x.mapError g).Ensures P Q :=
  ⟨hx.trace, fun a ha => hx.result a (result_mapError_eq_ok.mp ha)⟩

end Ensures

end Traced

end FrpXtcp.Lib

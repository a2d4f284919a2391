import FrpXtcp.Lib.BigEndian

/-!
# Byte slices

Reading and writing at an offset of a slice, as a program does it that keeps the offset
itself. An access outside of the slice is an outcome of its own, so that its absence can be
stated. The lemmas describe an access to a slice that is cut at the offset: what comes
before, what is read or overwritten, and what follows.
-/
namespace FrpXtcp.Lib

/-- Why a function on slices has no result: it returns an error, or it accessed a slice
outside of its bounds. -/
inductive Fault where
  | error (msg : String)
  | outOfRange
  deriving DecidableEq

/-- `if c { return err }` -/
def failIf (c : Prop) [Decidable c] (err : Fault) : Except Fault Unit :=
  if c then .error err else .ok ()

/-- No access is out of range, and a result satisfies `P`. -/
def Safe {α : Type} (x : Except Fault α) (P : α → Prop) : Prop :=
  match x with
  | .ok a => P a
  | .error e => e ≠ .outOfRange

section Safe

variable {α β : Type}

@[simp] theorem ok_bind (a : α) (f : α → Except Fault β) : (Except.ok a >>= f) = f a := rfl

@[simp] theorem error_bind (e : Fault) (f : α → Except Fault β) :
    (Except.error e >>= f) = .error e := rfl

theorem failIf_pos {c : Prop} [Decidable c] {err : Fault} (h : c) :
    failIf c err = .error err := if_pos h

theorem failIf_neg {c : Prop} [Decidable c] {err : Fault} (h : ¬ c) :
    failIf c err = .ok () := if_neg h

theorem Safe.bind {x : Except Fault α} {f : α → Except Fault β} {Q : α → Prop} {P : β → Prop}
    (hx : Safe x Q) (hf : ∀ a, Q a → Safe (f a) P) : Safe (x >>= f) P := by
  cases x with
  | ok a => exact hf a hx
  | error e => exact hx

theorem Safe.failIf {c : Prop} [Decidable c] {msg : String} {f : Unit → Except Fault β}
    {P : β → Prop} (h : ¬ c → Safe (f ()) P) : Safe (failIf c (.error msg) >>= f) P := by
  unfold Lib.failIf
  split
  · exact Fault.noConfusion
  · exact h ‹_›

theorem Safe.mono {x : Except Fault α} {P Q : α → Prop} (hx : Safe x P) (h : ∀ a, P a → Q a) :
    Safe x Q := by
  cases x with
  | ok a => exact h a hx
  | error e => exact hx

end Safe

namespace Bytes

/-- `b[i]` -/
def index (b : List UInt8) (i : Nat) : Except Fault UInt8 :=
  match b[i]? with
  | some x => .ok x
  | none => .error .outOfRange

/-- `b[i:j]` -/
def slice (b : List UInt8) (i j : Nat) : Except Fault (List UInt8) :=
  if i ≤ j ∧ j ≤ b.length then .ok ((b.take j).drop i) else .error .outOfRange

/-- `binary.BigEndian.Uint16(b[i:i+2])` -/
def uint16 (b : List UInt8) (i : Nat) : Except Fault UInt16 :=
  (slice b i (i + 2)).map fun w => UInt16.ofNat (BigEndian.ofBytes w)

/-- `b[i] = x` -/
def set (b : List UInt8) (i : Nat) (x : UInt8) : Except Fault (List UInt8) :=
  if i < b.length then .ok (b.set i x) else .error .outOfRange

/-- `copy(b[i:], src)` -/
def copyAt (b : List UInt8) (i : Nat) (src : List UInt8) : Except Fault (List UInt8) :=
  if i ≤ b.length then
    .ok (b.take i ++ (src.take (b.length - i) ++ b.drop (i + src.length)))
  else .error .outOfRange

/-- `binary.BigEndian.PutUint16(b[i:i+2], x)` -/
def putUint16 (b : List UInt8) (i : Nat) (x : UInt16) : Except Fault (List UInt8) :=
  if i + 2 ≤ b.length then copyAt b i (BigEndian.toBytes 2 x.toNat) else .error .outOfRange

variable {b a c : List UInt8} {i : Nat}

theorem index_at {x : UInt8} (hb : b = a ++ x :: c) (hi : i = a.length) : index b i = .ok x := by
  simp [index, hb, hi]

theorem slice_at {m : List UInt8} {j : Nat} (hb : b = a ++ (m ++ c)) (hi : i = a.length)
    (hj : j = i + m.length) : slice b i j = .ok m := by
  subst hb hi hj
  simp [slice, List.take_append]

theorem uint16_at {x : UInt16} (hb : b = a ++ (BigEndian.toBytes 2 x.toNat ++ c))
    (hi : i = a.length) : uint16 b i = .ok x := by
  rw [uint16, slice_at hb hi (by simp), Except.map, BigEndian.ofBytes_uint16]

theorem set_at {o x : UInt8} (hb : b = a ++ o :: c) (hi : i = a.length) :
    set b i x = .ok (a ++ x :: c) := by
  simp [set, hb, hi]

theorem copyAt_at {o src : List UInt8} (hb : b = a ++ (o ++ c)) (hi : i = a.length)
    (hlen : o.length = src.length) : copyAt b i src = .ok (a ++ (src ++ c)) := by
  subst hb hi
  have hrest : (a ++ (o ++ c)).drop (a.length + src.length) = c := by
    simp [List.drop_append, ← hlen]
  rw [copyAt, if_pos (by simp), List.take_left, hrest, List.take_of_length_le (by simp [← hlen])]

theorem putUint16_at {o : List UInt8} (x : UInt16) (hb : b = a ++ (o ++ c))
    (hi : i = a.length) (hlen : o.length = 2) :
    putUint16 b i x = .ok (a ++ (BigEndian.toBytes 2 x.toNat ++ c)) := by
  rw [putUint16, if_pos (by simp [hb, hi, hlen]), copyAt_at hb hi (by simp [hlen])]

/-- A slice that is long enough can be cut. -/
theorem exists_append {n : Nat} (h : n ≤ b.length) :
    ∃ m c, m.length = n ∧ b = m ++ c :=
  ⟨b.take n, b.drop n, List.length_take_of_le h, (List.take_append_drop n b).symm⟩

/-- Two bytes are a number. -/
theorem exists_uint16 {m : List UInt8} (h : m.length = 2) :
    ∃ x : UInt16, m = BigEndian.toBytes 2 x.toNat :=
  ⟨_, (BigEndian.toBytes_uint16 h).symm⟩

end Bytes

end FrpXtcp.Lib

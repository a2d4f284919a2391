import Mathlib.Tactic.Common

/-!
# Buffered channels

A channel is a bounded FIFO with a closed flag. A send on a closed channel and a
second close are run-time panics, which stay visible as outcomes instead of being
excluded by a precondition.
-/
namespace FrpXtcp.Lib

universe u

/-- A buffered channel never holds more than its capacity. -/
structure Chan (α : Type u) where
  cap : Nat
  buf : List α
  closed : Bool
  le_cap : buf.length ≤ cap

namespace Chan

variable {α : Type u}

/-- `make(chan α, cap)` -/
def make (cap : Nat) : Chan α := ⟨cap, [], false, Nat.zero_le _⟩

/-- Outcome of `select { case c <- v: default: }`. -/
inductive Sent (α : Type u) where
  | panic
  | full
  | ok (c : Chan α)

def trySend (c : Chan α) (v : α) : Sent α :=
  if c.closed then .panic
  else if h : c.buf.length < c.cap then
    .ok
      { c with
        buf := c.buf ++ [v]
        le_cap := by rw [List.length_append, List.length_singleton]; exact h }
  else .full

/-- Outcome of `v, ok := <-c`: blocked, `ok = false`, or a value. -/
inductive Received (α : Type u) where
  | block
  | closed
  | value (v : α) (c : Chan α)

def recv (c : Chan α) : Received α :=
  match h : c.buf with
  | [] => if c.closed then .closed else .block
  | v :: vs => .value v { c with buf := vs, le_cap := by have := c.le_cap; simp [h] at this; omega }

/-- `close(c)`; `none` is the panic of closing twice. -/
def close (c : Chan α) : Option (Chan α) :=
  if c.closed then none else some { c with closed := true }

/-- A send that succeeds appends to an open channel. -/
theorem trySend_ok {c c' : Chan α} {v : α} (h : c.trySend v = .ok c') :
    c.closed = false ∧ c'.buf = c.buf ++ [v] ∧ c'.closed = false ∧ c'.cap = c.cap := by
  unfold trySend at h
  split at h
  · cases h
  · rename_i hc
    split at h
    · cases h
      simpa using hc
    · cases h

theorem trySend_panic_iff {c : Chan α} {v : α} : c.trySend v = .panic ↔ c.closed = true := by
  unfold trySend
  split
  · simp [*]
  · split <;> simp [*]

theorem recv_value {c c' : Chan α} {v : α} (h : c.recv = .value v c') :
    c.buf = v :: c'.buf ∧ c'.closed = c.closed ∧ c'.cap = c.cap := by
  unfold recv at h
  split at h
  · split at h <;> cases h
  · rename_i hb
    cases h
    exact ⟨hb, rfl, rfl⟩

theorem recv_of_buf {c : Chan α} {v : α} {vs : List α} (h : c.buf = v :: vs) :
    ∃ v c', c.recv = .value v c' := by
  unfold recv
  split
  · rename_i hb
    rw [h] at hb
    cases hb
  · exact ⟨_, _, rfl⟩

/-- A receive blocks only on an open channel. -/
theorem recv_block {c : Chan α} (h : c.recv = .block) : c.closed = false := by
  unfold recv at h
  split at h
  · split at h
    · cases h
    · simpa using ‹¬ c.closed = true›
  · cases h

/-- Only an empty closed channel reports closure. -/
theorem recv_closed {c : Chan α} (h : c.recv = .closed) : c.buf = [] ∧ c.closed = true := by
  unfold recv at h
  split at h
  · rename_i hb
    split at h
    · exact ⟨hb, ‹_›⟩
    · cases h
  · cases h

theorem close_some {c c' : Chan α} (h : c.close = some c') :
    c.closed = false ∧ c'.closed = true ∧ c'.buf = c.buf ∧ c'.cap = c.cap := by
  unfold close at h
  split at h
  · cases h
  · rename_i hc
    cases h
    simpa using hc

end Chan

end FrpXtcp.Lib

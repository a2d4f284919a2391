import Mathlib.Tactic.Common

/-!
# The backoff of retries

`pkg/util/wait/backoff.go`: after a failure the next try is delayed by a growing duration, but
the first `FastRetryCount` failures are answered with a short delay. A counter says how many
have been; it is set back by a failure over the limit that comes after a cutoff time, which
is thereby moved by `FastRetryWindow`. What floating-point numbers do to durations is left
open.

Times and durations are nanoseconds, a time counted from the zero time. The counters are
integers: a run of calls leaves them within its length (`counters_le_length`), so that an `int`
would overflow after 2^63 - 1 calls at the earliest.
-/
namespace FrpXtcp.Util

/-- `util.EmptyOr`; the zero value of a type is its default here. -/
def emptyOr {T : Type} [DecidableEq T] [Inhabited T] (v fallback : T) : T :=
  if v = default then fallback else v

abbrev Duration := Int

abbrev Time := Int

def millisecond : Duration := 1000000

def second : Duration := 1000 * millisecond

def minute : Duration := 60 * second

/-- The operations on `float64` that a backoff uses. -/
structure Floats (F : Type) where
  one : F
  /-- `x == 0`, `x > 0` and `x <= 0.0`, all false for a NaN. -/
  isZero : F → Bool
  isPositive : F → Bool
  isNotPositive : F → Bool
  /-- `time.Duration(float64(duration) * x)` -/
  scale : Duration → F → Duration
  /-- `time.Duration(random * x * float64(duration))` -/
  share : F → F → Duration → Duration

structure FastBackoffOptions (F : Type) where
  duration : Duration
  factor : F
  jitter : F
  maxDuration : Duration
  initDurationIfFail : Duration
  fastRetryCount : Int
  fastRetryDelay : Duration
  fastRetryJitter : F
  fastRetryWindow : Duration

/-- `fastBackoffImpl` without its options and its clock. -/
structure FastBackoff where
  lastCalledTime : Time
  consecutiveErrCount : Int
  fastRetryCutoffTime : Time
  countsInFastRetryWindow : Int

def newFastBackoffManager : FastBackoff := ⟨0, 0, 0, 1⟩

/-- One call of `Backoff`: its arguments, what the clock says and the random number that it
draws if it draws one. -/
structure Call (F : Type) where
  previousDuration : Duration
  previousConditionError : Bool
  now : Time
  random : F

/-- The result, and whether it is returned by the branch of fast retries. -/
structure Reply where
  delay : Duration
  fast : Bool

variable {F : Type}

def jitter (floats : Floats F) (random : F) (duration : Duration) (maxFactor : F) : Duration :=
  let maxFactor := if floats.isNotPositive maxFactor then floats.one else maxFactor
  duration + floats.share random maxFactor duration

/-- The block on fast retries: the new counters, and whether it returns. -/
def fastRetry (options : FastBackoffOptions F) (now : Time) (previousConditionError : Bool)
    (f : FastBackoff) : FastBackoff × Bool :=
  if 0 < options.fastRetryCount ∧ previousConditionError = true then
    let f := { f with countsInFastRetryWindow := f.countsInFastRetryWindow + 1 }
    if f.countsInFastRetryWindow ≤ options.fastRetryCount then (f, true)
    else if f.fastRetryCutoffTime < now then
      -- reset
      ({ f with
          fastRetryCutoffTime := now + options.fastRetryWindow
          countsInFastRetryWindow := 0 }, false)
    else (f, false)
  else (f, false)

/-- What `Backoff` returns after the block on fast retries. -/
def regularDelay (floats : Floats F) (options : FastBackoffOptions F) (f : FastBackoff)
    (call : Call F) : Duration :=
  if call.previousConditionError then
    let duration :=
      if f.consecutiveErrCount = 1 then emptyOr options.initDurationIfFail call.previousDuration
      else call.previousDuration
    let duration := emptyOr duration second
    let duration :=
      if floats.isZero options.factor then duration else floats.scale duration options.factor
    let duration :=
      if floats.isPositive options.jitter then jitter floats call.random duration options.jitter
      else duration
    if 0 < options.maxDuration ∧ options.maxDuration < duration then options.maxDuration
    else duration
  else options.duration

/-- `fastBackoffImpl.Backoff` -/
def backoff (floats : Floats F) (options : FastBackoffOptions F) (f : FastBackoff)
    (call : Call F) : FastBackoff × Reply :=
  if f.lastCalledTime = 0 then ({ f with lastCalledTime := call.now }, ⟨options.duration, false⟩)
  else
    let f :=
      { f with
        lastCalledTime := call.now
        consecutiveErrCount :=
          if call.previousConditionError then f.consecutiveErrCount + 1 else 0 }
    match fastRetry options call.now call.previousConditionError f with
    | (f, true) =>
      (f, ⟨jitter floats call.random options.fastRetryDelay options.fastRetryJitter, true⟩)
    | (f, false) => (f, ⟨regularDelay floats options f call, false⟩)

/-- A run of calls, with what they return. -/
def backoffs (floats : Floats F) (options : FastBackoffOptions F) :
    FastBackoff → List (Call F) → List (Call F × Reply)
  | _, [] => []
  | f, call :: calls =>
    (call, (backoff floats options f call).2) ::
      backoffs floats options (backoff floats options f call).1 calls

/-- The state after a run of calls. -/
def stateAfter (floats : Floats F) (options : FastBackoffOptions F) (f : FastBackoff)
    (calls : List (Call F)) : FastBackoff :=
  calls.foldl (fun f call => (backoff floats options f call).1) f

section Until

/-- How `f` of `BackoffUntil` ends. -/
inductive Outcome where
  | done
  | failed
  | succeeded
  deriving DecidableEq

/-- A round of the loop of `BackoffUntil`: whether `stopCh` ends it, before or after the call
of `f`, and the time and the random number of its call of `Backoff`. -/
structure Round (F : Type) where
  stopped : Bool
  outcome : Outcome
  now : Time
  random : F
  stoppedWaiting : Bool

/-- The call of `Backoff` in a round: after `f`, or before it with what the round before left. -/
def Round.call (r : Round F) (sliding : Bool) (delay : Duration) (previousError : Bool) : Call F :=
  ⟨delay, if sliding then decide (r.outcome = .failed) else previousError, r.now, r.random⟩

/-- The rounds of `BackoffUntil`, with `Backoff` as the backoff manager: the calls of `Backoff`
and what they return. The ticker cannot be reset to a duration that is not positive. -/
def backoffUntilFrom (floats : Floats F) (options : FastBackoffOptions F) (sliding : Bool) :
    FastBackoff → Duration → Bool → List (Round F) → List (Call F × Reply)
  | _, _, _, [] => []
  | f, delay, previousError, r :: rounds =>
    if r.stopped ∨ (sliding ∧ r.outcome = .done) then []
    else
      let call := r.call sliding delay previousError
      let (f, reply) := backoff floats options f call
      (call, reply) ::
        if r.outcome = .done ∨ reply.delay ≤ 0 ∨ r.stoppedWaiting then []
        else
          backoffUntilFrom floats options sliding f reply.delay (decide (r.outcome = .failed))
            rounds

/-- `BackoffUntil`. The first call of `Backoff`, at time `now`, is for the ticker. -/
def backoffUntil (floats : Floats F) (options : FastBackoffOptions F) (sliding : Bool)
    (now : Time) (random : F) (rounds : List (Round F)) : List (Call F × Reply) :=
  let call : Call F := ⟨0, false, now, random⟩
  let (f, reply) := backoff floats options newFastBackoffManager call
  (call, reply) ::
    if reply.delay ≤ 0 then [] else backoffUntilFrom floats options sliding f 0 false rounds

/-- The options in `keepControllerWorking`, where `two`, `tenth` and `half` are 2, 0.1 and
0.5. -/
def keepControllerWorkingOptions (two tenth half : F) : FastBackoffOptions F where
  duration := second
  factor := two
  jitter := tenth
  maxDuration := 20 * second
  initDurationIfFail := 0
  fastRetryCount := 3
  fastRetryDelay := 200 * millisecond
  fastRetryJitter := half
  fastRetryWindow := minute

end Until

section Calls

variable {floats : Floats F} {options : FastBackoffOptions F}

/-- What one call does to the counter and the cutoff, and whether it is a fast retry. -/
theorem backoff_cases (f : FastBackoff) (call : Call F) :
    let r := backoff floats options f call
    (r.2.fast = false ∧ r.1.countsInFastRetryWindow = f.countsInFastRetryWindow ∧
      r.1.fastRetryCutoffTime = f.fastRetryCutoffTime) ∨
    (r.2.fast = true ∧ f.countsInFastRetryWindow < options.fastRetryCount ∧
      r.2.delay = jitter floats call.random options.fastRetryDelay options.fastRetryJitter ∧
      r.1.countsInFastRetryWindow = f.countsInFastRetryWindow + 1 ∧
      r.1.fastRetryCutoffTime = f.fastRetryCutoffTime) ∨
    (r.2.fast = false ∧ options.fastRetryCount ≤ f.countsInFastRetryWindow ∧
      f.fastRetryCutoffTime < call.now ∧ r.1.countsInFastRetryWindow = 0 ∧
      r.1.fastRetryCutoffTime = call.now + options.fastRetryWindow) ∨
    (r.2.fast = false ∧ options.fastRetryCount ≤ f.countsInFastRetryWindow ∧
      r.1.countsInFastRetryWindow = f.countsInFastRetryWindow + 1 ∧
      r.1.fastRetryCutoffTime = f.fastRetryCutoffTime) := by
  unfold backoff
  by_cases hfirst : f.lastCalledTime = 0
  · rw [if_pos hfirst]
    exact Or.inl ⟨rfl, rfl, rfl⟩
  · rw [if_neg hfirst]
    unfold fastRetry
    dsimp only
    by_cases hcount : 0 < options.fastRetryCount ∧ call.previousConditionError = true
    · rw [if_pos hcount]
      by_cases hfast : f.countsInFastRetryWindow + 1 ≤ options.fastRetryCount
      · rw [if_pos hfast]
        exact Or.inr (Or.inl ⟨rfl, hfast, rfl, rfl, rfl⟩)
      · rw [if_neg hfast]
        have hover : options.fastRetryCount ≤ f.countsInFastRetryWindow := by omega
        by_cases hcutoff : f.fastRetryCutoffTime < call.now
        · rw [if_pos hcutoff]
          exact Or.inr (Or.inr (Or.inl ⟨rfl, hover, hcutoff, rfl, rfl⟩))
        · rw [if_neg hcutoff]
          exact Or.inr (Or.inr (Or.inr ⟨rfl, hover, rfl, rfl⟩))
    · rw [if_neg hcount]
      exact Or.inl ⟨rfl, rfl, rfl⟩

theorem backoff_counts_le {f : FastBackoff} (h : 0 ≤ f.countsInFastRetryWindow) (call : Call F) :
    0 ≤ (backoff floats options f call).1.countsInFastRetryWindow ∧
      (backoff floats options f call).1.countsInFastRetryWindow ≤
        f.countsInFastRetryWindow + 1 := by
  rcases backoff_cases f call with
    ⟨-, hc, -⟩ | ⟨-, -, -, hc, -⟩ | ⟨-, -, -, hc, -⟩ | ⟨-, -, hc, -⟩ <;>
    rw [hc] <;> omega

theorem fastRetry_consecutiveErrCount (now : Time) (previousConditionError : Bool)
    (f : FastBackoff) :
    (fastRetry options now previousConditionError f).1.consecutiveErrCount =
      f.consecutiveErrCount := by
  unfold fastRetry
  dsimp only
  split_ifs <;> rfl

theorem backoff_errors_le {f : FastBackoff} (h : 0 ≤ f.consecutiveErrCount) (call : Call F) :
    0 ≤ (backoff floats options f call).1.consecutiveErrCount ∧
      (backoff floats options f call).1.consecutiveErrCount ≤ f.consecutiveErrCount + 1 := by
  have hcount : (backoff floats options f call).1.consecutiveErrCount = f.consecutiveErrCount ∨
      (backoff floats options f call).1.consecutiveErrCount =
        if call.previousConditionError then f.consecutiveErrCount + 1 else 0 := by
    unfold backoff
    by_cases hfirst : f.lastCalledTime = 0
    · rw [if_pos hfirst]
      exact Or.inl rfl
    · rw [if_neg hfirst]
      right
      dsimp only
      split <;> rename_i heq
      · rw [← congrArg Prod.fst heq, fastRetry_consecutiveErrCount]
      · rw [← congrArg Prod.fst heq, fastRetry_consecutiveErrCount]
  rcases hcount with hcount | hcount
  · omega
  · rw [hcount]
    split_ifs <;> omega

/-- Neither counter outgrows the number of calls. -/
theorem counters_le_length (f : FastBackoff) (hcounts : 0 ≤ f.countsInFastRetryWindow)
    (herrors : 0 ≤ f.consecutiveErrCount) (calls : List (Call F)) :
    let f' := stateAfter floats options f calls
    (0 ≤ f'.countsInFastRetryWindow ∧
      f'.countsInFastRetryWindow ≤ f.countsInFastRetryWindow + calls.length) ∧
    (0 ≤ f'.consecutiveErrCount ∧
      f'.consecutiveErrCount ≤ f.consecutiveErrCount + calls.length) := by
  induction calls generalizing f with
  | nil => simp [stateAfter, hcounts, herrors]
  | cons call calls ih =>
    have hrest := ih (backoff floats options f call).1 (backoff_counts_le hcounts call).1
      (backoff_errors_le herrors call).1
    have hc : (backoff floats options f call).1.countsInFastRetryWindow ≤
        f.countsInFastRetryWindow + 1 := (backoff_counts_le hcounts call).2
    have he : (backoff floats options f call).1.consecutiveErrCount ≤
        f.consecutiveErrCount + 1 := (backoff_errors_le herrors call).2
    simp only [stateAfter, List.foldl_cons, List.length_cons] at hrest ⊢
    omega

end Calls

end FrpXtcp.Util

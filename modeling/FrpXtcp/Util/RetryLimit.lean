import FrpXtcp.Lib.Allowance
import FrpXtcp.Util.Backoff

/-!
# How often a backoff answers with a fast retry

The counter of fast retries is an allowance read backwards: a fast retry spends from it, and
the reset refills it and moves the cutoff. The bound on what is spent in an interval is the
bound on fast retries, in any mix of failures, successes and pauses.
-/
namespace FrpXtcp.Util

open FrpXtcp.Lib

variable {F : Type} (floats : Floats F) (options : FastBackoffOptions F)

/-- The fast retries left before the counter is over the limit. -/
def allowance (f : FastBackoff) : Allowance :=
  ⟨(options.fastRetryCount - f.countsInFastRetryWindow).toNat, f.fastRetryCutoffTime⟩

theorem backoff_step (f : FastBackoff) (call : Call F) :
    ∃ use, Allowance.Step options.fastRetryCount.toNat options.fastRetryWindow
        (allowance options f) (call.now, use)
        (allowance options (backoff floats options f call).1) ∧
      (use = .spend ↔ (backoff floats options f call).2.fast = true) := by
  unfold allowance
  rcases backoff_cases f call with ⟨hfast, hcount, hcutoff⟩ |
      ⟨hfast, hlt, -, hcount, hcutoff⟩ | ⟨hfast, -, hlt, hcount, hcutoff⟩ |
      ⟨hfast, hle, hcount, hcutoff⟩
  · rw [hfast, hcount, hcutoff]
    exact ⟨.idle, .idle, by simp⟩
  · have hleft : (options.fastRetryCount - f.countsInFastRetryWindow).toNat =
        (options.fastRetryCount - (f.countsInFastRetryWindow + 1)).toNat + 1 := by omega
    rw [hfast, hcount, hcutoff, hleft]
    exact ⟨.spend, .spend, by simp⟩
  · rw [hfast, hcount, hcutoff, Int.sub_zero]
    exact ⟨.refill, .refill hlt, by simp⟩
  · -- over the limit and before the cutoff: nothing is left either way
    have hleft : (options.fastRetryCount - (f.countsInFastRetryWindow + 1)).toNat =
        (options.fastRetryCount - f.countsInFastRetryWindow).toNat := by omega
    rw [hfast, hcount, hcutoff, hleft]
    exact ⟨.idle, .idle, by simp⟩

/-- A run of calls is a run of the allowance, with the same times and the fast retries as what
is spent. -/
theorem backoffs_run (f : FastBackoff) (calls : List (Call F)) :
    ∃ l b, Allowance.Run options.fastRetryCount.toNat options.fastRetryWindow
        (allowance options f) l b ∧
      l.map (fun e => (e.1, decide (e.2 = .spend))) =
        (backoffs floats options f calls).map fun r => (r.1.now, r.2.fast) := by
  induction calls generalizing f with
  | nil => exact ⟨[], _, .nil, rfl⟩
  | cons call calls ih =>
    obtain ⟨use, hstep, huse⟩ := backoff_step floats options f call
    obtain ⟨l, b, hrun, hl⟩ := ih (backoff floats options f call).1
    refine ⟨(call.now, use) :: l, b, .cons hstep hrun, ?_⟩
    rw [backoffs, List.map_cons, List.map_cons, hl]
    simp only [huse, Bool.decide_eq_true]

theorem map_fst_backoffs (f : FastBackoff) (calls : List (Call F)) :
    (backoffs floats options f calls).map Prod.fst = calls := by
  induction calls generalizing f with
  | nil => rfl
  | cons call calls ih => rw [backoffs, List.map_cons, ih]

/-- The calls between two times that are answered with a fast retry. -/
def fastRetriesIn (start stop : Time) (l : List (Call F × Reply)) : Nat :=
  l.countP fun r => r.2.fast && decide (start ≤ r.1.now ∧ r.1.now ≤ stop)

variable {options}

/-- The bound holds for the calls from any state on. -/
theorem fastRetriesIn_le (hcount : 0 < options.fastRetryCount)
    (hwindow : 0 < options.fastRetryWindow) {f : FastBackoff}
    (hf : 0 ≤ f.countsInFastRetryWindow) {calls : List (Call F)}
    (hclock : calls.Pairwise fun c c' => c.now ≤ c'.now) (start : Time) {T : Duration}
    (hT : 0 ≤ T) :
    (fastRetriesIn start (start + T) (backoffs floats options f calls) : Int) ≤
      options.fastRetryCount * (T / options.fastRetryWindow + 2) := by
  obtain ⟨l, b, hrun, hl⟩ := backoffs_run floats options f calls
  have htimes : l.map Prod.fst = calls.map Call.now := by
    have h := congrArg (List.map Prod.fst) hl
    rw [List.map_map, List.map_map] at h
    rw [← map_fst_backoffs floats options f calls, List.map_map]
    exact h
  have hsorted : l.Pairwise fun e e' => e.1 ≤ e'.1 := by
    rw [← List.pairwise_map (f := Prod.fst) (R := (· ≤ ·)), htimes, List.pairwise_map]
    exact hclock
  have hspends : fastRetriesIn start (start + T) (backoffs floats options f calls) =
      Allowance.spends (l.filter fun e => start ≤ e.1 ∧ e.1 ≤ start + T) := by
    have h := congrArg (List.countP fun p : Int × Bool =>
      p.2 && decide (start ≤ p.1 ∧ p.1 ≤ start + T)) hl
    rw [List.countP_map, List.countP_map] at h
    rw [fastRetriesIn, Allowance.spends, List.countP_filter]
    exact h.symm
  have hleft : (allowance options f).left ≤ options.fastRetryCount.toNat := by
    dsimp only [allowance]
    omega
  have hbound := hrun.spends_interval hleft hwindow hsorted start hT
  rw [Int.toNat_of_nonneg (Int.le_of_lt hcount)] at hbound
  rw [hspends]
  exact hbound

/-- In every interval of length `T` there are at most `C * (T / W + 2)` fast retries. -/
theorem fast_retries_limited (hcount : 0 < options.fastRetryCount)
    (hwindow : 0 < options.fastRetryWindow) (calls : List (Call F))
    (hclock : calls.Pairwise fun c c' => c.now ≤ c'.now) (start : Time) (T : Duration)
    (hT : 0 ≤ T) :
    (fastRetriesIn start (start + T) (backoffs floats options newFastBackoffManager calls) : Int) ≤
      options.fastRetryCount * (T / options.fastRetryWindow + 2) := by
  have hnew : 0 ≤ newFastBackoffManager.countsInFastRetryWindow := by decide
  exact fastRetriesIn_le floats hcount hwindow hnew hclock start hT

/-- Failures without a pause: two fast retries before the first reset and three after it. -/
theorem fast_retries_limited_storm :
    let calls := List.replicate 9 (⟨0, true, 1, ()⟩ : Call Unit)
    let replies := backoffs ⟨(), fun _ => false, fun _ => false, fun _ => true, fun d _ => d,
      fun _ _ _ => 0⟩ (keepControllerWorkingOptions () () ()) newFastBackoffManager calls
    fastRetriesIn 1 1 replies = 5 ∧ (fastRetriesIn 1 1 replies : Int) ≤ 3 * (0 / minute + 2) := by
  intro calls replies
  refine ⟨by decide +kernel, ?_⟩
  exact fast_retries_limited _ (by decide) (by decide) calls (by decide) 1 0 (by decide)

section Until

variable (options)

/-- The loop of `BackoffUntil` is a run of its calls, which come at the times of its rounds. -/
theorem backoffUntilFrom_run (sliding : Bool) (f : FastBackoff) (delay : Duration)
    (previousError : Bool) (rounds : List (Round F)) :
    ∃ calls, backoffUntilFrom floats options sliding f delay previousError rounds =
        backoffs floats options f calls ∧
      (calls.map Call.now).Sublist (rounds.map Round.now) := by
  induction rounds generalizing f delay previousError with
  | nil => exact ⟨[], rfl, List.Sublist.refl _⟩
  | cons r rounds ih =>
    unfold backoffUntilFrom
    dsimp only
    split_ifs with hstopped hend
    · exact ⟨[], rfl, List.nil_sublist _⟩
    · exact ⟨[r.call sliding delay previousError], rfl,
        (List.nil_sublist _).cons_cons r.now⟩
    · obtain ⟨calls, hcalls, hnow⟩ :=
        ih (backoff floats options f (r.call sliding delay previousError)).1
          (backoff floats options f (r.call sliding delay previousError)).2.delay
          (decide (r.outcome = .failed))
      refine ⟨r.call sliding delay previousError :: calls, ?_, hnow.cons_cons r.now⟩
      rw [hcalls, backoffs]

theorem backoffUntil_run (sliding : Bool) (now : Time) (random : F) (rounds : List (Round F)) :
    ∃ calls, backoffUntil floats options sliding now random rounds =
        backoffs floats options newFastBackoffManager calls ∧
      (calls.map Call.now).Sublist (now :: rounds.map Round.now) := by
  unfold backoffUntil
  dsimp only
  split_ifs with hdelay
  · exact ⟨[⟨0, false, now, random⟩], rfl, (List.nil_sublist _).cons_cons now⟩
  · obtain ⟨calls, hcalls, hnow⟩ := backoffUntilFrom_run floats options sliding
      (backoff floats options newFastBackoffManager ⟨0, false, now, random⟩).1 0 false rounds
    refine ⟨⟨0, false, now, random⟩ :: calls, ?_, hnow.cons_cons now⟩
    rw [hcalls, backoffs]

/-- A client that loses its control again and again logs in with a fast retry at most three
times for each minute, and six times more. -/
theorem keepControllerWorking_limited (two tenth half : F) (now : Time) (random : F)
    (rounds : List (Round F)) (hclock : (now :: rounds.map Round.now).Pairwise (· ≤ ·))
    (start : Time) {T : Duration} (hT : 0 ≤ T) :
    (fastRetriesIn start (start + T)
      (backoffUntil floats (keepControllerWorkingOptions two tenth half) true now random rounds) :
        Int) ≤ 3 * (T / minute) + 6 := by
  obtain ⟨calls, hcalls, hnow⟩ := backoffUntil_run floats
    (keepControllerWorkingOptions two tenth half) true now random rounds
  have hsorted : calls.Pairwise fun c c' => c.now ≤ c'.now :=
    List.pairwise_map.mp (hclock.sublist hnow)
  have hcount : (0 : Int) < 3 := by decide
  have hminute : 0 < minute := by decide
  have hnew : 0 ≤ newFastBackoffManager.countsInFastRetryWindow := by decide
  have hbound : (fastRetriesIn start (start + T) (backoffs floats
      (keepControllerWorkingOptions two tenth half) newFastBackoffManager calls) : Int) ≤
        3 * (T / minute + 2) :=
    fastRetriesIn_le floats hcount hminute hnew hsorted start hT
  rw [hcalls]
  omega

end Until

end FrpXtcp.Util

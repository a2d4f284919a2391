import FrpXtcp.Client.VisitorManager
import FrpXtcp.Lib.Word
import FrpXtcp.Util.Backoff

/-!
# The visitor that keeps its tunnel open

A visitor's configuration is completed with defaults (`pkg/config/v1/visitor.go`), validated
(`pkg/config/v1/validation/visitor.go`) and run (`client/visitor/xtcp.go`). With
`KeepTunnelOpen`, `Run` makes a rate limiter from `MaxRetriesAnHour` and starts a worker whose
ticker has a period of `MinRetryInterval` seconds. Durations are 64-bit numbers of nanoseconds,
and neither the defaults nor the validation look at the range of the two fields.
-/
namespace FrpXtcp.Client

open FrpXtcp.Lib
open FrpXtcp.Util (emptyOr)

section Config

/-- `VisitorBaseConfig.Complete` -/
def VisitorBaseConfig.complete (c : VisitorBaseConfig) : VisitorBaseConfig :=
  if c.bindAddr = "" then { c with bindAddr := "127.0.0.1" } else c

/-- `XTCPVisitorConfig.Complete` -/
def VisitorConfig.complete (c : VisitorConfig) : VisitorConfig :=
  { c with
    toVisitorBaseConfig := c.toVisitorBaseConfig.complete
    protocol := emptyOr c.protocol "quic"
    maxRetriesAnHour := emptyOr c.maxRetriesAnHour 8
    minRetryInterval := emptyOr c.minRetryInterval 90
    fallbackTimeoutMs := emptyOr c.fallbackTimeoutMs 1000 }

def validateVisitorBaseConfig (c : VisitorBaseConfig) : Option String :=
  if c.name = "" then some "name is required"
  else if c.serverName = "" then some "server name is required"
  else if c.bindPort = 0 then some "bind port is required"
  else none

def validateXTCPVisitorConfig (c : VisitorConfig) : Option String :=
  if c.protocol ∈ ["kcp", "quic"] then none else some "protocol should be kcp or quic"

/-- `ValidateVisitorConfigurer`, for the one type of visitors that there is. -/
def validateVisitorConfigurer (c : VisitorConfig) : Option String :=
  match validateVisitorBaseConfig c.toVisitorBaseConfig with
  | some err => some err
  | none => validateXTCPVisitorConfig c

end Config

section Run

/-- Why a goroutine ends the program. -/
inductive Panic where
  | divideByZero
  | nonPositiveTicker
  deriving DecidableEq

def timeSecond : Int64 := 1000000000

def timeHour : Int64 := 3600 * timeSecond

/-- Division of two durations. -/
def quotient (a b : Int64) : Except Panic Int64 :=
  if b = 0 then .error .divideByZero else .ok (a / b)

/-- `time.NewTicker`, by its period. -/
def newTicker (d : Int64) : Except Panic Int64 :=
  if d ≤ 0 then .error .nonPositiveTicker else .ok d

/-- A `rate.Limit`: none at all, or one event in an interval. -/
inductive Limit where
  | inf
  | every (interval : Int64)
  deriving DecidableEq

/-- `rate.Every` -/
def rateEvery (interval : Int64) : Limit := if interval ≤ 0 then .inf else .every interval

structure Limiter where
  limit : Limit
  burst : Int64
  deriving DecidableEq

inductive TunnelSession where
  | kcp
  | quic
  deriving DecidableEq

/-- A visitor after `Run`: whether it listens on its port, and its limiter, with which
`keepTunnelOpenWorker` runs. -/
structure XTCPVisitor where
  session : TunnelSession
  listening : Bool
  retryLimiter : Option Limiter
  deriving DecidableEq

/-- `XTCPVisitor.Run`; `listenErr` is the error of `net.Listen`, if it fails. The result is the
visitor, or the error with which no goroutine is started. -/
def XTCPVisitor.run (cfg : VisitorConfig) (listenErr : Option String) :
    Except Panic (Except String XTCPVisitor) :=
  let session : TunnelSession := if cfg.protocol = "kcp" then .kcp else .quic
  let listening := decide (0 < cfg.bindPort)
  match (if listening then listenErr else none) with
  | some err => .ok (.error err)
  | none =>
    if cfg.keepTunnelOpen then do
      let interval ← quotient timeHour cfg.maxRetriesAnHour
      .ok (.ok ⟨session, listening, some ⟨rateEvery interval, cfg.maxRetriesAnHour⟩⟩)
    else .ok (.ok ⟨session, listening, none⟩)

/-- What the select of the worker takes: the end of the context, or a tick, after which
`getTunnelConn` gives a connection or fails. -/
inductive WorkerEvent where
  | done
  | tick (connected : Bool)
  deriving DecidableEq

inductive WorkerAction where
  | startTunnel
  | closeConn
  | waitLimiter
  deriving DecidableEq

def workerLoop : List WorkerEvent → List WorkerAction
  | [] => []
  | .done :: _ => []
  | .tick true :: events => .closeConn :: workerLoop events
  | .tick false :: events => .waitLimiter :: workerLoop events

/-- `keepTunnelOpenWorker` -/
def keepTunnelOpenWorker (cfg : VisitorConfig) (events : List WorkerEvent) :
    Except Panic (List WorkerAction) := do
  let _ ← newTicker (cfg.minRetryInterval * timeSecond)
  .ok (.startTunnel :: workerLoop events)

end Run

/-- A configuration as written, that is accepted after `Complete` and keeps its tunnel open. -/
structure KeepOpenConfig where
  written : VisitorConfig
  accepted : validateVisitorConfigurer written.complete = none
  keepTunnelOpen : written.keepTunnelOpen = true

/-- What `Run` and the worker need of a configuration: no division by zero, a product that does
not overflow and is positive, and a limiter with a positive interval and burst. -/
structure KeepsOpen (cfg : VisitorConfig) : Prop where
  divisor : cfg.maxRetriesAnHour ≠ 0
  period_exact : (cfg.minRetryInterval * timeSecond).toInt =
    cfg.minRetryInterval.toInt * timeSecond.toInt
  period_pos : 0 < cfg.minRetryInterval * timeSecond
  interval_pos : 0 < timeHour / cfg.maxRetriesAnHour
  burst_pos : 0 < cfg.maxRetriesAnHour

section KeepOpen

theorem timeSecond_toInt : timeSecond.toInt = 1000000000 := by decide

theorem timeHour_toInt : timeHour.toInt = 3600000000000 := by decide

theorem emptyOr_toInt (v fallback : Int64) :
    (emptyOr v fallback).toInt = if v.toInt = 0 then fallback.toInt else v.toInt := by
  have hzero : v = default ↔ v.toInt = 0 := by
    rw [← Int64.toInt_inj]
    exact Iff.rfl
  unfold emptyOr
  by_cases hv : v = default
  · rw [if_pos hv, if_pos (hzero.mp hv)]
  · rw [if_neg hv, if_neg (mt hzero.mpr hv)]

theorem period_iff (m : Int64) :
    ((m * timeSecond).toInt = m.toInt * timeSecond.toInt ∧ 0 < m * timeSecond) ↔
      1 ≤ m.toInt ∧ m.toInt ≤ 9223372036 := by
  have hzero : (0 : Int64).toInt = 0 := by decide
  rw [Int64.lt_iff_toInt_lt, hzero]
  have hexact := Word.toInt_mul_eq_iff m timeSecond
  rw [timeSecond_toInt] at hexact ⊢
  omega

theorem interval_iff (n : Int64) : 0 < timeHour / n ↔ 1 ≤ n.toInt ∧ n.toInt ≤ 3600000000000 := by
  have hzero : (0 : Int64).toInt = 0 := by decide
  have hmin : timeHour ≠ Int64.minValue := by decide
  rw [Int64.lt_iff_toInt_lt, hzero, Int64.toInt_div_of_ne_left timeHour n hmin, timeHour_toInt,
    Int.tdiv_eq_ediv_of_nonneg (by decide)]
  by_cases hn : 0 < n.toInt
  · have hle := Int.le_ediv_iff_mul_le (a := 1) (b := 3600000000000) hn
    omega
  · have hle : 3600000000000 / n.toInt ≤ 0 :=
      Int.ediv_nonpos_of_nonneg_of_nonpos (by decide) (Int.not_lt.mp hn)
    omega

/-- In terms of the configuration that is run. -/
theorem keepsOpen_iff (cfg : VisitorConfig) :
    KeepsOpen cfg ↔
      (1 ≤ cfg.maxRetriesAnHour.toInt ∧ cfg.maxRetriesAnHour.toInt ≤ 3600000000000) ∧
        (1 ≤ cfg.minRetryInterval.toInt ∧ cfg.minRetryInterval.toInt ≤ 9223372036) := by
  constructor
  · intro h
    exact ⟨(interval_iff _).mp h.interval_pos, (period_iff _).mp ⟨h.period_exact, h.period_pos⟩⟩
  · rintro ⟨hn, hm⟩
    obtain ⟨hexact, hpos⟩ := (period_iff _).mpr hm
    have hburst : 0 < cfg.maxRetriesAnHour := Int64.lt_iff_toInt_lt.mpr (by
      rw [show (0 : Int64).toInt = 0 by decide]
      omega)
    refine ⟨?_, hexact, hpos, (interval_iff _).mpr hn, hburst⟩
    intro hzero
    rw [hzero] at hburst
    exact absurd hburst (by decide)

/-- With such a configuration neither `Run` nor the worker panics, and retries are limited. -/
theorem KeepsOpen.runs {cfg : VisitorConfig} (h : KeepsOpen cfg) (hkeep : cfg.keepTunnelOpen = true)
    {listenErr : Option String} (hlisten : 0 < cfg.bindPort → listenErr = none)
    (events : List WorkerEvent) :
    (∃ v, XTCPVisitor.run cfg listenErr = .ok (.ok v) ∧
      v.retryLimiter = some ⟨.every (timeHour / cfg.maxRetriesAnHour), cfg.maxRetriesAnHour⟩) ∧
    keepTunnelOpenWorker cfg events = .ok (.startTunnel :: workerLoop events) := by
  have hnone : (if decide (0 < cfg.bindPort) = true then listenErr else none) = none := by
    split_ifs with hport
    · exact hlisten (of_decide_eq_true hport)
    · rfl
  have hinterval : rateEvery (timeHour / cfg.maxRetriesAnHour) =
      .every (timeHour / cfg.maxRetriesAnHour) := if_neg (Int64.not_le.mpr h.interval_pos)
  constructor
  · refine ⟨⟨if cfg.protocol = "kcp" then .kcp else .quic, decide (0 < cfg.bindPort),
      some ⟨rateEvery (timeHour / cfg.maxRetriesAnHour), cfg.maxRetriesAnHour⟩⟩, ?_,
      by rw [hinterval]⟩
    rw [XTCPVisitor.run]
    rw [hnone]
    dsimp only
    rw [if_pos hkeep, quotient, if_neg h.divisor]
    rfl
  · rw [keepTunnelOpenWorker, newTicker, if_neg (Int64.not_le.mpr h.period_pos)]
    rfl

end KeepOpen

/-- An accepted configuration keeps its tunnel open as it is to do exactly if both fields, where
0 stands for the default, are in range: neither is negative, `MaxRetriesAnHour` is not more than
the nanoseconds of an hour, and `MinRetryInterval` not more seconds than a duration holds. -/
theorem keep_open_iff (c : KeepOpenConfig) :
    KeepsOpen c.written.complete ↔
      (0 ≤ c.written.maxRetriesAnHour.toInt ∧
        c.written.maxRetriesAnHour.toInt ≤ 3600000000000) ∧
      (0 ≤ c.written.minRetryInterval.toInt ∧
        c.written.minRetryInterval.toInt ≤ 9223372036) := by
  have height : (8 : Int64).toInt = 8 := by decide
  have hninety : (90 : Int64).toInt = 90 := by decide
  have hretries : c.written.complete.maxRetriesAnHour.toInt =
      if c.written.maxRetriesAnHour.toInt = 0 then 8 else c.written.maxRetriesAnHour.toInt := by
    rw [← height]
    exact emptyOr_toInt _ _
  have hinterval : c.written.complete.minRetryInterval.toInt =
      if c.written.minRetryInterval.toInt = 0 then 90 else c.written.minRetryInterval.toInt := by
    rw [← hninety]
    exact emptyOr_toInt _ _
  rw [keepsOpen_iff, hretries, hinterval]
  omega

/-- An interval of -1 seconds is accepted, and the worker panics. -/
theorem keep_open_fails :
    ∃ c : KeepOpenConfig, c.written.minRetryInterval = -1 ∧ ¬ KeepsOpen c.written.complete ∧
      (∃ v, XTCPVisitor.run c.written.complete none = .ok (.ok v)) ∧
      keepTunnelOpenWorker c.written.complete [] = .error .nonPositiveTicker := by
  let written : VisitorConfig :=
    ⟨⟨"v", "xtcp", none, ⟨false, false⟩, "", "", "s", "", 9000⟩, "", true, 0, -1, "", 0, none⟩
  refine ⟨⟨written, by decide +kernel, rfl⟩, rfl, ?_, ⟨_, rfl⟩, by decide +kernel⟩
  intro h
  have hneg : ¬ 0 < written.complete.minRetryInterval * timeSecond := by decide +kernel
  exact hneg h.period_pos

end FrpXtcp.Client

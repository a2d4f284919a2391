import FrpXtcp.Nathole.AnalyzerRuns
import FrpXtcp.Nathole.Response
import FrpXtcp.Server.Proxy

/-!
# Sessions of the hole-punching controller

`HandleVisitor` and `HandleClient` (`pkg/nathole/controller.go`) together with the
receiving loops of the XTCP proxies (`server/proxy/xtcp.go`). A session is an object that
its handler and any number of `HandleClient` calls share without a lock, so every read and
write of its fields is a step of its own. A handler offers the sid on the unbuffered channel
of the proxy it has looked up; the loop of that proxy is the only receiver.
-/
namespace FrpXtcp.Nathole.Sessions

open FrpXtcp.Lib
open FrpXtcp.Server.Proxy (XTCPProxy)

/-- What a run does not decide; `pxys` are the proxy objects before their `Run`. -/
structure Env where
  md5 : Digest
  dataReserveDuration : Int
  pxys : Nat → XTCPProxy

/-- A call of `HandleVisitor` by the statement it executes next. -/
inductive HandlerPc where
  | idle
  /-- `clientCfg.sidCh <- sid` -/
  | sending (cfg : ClientCfg)
  /-- the select on `notifyCh` and the timeout -/
  | waiting
  | analysing
  /-- `analysis` has read the client message and classified both sides -/
  | classified (cm : NatHoleClient) (cNatFeature vNatFeature : NatFeature)
  | keyed (cm : NatHoleClient) (cNatFeature vNatFeature : NatFeature) (analysisKey : String)
  | failed (err : String)
  /-- the two goroutines of the errgroup and what they have sent -/
  | responding (vResp cResp : NatHoleResponse) (vDone cDone : Bool)
  | sleeping
  /-- the deferred deletion -/
  | leaving
  | done

/-- A call of `HandleClient`: the session it found and what it has written. -/
inductive ClientPc where
  | idle
  | dropped
  | found (h : Nat) (m : NatHoleClient) (tr : Nat)
  | wroteMsg (h : Nat) (m : NatHoleClient) (tr : Nat)
  | wroteTransporter (h : Nat) (m : NatHoleClient) (tr : Nat)
  | notified (h : Nat) (m : NatHoleClient) (tr : Nat)

/-- The receiving loop of a proxy. -/
inductive LoopPc where
  | off
  | select
  | busy (sid : String)
  | exited
  deriving DecidableEq

/-- Sessions are named by their handlers. `vSent` and `cSent` are the responses sent so far,
with the transporters they were sent on; `visited` and `delivered` are the messages of
visitors and of clients, with the transporters they came from. -/
structure State where
  clientCfgs : GoMap String ClientCfg
  sessions : GoMap String Nat
  session : Nat → Session
  handler : Nat → HandlerPc
  call : Nat → ClientPc
  pxys : Nat → XTCPProxy
  closeCh : Nat → Bool
  loop : Nat → LoopPc
  analyzer : Analyzer
  vSent : Nat → Option (Nat × NatHoleResponse)
  cSent : Nat → Option (Nat × NatHoleResponse)
  visited : List (NatHoleVisitor × Nat)
  delivered : List (NatHoleClient × Nat)

inductive Action where
  /-- `XTCPProxy.Run` with the start of its loop -/
  | run (p : Nat)
  /-- `XTCPProxy.Close` up to `CloseClient` -/
  | close (p : Nat)
  /-- `close(pxy.closeCh)` -/
  | closeCh (p : Nat)
  /-- the loop takes the branch of `closeCh` -/
  | exit (p : Nat)
  /-- the loop receives the sid that handler `h` sends -/
  | receive (p h : Nat)
  /-- the loop is done with the sid -/
  | finish (p : Nat)
  | visit (h : Nat) (m : NatHoleVisitor) (tr : Nat) (user sid : String)
  | wake (h : Nat)
  | timeout (h : Nat)
  /-- the next statement of handler `h`; `now` is the analyzer's clock -/
  | handler (h : Nat) (now : Int)
  | sendVisitor (h : Nat)
  | sendClient (h : Nat)
  /-- `HandleClient` up to its lookup -/
  | lookup (k : Nat) (m : NatHoleClient) (tr : Nat)
  | client (k : Nat)
  /-- another use of the analyzer -/
  | analyzer (call : AnalyzerRuns.Call)

def blankSession : Session :=
  { sid := "", visitorMsg := ⟨"", "", false, "", "", 0, [], []⟩, visitorTransporter := 0 }

def init (env : Env) : State where
  clientCfgs := .empty
  sessions := .empty
  session _ := blankSession
  handler _ := .idle
  call _ := .idle
  pxys p := { env.pxys p with closed := false }
  closeCh _ := false
  loop _ := .off
  analyzer := newAnalyzerWithClock env.dataReserveDuration
  vSent _ := none
  cSent _ := none
  visited := []
  delivered := []

namespace State

/-- The controller's table of proxies, for the sections under its mutex. -/
def ctl (s : State) : Controller := ⟨s.clientCfgs, .empty⟩

def goto (s : State) (h : Nat) (pc : HandlerPc) : State :=
  { s with handler := Function.update s.handler h pc }

def setSession (s : State) (h : Nat) (session : Session) : State :=
  { s with session := Function.update s.session h session }

def setCall (s : State) (k : Nat) (pc : ClientPc) : State :=
  { s with call := Function.update s.call k pc }

def setLoop (s : State) (p : Nat) (pc : LoopPc) : State :=
  { s with loop := Function.update s.loop p pc }

@[simp] theorem goto_handler (s : State) (h : Nat) (pc : HandlerPc) :
    (s.goto h pc).handler h = pc :=
  Function.update_self ..

end State

/-- `HandleVisitor` up to the end of its section under the mutex. -/
def visit (env : Env) (s : State) (h : Nat) (m : NatHoleVisitor) (tr : Nat) (user sid : String) :
    State :=
  match (handleVisitor env.md5 s.ctl m tr user sid).2 with
  | .reply _ => { s.goto h .done with visited := s.visited ++ [(m, tr)] }
  | .created cfg session =>
    { (s.setSession h session).goto h (.sending cfg) with
      sessions := s.sessions.insert sid h
      visited := s.visited ++ [(m, tr)] }

/-- The statements of `HandleVisitor` that have one outcome. A nil client message or a table
index out of range would end the process, so such a step does not exist. -/
def handlerStep (env : Env) (s : State) (h : Nat) (now : Int) : Option State :=
  let session := s.session h
  match s.handler h with
  | .analysing =>
    match session.clientMsg with
    | none => none
    | some cm =>
      match classifyBoth session.visitorMsg cm with
      | .error err => some (s.goto h (.failed err))
      | .ok (cf, vf) => some (s.goto h (.classified cm cf vf))
  | .classified cm cf vf =>
    match session.clientMsg with
    | none => none
    | some m =>
      let key := genAnalysisKey env.md5 session.visitorMsg.mappedAddrs vf m.mappedAddrs cf
      some (s.goto h (.keyed cm cf vf key))
  | .keyed cm cf vf key =>
    match s.analyzer.getRecommandBehaviors key cf vf now with
    | (_, _, _, none) => none
    | (analyzer, mode, _, some (cBehavior, vBehavior)) =>
      let (vResp, cResp) :=
        makeResponses session.sid session.visitorMsg cm mode cBehavior vBehavior cf vf
      some { s.goto h (.responding vResp cResp false false) with analyzer := analyzer }
  | .failed err =>
    match session.clientMsg with
    | none => none
    | some m =>
      let (vResp, cResp) :=
        errorResponses session.visitorMsg.transactionID m.transactionID err
      some (s.goto h (.responding vResp cResp false false))
  | .responding _ _ true true => some (s.goto h .sleeping)
  | .sleeping => some (s.goto h .leaving)
  | .leaving => some { s.goto h .done with sessions := s.sessions.erase session.sid }
  | _ => none

/-- The statements of `HandleClient` after the lookup. -/
def clientStep (s : State) (k : Nat) : Option State :=
  match s.call k with
  | .found h m tr =>
    some ((s.setSession h { s.session h with clientMsg := some m }).setCall k (.wroteMsg h m tr))
  | .wroteMsg h m tr =>
    some ((s.setSession h { s.session h with clientTransporter := some tr }).setCall k
      (.wroteTransporter h m tr))
  | .wroteTransporter h m tr =>
    some ((s.setSession h { s.session h with notifyCh := true }).setCall k (.notified h m tr))
  | _ => none

def step (env : Env) (s : State) : Action → Option State
  | .run p =>
    if s.loop p = .off then
      match (s.pxys p).run s.ctl p with
      | .error _ => some s
      | .ok ctl => some { s.setLoop p .select with clientCfgs := ctl.clientCfgs }
    else none
  | .close p =>
    if s.loop p ≠ .off ∧ (s.pxys p).closed = false then
      let (pxy, ctl) := (s.pxys p).close s.ctl
      some { s with pxys := Function.update s.pxys p pxy, clientCfgs := ctl.clientCfgs }
    else none
  | .closeCh p =>
    if (s.pxys p).closed = true ∧ s.closeCh p = false then
      some { s with closeCh := Function.update s.closeCh p true }
    else none
  | .exit p =>
    if s.loop p = .select ∧ s.closeCh p = true then some (s.setLoop p .exited) else none
  | .receive p h =>
    match s.handler h with
    | .sending cfg =>
      if cfg.sidCh = p ∧ s.loop p = .select then
        some ((s.setLoop p (.busy (s.session h).sid)).goto h .waiting)
      else none
    | _ => none
  | .finish p =>
    match s.loop p with
    | .busy _ => some (s.setLoop p .select)
    | _ => none
  | .visit h m tr user sid =>
    match s.handler h with
    | .idle => some (visit env s h m tr user sid)
    | _ => none
  | .wake h =>
    match s.handler h with
    | .waiting =>
      if (s.session h).notifyCh = true then
        some ((s.setSession h { s.session h with notifyCh := false }).goto h .analysing)
      else none
    | _ => none
  | .timeout h =>
    match s.handler h with
    | .waiting => some (s.goto h .leaving)
    | _ => none
  | .handler h now => handlerStep env s h now
  | .sendVisitor h =>
    match s.handler h with
    | .responding v c false cDone =>
      some { s.goto h (.responding v c true cDone) with
        vSent := Function.update s.vSent h (some ((s.session h).visitorTransporter, v)) }
    | _ => none
  | .sendClient h =>
    match s.handler h, (s.session h).clientTransporter with
    | .responding v c vDone false, some tr =>
      some { s.goto h (.responding v c vDone true) with
        cSent := Function.update s.cSent h (some (tr, c)) }
    | _, _ => none
  | .lookup k m tr =>
    match s.call k with
    | .idle =>
      let pc := match s.sessions.get? m.sid with
        | none => .dropped
        | some h => .found h m tr
      some { s.setCall k pc with delivered := s.delivered ++ [(m, tr)] }
    | _ => none
  | .client k => clientStep s k
  | .analyzer call => some { s with analyzer := AnalyzerRuns.next s.analyzer call }

def system (env : Env) : System State Action := ⟨init env, step env⟩

/-- What a step does, one case for each outcome of a statement. -/
inductive Effect (env : Env) (s : State) : Action → State → Prop
  | rejected {p : Nat} : Effect env s (.run p) s
  | run {p : Nat} {ctl : Controller} : s.loop p = .off → (s.pxys p).run s.ctl p = .ok ctl →
      Effect env s (.run p) { s.setLoop p .select with clientCfgs := ctl.clientCfgs }
  | close {p : Nat} : s.loop p ≠ .off → (s.pxys p).closed = false →
      Effect env s (.close p)
        { s with
          pxys := Function.update s.pxys p { s.pxys p with closed := true }
          clientCfgs := s.clientCfgs.erase (s.pxys p).name }
  | closeCh {p : Nat} : (s.pxys p).closed = true →
      Effect env s (.closeCh p) { s with closeCh := Function.update s.closeCh p true }
  | exit {p : Nat} : s.loop p = .select → s.closeCh p = true →
      Effect env s (.exit p) (s.setLoop p .exited)
  | receive {h : Nat} {cfg : ClientCfg} : s.handler h = .sending cfg →
      s.loop cfg.sidCh = .select →
      Effect env s (.receive cfg.sidCh h)
        ((s.setLoop cfg.sidCh (.busy (s.session h).sid)).goto h .waiting)
  | finish {p : Nat} {sid : String} : s.loop p = .busy sid →
      Effect env s (.finish p) (s.setLoop p .select)
  | replied {h tr : Nat} {m : NatHoleVisitor} {user sid : String} : s.handler h = .idle →
      Effect env s (.visit h m tr user sid)
        { s.goto h .done with visited := s.visited ++ [(m, tr)] }
  | created {h tr : Nat} {m : NatHoleVisitor} {user sid : String} {cfg : ClientCfg} :
      s.handler h = .idle → s.clientCfgs.get? m.proxyName = some cfg →
      Effect env s (.visit h m tr user sid)
        { (s.setSession h { sid := sid, visitorMsg := m, visitorTransporter := tr }).goto h
            (.sending cfg) with
          sessions := s.sessions.insert sid h
          visited := s.visited ++ [(m, tr)] }
  | woken {h : Nat} : s.handler h = .waiting → (s.session h).notifyCh = true →
      Effect env s (.wake h)
        ((s.setSession h { s.session h with notifyCh := false }).goto h .analysing)
  | timedOut {h : Nat} : s.handler h = .waiting → Effect env s (.timeout h) (s.goto h .leaving)
  | failed {h : Nat} {now : Int} {cm : NatHoleClient} {err : String} :
      s.handler h = .analysing → (s.session h).clientMsg = some cm →
      classifyBoth (s.session h).visitorMsg cm = .error err →
      Effect env s (.handler h now) (s.goto h (.failed err))
  | classified {h : Nat} {now : Int} {cm : NatHoleClient} {cf vf : NatFeature} :
      s.handler h = .analysing → (s.session h).clientMsg = some cm →
      classifyBoth (s.session h).visitorMsg cm = .ok (cf, vf) →
      Effect env s (.handler h now) (s.goto h (.classified cm cf vf))
  | keyed {h : Nat} {now : Int} {cm m : NatHoleClient} {cf vf : NatFeature} :
      s.handler h = .classified cm cf vf → (s.session h).clientMsg = some m →
      Effect env s (.handler h now) (s.goto h (.keyed cm cf vf
        (genAnalysisKey env.md5 (s.session h).visitorMsg.mappedAddrs vf m.mappedAddrs cf)))
  | recommended {h : Nat} {now mode index : Int} {cm : NatHoleClient} {cf vf : NatFeature}
      {key : String} {analyzer : Analyzer} {row : Row} : s.handler h = .keyed cm cf vf key →
      s.analyzer.getRecommandBehaviors key cf vf now = (analyzer, mode, index, some row) →
      Effect env s (.handler h now)
        { s.goto h (.responding
            (makeResponses (s.session h).sid (s.session h).visitorMsg cm mode row.1 row.2 cf vf).1
            (makeResponses (s.session h).sid (s.session h).visitorMsg cm mode row.1 row.2 cf vf).2
            false false) with
          analyzer := analyzer }
  | refused {h : Nat} {now : Int} {m : NatHoleClient} {err : String} :
      s.handler h = .failed err → (s.session h).clientMsg = some m →
      Effect env s (.handler h now) (s.goto h (.responding
        (errorResponses (s.session h).visitorMsg.transactionID m.transactionID err).1
        (errorResponses (s.session h).visitorMsg.transactionID m.transactionID err).2
        false false))
  | responded {h : Nat} {now : Int} {v c : NatHoleResponse} :
      s.handler h = .responding v c true true →
      Effect env s (.handler h now) (s.goto h .sleeping)
  | slept {h : Nat} {now : Int} : s.handler h = .sleeping →
      Effect env s (.handler h now) (s.goto h .leaving)
  | left {h : Nat} {now : Int} : s.handler h = .leaving →
      Effect env s (.handler h now)
        { s.goto h .done with sessions := s.sessions.erase (s.session h).sid }
  | visitorSent {h : Nat} {v c : NatHoleResponse} {cDone : Bool} :
      s.handler h = .responding v c false cDone →
      Effect env s (.sendVisitor h)
        { s.goto h (.responding v c true cDone) with
          vSent := Function.update s.vSent h (some ((s.session h).visitorTransporter, v)) }
  | clientSent {h tr : Nat} {v c : NatHoleResponse} {vDone : Bool} :
      s.handler h = .responding v c vDone false → (s.session h).clientTransporter = some tr →
      Effect env s (.sendClient h)
        { s.goto h (.responding v c vDone true) with
          cSent := Function.update s.cSent h (some (tr, c)) }
  | dropped {k tr : Nat} {m : NatHoleClient} : s.call k = .idle →
      Effect env s (.lookup k m tr)
        { s.setCall k .dropped with delivered := s.delivered ++ [(m, tr)] }
  | found {k tr h : Nat} {m : NatHoleClient} : s.call k = .idle →
      s.sessions.get? m.sid = some h →
      Effect env s (.lookup k m tr)
        { s.setCall k (.found h m tr) with delivered := s.delivered ++ [(m, tr)] }
  | wroteMsg {k h tr : Nat} {m : NatHoleClient} : s.call k = .found h m tr →
      Effect env s (.client k)
        ((s.setSession h { s.session h with clientMsg := some m }).setCall k (.wroteMsg h m tr))
  | wroteTransporter {k h tr : Nat} {m : NatHoleClient} : s.call k = .wroteMsg h m tr →
      Effect env s (.client k)
        ((s.setSession h { s.session h with clientTransporter := some tr }).setCall k
          (.wroteTransporter h m tr))
  | notified {k h tr : Nat} {m : NatHoleClient} : s.call k = .wroteTransporter h m tr →
      Effect env s (.client k)
        ((s.setSession h { s.session h with notifyCh := true }).setCall k (.notified h m tr))
  | analyzer {call : AnalyzerRuns.Call} :
      Effect env s (.analyzer call) { s with analyzer := AnalyzerRuns.next s.analyzer call }

theorem visit_effect {env : Env} {s : State} {h tr : Nat} {m : NatHoleVisitor}
    {user sid : String} (hidle : s.handler h = .idle) :
    Effect env s (.visit h m tr user sid) (visit env s h m tr user sid) := by
  unfold visit
  cases hv : handleVisitor env.md5 s.ctl m tr user sid with
  | mk ctl outcome =>
    cases outcome with
    | reply resp => exact .replied hidle
    | created cfg session =>
      obtain ⟨-, hcfg, -, rfl, -⟩ := handleVisitor_created_iff.mp hv
      exact .created hidle hcfg

theorem handlerStep_effect {env : Env} {s s' : State} {h : Nat} {now : Int}
    (hs : handlerStep env s h now = some s') : Effect env s (.handler h now) s' := by
  unfold handlerStep at hs
  dsimp only at hs
  split at hs
  · rename_i hpc
    split at hs
    · cases hs
    · rename_i cm hcm
      split at hs
      · rename_i err herr
        cases hs
        exact .failed hpc hcm herr
      · rename_i cf vf hok
        cases hs
        exact .classified hpc hcm hok
  · rename_i hpc
    split at hs
    · cases hs
    · rename_i m hm
      cases hs
      exact .keyed hpc hm
  · rename_i hpc
    split at hs
    · cases hs
    · rename_i hget
      cases hs
      exact .recommended hpc hget
  · rename_i hpc
    split at hs
    · cases hs
    · rename_i m hm
      cases hs
      exact .refused hpc hm
  · rename_i hpc
    cases hs
    exact .responded hpc
  · rename_i hpc
    cases hs
    exact .slept hpc
  · rename_i hpc
    cases hs
    exact .left hpc
  · cases hs

theorem clientStep_effect {env : Env} {s s' : State} {k : Nat} (hs : clientStep s k = some s') :
    Effect env s (.client k) s' := by
  unfold clientStep at hs
  split at hs
  · rename_i hpc
    cases hs
    exact .wroteMsg hpc
  · rename_i hpc
    cases hs
    exact .wroteTransporter hpc
  · rename_i hpc
    cases hs
    exact .notified hpc
  · cases hs

theorem step_effect {env : Env} {s s' : State} {a : Action} (hs : step env s a = some s') :
    Effect env s a s' := by
  cases a with
  | run p =>
    simp only [step] at hs
    split at hs
    · rename_i hoff
      split at hs
      · cases hs
        exact .rejected
      · rename_i ctl hrun
        cases hs
        exact .run hoff hrun
    · cases hs
  | close p =>
    simp only [step] at hs
    split at hs
    · rename_i hc
      cases hs
      have heff : Effect env s _ _ := Effect.close hc.1 hc.2
      simpa [XTCPProxy.close, hc.2, closeClient, State.ctl] using heff
    · cases hs
  | closeCh p =>
    simp only [step] at hs
    split at hs
    · rename_i hc
      cases hs
      exact .closeCh hc.1
    · cases hs
  | exit p =>
    simp only [step] at hs
    split at hs
    · rename_i hc
      cases hs
      exact .exit hc.1 hc.2
    · cases hs
  | receive p h =>
    simp only [step] at hs
    split at hs
    · rename_i cfg hpc
      split at hs
      · rename_i hc
        obtain ⟨rfl, hl⟩ := hc
        cases hs
        exact .receive hpc hl
      · cases hs
    · cases hs
  | finish p =>
    simp only [step] at hs
    split at hs
    · rename_i hl
      cases hs
      exact .finish hl
    · cases hs
  | visit h m tr user sid =>
    simp only [step] at hs
    split at hs
    · rename_i hidle
      cases hs
      exact visit_effect hidle
    · cases hs
  | wake h =>
    simp only [step] at hs
    split at hs
    · rename_i hpc
      split at hs
      · rename_i hn
        cases hs
        exact .woken hpc hn
      · cases hs
    · cases hs
  | timeout h =>
    simp only [step] at hs
    split at hs
    · rename_i hpc
      cases hs
      exact .timedOut hpc
    · cases hs
  | handler h now => exact handlerStep_effect hs
  | sendVisitor h =>
    simp only [step] at hs
    split at hs
    · rename_i hpc
      cases hs
      exact .visitorSent hpc
    · cases hs
  | sendClient h =>
    simp only [step] at hs
    split at hs
    · rename_i hpc htr
      cases hs
      exact .clientSent hpc htr
    · cases hs
  | lookup k m tr =>
    simp only [step] at hs
    split at hs
    · rename_i hidle
      cases hs
      cases hg : s.sessions.get? m.sid with
      | none => exact .dropped hidle
      | some h => exact .found hidle hg
    · cases hs
  | client k => exact clientStep_effect hs
  | analyzer call =>
    cases hs
    exact .analyzer

/-- MD5 on what a session of `sampleVisitor` and `sampleClient` hashes. -/
def sampleDigest : Digest := fun bs =>
  if bs = "sk1700000000".toUTF8.toList then
    [174, 165, 115, 250, 233, 104, 184, 52, 52, 162, 101, 142, 187, 50, 214, 232]
  else if bs = ("1.1.1.1EasyNATBehaviorNoChangefalse" ++
      "2.2.2.2EasyNATBehaviorNoChangefalse").toUTF8.toList then
    [32, 141, 78, 181, 205, 80, 220, 0, 3, 78, 148, 81, 33, 253, 8, 149]
  else []

/-- One proxy for everybody; records are kept for a week. -/
def sampleEnv : Env where
  md5 := sampleDigest
  dataReserveDuration := 604800000000000
  pxys _ := ⟨⟨"p", "xtcp", false, false, [], [], "sk", ["*"]⟩, "u", 0, false⟩

def sampleVisitor : NatHoleVisitor where
  transactionID := "v1"
  proxyName := "p"
  preCheck := false
  protocol := "quic"
  signKey := "aea573fae968b83434a2658ebb32d6e8"
  timestamp := 1700000000
  mappedAddrs := ["1.1.1.1:1000", "1.1.1.1:1000"]
  assistedAddrs := []

def sampleClient (transactionID : String) : NatHoleClient :=
  ⟨transactionID, "p", "s1", ["2.2.2.2:2000", "2.2.2.2:2000"], []⟩

end FrpXtcp.Nathole.Sessions

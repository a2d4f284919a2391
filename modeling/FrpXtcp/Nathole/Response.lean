import Mathlib.Data.List.Destutter
import FrpXtcp.Nathole.Analysis
import FrpXtcp.Nathole.Controller

/-!
# The decision of a session

The pure parts of `Controller.analysis` (`pkg/nathole/controller.go`): the analysis key,
the candidate ports and the two responses. `slices.Compact` works in place, so code that
still holds the uncompacted slice sees the compacted addresses and a cleared rest.
-/
namespace FrpXtcp.Nathole

open FrpXtcp.Lib

/-- `slices.Compact` -/
def compact (l : List String) : List String := l.destutter (· ≠ ·)

/-- The argument of `slices.Compact` after the call. -/
def compacted (l : List String) : List String :=
  compact l ++ List.replicate (l.length - (compact l).length) ""

def NatType.text : NatType → String
  | .easyNAT => "EasyNAT"
  | .hardNAT => "HardNAT"

def NatBehavior.text : NatBehavior → String
  | .noChange => "BehaviorNoChange"
  | .ipChanged => "BehaviorIPChanged"
  | .portChanged => "BehaviorPortChanged"
  | .bothChanged => "BehaviorBothChanged"

/-- What `genAnalysisKey` writes to the hash for one side. -/
def analysisKeyPart (mappedAddrs : List String) (feature : NatFeature) : String :=
  ((compact (parseIPs mappedAddrs)).head?).getD "" ++ feature.natType.text ++
    feature.behavior.text ++ toString feature.regularPortsChange

/-- `Session.genAnalysisKey` -/
def genAnalysisKey (md5 : Digest) (vMappedAddrs : List String) (vNatFeature : NatFeature)
    (cMappedAddrs : List String) (cNatFeature : NatFeature) : String :=
  hexEncode (md5 ((analysisKeyPart vMappedAddrs vNatFeature).toUTF8.toList ++
    (analysisKeyPart cMappedAddrs cNatFeature).toUTF8.toList))

/-- `msg.PortsRange` -/
structure PortsRange where
  fromPort : Int64
  toPort : Int64
  deriving DecidableEq

/-- `msg.NatHoleDetectBehavior` -/
structure NatHoleDetectBehavior where
  role : DetectRole := .unset
  mode : Int := 0
  ttl : Int64 := 0
  sendDelayMs : Int64 := 0
  readTimeoutMs : Int64 := 0
  candidatePorts : List PortsRange := []
  sendRandomPorts : Int64 := 0
  listenRandomPorts : Int64 := 0
  deriving DecidableEq

/-- `msg.NatHoleResp` with the fields that `newNatHoleResponse` sets. -/
structure NatHoleResponse extends NatHoleResp where
  protocol : String := ""
  candidateAddrs : List String := []
  assistedAddrs : List String := []
  detectBehavior : NatHoleDetectBehavior := {}
  deriving DecidableEq

def getRangePorts (addrs : List String) (difference maxNumber : Int64) : List PortsRange :=
  if maxNumber ≤ 0 then []
  else
    match addrs.getLast? with
    | none => []
    | some addr =>
      match splitHostPort addr with
      | .error _ => []
      | .ok (_, portStr) =>
        match atoi portStr with
        | .error _ => []
        | .ok port =>
          [⟨max (max (port - difference - 5) (port - maxNumber)) 1,
            min (min (port + difference + 5) (port + maxNumber)) 65535⟩]

def newNatHoleResponse (transactionID sid protocol : String) (mode : Int)
    (candidateAddrs assistedAddrs : List String) (behavior : RecommandBehavior)
    (readTimeoutMs portsDifference : Int64) : NatHoleResponse :=
  { transactionID := transactionID, sid := sid, error := "", protocol := protocol
    candidateAddrs := compact candidateAddrs
    assistedAddrs := compact assistedAddrs
    detectBehavior :=
      { role := behavior.role, mode := mode, ttl := behavior.ttl
        sendDelayMs := behavior.sendDelayMs, readTimeoutMs := readTimeoutMs
        candidatePorts :=
          getRangePorts (compacted candidateAddrs) portsDifference behavior.portsRangeNumber
        sendRandomPorts := behavior.portsRandomNumber
        listenRandomPorts := behavior.listenRandomPorts } }

/-- The features of the client and of the visitor, as `analysis` asks for them. -/
def classifyBoth (vm : NatHoleVisitor) (cm : NatHoleClient) :
    Except String (NatFeature × NatFeature) :=
  match classifyNATFeature cm.mappedAddrs (parseIPs cm.assistedAddrs) with
  | .error e => .error s!"classify client nat feature error: {e}"
  | .ok cNatFeature =>
    match classifyNATFeature vm.mappedAddrs (parseIPs vm.assistedAddrs) with
    | .error e => .error s!"classify visitor nat feature error: {e}"
    | .ok vNatFeature => .ok (cNatFeature, vNatFeature)

theorem classifyBoth_ok {vm : NatHoleVisitor} {cm : NatHoleClient} {c v : NatFeature}
    (h : classifyBoth vm cm = .ok (c, v)) :
    classifyNATFeature cm.mappedAddrs (parseIPs cm.assistedAddrs) = .ok c ∧
      classifyNATFeature vm.mappedAddrs (parseIPs vm.assistedAddrs) = .ok v := by
  unfold classifyBoth at h
  split at h
  · cases h
  · rename_i hc
    split at h
    · cases h
    · rename_i hv
      cases h
      exact ⟨hc, hv⟩

/-- The end of `analysis`: the responses to the visitor and to the client. -/
def makeResponses (sid : String) (vm : NatHoleVisitor) (cm : NatHoleClient) (mode : Int)
    (cBehavior vBehavior : RecommandBehavior) (cNatFeature vNatFeature : NatFeature) :
    NatHoleResponse × NatHoleResponse :=
  let timeoutMs := max cBehavior.sendDelayMs vBehavior.sendDelayMs + 5000
  let timeoutMs :=
    if cBehavior.listenRandomPorts > 0 ∨ vBehavior.listenRandomPorts > 0 then timeoutMs + 30000
    else timeoutMs
  (newNatHoleResponse vm.transactionID sid vm.protocol mode cm.mappedAddrs cm.assistedAddrs
      vBehavior (timeoutMs - vBehavior.sendDelayMs) cNatFeature.portsDifference,
    newNatHoleResponse cm.transactionID sid vm.protocol mode vm.mappedAddrs vm.assistedAddrs
      cBehavior (timeoutMs - cBehavior.sendDelayMs) vNatFeature.portsDifference)

/-- `Controller.analysis`: its error, or the recommended behaviours of client and visitor with
the responses to visitor and client; `none` where a table index would panic. -/
def analysis (md5 : Digest) (analyzer : Analyzer) (now : Int) (sid : String) (vm : NatHoleVisitor)
    (cm : NatHoleClient) : Option (Except String (Row × NatHoleResponse × NatHoleResponse)) :=
  match classifyBoth vm cm with
  | .error err => some (.error err)
  | .ok (cNatFeature, vNatFeature) =>
    let key := genAnalysisKey md5 vm.mappedAddrs vNatFeature cm.mappedAddrs cNatFeature
    let (_, mode, _, row) := analyzer.getRecommandBehaviors key cNatFeature vNatFeature now
    row.map fun (cBehavior, vBehavior) =>
      .ok ((cBehavior, vBehavior),
        makeResponses sid vm cm mode cBehavior vBehavior cNatFeature vNatFeature)

/-- The responses of `HandleVisitor` when `analysis` fails. -/
def errorResponses (vTransactionID cTransactionID err : String) :
    NatHoleResponse × NatHoleResponse :=
  ({ genNatHoleResponse vTransactionID err with }, { genNatHoleResponse cTransactionID err with })

/-- The two responses for one visitor message and one client message, given the analyzer and
its clock; `none` where a table index would panic. -/
def respond (md5 : Digest) (analyzer : Analyzer) (now : Int) (sid : String) (vm : NatHoleVisitor)
    (cm : NatHoleClient) : Option (NatHoleResponse × NatHoleResponse) :=
  match classifyBoth vm cm with
  | .error err => some (errorResponses vm.transactionID cm.transactionID err)
  | .ok (cNatFeature, vNatFeature) =>
    let key := genAnalysisKey md5 vm.mappedAddrs vNatFeature cm.mappedAddrs cNatFeature
    let (_, mode, _, row) := analyzer.getRecommandBehaviors key cNatFeature vNatFeature now
    row.map fun (cBehavior, vBehavior) =>
      makeResponses sid vm cm mode cBehavior vBehavior cNatFeature vNatFeature

/-- What `HandleVisitor` sends is what `analysis` decides. -/
theorem respond_eq_analysis (md5 : Digest) (analyzer : Analyzer) (now : Int) (sid : String)
    (vm : NatHoleVisitor) (cm : NatHoleClient) :
    respond md5 analyzer now sid vm cm =
      (analysis md5 analyzer now sid vm cm).map fun
        | .error err => errorResponses vm.transactionID cm.transactionID err
        | .ok (_, responses) => responses := by
  unfold respond analysis
  cases classifyBoth vm cm with
  | error err => rfl
  | ok features =>
    simp only [Option.map_map]
    rfl

/-- Each response carries the transaction of its own side. -/
theorem respond_transactionID {md5 : Digest} {analyzer : Analyzer} {now : Int} {sid : String}
    {vm : NatHoleVisitor} {cm : NatHoleClient} {v c : NatHoleResponse}
    (h : respond md5 analyzer now sid vm cm = some (v, c)) :
    v.transactionID = vm.transactionID ∧ c.transactionID = cm.transactionID := by
  unfold respond at h
  split at h
  · cases h
    exact ⟨rfl, rfl⟩
  · simp only [Option.map_eq_some_iff] at h
    obtain ⟨row, -, h⟩ := h
    cases h
    exact ⟨rfl, rfl⟩

end FrpXtcp.Nathole

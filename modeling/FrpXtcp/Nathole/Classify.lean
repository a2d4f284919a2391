import FrpXtcp.Lib.HostPort

/-!
# NAT features

`pkg/nathole/classify.go` and the address helper it shares with the controller. Ports
and their differences are 64-bit integers, as in the source.
-/
namespace FrpXtcp.Nathole

open FrpXtcp.Lib

inductive NatType where
  | easyNAT
  | hardNAT
  deriving DecidableEq

inductive NatBehavior where
  | noChange
  | ipChanged
  | portChanged
  | bothChanged
  deriving DecidableEq

structure NatFeature where
  natType : NatType
  behavior : NatBehavior
  portsDifference : Int64
  regularPortsChange : Bool
  publicNetwork : Bool
  deriving DecidableEq

/-- The variables of the loop of `ClassifyNATFeature`. -/
structure Scan where
  baseIP : String := ""
  basePort : String := ""
  portMax : Int64 := 0
  portMin : Int64 := 0
  ipChanged : Bool := false
  portChanged : Bool := false
  publicNetwork : Bool := false

/-- One turn of the loop. An empty host leaves `baseIP` empty, so that the next address
becomes the base as well. -/
def Scan.addr (localIPs : List String) (s : Scan) (addr : String) : Except String Scan := do
  let (ip, port) ← splitHostPort addr
  let portNum ← atoi port
  let publicNetwork := s.publicNetwork || localIPs.contains ip
  if s.baseIP = "" then
    return { s with
      baseIP := ip, basePort := port, portMax := portNum, portMin := portNum
      publicNetwork := publicNetwork }
  else
    return { s with
      portMax := max s.portMax portNum
      portMin := min s.portMin portNum
      ipChanged := s.ipChanged || s.baseIP != ip
      portChanged := s.portChanged || s.basePort != port
      publicNetwork := publicNetwork }

/-- What is made of the variables after the loop. -/
def Scan.feature (s : Scan) : NatFeature :=
  let difference := s.portMax - s.portMin
  match s.ipChanged, s.portChanged with
  | true, true => ⟨.hardNAT, .bothChanged, 0, false, s.publicNetwork⟩
  | true, false => ⟨.hardNAT, .ipChanged, 0, false, s.publicNetwork⟩
  | false, true =>
    ⟨.hardNAT, .portChanged, difference, decide (difference ≤ 5) && decide (1 ≤ difference),
      s.publicNetwork⟩
  | false, false => ⟨.easyNAT, .noChange, 0, false, s.publicNetwork⟩

/-- `ClassifyNATFeature` -/
def classifyNATFeature (addresses localIPs : List String) : Except String NatFeature :=
  if addresses.length ≤ 1 then .error "not enough addresses"
  else do
    let s ← addresses.foldlM (Scan.addr localIPs) {}
    return s.feature

/-- The three counters of `ClassifyFeatureCount`. -/
structure FeatureCount where
  easyCount : Nat := 0
  hardCount : Nat := 0
  portsChangedRegularCount : Nat := 0

def FeatureCount.add (n : FeatureCount) (feature : NatFeature) : FeatureCount :=
  if feature.natType = .easyNAT then { n with easyCount := n.easyCount + 1 }
  else
    { n with
      hardCount := n.hardCount + 1
      portsChangedRegularCount :=
        if feature.regularPortsChange then n.portsChangedRegularCount + 1
        else n.portsChangedRegularCount }

/-- `ClassifyFeatureCount` -/
def classifyFeatureCount (features : List NatFeature) : FeatureCount :=
  features.foldl FeatureCount.add {}

/-- `parseIPs` -/
def parseIPs (addrs : List String) : List String :=
  addrs.filterMap fun addr => (splitHostPort addr).toOption.map Prod.fst

end FrpXtcp.Nathole

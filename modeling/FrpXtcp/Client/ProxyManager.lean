import FrpXtcp.Naming
import FrpXtcp.Server.Proxy

/-!
# The client's proxies

A wrapper keeps one configured proxy registered with the server: `checkWorker` asks for
it with `NewProxy`, repeats the request when no answer comes or the answer was an error,
and `SetRunningStatus` handles the answer. The manager replaces the wrappers whose
configuration has changed (`client/proxy/proxy_wrapper.go`, `proxy_manager.go`).
Each operation returns the messages it sends.
-/
namespace FrpXtcp.Client

open FrpXtcp.Lib
open FrpXtcp.Naming (addUserPrefix)
open FrpXtcp.Server.Proxy (NewProxy)

/-- `v1.XTCPProxyConfig`. Maps are listed in the order of their keys. Two configurations are then
equal exactly if `reflect.DeepEqual` says so, except that it tells a nil map or list from an
empty one. -/
structure ProxyConfig where
  name : String
  type : String
  enabled : Option Bool
  annotations : List (String × String)
  useEncryption : Bool
  useCompression : Bool
  metadatas : List (String × String)
  localIP : String
  localPort : Int
  secretkey : String
  allowUsers : List String
  natTraversal : Option Bool
  deriving DecidableEq

/-- `XTCPProxyConfig.MarshalToMsg` -/
def ProxyConfig.marshalToMsg (cfg : ProxyConfig) : NewProxy :=
  { proxyName := cfg.name
    proxyType := cfg.type
    useEncryption := cfg.useEncryption
    useCompression := cfg.useCompression
    metas := cfg.metadatas
    annotations := cfg.annotations
    sk := cfg.secretkey
    allowUsers := cfg.allowUsers }

/-- What the client sends about its proxies. -/
inductive Request where
  | newProxy (m : NewProxy)
  | closeProxy (proxyName : String)
  deriving DecidableEq

/-- The proxy that a request is about. -/
def Request.proxyName : Request → String
  | .newProxy m => m.proxyName
  | .closeProxy n => n

/-- `msg.NewProxyResp` -/
structure NewProxyResp where
  proxyName : String
  remoteAddr : String
  error : String
  deriving DecidableEq

inductive Phase where
  | new
  | waitStart
  | startErr
  | running
  | checkFailed
  | closed
  deriving DecidableEq

/-- `time.Second`, in nanoseconds -/
def second : Nat := 1000000000

def waitResponseTimeout : Nat := 20 * second

def startErrTimeout : Nat := 30 * second

/-- `Wrapper`. `closeCh` is closed exactly in the phase `closed`. -/
structure Wrapper where
  name : String
  phase : Phase
  err : String
  cfg : ProxyConfig
  remoteAddr : String
  health : UInt32
  lastSendStartMsg : Nat
  lastStartErr : Nat
  wireName : String
  deriving DecidableEq

namespace Wrapper

/-- `NewWrapper`. The zero time is before every reading of the clock. -/
def new (user : String) (cfg : ProxyConfig) : Wrapper :=
  ⟨cfg.name, .new, "", cfg, "", 0, 0, 0, addUserPrefix user cfg.name⟩

/-- `BaseProxy.Run`, which the xtcp proxy inherits, never fails. -/
def runProxy (_ : Wrapper) : Option String := none

def closeMsg (pw : Wrapper) : Request := .closeProxy pw.wireName

/-- The message that `checkWorker` sends. -/
def newProxyMsg (pw : Wrapper) : NewProxy :=
  { pw.cfg.marshalToMsg with proxyName := pw.wireName }

/-- `SetRunningStatus`, with the messages it sends and its error. -/
def setRunningStatus (pw : Wrapper) (remoteAddr respErr : String) (now : Nat) :
    Wrapper × List Request × Option String :=
  if pw.phase ≠ .waitStart then (pw, [], some "status not wait start, ignore start message")
  else
    let pw := { pw with remoteAddr := remoteAddr }
    if respErr ≠ "" then
      ({ pw with phase := .startErr, err := respErr, lastStartErr := now }, [], some respErr)
    else
      match pw.runProxy with
      | some err =>
        ({ pw with phase := .startErr, err := err, lastStartErr := now }, [pw.closeMsg], some err)
      | none => ({ pw with phase := .running, err := "" }, [], none)

/-- `Stop` -/
def stop (pw : Wrapper) : Wrapper × List Request := ({ pw with phase := .closed }, [pw.closeMsg])

/-- `checkWorker` has to ask the server for the proxy. -/
def due (pw : Wrapper) (now : Nat) : Bool :=
  pw.phase = .new || pw.phase = .checkFailed ||
    (pw.phase = .waitStart && pw.lastSendStartMsg + waitResponseTimeout < now) ||
    (pw.phase = .startErr && pw.lastStartErr + startErrTimeout < now)

/-- One round of `checkWorker`. -/
def checkWorker (pw : Wrapper) (now : Nat) : Wrapper × List Request :=
  if pw.health = 0 then
    if pw.due now then
      ({ pw with phase := .waitStart, lastSendStartMsg := now }, [.newProxy pw.newProxyMsg])
    else (pw, [])
  else if pw.phase = .running ∨ pw.phase = .waitStart then
    ({ pw with phase := .checkFailed }, [pw.closeMsg])
  else (pw, [])

end Wrapper

/-- Where a call of `UpdateAll` is, which holds the lock of the manager: in the loop
over the old proxies, or in the loop over the new configurations. -/
inductive Update where
  | idle
  | removing (cfgs : List ProxyConfig) (names : List String)
  | adding (cfgs : List ProxyConfig)
  deriving DecidableEq

/-- `Manager`, with the wrappers made so far. -/
structure Manager where
  proxies : GoMap String Nat
  wrappers : Nat → Wrapper
  nextWrapper : Nat
  update : Update

namespace Manager

def init : Manager :=
  ⟨.empty, fun _ => .new "" ⟨"", "", none, [], false, false, [], "", 0, "", [], none⟩, 0, .idle⟩

def setWrapper (pm : Manager) (w : Nat) (pw : Wrapper) : Manager :=
  { pm with wrappers := Function.update pm.wrappers w pw }

/-- `lo.KeyBy`; of several configurations with one name the last one counts. -/
def keyBy (cfgs : List ProxyConfig) : GoMap String ProxyConfig :=
  cfgs.foldl (fun m cfg => m.insert cfg.name cfg) .empty

/-- `UpdateAll` takes the lock. It ranges over the old proxies in any order. -/
def updateAll (pm : Manager) (cfgs : List ProxyConfig) (order : List String) : Option Manager :=
  if pm.update = .idle ∧ order.Perm (pm.proxies.toList.map Prod.fst) then
    some { pm with update := .removing cfgs order }
  else none

/-- One round of the loops of `UpdateAll`. -/
def updateNext (user : String) (pm : Manager) : Option (Manager × List Request) :=
  match pm.update with
  | .idle => none
  | .removing cfgs [] => some ({ pm with update := .adding cfgs }, [])
  | .removing cfgs (name :: names) =>
    let pm := { pm with update := .removing cfgs names }
    match pm.proxies.get? name with
    | none => some (pm, [])
    | some w =>
      let pw := pm.wrappers w
      if (keyBy cfgs).get? name ≠ some pw.cfg then
        some ({ pm.setWrapper w pw.stop.1 with proxies := pm.proxies.erase name }, pw.stop.2)
      else some (pm, [])
  | .adding [] => some ({ pm with update := .idle }, [])
  | .adding (cfg :: cfgs) =>
    let pm := { pm with update := .adding cfgs }
    if (pm.proxies.get? cfg.name).isSome then some (pm, [])
    else
      some ({ pm.setWrapper pm.nextWrapper (.new user cfg) with
        proxies := pm.proxies.insert cfg.name pm.nextWrapper
        nextWrapper := pm.nextWrapper + 1 }, [])

/-- One round of the loop of `Close`. -/
def stopNamed (pm : Manager) (name : String) : Manager :=
  match pm.proxies.get? name with
  | none => pm
  | some w => pm.setWrapper w (pm.wrappers w).stop.1

/-- `Close`, which holds the lock throughout and ranges over the proxies in any order. -/
def close (pm : Manager) (order : List String) : Option (Manager × List Request) :=
  if pm.update = .idle ∧ order.Perm (pm.proxies.toList.map Prod.fst) then
    some ({ order.foldl stopNamed pm with proxies := .empty },
      order.filterMap fun name => (pm.proxies.get? name).map fun w => (pm.wrappers w).closeMsg)
  else none

end Manager

end FrpXtcp.Client

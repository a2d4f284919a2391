import FrpXtcp.Client.ProxyManager
import FrpXtcp.Lib.Transition
import FrpXtcp.Server.Lifecycle

/-!
# One control session

The proxies of one client and of the control that serves it, with the two directions of
the control connection between them. Messages arrive in the order in which they were
sent. The server's read loop handles one request after another; its calls interleave with
those of all other controls, which work on the same tables.
-/
namespace FrpXtcp.Session

open FrpXtcp.Lib
open FrpXtcp.Client (Manager NewProxyResp ProxyConfig Request)
open FrpXtcp.Naming (stripUserPrefix)
open FrpXtcp.Server (PxyThread)
open FrpXtcp.Server.Proxy (AnnotationCheck NewProxy Op)

/-- The user of the client, the control of the session, the annotation check of the
server and its option `DetailedErrorsToClient`. -/
structure Env where
  user : String
  ctl : Nat
  check : AnnotationCheck
  detailed : Bool
  check_ne : ∀ annotations err, check annotations = some err → err ≠ ""

/-- `util.GenerateResponseErrorString` -/
def generateResponseErrorString (summary err : String) (detailed : Bool) : String :=
  if detailed then err else summary

/-- `starting` is the wrapper that `StartProxy` has found for a response whose
`SetRunningStatus` is still to come. `handling` is the message that `handleNewProxy`
works on. -/
structure State where
  pm : Manager
  starting : Option (Nat × NewProxyResp)
  toServer : List Request
  handling : Option NewProxy
  server : Server.Proxy.State PxyThread
  toClient : List NewProxyResp

/-- `updateNext`, `next` execute one round of `UpdateAll` and one statement of the
server's handler; `checkWorker` is one round for a wrapper. `other` are steps of the
goroutines of other controls. -/
inductive Action where
  | updateAll (cfgs : List ProxyConfig) (order : List String)
  | updateNext
  | checkWorker (w now : Nat)
  | startProxy
  | setRunningStatus (now : Nat)
  | recv
  | next
  | respond
  | other (a : Server.Proxy.Action PxyThread)

variable (env : Env)

/-- The response to `m`, once `RegisterProxy` has returned. -/
def response (m : NewProxy) : Op → Option NewProxyResp
  | .registered _ _ => some ⟨m.proxyName, "", ""⟩
  | .rejected _ _ err =>
    some ⟨m.proxyName, "", generateResponseErrorString s!"new proxy [{m.proxyName}] error" err
      env.detailed⟩
  | _ => none

/-- The goroutine of the server that reads from the control connection. -/
def reader : PxyThread := .handler env.ctl

def step (s : State) : Action → Option State
  | .updateAll cfgs order => (s.pm.updateAll cfgs order).map fun pm => { s with pm := pm }
  | .updateNext =>
    (s.pm.updateNext env.user).map fun r => { s with pm := r.1, toServer := s.toServer ++ r.2 }
  | .checkWorker w now =>
    if w < s.pm.nextWrapper then
      let r := (s.pm.wrappers w).checkWorker now
      some { s with pm := s.pm.setWrapper w r.1, toServer := s.toServer ++ r.2 }
    else none
  | .startProxy =>
    -- `StartProxy` needs the lock that `UpdateAll` holds
    match s.starting, s.pm.update, s.toClient with
    | none, .idle, resp :: rest =>
      match s.pm.proxies.get? (stripUserPrefix env.user resp.proxyName) with
      | none => some { s with toClient := rest }
      | some w => some { s with toClient := rest, starting := some (w, resp) }
    | _, _, _ => none
  | .setRunningStatus now =>
    match s.starting with
    | none => none
    | some (w, resp) =>
      let r := (s.pm.wrappers w).setRunningStatus resp.remoteAddr resp.error now
      some { s with
        pm := s.pm.setWrapper w r.1
        starting := none
        toServer := s.toServer ++ r.2.1 }
  | .recv =>
    match s.handling, s.toServer with
    | none, .newProxy m :: rest =>
      (Server.Proxy.step env.check s.server
        (.registerProxy (reader env) env.ctl env.user m)).map fun server =>
          { s with server := server, toServer := rest, handling := some m }
    | none, .closeProxy name :: rest =>
      (Server.Proxy.step env.check s.server (.closeProxy (reader env) env.ctl name)).map
        fun server => { s with server := server, toServer := rest }
    | _, _ => none
  | .next =>
    (Server.Proxy.step env.check s.server (.next (reader env))).map fun server =>
      { s with server := server }
  | .respond =>
    match s.handling with
    | none => none
    | some m =>
      (response env m (s.server.ops (reader env))).map fun resp =>
        { s with handling := none, toClient := s.toClient ++ [resp] }
  | .other a =>
    if Server.Lifecycle.pxyAllowed env.ctl .off a then
      (Server.Proxy.step env.check s.server a).map fun server => { s with server := server }
    else none

def init : State := ⟨.init, none, [], none, Server.Proxy.init, []⟩

def system : System State Action := ⟨init, step env⟩

end FrpXtcp.Session

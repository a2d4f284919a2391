import FrpXtcp.Lib.Chan
import FrpXtcp.Lib.GoMap
import FrpXtcp.Lib.Transition

/-!
# Messages by type and lane

`transporterImpl` of `pkg/transport/message.go`. A `Do` registers a channel of its own under
a message type and a lane key, sends its request and waits; `DispatchWithType` looks a
channel up and sends to it after it has let go of the lock. Both are cut at the points where
other goroutines can come in between. A message is named by the call that dispatches it.

The clock counts steps. The times of the calls are not in the source; they say what came
before what.
-/
namespace FrpXtcp.Transport

open FrpXtcp.Lib

/-- Where a call of `Do` is: `registered` is before `Send`, `waiting` is in the select,
`leaving` before the deferred `unregister`, `closing` before the deferred `close`. The result
is a message, or none for an error. -/
inductive DoPc where
  | idle
  | registered
  | waiting
  | leaving (result : Option Nat)
  | closing (result : Option Nat)
  | returned (result : Option Nat)
  deriving DecidableEq

/-- A call of `Do`, whose channel is named like the call. -/
structure DoCall where
  msgType : String
  laneKey : String
  registeredAt : Nat
  pc : DoPc

/-- Where a call of `DispatchWithType` is: it holds a channel that it has looked up, or has
returned true after sending to it, or false. -/
inductive DispatchPc where
  | idle
  | holding (d : Nat)
  | sent (d : Nat)
  | failed
  deriving DecidableEq

structure DispatchCall where
  msgType : String
  laneKey : String
  lookedUpAt : Nat
  returnedAt : Option Nat
  pc : DispatchPc

structure State where
  registry : GoMap String (GoMap String Nat)
  dos : Nat → DoCall
  chans : Nat → Chan Nat
  dispatches : Nat → DispatchCall
  clock : Nat

def init : State :=
  ⟨.empty, fun _ => ⟨"", "", 0, .idle⟩, fun _ => .make 1, fun _ => ⟨"", "", 0, none, .idle⟩, 0⟩

/-- `byLaneKey, ok := registry[msgType]; ch = byLaneKey[laneKey]` -/
def State.lookup (s : State) (msgType laneKey : String) : Option Nat :=
  (s.registry.get? msgType).bind fun byLaneKey => byLaneKey.get? laneKey

/-- The part of `registerMsgChan` under the lock. -/
def register (registry : GoMap String (GoMap String Nat)) (d : Nat) (laneKey msgType : String) :
    GoMap String (GoMap String Nat) :=
  let byLaneKey := (registry.get? msgType).getD .empty
  registry.insert msgType (byLaneKey.insert laneKey d)

/-- `delete(byLaneKey, laneKey)` on the map that the registration captured, which stays in
the registry for ever. -/
def unregister (registry : GoMap String (GoMap String Nat)) (laneKey msgType : String) :
    GoMap String (GoMap String Nat) :=
  match registry.get? msgType with
  | none => registry
  | some byLaneKey => registry.insert msgType (byLaneKey.erase laneKey)

namespace State

def setDo (s : State) (d : Nat) (pc : DoPc) : State :=
  { s with dos := Function.update s.dos d { s.dos d with pc := pc } }

def setChan (s : State) (d : Nat) (c : Chan Nat) : State :=
  { s with chans := Function.update s.chans d c }

def setDispatch (s : State) (m : Nat) (c : DispatchCall) : State :=
  { s with dispatches := Function.update s.dispatches m c }

/-- The dispatch of `m` returns. -/
def finish (s : State) (m : Nat) (pc : DispatchPc) : State :=
  s.setDispatch m { s.dispatches m with pc := pc, returnedAt := some s.clock }

def tick (s : State) : State := { s with clock := s.clock + 1 }

end State

inductive Action where
  | doRegister (d : Nat) (laneKey recvMsgType : String)
  | doSend (d : Nat) (ok : Bool)
  | doCancelled (d : Nat)
  | doReceive (d : Nat)
  | doUnregister (d : Nat)
  | doClose (d : Nat)
  | lookup (m : Nat) (msgType laneKey : String)
  | send (m : Nat)

def next (s : State) : Action → Option State
  | .doRegister d laneKey recvMsgType =>
    match (s.dos d).pc with
    | .idle =>
      some { s with
        registry := register s.registry d laneKey recvMsgType
        dos := Function.update s.dos d ⟨recvMsgType, laneKey, s.clock, .registered⟩
        chans := Function.update s.chans d (.make 1) }
    | _ => none
  | .doSend d ok =>
    match (s.dos d).pc with
    | .registered => some (s.setDo d (if ok then .waiting else .leaving none))
    | _ => none
  | .doCancelled d =>
    match (s.dos d).pc with
    | .waiting => some (s.setDo d (.leaving none))
    | _ => none
  | .doReceive d =>
    match (s.dos d).pc, (s.chans d).recv with
    | .waiting, .value m c => some ((s.setDo d (.leaving (some m))).setChan d c)
    | _, _ => none
  | .doUnregister d =>
    match (s.dos d).pc with
    | .leaving result =>
      some { s.setDo d (.closing result) with
        registry := unregister s.registry (s.dos d).laneKey (s.dos d).msgType }
    | _ => none
  | .doClose d =>
    match (s.dos d).pc, (s.chans d).close with
    | .closing result, some c => some ((s.setDo d (.returned result)).setChan d c)
    | _, _ => none
  | .lookup m msgType laneKey =>
    match (s.dispatches m).pc with
    | .idle =>
      match s.lookup msgType laneKey with
      | none => some (s.setDispatch m ⟨msgType, laneKey, s.clock, some s.clock, .failed⟩)
      | some d => some (s.setDispatch m ⟨msgType, laneKey, s.clock, none, .holding d⟩)
    | _ => none
  | .send m =>
    match (s.dispatches m).pc with
    | .holding d =>
      match (s.chans d).trySend m with
      | .panic => some (s.finish m .failed)
      | .full => none
      | .ok c => some ((s.finish m (.sent d)).setChan d c)
    | _ => none

def step (s : State) (a : Action) : Option State := (next s a).map State.tick

def system : System State Action := ⟨init, step⟩

/-- The call has begun and has not returned. -/
def DoCall.Active (c : DoCall) : Prop :=
  match c.pc with
  | .idle | .returned _ => False
  | _ => True

/-- No active call uses the type and lane of a call that begins. -/
def DistinctLanes (s : State) : Action → Prop
  | .doRegister _ laneKey recvMsgType =>
    ∀ d, (s.dos d).Active → ¬ ((s.dos d).msgType = recvMsgType ∧ (s.dos d).laneKey = laneKey)
  | _ => True

end FrpXtcp.Transport

import FrpXtcp.Wire.Frame

/-!
# Messages in frames

The message types of `pkg/msg` and the decoding of a message frame of the second wire
protocol. The JSON decoding of a body is an argument, one function for each type.
-/
namespace FrpXtcp.Wire

open FrpXtcp.Lib

inductive MsgType where
  | login
  | loginResp
  | newProxy
  | newProxyResp
  | closeProxy
  | newWorkConn
  | reqWorkConn
  | startWorkConn
  | newVisitorConn
  | newVisitorConnResp
  | ping
  | pong
  | udpPacket
  | natHoleVisitor
  | natHoleClient
  | natHoleResp
  | natHoleSid
  | natHoleReport
  deriving DecidableEq

def v2MsgTypeMap : List (UInt16 × MsgType) :=
  [(1, .login), (2, .loginResp), (3, .newProxy), (4, .newProxyResp), (5, .closeProxy),
    (6, .newWorkConn), (7, .reqWorkConn), (8, .startWorkConn), (9, .newVisitorConn),
    (10, .newVisitorConnResp), (11, .ping), (12, .pong), (13, .udpPacket), (14, .natHoleVisitor),
    (15, .natHoleClient), (16, .natHoleResp), (17, .natHoleSid), (18, .natHoleReport)]

/-- `DecodeV2MessageFrame` -/
def decodeV2MessageFrame {Body : MsgType → Type}
    (unmarshal : (t : MsgType) → List UInt8 → Except String (Body t)) (f : Frame) :
    Except String (Sigma Body) :=
  if f.type ≠ frameTypeMessage then
    .error s!"unexpected frame type {f.type}, want {frameTypeMessage}"
  else if f.payload.length < 2 then .error "message frame payload too short"
  else
    let typeID := UInt16.ofNat (BigEndian.ofBytes (f.payload.take 2))
    match v2MsgTypeMap.lookup typeID with
    | none => .error s!"unknown v2 message type {typeID}"
    | some t =>
      match unmarshal t (f.payload.drop 2) with
      | .error e => .error e
      | .ok m => .ok ⟨t, m⟩

theorem decodeV2MessageFrame_type {Body : MsgType → Type}
    {unmarshal : (t : MsgType) → List UInt8 → Except String (Body t)} {f : Frame} {m : Sigma Body}
    (h : decodeV2MessageFrame unmarshal f = .ok m) : f.type = frameTypeMessage := by
  unfold decodeV2MessageFrame at h
  split at h
  · cases h
  · rename_i ht
    exact not_not.mp ht

end FrpXtcp.Wire

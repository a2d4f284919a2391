import FrpXtcp.Lib.HostPort
import FrpXtcp.Wire.Hello
import FrpXtcp.Wire.Message
import FrpXtcp.Server.Control

/-!
# The first messages of a connection

`handleConnection` of `server/service.go` decides from the first frames of a connection
whether it becomes a control, becomes a work connection or is closed. The decision is
spread over `acceptConnection`, `readFirstV2Msg`, `handleClientHello`,
`newControlReadWriter`, `RegisterControl` and `RegisterWorkConn`; each is a function here.
The result is the list of calls that the handler makes, up to the call of `Add` or of
`RegisterWorkConn` of the control manager.
-/
namespace FrpXtcp.Server

open FrpXtcp.Wire

def protocolV1 : String := "v1"
def protocolV2 : String := "v2"

/-- `Login`: what the server reads of it. -/
structure Login where
  version : String
  hostname : String
  user : String
  privilegeKey : String
  timestamp : Int64
  runID : String
  clientID : String
  poolCount : Int

structure NewWorkConn where
  runID : String
  privilegeKey : String
  timestamp : Int64

/-- The body of a message; of the other messages the handler looks at the type only. -/
def Body : MsgType → Type
  | .login => Login
  | .newWorkConn => NewWorkConn
  | _ => Unit

/-- What a `Service` takes from its libraries, its configuration and the control manager.
`getByID` and `putWorkConn` are the answers of the manager to the one call that a connection
makes of each; `wireProtocol c` is the one in the session of control `c`. -/
structure Service where
  random : Except String (Vector UInt8 cryptoRandomSize)
  unmarshalHello : List UInt8 → Except String ClientHello
  marshalHello : ServerHello → Except String (List UInt8)
  unmarshal : (t : MsgType) → List UInt8 → Except String (Body t)
  sha256 : List UInt8 → List UInt8
  readMsgV1 : Stream → Except String (Sigma Body) × Stream
  newAEADCryptoReadWriter : CryptoContext → Except String Unit
  newCryptoReadWriter : Except String Unit
  randID : Except String String
  isPrint : Char → Bool
  verifyLogin : Login → Except String Unit
  verifyNewWorkConn : NewWorkConn → Except String Unit
  detailedErrorsToClient : Bool
  maxPoolCount : Int
  remoteAddr : String
  getByID : String → Option Nat
  wireProtocol : Nat → String
  putWorkConn : Nat → Option String

/-- `acceptedConnection`; the connection is the stream and the first message is returned. -/
structure AcceptedConnection where
  wireProtocol : String
  clientHelloPresent : Bool := false
  udpPacketCodec : String := ""
  cryptoContext : Option CryptoContext := none

def maxRunIDLength : Nat := 64

/-- A Lean string is always valid UTF-8, so the third check cannot fail. -/
def validateIdentifier (isPrint : Char → Bool) (value kind : String) (maxLength : Nat) :
    Except String Unit :=
  if value = "" then .error s!"{kind} cannot be empty"
  else if value.utf8ByteSize > maxLength then
    .error s!"{kind} is too long: length {value.utf8ByteSize} exceeds maximum {maxLength}"
  else if value.toList.any (fun r => !isPrint r) then
    .error s!"{kind} contains non-printable character"
  else .ok ()

def validateRunID (isPrint : Char → Bool) (runID : String) : Except String Unit :=
  validateIdentifier isPrint runID "run id" maxRunIDLength

/-- `GenerateResponseErrorString` -/
def generateResponseErrorString (summary err : String) (detailed : Bool) : String :=
  if detailed then err else summary

/-- What the handler does with the result of the first messages. `registerControl` is a call
of `RegisterControl` with a connection that encrypts as the context says (`none` is the
cipher of the first protocol); `add` follows it with the session of the new control. -/
inductive Call where
  | registerControl (crypto : Option CryptoContext) (login : Login)
      (wireProtocol udpPacketCodec : String)
  | add (crypto : Option CryptoContext) (sess : SessionContext) (udpPacketCodec : String)
  | registerWorkConn (ctl : Nat)
  | loginResp (error : String)
  | startWorkConn (error : String)

/-- The call gives the connection to a control, new or old. -/
def Call.Registers : Call → Prop
  | .registerControl .. | .add .. | .registerWorkConn _ => True
  | .loginResp _ | .startWorkConn _ => False

namespace Service

variable (svc : Service)

def handleClientHello (ac : AcceptedConnection) (s : Stream) (frame : Frame) :
    Except String AcceptedConnection × Stream :=
  match svc.unmarshalHello frame.payload with
  | .error e => (.error s!"decode ClientHello: {e}", s)
  | .ok hello =>
    match newServerHello svc.random hello with
    | .error err =>
      match svc.marshalHello { defaultServerHello with error := err } with
      | .error e => (.error s!"{err}; write ServerHello error: {e}", s)
      | .ok payload =>
        match writeFrame s { type := frameTypeServerHello, payload := payload } with
        | (.error e, s) => (.error s!"{err}; write ServerHello error: {e}", s)
        | (.ok (), s) => (.error err, s)
    | .ok serverHello =>
      match svc.marshalHello serverHello with
      | .error e => (.error s!"encode ServerHello: {e}", s)
      | .ok payload =>
        let cryptoContext :=
          newCryptoContext svc.sha256 serverHello.selected.crypto.algorithm frame.payload payload
        match writeFrame s { type := frameTypeServerHello, payload := payload } with
        | (.error e, s) => (.error s!"write ServerHello: {e}", s)
        | (.ok (), s) =>
          (.ok { ac with
            cryptoContext := some cryptoContext
            udpPacketCodec := serverHello.selected.message.udpPacketCodec }, s)

/-- The end of `readFirstV2Msg`: the message in `frame`. -/
def decodeFirst (ac : AcceptedConnection) (s : Stream) (frame : Frame) :
    Except String (AcceptedConnection × Sigma Body) × Stream :=
  match decodeV2MessageFrame svc.unmarshal frame with
  | .error e => (.error s!"decode v2 message: {e}", s)
  | .ok m => (.ok (ac, m), s)

def readFirstV2Msg (ac : AcceptedConnection) (s : Stream) :
    Except String (AcceptedConnection × Sigma Body) × Stream :=
  match readFrame s with
  | (.error e, s) => (.error s!"read v2 frame: {e}", s)
  | (.ok frame, s) =>
    if frame.type = frameTypeClientHello then
      match svc.handleClientHello { ac with clientHelloPresent := true } s frame with
      | (.error e, s) => (.error e, s)
      | (.ok ac, s) =>
        match readFrame s with
        | (.error e, s) => (.error s!"read first v2 message frame: {e}", s)
        | (.ok frame, s) => svc.decodeFirst ac s frame
    else svc.decodeFirst ac s frame

def acceptConnection (s : Stream) : Except String (AcceptedConnection × Sigma Body) × Stream :=
  match checkMagic s with
  | (.error e, s) => (.error s!"read wire protocol magic: {e}", s)
  | (.ok true, s) => svc.readFirstV2Msg { wireProtocol := protocolV2 } s
  | (.ok false, s) =>
    match svc.readMsgV1 s with
    | (.error e, s) => (.error e, s)
    | (.ok m, s) => (.ok ({ wireProtocol := protocolV1 }, m), s)

/-- `newControlReadWriter`, by the context of the cipher it makes. -/
def newControlReadWriter (ac : AcceptedConnection) : Except String (Option CryptoContext) :=
  if ac.wireProtocol = protocolV2 then
    match ac.cryptoContext with
    | none => .error "missing v2 crypto negotiation"
    | some context =>
      match svc.newAEADCryptoReadWriter context with
      | .error e => .error e
      | .ok () => .ok (some context)
  else
    match svc.newCryptoReadWriter with
    | .error e => .error e
    | .ok () => .ok none

/-- The run ID that `RegisterControl` goes on with. -/
def loginRunID (login : Login) : Except String String :=
  if login.runID = "" then svc.randID else .ok login.runID

/-- The checks of the wire protocol at the start of `RegisterControl`. -/
def checkSelection (wireProtocol udpPacketCodec : String) : Except String Unit :=
  if wireProtocol = protocolV1 then
    if udpPacketCodec ≠ "" then
      .error s!"UDP packet codec {Lib.quote udpPacketCodec} requires wire protocol v2"
    else .ok ()
  else if wireProtocol = protocolV2 then
    if udpPacketCodec ≠ "" ∧ udpPacketCodec ≠ udpPacketCodecBinary then
      .error s!"unsupported UDP packet codec selection: {udpPacketCodec}"
    else .ok ()
  else .error s!"unsupported wire protocol: {wireProtocol}"

/-- `RegisterControl` up to `Add`: the session of the new control. -/
def registerControl (login : Login) (wireProtocol udpPacketCodec : String) :
    Except String SessionContext :=
  match checkSelection wireProtocol udpPacketCodec with
  | .error e => .error e
  | .ok () =>
    match svc.loginRunID login with
    | .error e => .error e
    | .ok runID =>
      match validateRunID svc.isPrint runID with
      | .error e => .error s!"invalid run id: {e}"
      | .ok () =>
        match svc.verifyLogin { login with runID := runID } with
        | .error e => .error e
        | .ok () =>
          let sess : SessionContext :=
            { runID := runID, user := login.user, clientID := login.clientID,
              hostname := login.hostname, version := login.version,
              remoteAddr := svc.remoteAddr, wireProtocol := wireProtocol,
              poolCount := login.poolCount, maxPoolCount := svc.maxPoolCount }
          match newControl sess with
          | .error _ => .error "unexpected error when creating new controller"
          | .ok _ => .ok sess

/-- `Service.RegisterWorkConn` up to `RegisterWorkConn` of the manager: the control. -/
def registerWorkConn (newMsg : NewWorkConn) (workWireProtocol : String)
    (workClientHelloPresent : Bool) : Except String Nat :=
  if workClientHelloPresent then .error "ClientHello is not allowed on work connections"
  else
    match svc.getByID newMsg.runID with
    | none => .error s!"no client control found for run id [{newMsg.runID}]"
    | some ctl =>
      if workWireProtocol ≠ svc.wireProtocol ctl then
        .error (s!"work connection wire protocol mismatch: got {workWireProtocol} want " ++
          svc.wireProtocol ctl)
      else
        match svc.verifyNewWorkConn newMsg with
        | .error e => .error e
        | .ok () => .ok ctl

def loginCalls (ac : AcceptedConnection) (m : Login) : List Call :=
  let refuse e := Call.loginResp
    (generateResponseErrorString "register control error" e svc.detailedErrorsToClient)
  match svc.newControlReadWriter ac with
  | .error e => [refuse e]
  | .ok crypto =>
    .registerControl crypto m ac.wireProtocol ac.udpPacketCodec ::
      match svc.registerControl m ac.wireProtocol ac.udpPacketCodec with
      | .error e => [refuse e]
      | .ok sess => [.add crypto sess ac.udpPacketCodec]

def workConnCalls (ac : AcceptedConnection) (m : NewWorkConn) : List Call :=
  let refuse e := Call.startWorkConn
    (generateResponseErrorString "invalid NewWorkConn" e svc.detailedErrorsToClient)
  match svc.registerWorkConn m ac.wireProtocol ac.clientHelloPresent with
  | .error e => [refuse e]
  | .ok ctl =>
    .registerWorkConn ctl ::
      match svc.putWorkConn ctl with
      | some e => [refuse e]
      | none => []

/-- The switch of `handleConnection` on the type of the first message. -/
def dispatch (ac : AcceptedConnection) : Sigma Body → List Call
  | ⟨.login, m⟩ => svc.loginCalls ac m
  | ⟨.newWorkConn, m⟩ => svc.workConnCalls ac m
  | _ => []

def handleConnection (s : Stream) : List Call × Stream :=
  match svc.acceptConnection s with
  | (.error _, s) => ([], s)
  | (.ok (ac, firstMsg), s) => (svc.dispatch ac firstMsg, s)

variable {svc} {ac ac' : AcceptedConnection} {s s' : Stream} {frame : Frame} {m : Sigma Body}

/-- The ClientHello in `first` is accepted with `sh`, which is sent in `reply`. -/
structure Answered (svc : Service) (first : Frame) (sh : ServerHello) (reply : Frame) : Prop where
  type : first.type = frameTypeClientHello
  accepted : ∃ hello, svc.unmarshalHello first.payload = .ok hello ∧
    newServerHello svc.random hello = .ok sh
  replyType : reply.type = frameTypeServerHello
  encoded : svc.marshalHello sh = .ok reply.payload

/-- The context that the two hellos of a connection make. -/
def contextOf (svc : Service) (first : Frame) (sh : ServerHello) (reply : Frame) : CryptoContext :=
  newCryptoContext svc.sha256 sh.selected.crypto.algorithm first.payload reply.payload

/-- The connection after the negotiation. -/
def negotiated (svc : Service) (ac : AcceptedConnection) (first : Frame)
    (sh : ServerHello) (reply : Frame) : AcceptedConnection :=
  { ac with
    clientHelloPresent := true
    udpPacketCodec := sh.selected.message.udpPacketCodec
    cryptoContext := some (svc.contextOf first sh reply) }

theorem handleClientHello_ok (htype : frame.type = frameTypeClientHello)
    (h : svc.handleClientHello { ac with clientHelloPresent := true } s frame = (.ok ac', s')) :
    ∃ sh reply, Answered svc frame sh reply ∧ s'.input = s.input ∧
      s'.output = s.output ++ reply.bytes ∧ ac' = svc.negotiated ac frame sh reply := by
  unfold handleClientHello at h
  split at h
  · cases h
  · rename_i hello hhello
    split at h
    · -- a refused hello is answered too, and then the connection is given up
      split at h
      · cases h
      · split at h <;> cases h
    · rename_i sh hsh
      split at h
      · cases h
      · rename_i payload hpayload
        dsimp only at h
        split at h
        · cases h
        · rename_i s₁ hw
          obtain ⟨hin, hout⟩ := writeFrame_ok hw
          cases h
          exact ⟨sh, { type := frameTypeServerHello, payload := payload },
            ⟨htype, ⟨hello, hhello, hsh⟩, rfl, hpayload⟩, hin, hout, rfl⟩

theorem decodeFirst_ok (h : svc.decodeFirst ac s frame = (.ok (ac', m), s')) :
    decodeV2MessageFrame svc.unmarshal frame = .ok m ∧ ac' = ac ∧ s' = s := by
  unfold decodeFirst at h
  split at h
  · cases h
  · rename_i m₁ hm
    cases h
    exact ⟨hm, rfl, rfl⟩

/-- The first message is in the first frame, or in the second after a negotiation. -/
theorem readFirstV2Msg_ok (h : svc.readFirstV2Msg ac s = (.ok (ac', m), s')) :
    (∃ first, s.input = first.bytes ++ s'.input ∧
      decodeV2MessageFrame svc.unmarshal first = .ok m ∧ ac' = ac) ∨
    ∃ first sh reply second, Answered svc first sh reply ∧
      s.input = first.bytes ++ second.bytes ++ s'.input ∧
      decodeV2MessageFrame svc.unmarshal second = .ok m ∧
      s'.output = s.output ++ reply.bytes ∧ ac' = svc.negotiated ac first sh reply := by
  unfold readFirstV2Msg at h
  split at h
  · cases h
  · rename_i first s₁ hfirst
    obtain ⟨-, -, hin₁, hs₁⟩ := readFrame_ok hfirst
    split at h
    · rename_i htype
      split at h
      · cases h
      · rename_i ac₁ s₂ hhello
        obtain ⟨sh, reply, hans, hin₂, hout₂, rfl⟩ := handleClientHello_ok htype hhello
        split at h
        · cases h
        · rename_i second s₃ hsecond
          obtain ⟨-, -, hin₃, hs₃⟩ := readFrame_ok hsecond
          obtain ⟨hm, rfl, rfl⟩ := decodeFirst_ok h
          refine Or.inr ⟨first, sh, reply, second, hans, ?_, hm, ?_, rfl⟩
          · rw [hin₁, ← hin₂, hin₃, List.append_assoc]
          · rw [hs₃, hout₂, hs₁]
    · obtain ⟨hm, rfl, rfl⟩ := decodeFirst_ok h
      exact Or.inl ⟨first, hin₁, hm, rfl⟩

theorem newControlReadWriter_v2 {crypto : Option CryptoContext}
    (hv : ac.wireProtocol = protocolV2) (h : svc.newControlReadWriter ac = .ok crypto) :
    ∃ context, ac.cryptoContext = some context ∧ crypto = some context := by
  unfold newControlReadWriter at h
  rw [if_pos hv] at h
  split at h
  · cases h
  · rename_i context hc
    split at h <;> cases h
    exact ⟨context, hc, rfl⟩

theorem registerControl_wireProtocol {login : Login} {wireProtocol udpPacketCodec : String}
    {sess : SessionContext} (h : svc.registerControl login wireProtocol udpPacketCodec = .ok sess) :
    sess.wireProtocol = wireProtocol := by
  unfold registerControl at h
  iterate 4
    split at h
    · cases h
  dsimp only at h
  split at h <;> cases h
  rfl

theorem registerWorkConn_ok {newMsg : NewWorkConn} {wireProtocol : String} {present : Bool}
    {c : Nat} (h : svc.registerWorkConn newMsg wireProtocol present = .ok c) :
    present = false ∧ svc.getByID newMsg.runID = some c ∧ wireProtocol = svc.wireProtocol c := by
  unfold registerWorkConn at h
  split at h
  · cases h
  · rename_i hp
    split at h
    · cases h
    · rename_i ctl hctl
      split at h
      · cases h
      · rename_i hw
        split at h <;> cases h
        exact ⟨by simpa using hp, hctl, not_not.mp hw⟩

/-- The calls for a login: `RegisterControl` runs on an encrypted connection only, and the
control that is added is the one it was called for. -/
theorem mem_loginCalls {call : Call} {login : Login} (hv : ac.wireProtocol = protocolV2)
    (h : call ∈ svc.loginCalls ac login) :
    (∃ error, call = .loginResp error) ∨
    ∃ context, ac.cryptoContext = some context ∧
      .registerControl (some context) login protocolV2 ac.udpPacketCodec ∈ svc.loginCalls ac login ∧
      (call = .registerControl (some context) login protocolV2 ac.udpPacketCodec ∨
        ∃ sess, sess.wireProtocol = protocolV2 ∧
          call = .add (some context) sess ac.udpPacketCodec) := by
  unfold loginCalls at h ⊢
  dsimp only at h ⊢
  split at h
  · exact Or.inl ⟨_, List.mem_singleton.mp h⟩
  · rename_i crypto hcrypto
    obtain ⟨context, hcontext, rfl⟩ := newControlReadWriter_v2 hv hcrypto
    rw [hv] at h ⊢
    rcases List.mem_cons.mp h with rfl | h
    · exact Or.inr ⟨context, hcontext, List.mem_cons_self, Or.inl rfl⟩
    · split at h
      · exact Or.inl ⟨_, List.mem_singleton.mp h⟩
      · rename_i sess hsess
        exact Or.inr ⟨context, hcontext, List.mem_cons_self,
          Or.inr ⟨sess, registerControl_wireProtocol hsess, List.mem_singleton.mp h⟩⟩

theorem mem_workConnCalls {call : Call} {newMsg : NewWorkConn}
    (h : call ∈ svc.workConnCalls ac newMsg) :
    (∃ error, call = .startWorkConn error) ∨
    ∃ c, ac.clientHelloPresent = false ∧ svc.getByID newMsg.runID = some c ∧
      ac.wireProtocol = svc.wireProtocol c ∧ call = .registerWorkConn c := by
  unfold workConnCalls at h
  dsimp only at h
  split at h
  · exact Or.inl ⟨_, List.mem_singleton.mp h⟩
  · rename_i c hc
    obtain ⟨hp, hctl, hw⟩ := registerWorkConn_ok hc
    rcases List.mem_cons.mp h with rfl | h
    · exact Or.inr ⟨c, hp, hctl, hw, rfl⟩
    · split at h
      · exact Or.inl ⟨_, List.mem_singleton.mp h⟩
      · cases h

/-- The input is a ClientHello that is accepted with `sh` in `reply`, then the login. -/
structure LoginFrames (svc : Service) (input : List UInt8) (first : Frame) (sh : ServerHello)
    (reply : Frame) (login : Login) : Prop where
  answered : Answered svc first sh reply
  frames : ∃ second tail, input = first.bytes ++ second.bytes ++ tail ∧
    decodeV2MessageFrame svc.unmarshal second = .ok ⟨.login, login⟩

/-- The input starts with the message for a new work connection. -/
def WorkConnFrame (svc : Service) (input : List UInt8) (newMsg : NewWorkConn) : Prop :=
  ∃ first tail, input = first.bytes ++ tail ∧ first.type ≠ frameTypeClientHello ∧
    decodeV2MessageFrame svc.unmarshal first = .ok ⟨.newWorkConn, newMsg⟩

/-- Every call of a connection of the second protocol, by the frames that lead to it. -/
theorem handleConnection_calls {rest : List UInt8} {call : Call}
    (h : s.input = magicV2 ++ rest) (hcall : call ∈ (svc.handleConnection s).1) :
    ¬ call.Registers ∨
    (∃ first sh reply login, LoginFrames svc rest first sh reply login ∧
      (svc.handleConnection s).2.output = s.output ++ reply.bytes ∧
      .registerControl (some (svc.contextOf first sh reply)) login protocolV2
        sh.selected.message.udpPacketCodec ∈ (svc.handleConnection s).1 ∧
      (call = .registerControl (some (svc.contextOf first sh reply)) login protocolV2
          sh.selected.message.udpPacketCodec ∨
        ∃ sess, sess.wireProtocol = protocolV2 ∧
          call = .add (some (svc.contextOf first sh reply)) sess
            sh.selected.message.udpPacketCodec)) ∨
    ∃ c newMsg, WorkConnFrame svc rest newMsg ∧ svc.getByID newMsg.runID = some c ∧
      svc.wireProtocol c = protocolV2 ∧ call = .registerWorkConn c := by
  simp only [handleConnection, acceptConnection, checkMagic_magic h] at hcall ⊢
  cases hr : svc.readFirstV2Msg { wireProtocol := protocolV2 } { s with input := rest } with
  | mk res s' =>
    rw [hr] at hcall
    cases res with
    | error e => cases hcall
    | ok r =>
      obtain ⟨ac, ⟨t, m⟩⟩ := r
      dsimp only at hcall ⊢
      -- only a login and a new work connection make calls
      cases t with
      | login =>
        change call ∈ svc.loginCalls ac m at hcall
        rcases readFirstV2Msg_ok hr with ⟨first, hin, hm, rfl⟩ |
          ⟨first, sh, reply, second, hans, hin, hm, hout, rfl⟩
        · -- without a hello there is no context, so the login is refused
          rcases mem_loginCalls rfl hcall with ⟨error, rfl⟩ | ⟨context, hc, -⟩
          · exact Or.inl id
          · cases hc
        · rcases mem_loginCalls rfl hcall with ⟨error, rfl⟩ | ⟨context, hc, hreg, hcase⟩
          · exact Or.inl id
          · obtain rfl := Option.some.inj hc
            exact Or.inr (Or.inl ⟨first, sh, reply, m, ⟨hans, second, _, hin, hm⟩, hout, hreg,
              hcase⟩)
      | newWorkConn =>
        change call ∈ svc.workConnCalls ac m at hcall
        rcases mem_workConnCalls hcall with ⟨error, rfl⟩ | ⟨c, hp, hctl, hw, rfl⟩
        · exact Or.inl id
        · rcases readFirstV2Msg_ok hr with ⟨first, hin, hm, rfl⟩ |
            ⟨first, sh, reply, second, hans, hin, hm, hout, rfl⟩
          · refine Or.inr (Or.inr ⟨c, m, ⟨first, _, hin, ?_, hm⟩, hctl, hw.symm, rfl⟩)
            rw [decodeV2MessageFrame_type hm]
            decide
          · cases hp
      | _ => cases hcall

/-- The gate of the second protocol. A control is registered only after an accepted
ClientHello and a login, and it uses what the ServerHello on this connection selected and a
transcript of the two payloads; a work connection is taken only without a ClientHello and only
by a control of the same protocol; nothing else registers anything. -/
theorem v2_connection_gate (svc : Service) (s : Stream) (rest : List UInt8)
    (h : s.input = magicV2 ++ rest) :
    (∀ crypto login wireProtocol codec,
      .registerControl crypto login wireProtocol codec ∈ (svc.handleConnection s).1 →
      ∃ first sh reply, LoginFrames svc rest first sh reply login ∧
        (svc.handleConnection s).2.output = s.output ++ reply.bytes ∧
        wireProtocol = protocolV2 ∧ codec = sh.selected.message.udpPacketCodec ∧
        crypto = some (newCryptoContext svc.sha256 sh.selected.crypto.algorithm
          first.payload reply.payload)) ∧
    (∀ crypto sess codec, .add crypto sess codec ∈ (svc.handleConnection s).1 →
      ∃ login, .registerControl crypto login sess.wireProtocol codec ∈
        (svc.handleConnection s).1) ∧
    (∀ c, .registerWorkConn c ∈ (svc.handleConnection s).1 →
      svc.wireProtocol c = protocolV2 ∧
      ∃ newMsg, WorkConnFrame svc rest newMsg ∧ svc.getByID newMsg.runID = some c) ∧
    ((¬ ∃ first sh reply login, LoginFrames svc rest first sh reply login) →
      (¬ ∃ newMsg, WorkConnFrame svc rest newMsg) →
      ∀ call ∈ (svc.handleConnection s).1, ¬ call.Registers) := by
  refine ⟨?_, ?_, ?_, ?_⟩
  · intro crypto login wireProtocol codec hcall
    rcases handleConnection_calls h hcall with hno | ⟨first, sh, reply, login', hl, hout, -, hc⟩ |
      ⟨c, newMsg, -, -, -, hc⟩
    · exact absurd trivial hno
    · rcases hc with hc | ⟨sess, -, hc⟩
      · cases hc
        exact ⟨first, sh, reply, hl, hout, rfl, rfl, rfl⟩
      · cases hc
    · cases hc
  · intro crypto sess codec hcall
    rcases handleConnection_calls h hcall with hno | ⟨first, sh, reply, login, -, -, hreg, hc⟩ |
      ⟨c, newMsg, -, -, -, hc⟩
    · exact absurd trivial hno
    · rcases hc with hc | ⟨sess', hw, hc⟩
      · cases hc
      · cases hc
        exact ⟨login, hw.symm ▸ hreg⟩
    · cases hc
  · intro c hcall
    rcases handleConnection_calls h hcall with hno | ⟨first, sh, reply, login, -, -, -, hc⟩ |
      ⟨c', newMsg, hm, hctl, hw, hc⟩
    · exact absurd trivial hno
    · rcases hc with hc | ⟨sess, -, hc⟩ <;> cases hc
    · cases hc
      exact ⟨hw, newMsg, hm, hctl⟩
  · intro hlogin hwork call hcall
    rcases handleConnection_calls h hcall with hno | ⟨first, sh, reply, login, hl, -⟩ |
      ⟨c, newMsg, hm, -⟩
    · exact hno
    · exact absurd ⟨first, sh, reply, login, hl⟩ hlogin
    · exact absurd ⟨newMsg, hm⟩ hwork

/-- A service whose peer offers both codecs and logs in as `login`. -/
def serving (login : Login) : Service where
  random := .ok (Vector.replicate cryptoRandomSize 7)
  unmarshalHello _ := .ok ⟨⟨[messageCodecJSON], [udpPacketCodecBinary]⟩,
    ⟨["unknown", aeadAlgorithmXChaCha20Poly1305], List.replicate cryptoRandomSize 1⟩⟩
  marshalHello _ := .ok [0x7b, 0x7d]
  unmarshal
    | .login, _ => .ok login
    | _, _ => .error "unexpected end of JSON input"
  sha256 := id
  readMsgV1 s := (.error "invalid message", s)
  newAEADCryptoReadWriter _ := .ok ()
  newCryptoReadWriter := .ok ()
  randID := .ok "0123456789abcdef"
  isPrint _ := true
  verifyLogin _ := .ok ()
  verifyNewWorkConn _ := .ok ()
  detailedErrorsToClient := true
  maxPoolCount := 5
  remoteAddr := "192.0.2.1:7000"
  getByID _ := none
  wireProtocol _ := protocolV2
  putWorkConn _ := none

/-- The call is `RegisterControl` on a connection that uses `algorithm`. -/
def loginWith (algorithm : String) : Call → Bool
  | .registerControl (some context) .. => context.algorithm == algorithm
  | _ => false

theorem v2_connection_gate_login :
    let login : Login := ⟨"0.1", "host", "user", "", 0, "run-a", "client", 1⟩
    let first : Frame := { type := frameTypeClientHello, payload := [0x7b, 0x7d] }
    let second : Frame := { type := frameTypeMessage, payload := [0, 1, 0x7b, 0x7d] }
    let s : Stream := ⟨magicV2 ++ (first.bytes ++ second.bytes), "EOF", [], []⟩
    ∃ f sh reply login',
      LoginFrames (serving login) (first.bytes ++ second.bytes) f sh reply login' ∧
      ((serving login).handleConnection s).2.output = reply.bytes ∧
      sh.selected.crypto.algorithm = aeadAlgorithmXChaCha20Poly1305 := by
  intro login first second s
  have hany : ((serving login).handleConnection s).1.any
      (loginWith aeadAlgorithmXChaCha20Poly1305) = true := by decide +kernel
  obtain ⟨call, hmem, hcall⟩ := List.any_eq_true.mp hany
  match call, hcall with
  | .registerControl (some context) login' wireProtocol codec, hcall =>
    obtain ⟨f, sh, reply, hl, hout, -, -, hc⟩ :=
      (v2_connection_gate (serving login) s (first.bytes ++ second.bytes) rfl).1 _ _ _ _ hmem
    obtain rfl := Option.some.inj hc
    exact ⟨f, sh, reply, login', hl, hout, beq_iff_eq.mp hcall⟩

end Service
end FrpXtcp.Server

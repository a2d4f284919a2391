import FrpXtcp.Server.Connection
import FrpXtcp.Wire.ControlKeys
import FrpXtcp.Wire.ReadWriter

/-!
# Logging in

`controlSessionDialer` of `client/control_session.go`: the client's side of the first
messages of a control connection. The client writes everything before it reads anything. Of
the connector there are the results of opening and connecting; what is closed on the way out
is part of the result.
-/
namespace FrpXtcp.Client

open FrpXtcp.Wire
open FrpXtcp.Server (Login protocolV2)

structure LoginResp where
  version : String
  runID : String
  error : String
  deriving DecidableEq

/-- The messages of a login; of the others the client's code here knows the type only. -/
def Body : MsgType → Type
  | .login => Login
  | .loginResp => LoginResp
  | _ => Unit

/-- What a `controlSessionDialer` has from its configuration and its libraries. `now` is the
time of `buildLoginMsg`, `setLogin` the method of the auth setter, and `sshTunnel` says whether
the client is one that serves an SSH tunnel. -/
structure Dialer (K : Type) where
  connectorOpen : Except String Unit
  connect : Except String Unit
  wireProtocol : String
  version : String
  hostname : String
  user : String
  clientID : String
  poolCount : Int
  now : Int64
  sshTunnel : Bool
  setLogin : Login → Except String Login
  encryptionKey : List UInt8
  fastAESGCM : Bool
  random : Except String (Vector UInt8 cryptoRandomSize)
  marshalHello : ClientHello → Except String (List UInt8)
  unmarshalClientHello : List UInt8 → Except String ClientHello
  unmarshalServerHello : List UInt8 → Except String ServerHello
  json : JSON Body
  sha256 : List UInt8 → List UInt8
  lib : CryptoLib K
  newCryptoReadWriter : Except String Unit
  writeMsgV1 : Stream → Login → Except String Unit × Stream
  readMsgIntoV1 : Stream → Except String LoginResp × Stream

/-- `controlRW` by what encrypts it: nothing, the cipher of the first protocol, or AEAD. -/
inductive ControlRW (K : Type) where
  | plain
  | v1
  | aead (cipher : ControlCipher K)

/-- The fields of `SessionContext` that the login determines. -/
structure Session (K : Type) where
  runID : String
  rw : ControlRW K
  udpPacketCodec : String

structure LoginExchangeResult where
  resp : LoginResp
  crypto : Option CryptoContext
  udpPacketCodec : String

/-- The result of `Dial`, what its deferred calls have closed, and the connection. -/
structure Dialed (K : Type) where
  result : Except String (Session K)
  connectorClosed : Bool
  connClosed : Bool
  stream : Stream

namespace Dialer

variable {K : Type} (d : Dialer K)

def buildLoginMsg (previousRunID : String) : Except String Login :=
  d.setLogin
    { version := d.version, hostname := d.hostname, user := d.user, privilegeKey := "",
      timestamp := d.now, runID := previousRunID, clientID := d.clientID,
      poolCount := d.poolCount }

/-- `exchangeLogin` for the second protocol up to the ClientHello, whose payload it keeps. -/
def writeHello (s : Stream) : Except String (List UInt8) × Stream :=
  match s.write magicV2 with
  | (.error e, s) => (.error e, s)
  | (.ok (), s) =>
    match newClientHello d.fastAESGCM d.random with
    | .error e => (.error e, s)
    | .ok clientHello =>
      match d.marshalHello clientHello with
      | .error e => (.error e, s)
      | .ok payload =>
        match writeFrame s { type := frameTypeClientHello, payload := payload } with
        | (.error e, s) => (.error e, s)
        | (.ok (), s) => (.ok payload, s)

/-- `rw.WriteMsg(loginMsg)` on a `V2ReadWriter`. -/
def writeLogin (s : Stream) (loginMsg : Login) : Except String Unit × Stream :=
  match encodeV2MessageFrame d.json (.pointer .login (some loginMsg)) with
  | .error e => (.error e, s)
  | .ok f => writeFrame s f

/-- `exchangeLogin` for the second protocol from the read of the ServerHello to the context. -/
def readHello (s : Stream) (clientHelloPayload : List UInt8) :
    Except String (CryptoContext × String) × Stream :=
  match readFrame s with
  | (.error e, s) => (.error e, s)
  | (.ok frame, s) =>
    if frame.type ≠ frameTypeServerHello then
      (.error s!"unexpected frame type {frame.type}, want {frameTypeServerHello}", s)
    else
      match d.unmarshalServerHello frame.payload with
      | .error e => (.error e, s)
      | .ok serverHello =>
        if serverHello.error ≠ "" then (.error serverHello.error, s)
        else
          match newClientCryptoContext d.unmarshalClientHello d.unmarshalServerHello d.sha256
              clientHelloPayload frame.payload with
          | .error e => (.error e, s)
          | .ok context => (.ok (context, serverHello.selected.message.udpPacketCodec), s)

/-- `rw.ReadMsgInto(&loginRespMsg)` on a `V2ReadWriter`. -/
def readLoginResp (s : Stream) : Except String LoginResp × Stream :=
  match readFrame s with
  | (.error e, s) => (.error e, s)
  | (.ok frame, s) =>
    match decodeV2MessageFrameInto d.json frame (.pointer .loginResp (d.json.zero .loginResp)) with
    | .error e => (.error e, s)
    | .ok ⟨.loginResp, resp⟩ => (.ok resp, s)
    -- the message has the type of its target
    | .ok _ => (.error "", s)

def exchangeLogin (s : Stream) (loginMsg : Login) : Except String LoginExchangeResult × Stream :=
  if d.wireProtocol = protocolV2 then
    match d.writeHello s with
    | (.error e, s) => (.error e, s)
    | (.ok clientHelloPayload, s) =>
      match d.writeLogin s loginMsg with
      | (.error e, s) => (.error e, s)
      | (.ok (), s) =>
        match d.readHello s clientHelloPayload with
        | (.error e, s) => (.error e, s)
        | (.ok (context, udpPacketCodec), s) =>
          match d.readLoginResp s with
          | (.error e, s) => (.error e, s)
          | (.ok resp, s) =>
            (.ok { resp := resp, crypto := some context, udpPacketCodec := udpPacketCodec }, s)
  else
    match d.writeMsgV1 s loginMsg with
    | (.error e, s) => (.error e, s)
    | (.ok (), s) =>
      match d.readMsgIntoV1 s with
      | (.error e, s) => (.error e, s)
      | (.ok resp, s) => (.ok { resp := resp, crypto := none, udpPacketCodec := "" }, s)

def newControlReadWriter (cryptoContext : Option CryptoContext) : Except String (ControlRW K) :=
  if d.wireProtocol = protocolV2 then
    match cryptoContext with
    | none => .error "missing v2 crypto negotiation"
    | some context =>
      match newAEADCryptoReadWriter d.lib d.encryptionKey .client context.algorithm
          context.transcriptHash with
      | .error e => .error e
      | .ok cipher => .ok (.aead cipher)
  else
    match d.newCryptoReadWriter with
    | .error e => .error e
    | .ok () => .ok .v1

/-- `Dial` once it has a connection. -/
def login (previousRunID : String) (s : Stream) : Except String (Session K) × Stream :=
  match d.buildLoginMsg previousRunID with
  | .error e => (.error e, s)
  | .ok loginMsg =>
    match d.exchangeLogin s loginMsg with
    | (.error e, s) => (.error e, s)
    | (.ok loginResult, s) =>
      if loginResult.resp.error ≠ "" then (.error loginResult.resp.error, s)
      else
        let session rw : Session K :=
          { runID := loginResult.resp.runID, rw := rw,
            udpPacketCodec := loginResult.udpPacketCodec }
        if d.sshTunnel then (.ok (session .plain), s)
        else
          match d.newControlReadWriter loginResult.crypto with
          | .error e => (.error s!"create control crypto read writer: {e}", s)
          | .ok rw => (.ok (session rw), s)

def dial (previousRunID : String) (s : Stream) : Dialed K :=
  match d.connectorOpen with
  | .error e => ⟨.error e, false, false, s⟩
  | .ok () =>
    match d.connect with
    | .error e => ⟨.error e, true, false, s⟩
    | .ok () =>
      match d.login previousRunID s with
      | (.error e, s) => ⟨.error e, true, true, s⟩
      | (.ok session, s) => ⟨.ok session, false, false, s⟩

variable {d} {s s' : Stream}

theorem writeHello_ok {payload : List UInt8} (h : d.writeHello s = (.ok payload, s')) :
    ∃ b hello frame, d.random = .ok b ∧
      hello = clientHelloWithCryptoRandom d.fastAESGCM b.toList ∧
      d.marshalHello hello = .ok payload ∧ payload.length ≤ defaultMaxFramePayloadSize ∧
      frame = ({ type := frameTypeClientHello, payload := payload } : Frame) ∧
      s'.input = s.input ∧ s'.output = s.output ++ (magicV2 ++ frame.bytes) := by
  unfold writeHello at h
  split at h
  · cases h
  · rename_i s₁ hmagic
    obtain ⟨hin₁, hout₁⟩ := Stream.write_ok hmagic
    split at h
    · cases h
    · rename_i hello hhello
      split at h
      · cases h
      · rename_i payload' hpayload
        split at h
        · cases h
        · rename_i s₂ hframe
          obtain ⟨hin₂, hout₂⟩ := writeFrame_ok hframe
          cases h
          have hlen := (sendable_of_writeFrame hframe).2
          cases hr : d.random with
          | error e => simp [newClientHello, newCryptoRandom, hr] at hhello
          | ok b =>
            simp only [newClientHello, newCryptoRandom, hr, Except.ok.injEq] at hhello
            subst hhello
            refine ⟨b, _, _, rfl, rfl, hpayload, hlen, rfl, hin₂.trans hin₁, ?_⟩
            rw [hout₂, hout₁, List.append_assoc]

theorem readHello_ok {cp : List UInt8} {context : CryptoContext} {codec : String}
    (h : d.readHello s cp = (.ok (context, codec), s')) :
    ∃ (frame : Frame) (serverHello : ServerHello), frame.type = frameTypeServerHello ∧
      frame.payload.length ≤ defaultMaxFramePayloadSize ∧
      d.unmarshalServerHello frame.payload = .ok serverHello ∧
      newClientCryptoContext d.unmarshalClientHello d.unmarshalServerHello d.sha256 cp
        frame.payload = .ok context ∧
      codec = serverHello.selected.message.udpPacketCodec ∧ frame.flags = 0 ∧
      s.input = frame.bytes ++ s'.input ∧ s'.output = s.output := by
  unfold readHello at h
  split at h
  · cases h
  · rename_i frame s₁ hframe
    obtain ⟨hflags, hlen, hin, hs₁⟩ := readFrame_ok hframe
    split_ifs at h with htype
    · cases h
    · split at h
      · cases h
      · rename_i serverHello hhello
        split_ifs at h with herror
        · cases h
        · split at h
          · cases h
          · cases h
            refine ⟨frame, serverHello, not_not.mp htype, hlen, hhello, ‹_›, rfl, hflags, hin, ?_⟩
            rw [hs₁]

theorem writeLogin_ok {loginMsg : Login} (h : d.writeLogin s loginMsg = (.ok (), s')) :
    s'.input = s.input ∧ s.output <+: s'.output := by
  unfold writeLogin at h
  split at h
  · cases h
  · obtain ⟨hin, hout⟩ := writeFrame_ok h
    exact ⟨hin, hout ▸ List.prefix_append _ _⟩

theorem readLoginResp_output {resp : LoginResp} (h : d.readLoginResp s = (.ok resp, s')) :
    s'.output = s.output := by
  unfold readLoginResp at h
  split at h
  · cases h
  · rename_i frame s₁ hframe
    obtain ⟨-, -, -, hs₁⟩ := readFrame_ok hframe
    split at h
    · cases h
    · cases h
      rw [hs₁]
    · cases h

/-- An AEAD session was negotiated: a ClientHello was written, a ServerHello was read, and the
cipher has the keys of their transcript. -/
theorem login_aead {previousRunID : String} {session : Session K} {cipher : ControlCipher K}
    (h : d.login previousRunID s = (.ok session, s')) (hrw : session.rw = .aead cipher) :
    ∃ cp context s₁ s₂ s₃, d.wireProtocol = protocolV2 ∧ d.writeHello s = (.ok cp, s₁) ∧
      s₂.input = s₁.input ∧
      d.readHello s₂ cp = (.ok (context, session.udpPacketCodec), s₃) ∧
      newAEADCryptoReadWriter d.lib d.encryptionKey .client context.algorithm
        context.transcriptHash = .ok cipher ∧ s₁.output <+: s'.output := by
  unfold login at h
  split at h
  · cases h
  · rename_i loginMsg hmsg
    split at h
    · cases h
    · rename_i result s₄ hexchange
      split_ifs at h with herror hssh
      · cases h
      · cases h
        cases hrw
      · split at h
        · cases h
        · rename_i rw hnew
          cases h
          dsimp only at hrw
          subst hrw
          unfold newControlReadWriter at hnew
          split_ifs at hnew with hv
          · unfold exchangeLogin at hexchange
            rw [if_pos hv] at hexchange
            split at hexchange
            · cases hexchange
            · rename_i cp s₁ hwrite
              split at hexchange
              · cases hexchange
              · rename_i s₂ hlogin
                split at hexchange
                · cases hexchange
                · rename_i context codec s₃ hread
                  split at hexchange
                  · cases hexchange
                  · rename_i resp s₅ hresp
                    cases hexchange
                    dsimp only at hnew
                    split at hnew
                    · cases hnew
                    · rename_i cipher' hcipher
                      cases hnew
                      obtain ⟨hin, hout⟩ := writeLogin_ok hlogin
                      obtain ⟨_, _, -, -, -, -, -, -, -, hout₃⟩ := readHello_ok hread
                      refine ⟨cp, context, s₁, s₂, s₃, hv, hwrite, hin, hread, hcipher, ?_⟩
                      rw [readLoginResp_output hresp, hout₃]
                      exact hout
          · split at hnew <;> cases hnew

theorem dial_ok {previousRunID : String} {session : Session K}
    (h : (d.dial previousRunID s).result = .ok session) :
    d.login previousRunID s = (.ok session, (d.dial previousRunID s).stream) := by
  unfold dial at h ⊢
  cases hopen : d.connectorOpen with
  | error e => simp [hopen] at h
  | ok _ =>
    cases hconnect : d.connect with
    | error e => simp [hopen, hconnect] at h
    | ok _ =>
      rcases hlogin : d.login previousRunID s with ⟨r, s'⟩
      cases r with
      | error e => simp [hopen, hconnect, hlogin] at h
      | ok session' =>
        simp only [hopen, hconnect, hlogin] at h ⊢
        cases h
        rfl

end Dialer

end FrpXtcp.Client

import FrpXtcp.Client.Login

/-!
# What the two ends of a login agree on

The client's `Dial` and the server's `handleConnection` on one control connection of the
second protocol. With an undisturbed connection the client accepts whatever the server has
accepted, and both have the same keys. On a connection that somebody else can read and write,
an end that can decrypt what the other has encrypted shares the negotiation with it: nobody can
move the two to a weaker choice.
-/
namespace FrpXtcp.Session

open FrpXtcp.Wire
open FrpXtcp.Client (Dialer LoginResp)
open FrpXtcp.Server (AcceptedConnection Body Call Login Service protocolV1 protocolV2)

def clientHelloFrame (payload : List UInt8) : Frame :=
  { type := frameTypeClientHello, payload := payload }

/-- The frame that `handleClientHello` answers with. -/
def serverHelloFrame (payload : List UInt8) : Frame :=
  { type := frameTypeServerHello, payload := payload }

/-- A ClientHello came in the first frame of `s` and was answered by `payload`; `context` and
`codec` are what the server goes on with. -/
structure Negotiation (svc : Service) (s : Stream) (context : CryptoContext) (codec : String)
    (first : Frame) (sh : ServerHello) (payload : List UInt8) : Prop where
  read : ∃ s', readFrame s = (.ok first, s')
  type : first.type = frameTypeClientHello
  hello : ∃ hello, svc.unmarshalHello first.payload = .ok hello ∧
    newServerHello svc.random hello = .ok sh
  answer : svc.marshalHello sh = .ok payload
  fits : first.payload.length ≤ defaultMaxFramePayloadSize ∧
    payload.length ≤ defaultMaxFramePayloadSize
  context_eq : context =
    newCryptoContext svc.sha256 sh.selected.crypto.algorithm first.payload payload
  codec_eq : codec = sh.selected.message.udpPacketCodec

variable {svc : Service} {s s' : Stream} {ac ac' : AcceptedConnection}

/-- The answer to an accepted ClientHello was written. -/
theorem handleClientHello_writes {frame : Frame} {hello : ClientHello} {sh : ServerHello}
    {payload : List UInt8} (h : svc.handleClientHello ac s frame = (.ok ac', s'))
    (hhello : svc.unmarshalHello frame.payload = .ok hello)
    (hsh : newServerHello svc.random hello = .ok sh) (hp : svc.marshalHello sh = .ok payload) :
    payload.length ≤ defaultMaxFramePayloadSize ∧
      s'.output = s.output ++ (serverHelloFrame payload).bytes := by
  simp only [Service.handleClientHello, hhello, hsh, hp] at h
  split at h
  · cases h
  · rename_i hw
    cases h
    exact ⟨(sendable_of_writeFrame hw).2, (writeFrame_ok hw).2⟩

/-- A context comes from a negotiation in the first frame. -/
theorem readFirstV2Msg_negotiated {m : Sigma Body} {context : CryptoContext}
    (h : svc.readFirstV2Msg ac s = (.ok (ac', m), s')) (hnone : ac.cryptoContext = none)
    (hctx : ac'.cryptoContext = some context) :
    ∃ first sh payload, Negotiation svc s context ac'.udpPacketCodec first sh payload ∧
      s'.output = s.output ++ (serverHelloFrame payload).bytes := by
  unfold Service.readFirstV2Msg at h
  split at h
  · cases h
  · rename_i first s₁ hfirst
    obtain ⟨-, hlen, -, hs₁⟩ := readFrame_ok hfirst
    split at h
    · rename_i htype
      split at h
      · cases h
      · rename_i ac₁ s₂ hhello
        obtain ⟨sh, reply, hans, -, -, rfl⟩ := Service.handleClientHello_ok htype hhello
        obtain ⟨hello, hdec, hnew⟩ := hans.accepted
        obtain ⟨hfits, hout⟩ := handleClientHello_writes hhello hdec hnew hans.encoded
        split at h
        · cases h
        · rename_i second s₃ hsecond
          obtain ⟨-, -, -, hs₃⟩ := readFrame_ok hsecond
          obtain ⟨-, rfl, rfl⟩ := Service.decodeFirst_ok h
          obtain rfl := Option.some.inj hctx
          refine ⟨first, sh, reply.payload,
            ⟨⟨s₁, hfirst⟩, htype, ⟨hello, hdec, hnew⟩, hans.encoded, ⟨hlen, hfits⟩, rfl, rfl⟩, ?_⟩
          rw [hs₃, hout, hs₁]
    · obtain ⟨-, rfl, -⟩ := Service.decodeFirst_ok h
      rw [hnone] at hctx
      cases hctx

/-- A registered control has the context and the codec of its connection. -/
theorem dispatch_context {m : Sigma Body} {crypto : Option CryptoContext} {login : Login}
    {wireProtocol codec : String}
    (h : .registerControl crypto login wireProtocol codec ∈ svc.dispatch ac m) :
    svc.newControlReadWriter ac = .ok crypto ∧ codec = ac.udpPacketCodec := by
  obtain ⟨t, m⟩ := m
  cases t with
  | login =>
    change _ ∈ svc.loginCalls ac m at h
    unfold Service.loginCalls at h
    dsimp only at h
    split at h
    · simp at h
    · rename_i crypto' hrw
      rcases List.mem_cons.mp h with heq | h
      · cases heq
        exact ⟨hrw, rfl⟩
      · split at h <;> simp at h
  | newWorkConn =>
    change _ ∈ svc.workConnCalls ac m at h
    unfold Service.workConnCalls at h
    dsimp only at h
    split at h
    · simp at h
    · rcases List.mem_cons.mp h with heq | h
      · cases heq
      · split at h <;> simp at h
  | _ => cases h

/-- What `CheckMagic` finds is taken off the stream. -/
theorem checkMagic_input (h : checkMagic s = (.ok true, s')) :
    ∃ rest, s.input = magicV2 ++ rest ∧ s' = { s with input := rest } := by
  unfold checkMagic at h
  split at h
  · cases h
  · rename_i buf s₁ hread
    obtain ⟨-, hin, hs⟩ := Stream.readFull_ok hread
    split at h
    · rename_i hbuf
      cases h
      exact ⟨s'.input, hbuf ▸ hin, hs⟩
    · cases h

theorem readFirstV2Msg_wireProtocol {m : Sigma Body}
    (h : svc.readFirstV2Msg ac s = (.ok (ac', m), s')) : ac'.wireProtocol = ac.wireProtocol := by
  rcases Service.readFirstV2Msg_ok h with ⟨_, _, _, rfl⟩ | ⟨_, _, _, _, _, _, _, _, rfl⟩
  · rfl
  · rfl

/-- A control with a context is registered on a connection that began with the magic and a
negotiation. -/
theorem registerControl_negotiated {context : CryptoContext} {login : Login}
    {wireProtocol codec : String}
    (h : .registerControl (some context) login wireProtocol codec ∈ (svc.handleConnection s).1) :
    ∃ rest first sh payload, s.input = magicV2 ++ rest ∧
      Negotiation svc { s with input := rest } context codec first sh payload ∧
      (svc.handleConnection s).2.output = s.output ++ (serverHelloFrame payload).bytes := by
  unfold Service.handleConnection Service.acceptConnection at h ⊢
  rcases hmagic : checkMagic s with ⟨r, s₁⟩
  rw [hmagic] at h
  cases r with
  | error e => cases h
  | ok isV2 =>
    cases isV2 with
    | false =>
      -- the first protocol has no context
      dsimp only at h
      rcases hv1 : svc.readMsgV1 s₁ with ⟨r, s₂⟩
      rw [hv1] at h
      cases r with
      | error e => cases h
      | ok m =>
        have hnone := (dispatch_context h).1
        have hv : protocolV1 ≠ protocolV2 := by decide
        simp only [Service.newControlReadWriter, if_neg hv] at hnone
        split at hnone <;> cases hnone
    | true =>
      obtain ⟨rest, hin, rfl⟩ := checkMagic_input hmagic
      dsimp only at h ⊢
      rcases hfirst : svc.readFirstV2Msg { wireProtocol := protocolV2 } { s with input := rest }
        with ⟨r, s₂⟩
      rw [hfirst] at h
      cases r with
      | error e => cases h
      | ok r =>
        obtain ⟨ac, m⟩ := r
        obtain ⟨hrw, hcodec⟩ := dispatch_context h
        have hv2 := readFirstV2Msg_wireProtocol hfirst
        obtain ⟨context', hctx, heq⟩ := Service.newControlReadWriter_v2 hv2 hrw
        obtain rfl := Option.some.inj heq
        obtain ⟨first, sh, payload, hneg, hout⟩ := readFirstV2Msg_negotiated hfirst rfl hctx
        exact ⟨rest, first, sh, payload, hin, hcodec ▸ hneg, hout⟩

/-! ## Whoever is in between -/

/-- The two ends use the same hash function, and each decodes the hello of the other as it was
encoded. -/
structure SameCodec {K : Type} (d : Dialer K) (svc : Service) : Prop where
  sha256 : svc.sha256 = d.sha256
  clientHello : ∀ h p, d.marshalHello h = .ok p → svc.unmarshalHello p = .ok h
  ownHello : ∀ h p, d.marshalHello h = .ok p → d.unmarshalClientHello p = .ok h
  serverHello : ∀ h p, svc.marshalHello h = .ok p → d.unmarshalServerHello p = .ok h

/-- What the server selects from the hello of this client. -/
theorem newServerHello_preferred {random : Except String (Vector UInt8 cryptoRandomSize)}
    {fast : Bool} {b : List UInt8} {sh : ServerHello}
    (h : newServerHello random (clientHelloWithCryptoRandom fast b) = .ok sh) :
    (preferredAEADAlgorithms fast).head? = some sh.selected.crypto.algorithm ∧
      sh.selected.message.udpPacketCodec = udpPacketCodecBinary ∧ sh.error = "" := by
  cases random with
  | error e =>
    unfold newServerHello at h
    split at h
    · cases h
    · split at h <;> cases h
  | ok r =>
    obtain ⟨-, a, ha, rfl⟩ := newServerHello_ok_iff.mp h
    have hselect : selectAEADAlgorithm (preferredAEADAlgorithms fast) =
        (preferredAEADAlgorithms fast).head? := by
      cases fast <;> decide
    refine ⟨?_, ?_, rfl⟩
    · rw [← hselect]
      exact ha
    · simp [clientHelloWithCryptoRandom, selectUDPPacketCodec, supports]

variable {K : Type} {d : Dialer K}

/-- What the client has for its keys: the hello that it has sent, and the answer that it has
read. -/
structure ClientSees (d : Dialer K) (previousRunID : String) (cs : Stream)
    (client : ControlCipher K) (x : KeySource) : Prop where
  secret : x.secret = d.encryptionKey
  sent : cs.output ++ (magicV2 ++ (clientHelloFrame x.clientHello).bytes) <+:
    (d.dial previousRunID cs).stream.output
  received : (serverHelloFrame x.serverHello).bytes <+: cs.input
  fits : (clientHelloFrame x.clientHello).Sendable ∧ (serverHelloFrame x.serverHello).Sendable
  keys : x.cipher d.lib d.sha256 .client = .ok client

/-- What the server has for its keys: the hello that it has read, and its answer. -/
structure ServerSees (svc : Service) (lib : CryptoLib K) (key : List UInt8) (ss : Stream)
    (server : ControlCipher K) (y : KeySource) : Prop where
  secret : y.secret = key
  received : magicV2 ++ (clientHelloFrame y.clientHello).bytes <+: ss.input
  sent : (svc.handleConnection ss).2.output = ss.output ++ (serverHelloFrame y.serverHello).bytes
  fits : (clientHelloFrame y.clientHello).Sendable ∧ (serverHelloFrame y.serverHello).Sendable
  keys : y.cipher lib svc.sha256 .server = .ok server

theorem fits_of_sendable {x : KeySource} (h : (clientHelloFrame x.clientHello).Sendable ∧
    (serverHelloFrame x.serverHello).Sendable) : x.Fits :=
  ⟨Nat.lt_of_le_of_lt h.1.2 (by decide), Nat.lt_of_le_of_lt h.2.2 (by decide)⟩

/-- The hello that a dialer has sent, and what it has read in the answer. -/
theorem clientSees_of_dial {previousRunID : String} {cs : Stream} {session : Client.Session K}
    {client : ControlCipher K} (hdial : (d.dial previousRunID cs).result = .ok session)
    (hrw : session.rw = .aead client) :
    ∃ x b sh, ClientSees d previousRunID cs client x ∧
      d.marshalHello (clientHelloWithCryptoRandom d.fastAESGCM b) = .ok x.clientHello ∧
      d.unmarshalServerHello x.serverHello = .ok sh ∧
      session.udpPacketCodec = sh.selected.message.udpPacketCodec ∧
      x.algorithm = sh.selected.crypto.algorithm := by
  obtain ⟨cp, own, s₁, s₂, s₃, -, hwrite, hin₂, hread, hclient, hfinal⟩ :=
    Dialer.login_aead (Dialer.dial_ok hdial) hrw
  obtain ⟨b, hello, frame, -, rfl, hmarshal, hcp, rfl, hin₁, hout₁⟩ := Dialer.writeHello_ok hwrite
  obtain ⟨answer, sh, htype, hsp, hsh, hcontext, hudp, hflags, hin, -⟩ := Dialer.readHello_ok hread
  obtain ⟨-, sh', -, hsh', -, rfl⟩ := newClientCryptoContext_ok hcontext
  obtain rfl : sh' = sh := Except.ok.inj (hsh'.symm.trans hsh)
  have hanswer : answer = serverHelloFrame answer.payload := by
    cases answer
    simp_all [serverHelloFrame]
  refine ⟨⟨d.encryptionKey, cp, answer.payload, sh'.selected.crypto.algorithm⟩, b.toList, sh',
    ⟨rfl, ?_, ?_, ⟨⟨rfl, hcp⟩, ⟨rfl, hsp⟩⟩, hclient⟩, hmarshal, hsh, hudp, rfl⟩
  · rw [hout₁] at hfinal
    exact hfinal
  · rw [← hanswer, ← hin₁, ← hin₂, hin]
    exact List.prefix_append _ _

/-- The hello that a server with a control has read, and its answer. -/
theorem serverSees_of_control {lib : CryptoLib K} {key : List UInt8} {ss : Stream}
    {server : ControlCipher K} {context : CryptoContext} {login : Login}
    {wireProtocol codec : String}
    (hcontrol : .registerControl (some context) login wireProtocol codec ∈
      (svc.handleConnection ss).1)
    (hserver : newAEADCryptoReadWriter lib key .server context.algorithm context.transcriptHash =
      .ok server) :
    ∃ y hello sh, ServerSees svc lib key ss server y ∧
      svc.unmarshalHello y.clientHello = .ok hello ∧ newServerHello svc.random hello = .ok sh ∧
      svc.marshalHello sh = .ok y.serverHello ∧ codec = sh.selected.message.udpPacketCodec := by
  obtain ⟨rest, first, sh, payload, hin, hneg, hout⟩ := registerControl_negotiated hcontrol
  obtain ⟨s', hread⟩ := hneg.read
  obtain ⟨hflags, -, hrest, -⟩ := readFrame_ok hread
  obtain ⟨hello, hdec, hnew⟩ := hneg.hello
  have hfirst : first = clientHelloFrame first.payload := by
    have htype := hneg.type
    cases first
    simp_all [clientHelloFrame]
  refine ⟨⟨key, first.payload, payload, sh.selected.crypto.algorithm⟩, hello, sh,
    ⟨rfl, ?_, hout, ⟨⟨rfl, hneg.fits.1⟩, ⟨rfl, hneg.fits.2⟩⟩, ?_⟩, hdec, hnew, hneg.answer,
    hneg.codec_eq⟩
  · change rest = first.bytes ++ s'.input at hrest
    rw [← hfirst, hin, hrest, ← List.append_assoc]
    exact List.prefix_append _ _
  · rw [hneg.context_eq] at hserver
    exact hserver

/-- No downgrade. Let a client have logged in on one stream and a server have registered a
control on another, whatever came on these streams. If one of the two reads with a key that the
other writes with, then both have derived their keys from the same secret and the same hellos, the
keys of both directions are the same, the algorithm is the one that the client prefers, and both
use the binary UDP codec. Otherwise the two transcripts collide under SHA-256, or the arguments of
`hkdf.Key` for one of the keys do. -/
theorem matching_keys_exclude_downgrade {previousRunID : String} {cs ss : Stream}
    {session : Client.Session K} {client server : ControlCipher K} {context : CryptoContext}
    {login : Login} {wireProtocol codec : String} {key : List UInt8}
    (hcodec : SameCodec d svc) (hdial : (d.dial previousRunID cs).result = .ok session)
    (hrw : session.rw = .aead client)
    (hcontrol : .registerControl (some context) login wireProtocol codec ∈
      (svc.handleConnection ss).1)
    (hserver : newAEADCryptoReadWriter d.lib key .server context.algorithm context.transcriptHash =
      .ok server)
    (hmatch : client.writeKey = server.readKey ∨ client.readKey = server.writeKey) :
    ∃ x y, ClientSees d previousRunID cs client x ∧ ServerSees svc d.lib key ss server y ∧
      (KeySource.Collide d.lib d.sha256 x y ∨
        x = y ∧ client.writeKey = server.readKey ∧ client.readKey = server.writeKey ∧
          server.algorithm = client.algorithm ∧
          (preferredAEADAlgorithms d.fastAESGCM).head? = some client.algorithm ∧
          session.udpPacketCodec = codec ∧ codec = udpPacketCodecBinary) := by
  obtain ⟨x, b, sh', hx, hmarshal, hsh', hudp, halg⟩ := clientSees_of_dial hdial hrw
  obtain ⟨y, hello, sh, hy, hdec, hnew, hanswer, hcodec'⟩ := serverSees_of_control hcontrol hserver
  refine ⟨x, y, hx, hy, ?_⟩
  have hkeys := hy.keys
  rw [hcodec.sha256] at hkeys
  rcases KeySource.agree_or_collide (fits_of_sendable hx.fits) (fits_of_sendable hy.fits) hx.keys
    hkeys hmatch with hcollide | ⟨rfl, hup, hdown⟩
  · exact Or.inl hcollide
  · -- the server answered this client's hello, and the client read this answer
    rw [hcodec.clientHello _ _ hmarshal] at hdec
    obtain rfl := Except.ok.inj hdec
    obtain rfl : sh = sh' := Except.ok.inj ((hcodec.serverHello _ _ hanswer).symm.trans hsh')
    obtain ⟨hpreferred, hbinary, -⟩ := newServerHello_preferred hnew
    obtain ⟨_, _, -, -, rfl⟩ := newAEADCryptoReadWriter_ok hx.keys
    obtain ⟨_, _, -, -, rfl⟩ := newAEADCryptoReadWriter_ok hkeys
    refine Or.inr ⟨rfl, hup, hdown, rfl, ?_, ?_, ?_⟩
    · exact hpreferred.trans (congrArg some halg.symm)
    · rw [hudp, hcodec']
    · rw [hcodec', hbinary]

deriving instance DecidableEq for MessageCapabilities, CryptoCapabilities, ClientCapabilities,
  ClientHello, ControlCipher, Client.ControlRW, Client.Session

/-- A hello and its answer, with the codecs that know these two. -/
def knownHello : ClientHello := clientHelloWithCryptoRandom true (List.replicate cryptoRandomSize 1)

def knownAnswer : ServerHello :=
  { selected :=
      { message := ⟨messageCodecJSON, udpPacketCodecBinary⟩
        crypto := ⟨aeadAlgorithmAES256GCM, List.replicate cryptoRandomSize 7⟩ } }

/-- The encoding of a type of which only `v` is known. -/
def encodeKnown {α : Type} [DecidableEq α] (v : α) (p : List UInt8) (v' : α) :
    Except String (List UInt8) :=
  if v' = v then .ok p else .error "unsupported value"

def decodeKnown {α : Type} (v : α) (p p' : List UInt8) : Except String α :=
  if p' = p then .ok v else .error "unexpected end of JSON input"

theorem decodeKnown_encodeKnown {α : Type} [DecidableEq α] {v v' : α} {p p' : List UInt8}
    (h : encodeKnown v p v' = .ok p') : decodeKnown v p p' = .ok v' := by
  unfold encodeKnown at h
  split_ifs at h with hv
  cases h
  simp [decodeKnown, hv]

def knownResp : LoginResp := ⟨"0.69.1", "0123456789abcdef", ""⟩

/-- SHA-256 of the transcript of the two hellos. -/
def knownDigest (bs : List UInt8) : List UInt8 :=
  if bs = cryptoTranscript [1] [2] then
    [0xd8, 0x46, 0x43, 0x74, 0x9f, 0x14, 0x38, 0xee, 0x3f, 0xa3, 0x73, 0xad, 0xaa, 0xb8, 0xb7,
      0x8b, 0x7e, 0x10, 0xe4, 0x67, 0xbe, 0x9a, 0x1e, 0x85, 0x8b, 0x93, 0x52, 0xad, 0x60, 0xb5,
      0x70, 0x02]
  else []

/-- The two keys that HKDF derives from it and the secret. -/
def knownKey : AEADDirection → List UInt8
  | .clientToServer =>
    [0xd6, 0x0e, 0x20, 0x5f, 0x72, 0x3d, 0x3b, 0x12, 0x6b, 0xe3, 0x6e, 0x72, 0xb7, 0x6f, 0x3d,
      0x5f, 0xd4, 0xf3, 0x42, 0xd2, 0xb8, 0x31, 0x36, 0xb2, 0x0c, 0xf2, 0x8a, 0xe5, 0x16, 0x52,
      0x1e, 0x24]
  | .serverToClient =>
    [0x26, 0xc1, 0xda, 0x51, 0xdc, 0x08, 0x3f, 0x84, 0xab, 0xbe, 0x9e, 0x1b, 0x95, 0xdb, 0x74,
      0xab, 0x30, 0x33, 0x61, 0x58, 0x72, 0x7d, 0x9b, 0xb0, 0xb5, 0xbd, 0x1b, 0xde, 0xf3, 0xa4,
      0xbf, 0x7e]

def knownSource : KeySource := ⟨[42], [1], [2], aeadAlgorithmAES256GCM⟩

def knownLib : CryptoLib (List UInt8) where
  hkdf secret salt info :=
    if (secret, salt, info) = knownSource.args knownDigest .clientToServer then
      .ok (knownKey .clientToServer)
    else if (secret, salt, info) = knownSource.args knownDigest .serverToClient then
      .ok (knownKey .serverToClient)
    else .error "unused"
  newAEADStreamReader algorithm _ :=
    if algorithm = aeadAlgorithmAES256GCM then .ok () else .error "unused"
  newAEADStreamWriter algorithm _ :=
    if algorithm = aeadAlgorithmAES256GCM then .ok () else .error "unused"

def knownDialer : Dialer (List UInt8) where
  connectorOpen := .ok ()
  connect := .ok ()
  wireProtocol := protocolV2
  version := "0.69.1"
  hostname := "host"
  user := ""
  clientID := ""
  poolCount := 1
  now := 0
  sshTunnel := false
  setLogin := .ok
  encryptionKey := [42]
  fastAESGCM := true
  random := .ok (Vector.replicate cryptoRandomSize 1)
  marshalHello := encodeKnown knownHello [1]
  unmarshalClientHello := decodeKnown knownHello [1]
  unmarshalServerHello := decodeKnown knownAnswer [2]
  json :=
    { marshal := fun
        | .loginResp, some resp => encodeKnown knownResp [3] resp
        | _, _ => .ok [0x7b, 0x7d]
      unmarshal := fun
        | .loginResp, p, _ => decodeKnown knownResp [3] p
        | _, _, zero => .ok zero
      zero := fun
        | .login => (⟨"", "", "", "", 0, "", "", 0⟩ : Login)
        | .loginResp => (⟨"", "", ""⟩ : LoginResp)
        | .udpPacket => (⟨[], none, none⟩ : UDPPacket)
        | .newProxy | .newProxyResp | .closeProxy | .newWorkConn | .reqWorkConn | .startWorkConn
        | .newVisitorConn | .newVisitorConnResp | .ping | .pong | .natHoleVisitor | .natHoleClient
        | .natHoleResp | .natHoleSid | .natHoleReport => () }
  sha256 := knownDigest
  lib := knownLib
  newCryptoReadWriter := .ok ()
  writeMsgV1 s _ := (.error "unused", s)
  readMsgIntoV1 s := (.error "unused", s)

def knownLogin : Login := ⟨"0.69.1", "host", "", "", 0, "", "", 1⟩

def knownService : Service :=
  { Service.serving knownLogin with
    unmarshalHello := decodeKnown knownHello [1]
    marshalHello := encodeKnown knownAnswer [2]
    sha256 := knownDigest }

theorem known_sameCodec : SameCodec knownDialer knownService where
  sha256 := rfl
  clientHello _ _ := decodeKnown_encodeKnown
  ownHello _ _ := decodeKnown_encodeKnown
  serverHello _ _ := decodeKnown_encodeKnown

/-- What the dialer writes, and what it reads. -/
def knownUp : Stream :=
  ⟨magicV2 ++ ((⟨frameTypeClientHello, 0, [1]⟩ : Frame).bytes ++
    (frameOf 1 [0x7b, 0x7d]).bytes), "EOF", [], []⟩

def knownDown : Stream :=
  ⟨(serverHelloFrame [2]).bytes ++ (frameOf 2 [3]).bytes, "EOF", [], []⟩

def knownContext : CryptoContext := newCryptoContext knownDigest aeadAlgorithmAES256GCM [1] [2]

def knownCipher (role : AEADCryptoRole) : ControlCipher (List UInt8) :=
  role.cipher aeadAlgorithmAES256GCM (knownKey .clientToServer, knownKey .serverToClient)

theorem known_dial : (knownDialer.dial "" knownDown).result =
    .ok ⟨"0123456789abcdef", .aead (knownCipher .client), udpPacketCodecBinary⟩ := by
  decide +kernel

theorem known_control : .registerControl (some knownContext) knownLogin protocolV2
    udpPacketCodecBinary ∈ (knownService.handleConnection knownUp).1 := by
  exact List.mem_cons_self

theorem known_server : newAEADCryptoReadWriter knownDialer.lib [42] .server
    knownContext.algorithm knownContext.transcriptHash = .ok (knownCipher .server) := by
  decide +kernel

/-- A list begins with one frame at most. -/
theorem sendable_unique {f f' : Frame} {l : List UInt8} (hf : f.Sendable) (hf' : f'.Sendable)
    (h : f.bytes <+: l) (h' : f'.bytes <+: l) : f = f' := by
  obtain ⟨rest, rfl⟩ := h
  obtain ⟨rest', hrest⟩ := h'
  have hread := readFrame_bytes (s := ⟨f.bytes ++ rest, "EOF", [], []⟩) hf rfl
  rw [readFrame_bytes (s := ⟨f.bytes ++ rest, "EOF", [], []⟩) hf' hrest.symm] at hread
  exact (Except.ok.inj (Prod.mk.inj hread).1).symm

theorem known_same {x y : KeySource}
    (hx : ClientSees knownDialer "" knownDown (knownCipher .client) x)
    (hy : ServerSees knownService knownLib [42] knownUp (knownCipher .server) y) : x = y := by
  have hclient : clientHelloFrame x.clientHello = clientHelloFrame y.clientHello := by
    have houtput : (knownDialer.dial "" knownDown).stream.output = knownUp.input := by
      decide +kernel
    have hsent : magicV2 ++ (clientHelloFrame x.clientHello).bytes <+: knownUp.input :=
      houtput ▸ hx.sent
    obtain ⟨rest, hrest⟩ : ∃ rest, knownUp.input = magicV2 ++ rest := ⟨_, rfl⟩
    have hreceived := hy.received
    rw [hrest, List.prefix_append_right_inj] at hsent hreceived
    exact sendable_unique hx.fits.1 hy.fits.1 hsent hreceived
  have hserver : serverHelloFrame x.serverHello = serverHelloFrame y.serverHello := by
    refine sendable_unique hx.fits.2 hy.fits.2 hx.received ⟨(frameOf 2 [3]).bytes, ?_⟩
    have hsent : (serverHelloFrame [2]).bytes = (serverHelloFrame y.serverHello).bytes := hy.sent
    rw [← hsent]
    rfl
  obtain ⟨_, _, -, -, hx'⟩ := newAEADCryptoReadWriter_ok hx.keys
  obtain ⟨_, _, -, -, hy'⟩ := newAEADCryptoReadWriter_ok hy.keys
  have halg : x.algorithm = y.algorithm :=
    (congrArg ControlCipher.algorithm hx').symm.trans (congrArg ControlCipher.algorithm hy')
  have hsecret : x.secret = y.secret := hx.secret.trans hy.secret.symm
  simp only [clientHelloFrame, serverHelloFrame, Frame.mk.injEq, true_and] at hclient hserver
  cases x
  cases y
  simp_all

/-- The same hello, answer and secret on both ends. -/
theorem known_keys_exclude_downgrade :
    (preferredAEADAlgorithms true).head? = some (knownCipher .client).algorithm ∧
      (knownCipher .client).readKey = (knownCipher .server).writeKey := by
  obtain ⟨x, y, hx, hy, hsame⟩ := matching_keys_exclude_downgrade known_sameCodec known_dial
    (show _ = Client.ControlRW.aead (knownCipher .client) from rfl) known_control known_server
    (.inl rfl)
  obtain rfl := known_same hx hy
  rcases hsame with hcollide | ⟨-, -, hkey, -, hpreferred, -, -⟩
  · exact absurd hcollide (KeySource.not_collide_self _ _ _)
  · exact ⟨hpreferred, hkey⟩

/-! ## An undisturbed connection -/

/-- A dialer of the second protocol that has a connection, and the two frames it sends: its
ClientHello in `cp` and the login. -/
structure Sends (d : Dialer K) (previousRunID : String) (cp : List UInt8) (loginFrame : Frame) :
    Prop where
  connected : d.connectorOpen = .ok () ∧ d.connect = .ok ()
  v2 : d.wireProtocol = protocolV2
  encrypted : d.sshTunnel = false
  hello : ∃ b : Vector UInt8 cryptoRandomSize, d.random = .ok b ∧
    d.marshalHello (clientHelloWithCryptoRandom d.fastAESGCM b.toList) = .ok cp
  helloFits : (clientHelloFrame cp).Sendable
  login : ∃ loginMsg, d.buildLoginMsg previousRunID = .ok loginMsg ∧
    encodeV2MessageFrame d.json (.pointer .login (some loginMsg)) = .ok loginFrame
  loginFits : loginFrame.Sendable

/-- The frame that `completeLogin` writes for a session is `respFrame`, and the client reads the
run ID from it. -/
structure Answers (d : Dialer K) (runID : String) (respFrame : Frame) : Prop where
  fits : respFrame.Sendable
  encoded : ∃ version,
    encodeV2MessageFrame d.json (.pointer .loginResp (some ⟨version, runID, ""⟩)) = .ok respFrame
  decoded : ∀ (resp : LoginResp) p, d.json.marshal .loginResp (some resp) = .ok p →
    d.json.unmarshal .loginResp p (d.json.zero .loginResp) = .ok resp

theorem Sends.writeHello {previousRunID : String} {cp : List UInt8} {loginFrame : Frame}
    (h : Sends d previousRunID cp loginFrame) (hs : s.Writable) :
    ∃ s', d.writeHello s = (.ok cp, s') ∧ s'.Writable ∧ s'.input = s.input ∧
      s'.output = s.output ++ (magicV2 ++ (clientHelloFrame cp).bytes) := by
  obtain ⟨b, hrandom, hmarshal⟩ := h.hello
  obtain ⟨s₁, hw₁, hs₁, hin₁, hout₁⟩ := hs.write magicV2
  obtain ⟨s₂, hw₂, hs₂, hin₂, hout₂⟩ := hs₁.writeFrame h.helloFits
  refine ⟨s₂, ?_, hs₂, hin₂.trans hin₁, by rw [hout₂, hout₁, List.append_assoc]⟩
  simp only [clientHelloFrame] at hw₂
  simp only [Dialer.writeHello, hw₁, newClientHello, newCryptoRandom, hrandom, hmarshal, hw₂]

theorem Answers.readLoginResp {runID : String} {respFrame : Frame} {rest : List UInt8}
    (h : Answers d runID respFrame) (hin : s.input = respFrame.bytes ++ rest) :
    ∃ resp s', d.readLoginResp s = (.ok resp, s') ∧ resp.runID = runID ∧ resp.error = "" ∧
      s'.output = s.output := by
  obtain ⟨version, henc⟩ := h.encoded
  obtain ⟨id, p, hid, hm, rfl⟩ :=
    V2ReadWriter.encode_ok d.json (Or.inl rfl) (returned_eq_ok.mpr henc)
  have hinto : decodeV2MessageFrameInto d.json (frameOf id p)
      (.pointer .loginResp (d.json.zero .loginResp)) =
      .ok ⟨.loginResp, (⟨version, runID, ""⟩ : LoginResp)⟩ := by
    rw [← returned_eq_ok]
    refine (V2ReadWriter.decodeInto_ok_iff d.json).mpr ⟨id, hid, frameOf_type id p, _, ?_, rfl⟩
    rw [frameOf_drop]
    exact h.decoded _ p hm
  refine ⟨⟨version, runID, ""⟩, { s with input := rest }, ?_, rfl, rfl, rfl⟩
  simp only [Dialer.readLoginResp, readFrame_bytes h.fits hin, hinto]

end FrpXtcp.Session

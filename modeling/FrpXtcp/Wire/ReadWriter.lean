import FrpXtcp.Wire.FrameStream
import FrpXtcp.Wire.UDPRoundTrip

/-!
# Reading and writing messages

The two message streams of the second protocol: `V2ReadWriter`, which has every body in
JSON, and `V2BinaryUDPPacketReadWriter`, which has UDP packets in the binary codec. Each
reads a message of whatever type comes, or one of the type of a target. JSON is an argument.
-/
namespace FrpXtcp.Wire

open FrpXtcp.Lib

/-- `reflect.Type.String` -/
def MsgType.goType : MsgType → String
  | .login => "msg.Login"
  | .loginResp => "msg.LoginResp"
  | .newProxy => "msg.NewProxy"
  | .newProxyResp => "msg.NewProxyResp"
  | .closeProxy => "msg.CloseProxy"
  | .newWorkConn => "msg.NewWorkConn"
  | .reqWorkConn => "msg.ReqWorkConn"
  | .startWorkConn => "msg.StartWorkConn"
  | .newVisitorConn => "msg.NewVisitorConn"
  | .newVisitorConnResp => "msg.NewVisitorConnResp"
  | .ping => "msg.Ping"
  | .pong => "msg.Pong"
  | .udpPacket => "msg.UDPPacket"
  | .natHoleVisitor => "msg.NatHoleVisitor"
  | .natHoleClient => "msg.NatHoleClient"
  | .natHoleResp => "msg.NatHoleResp"
  | .natHoleSid => "msg.NatHoleSid"
  | .natHoleReport => "msg.NatHoleReport"

def v2TypeUDPPacket : UInt16 := 13
def v2TypeUDPPacketBinary : UInt16 := 19

/-- The second map of `buildV2MsgTypeMaps`. -/
def v2MsgTypeIDMap : List (MsgType × UInt16) := v2MsgTypeMap.map Prod.swap

/-- The Go types of the messages; `B` are those other than `UDPPacket`. -/
def Msg (B : MsgType → Type) : MsgType → Type
  | .udpPacket => UDPPacket
  | t => B t

/-- A value of the type `Message`: nil, a pointer to a message or a message, or a value of a
type that is not a message. -/
inductive Message (B : MsgType → Type) where
  | nil
  | pointer (t : MsgType) (m : Option (Msg B t))
  | value (t : MsgType) (m : Msg B t)
  | other (goType : String)

/-- The target of a typed read: a pointer to a message, or something else. -/
inductive Target (B : MsgType → Type) where
  | pointer (t : MsgType) (m : Msg B t)
  | otherPointer (goType : String)
  | noPointer

/-- `encoding/json` on the messages: `json.Marshal` of a pointer, `json.Unmarshal` into a
target, and the zero values. -/
structure JSON (B : MsgType → Type) where
  marshal : (t : MsgType) → Option (Msg B t) → Except String (List UInt8)
  unmarshal : (t : MsgType) → List UInt8 → Msg B t → Except String (Msg B t)
  zero : (t : MsgType) → Msg B t

variable {B : MsgType → Type} (json : JSON B)

def typeIDOf (f : Frame) : UInt16 := UInt16.ofNat (BigEndian.ofBytes (f.payload.take 2))

/-- `DecodeV2MessageFrameInto`, with the value that the target gets. -/
def decodeV2MessageFrameInto (f : Frame) (out : Target B) : Except String (Sigma (Msg B)) :=
  if f.type ≠ frameTypeMessage then
    .error s!"unexpected frame type {f.type}, want {frameTypeMessage}"
  else if f.payload.length < 2 then .error "message frame payload too short"
  else
    let typeID := typeIDOf f
    match out with
    | .noPointer => .error "message target must be a pointer"
    | .otherPointer goType => .error s!"unknown v2 message type {goType}"
    | .pointer t m =>
      match v2MsgTypeIDMap.lookup t with
      | none => .error s!"unknown v2 message type {t.goType}"
      | some expectedTypeID =>
        if typeID ≠ expectedTypeID then
          match v2MsgTypeMap.lookup typeID with
          | none => .error s!"unknown v2 message type {typeID}"
          | some actual => .error s!"unexpected message type {actual.goType}, want {t.goType}"
        else (json.unmarshal t (f.payload.drop 2) m).map fun m => ⟨t, m⟩

/-- The frame of a message of a registered type. -/
def frameOf (typeID : UInt16) (content : List UInt8) : Frame :=
  { type := frameTypeMessage, payload := BigEndian.toBytes 2 typeID.toNat ++ content }

/-- `EncodeV2MessageFrame` for a message or a pointer to one. -/
def encodeTyped (t : MsgType) (m : Option (Msg B t)) : Except String Frame :=
  match v2MsgTypeIDMap.lookup t with
  | none => .error s!"unknown v2 message type {t.goType}"
  | some typeID => (json.marshal t m).map (frameOf typeID)

def encodeV2MessageFrame : Message B → Except String Frame
  | .nil => .error "nil message"
  | .other goType => .error s!"unknown v2 message type {goType}"
  | .pointer t m => encodeTyped json t m
  | .value t m => encodeTyped json t (some m)

/-- A string error as a fault. -/
def returned {α : Type} : Except String α → Except Fault α
  | .ok a => .ok a
  | .error e => .error (.error e)

/-- A frame is read from the stream and decoded. -/
def readWith {α : Type} (decode : Frame → Except Fault α) (s : Stream) : Except Fault α × Stream :=
  match readFrame s with
  | (.error e, s) => (.error (.error e), s)
  | (.ok f, s) => (decode f, s)

/-- A message is encoded and its frame is written. -/
def writeWith (frame : Except Fault Frame) (s : Stream) : Except Fault Unit × Stream :=
  match frame with
  | .error e => (.error e, s)
  | .ok f =>
    match writeFrame s f with
    | (.error e, s) => (.error (.error e), s)
    | (.ok (), s) => (.ok (), s)

namespace V2ReadWriter

/-- What `ReadMsg` does with the frame. -/
def decode (f : Frame) : Except Fault (Sigma (Msg B)) :=
  returned (decodeV2MessageFrame (fun t b => json.unmarshal t b (json.zero t)) f)

def decodeInto (out : Target B) (f : Frame) : Except Fault (Sigma (Msg B)) :=
  returned (decodeV2MessageFrameInto json f out)

def encode (m : Message B) : Except Fault Frame := returned (encodeV2MessageFrame json m)

def readMsg (s : Stream) : Except Fault (Sigma (Msg B)) × Stream := readWith (decode json) s

def readMsgInto (s : Stream) (out : Target B) : Except Fault (Sigma (Msg B)) × Stream :=
  readWith (decodeInto json out) s

def writeMsg (s : Stream) (m : Message B) : Except Fault Unit × Stream :=
  writeWith (encode json m) s

end V2ReadWriter

def isV2MessageType (f : Frame) (typeID : UInt16) : Bool :=
  f.type = frameTypeMessage && 2 ≤ f.payload.length && typeIDOf f = typeID

def unexpectedV2UDPPacketType (f : Frame) : String :=
  if f.type ≠ frameTypeMessage then s!"unexpected frame type {f.type}, want {frameTypeMessage}"
  else if f.payload.length < 2 then "message frame payload too short"
  else if typeIDOf f = v2TypeUDPPacket then
    "received JSON UDP packet after binary codec negotiation"
  else s!"unexpected message type {typeIDOf f}, want {v2TypeUDPPacketBinary}"

def decodeV2BinaryUDPPacketFrame (f : Frame) : Except Fault UDPPacket :=
  if f.type ≠ frameTypeMessage then
    .error (.error s!"unexpected frame type {f.type}, want {frameTypeMessage}")
  else if f.payload.length < 2 then .error (.error "message frame payload too short")
  else if typeIDOf f ≠ v2TypeUDPPacketBinary then .error (.error (unexpectedV2UDPPacketType f))
  else decodeUDPPacketBinary (f.payload.drop 2)

namespace V2BinaryUDPPacketReadWriter

/-- A packet as a message. -/
def packetMsg (p : UDPPacket) : Sigma (Msg B) := ⟨.udpPacket, p⟩

/-- What `ReadMsg` does with the frame. -/
def decode (f : Frame) : Except Fault (Sigma (Msg B)) :=
  if isV2MessageType f v2TypeUDPPacketBinary then (decodeV2BinaryUDPPacketFrame f).map packetMsg
  else if isV2MessageType f v2TypeUDPPacket then
    .error (.error "received JSON UDP packet after binary codec negotiation")
  else V2ReadWriter.decode json f

def decodeInto (out : Target B) (f : Frame) : Except Fault (Sigma (Msg B)) :=
  match out with
  | .pointer .udpPacket _ =>
    if !isV2MessageType f v2TypeUDPPacketBinary then
      .error (.error (unexpectedV2UDPPacketType f))
    else (decodeV2BinaryUDPPacketFrame f).map packetMsg
  | out => V2ReadWriter.decodeInto json out f

/-- The frame of a UDP packet. -/
def encodePacket (packet : Option UDPPacket) : Except Fault Frame :=
  (encodeUDPPacketBinary packet).map (frameOf v2TypeUDPPacketBinary)

def encode (m : Message B) : Except Fault Frame :=
  match m with
  | .pointer .udpPacket packet => encodePacket packet
  | .value .udpPacket packet => encodePacket (some packet)
  | m => V2ReadWriter.encode json m

def readMsg (s : Stream) : Except Fault (Sigma (Msg B)) × Stream := readWith (decode json) s

def readMsgInto (s : Stream) (out : Target B) : Except Fault (Sigma (Msg B)) × Stream :=
  readWith (decodeInto json out) s

def writeMsg (s : Stream) (m : Message B) : Except Fault Unit × Stream :=
  writeWith (encode json m) s

end V2BinaryUDPPacketReadWriter

/-- The two maps of `buildV2MsgTypeMaps` are inverse to each other. -/
theorem v2MsgTypeMap_lookup_iff {id : UInt16} {t : MsgType} :
    v2MsgTypeMap.lookup id = some t ↔ v2MsgTypeIDMap.lookup t = some id := by
  have hto : ∀ p ∈ v2MsgTypeMap, v2MsgTypeIDMap.lookup p.2 = some p.1 := by decide
  have hfrom : ∀ p ∈ v2MsgTypeIDMap, v2MsgTypeMap.lookup p.2 = some p.1 := by decide
  constructor
  · intro h
    obtain ⟨l₁, l₂, hl, -⟩ := List.lookup_eq_some_iff.mp h
    exact hto (id, t) (by rw [hl]; simp)
  · intro h
    obtain ⟨l₁, l₂, hl, -⟩ := List.lookup_eq_some_iff.mp h
    exact hfrom (t, id) (by rw [hl]; simp)

theorem isV2MessageType_iff {f : Frame} {id : UInt16} :
    isV2MessageType f id = true ↔
      f.type = frameTypeMessage ∧ 2 ≤ f.payload.length ∧ typeIDOf f = id := by
  simp [isV2MessageType, and_assoc]

@[simp] theorem returned_eq_ok {α : Type} {x : Except String α} {a : α} :
    returned x = .ok a ↔ x = .ok a := by
  cases x with
  | error e => simp [returned]
  | ok b => simp [returned]

/-- `ReadMsg` returns the message of the type that the frame names. -/
theorem V2ReadWriter.decode_ok_iff {f : Frame} {r : Sigma (Msg B)} :
    decode json f = .ok r ↔ ∃ id, v2MsgTypeIDMap.lookup r.1 = some id ∧
      isV2MessageType f id = true ∧
      json.unmarshal r.1 (f.payload.drop 2) (json.zero r.1) = .ok r.2 := by
  constructor
  · intro h
    simp only [decode, returned_eq_ok, decodeV2MessageFrame] at h
    split_ifs at h with htype hlen
    split at h
    · cases h
    · rename_i t ht
      split at h
      · cases h
      · rename_i m hm
        cases h
        exact ⟨typeIDOf f, v2MsgTypeMap_lookup_iff.mp ht,
          isV2MessageType_iff.mpr ⟨not_not.mp htype, Nat.le_of_not_lt hlen, rfl⟩, hm⟩
  · rintro ⟨id, hid, hf, hm⟩
    obtain ⟨htype, hlen, rfl⟩ := isV2MessageType_iff.mp hf
    have ht : v2MsgTypeMap.lookup (UInt16.ofNat (BigEndian.ofBytes (f.payload.take 2))) =
        some r.1 := v2MsgTypeMap_lookup_iff.mpr hid
    simp only [decode, returned_eq_ok, decodeV2MessageFrame]
    rw [if_neg (not_not.mpr htype), if_neg (Nat.not_lt.mpr hlen), ht]
    dsimp only
    rw [hm]

/-- `ReadMsgInto` fills a target with a message of its type, if the frame names that type. -/
theorem V2ReadWriter.decodeInto_ok_iff {f : Frame} {t : MsgType} {m : Msg B t}
    {r : Sigma (Msg B)} :
    decodeInto json (.pointer t m) f = .ok r ↔ ∃ id, v2MsgTypeIDMap.lookup t = some id ∧
      isV2MessageType f id = true ∧
      ∃ m', json.unmarshal t (f.payload.drop 2) m = .ok m' ∧ r = ⟨t, m'⟩ := by
  constructor
  · intro h
    simp only [decodeInto, returned_eq_ok, decodeV2MessageFrameInto] at h
    split_ifs at h with htype hlen
    split at h
    · cases h
    · rename_i id hid
      split_ifs at h with hne
      · split at h
        · cases h
        · cases h
      · cases hu : json.unmarshal t (f.payload.drop 2) m with
        | error e =>
          rw [hu] at h
          cases h
        | ok m' =>
          rw [hu] at h
          cases h
          exact ⟨id, hid, isV2MessageType_iff.mpr
            ⟨not_not.mp htype, Nat.le_of_not_lt hlen, not_not.mp hne⟩, m', rfl, rfl⟩
  · rintro ⟨id, hid, hf, m', hm, rfl⟩
    obtain ⟨htype, hlen, rfl⟩ := isV2MessageType_iff.mp hf
    simp only [decodeInto, returned_eq_ok, decodeV2MessageFrameInto]
    rw [if_neg (not_not.mpr htype), if_neg (Nat.not_lt.mpr hlen), hid]
    dsimp only
    rw [if_neg (not_not.mpr rfl), hm]
    rfl

/-- A typed read into a zero value is the untyped read of a message of that type. -/
theorem V2ReadWriter.decodeInto_zero_iff {f : Frame} {t : MsgType} {r : Sigma (Msg B)} :
    decodeInto json (.pointer t (json.zero t)) f = .ok r ↔ r.1 = t ∧ decode json f = .ok r := by
  rw [decodeInto_ok_iff, decode_ok_iff]
  constructor
  · rintro ⟨id, hid, hf, m', hm, rfl⟩
    exact ⟨rfl, id, hid, hf, hm⟩
  · rintro ⟨rfl, id, hid, hf, hm⟩
    exact ⟨id, hid, hf, r.2, hm, rfl⟩

theorem v2MsgTypeIDMap_ne_binary (t : MsgType) :
    v2MsgTypeIDMap.lookup t ≠ some v2TypeUDPPacketBinary := by
  cases t <;> decide

theorem v2MsgTypeIDMap_udpPacket {t : MsgType} :
    v2MsgTypeIDMap.lookup t = some v2TypeUDPPacket ↔ t = .udpPacket := by
  cases t <;> decide

/-- A frame has at most one message type. -/
theorem isV2MessageType_inj {f : Frame} {id id' : UInt16} (h : isV2MessageType f id = true)
    (h' : isV2MessageType f id' = true) : id = id' :=
  (isV2MessageType_iff.mp h).2.2.symm.trans (isV2MessageType_iff.mp h').2.2

/-- No frame with a binary packet is a message for `V2ReadWriter`. -/
theorem V2ReadWriter.decode_binary {f : Frame} (h : isV2MessageType f v2TypeUDPPacketBinary = true)
    (r : Sigma (Msg B)) : decode json f ≠ .ok r := by
  intro hr
  obtain ⟨id, hid, hf, -⟩ := (decode_ok_iff json).mp hr
  rw [isV2MessageType_inj hf h] at hid
  exact v2MsgTypeIDMap_ne_binary _ hid

theorem V2ReadWriter.decodeInto_binary {f : Frame}
    (h : isV2MessageType f v2TypeUDPPacketBinary = true) (out : Target B) (r : Sigma (Msg B)) :
    decodeInto json out f ≠ .ok r := by
  cases out with
  | pointer t m =>
    intro hr
    obtain ⟨id, hid, hf, -⟩ := (decodeInto_ok_iff json).mp hr
    rw [isV2MessageType_inj hf h] at hid
    exact v2MsgTypeIDMap_ne_binary _ hid
  | otherPointer goType =>
    simp only [decodeInto, ne_eq, returned_eq_ok, decodeV2MessageFrameInto]
    split_ifs <;> nofun
  | noPointer =>
    simp only [decodeInto, ne_eq, returned_eq_ok, decodeV2MessageFrameInto]
    split_ifs <;> nofun

namespace V2BinaryUDPPacketReadWriter

theorem decodeInto_of_ne {t : MsgType} (h : t ≠ .udpPacket) (m : Msg B t) (f : Frame) :
    decodeInto json (.pointer t m) f = V2ReadWriter.decodeInto json (.pointer t m) f := by
  cases t with
  | udpPacket => exact absurd rfl h
  | _ => rfl

theorem map_packetMsg_type {x : Except Fault UDPPacket} {r : Sigma (Msg B)}
    (h : x.map packetMsg = .ok r) : r.1 = .udpPacket := by
  cases x with
  | error e => cases h
  | ok p =>
    cases h
    rfl

/-- The JSON reader takes a UDP packet only from a frame that names it. -/
theorem udpPacket_of_decode {f : Frame} {r : Sigma (Msg B)}
    (h : V2ReadWriter.decode json f = .ok r) :
    isV2MessageType f v2TypeUDPPacket = true ↔ r.1 = .udpPacket := by
  obtain ⟨id, hid, hf, -⟩ := (V2ReadWriter.decode_ok_iff json).mp h
  constructor
  · intro hu
    rw [isV2MessageType_inj hf hu] at hid
    exact v2MsgTypeIDMap_udpPacket.mp hid
  · intro hr
    rw [v2MsgTypeIDMap_udpPacket.mpr hr] at hid
    rw [Option.some.inj hid]
    exact hf

theorem decodeInto_zero_iff {f : Frame} {t : MsgType} {r : Sigma (Msg B)} :
    decodeInto json (.pointer t (json.zero t)) f = .ok r ↔ r.1 = t ∧ decode json f = .ok r := by
  by_cases ht : t = .udpPacket
  · subst ht
    by_cases hb : isV2MessageType f v2TypeUDPPacketBinary = true
    · simp only [decodeInto, decode, hb, Bool.not_true, Bool.false_eq_true, if_false, if_true]
      exact ⟨fun h => ⟨map_packetMsg_type h, h⟩, And.right⟩
    · simp only [decodeInto, decode, hb, Bool.not_false, if_true, reduceCtorEq, false_iff, not_and,
        Bool.false_eq_true, if_false]
      intro hr h
      split_ifs at h with hj
      exact hj ((udpPacket_of_decode json h).mpr hr)
  · rw [decodeInto_of_ne json ht, V2ReadWriter.decodeInto_zero_iff]
    refine and_congr_right fun hr => ?_
    have hne : r.1 ≠ .udpPacket := fun h => ht (hr.symm.trans h)
    unfold decode
    split_ifs with hb hj
    · exact iff_of_false (V2ReadWriter.decode_binary json hb r) fun h => hne (map_packetMsg_type h)
    · exact iff_of_false (fun h => hne ((udpPacket_of_decode json h).mp hj)) nofun
    · exact Iff.rfl

/-- No frame with a JSON packet is a message for `V2BinaryUDPPacketReadWriter`. -/
theorem decode_json {f : Frame} (h : isV2MessageType f v2TypeUDPPacket = true)
    (r : Sigma (Msg B)) : decode json f ≠ .ok r := by
  have hb : ¬ isV2MessageType f v2TypeUDPPacketBinary = true :=
    fun hb => absurd (isV2MessageType_inj h hb) (by decide)
  unfold decode
  rw [if_neg hb, if_pos h]
  nofun

theorem decodeInto_json {f : Frame} (h : isV2MessageType f v2TypeUDPPacket = true)
    (out : Target B) (r : Sigma (Msg B)) : decodeInto json out f ≠ .ok r := by
  have hb : ¬ isV2MessageType f v2TypeUDPPacketBinary = true :=
    fun hb => absurd (isV2MessageType_inj h hb) (by decide)
  cases out with
  | pointer t m =>
    by_cases ht : t = .udpPacket
    · subst ht
      simp [decodeInto, hb]
    · rw [decodeInto_of_ne json ht]
      intro hr
      obtain ⟨id, hid, hf, -⟩ := (V2ReadWriter.decodeInto_ok_iff json).mp hr
      rw [isV2MessageType_inj hf h] at hid
      exact ht (v2MsgTypeIDMap_udpPacket.mp hid)
  | otherPointer goType =>
    simp only [decodeInto, V2ReadWriter.decodeInto, ne_eq, returned_eq_ok, decodeV2MessageFrameInto]
    split_ifs <;> nofun
  | noPointer =>
    simp only [decodeInto, V2ReadWriter.decodeInto, ne_eq, returned_eq_ok, decodeV2MessageFrameInto]
    split_ifs <;> nofun

end V2BinaryUDPPacketReadWriter

theorem readWith_ok_iff {α : Type} {decode : Frame → Except Fault α} {s : Stream} {a : α} :
    (readWith decode s).1 = .ok a ↔ ∃ f s', readFrame s = (.ok f, s') ∧ decode f = .ok a := by
  unfold readWith
  split
  · rename_i e s' he
    simp [he]
  · rename_i f s' hf
    simp [hf]

/-- Readers that agree on every frame agree on every stream. -/
theorem readWith_congr {α : Type} {decode decode' : Frame → Except Fault α} {P : α → Prop}
    (h : ∀ f a, decode f = .ok a ↔ P a ∧ decode' f = .ok a) (s : Stream) (a : α) :
    (readWith decode s).1 = .ok a ↔ P a ∧ (readWith decode' s).1 = .ok a := by
  simp only [readWith_ok_iff, h]
  constructor
  · rintro ⟨f, s', hf, hp, hd⟩
    exact ⟨hp, f, s', hf, hd⟩
  · rintro ⟨hp, f, s', hf, hd⟩
    exact ⟨f, s', hf, hp, hd⟩

/-- What is written is one frame, which a reader reads and decodes. -/
theorem writeWith_readWith {α : Type} {frame : Except Fault Frame} {w w' : Stream}
    (h : writeWith frame w = (.ok (), w')) :
    ∃ f, frame = .ok f ∧ w'.output = w.output ++ f.bytes ∧
      ∀ (decode : Frame → Except Fault α) (r : Stream) (rest : List UInt8),
        r.input = f.bytes ++ rest → readWith decode r = (decode f, { r with input := rest }) := by
  unfold writeWith at h
  split at h
  · cases h
  · rename_i f
    split at h
    · cases h
    · rename_i w₁ hwrite
      cases h
      refine ⟨f, rfl, (writeFrame_ok hwrite).2, fun decode r rest hr => ?_⟩
      have hf : f.Sendable := by
        by_contra hn
        obtain ⟨e, he⟩ := writeFrame_refuses (s := w) hn
        rw [he] at hwrite
        cases hwrite
      simp only [readWith, readFrame_bytes hf hr]

theorem frameOf_type (typeID : UInt16) (content : List UInt8) :
    isV2MessageType (frameOf typeID content) typeID = true :=
  isV2MessageType_iff.mpr
    ⟨rfl, by simp [frameOf], by simp [typeIDOf, frameOf, BigEndian.ofBytes_uint16]⟩

theorem frameOf_drop (typeID : UInt16) (content : List UInt8) :
    (frameOf typeID content).payload.drop 2 = content := by
  simp [frameOf]

/-- The message is `v`, or a pointer to it. -/
def Message.Holds (m : Message B) (t : MsgType) (v : Msg B t) : Prop :=
  m = .pointer t (some v) ∨ m = .value t v

/-- What JSON encodes is decoded to a message that is the same as far as `Same` sees. -/
def JSON.RoundTrips (json : JSON B) (Same : (t : MsgType) → Msg B t → Msg B t → Prop) : Prop :=
  ∀ t v content, json.marshal t (some v) = .ok content →
    ∃ v', json.unmarshal t content (json.zero t) = .ok v' ∧ Same t v v'

/-- The same for the binary codec: a UDP packet comes back in canonical form. -/
def BinarySame (Same : (t : MsgType) → Msg B t → Msg B t → Prop) :
    (t : MsgType) → Msg B t → Msg B t → Prop
  | .udpPacket => fun p p' => p' = UDPPacket.canonical p
  | t => Same t

theorem V2ReadWriter.encode_ok {m : Message B} {t : MsgType} {v : Msg B t} {f : Frame}
    (hm : m.Holds t v) (h : encode json m = .ok f) :
    ∃ id content, v2MsgTypeIDMap.lookup t = some id ∧ json.marshal t (some v) = .ok content ∧
      f = frameOf id content := by
  have htyped : encodeTyped json t (some v) = .ok f := by
    rcases hm with rfl | rfl
    · exact returned_eq_ok.mp h
    · exact returned_eq_ok.mp h
  unfold encodeTyped at htyped
  split at htyped
  · cases htyped
  · rename_i id hid
    cases hc : json.marshal t (some v) with
    | error e =>
      rw [hc] at htyped
      cases htyped
    | ok content =>
      rw [hc] at htyped
      cases htyped
      exact ⟨id, content, hid, rfl, rfl⟩

theorem V2ReadWriter.decode_encode {Same : (t : MsgType) → Msg B t → Msg B t → Prop}
    (hjson : json.RoundTrips Same) {m : Message B} {t : MsgType} {v : Msg B t} {f : Frame}
    (hm : m.Holds t v) (h : encode json m = .ok f) :
    ∃ v', decode json f = .ok ⟨t, v'⟩ ∧ Same t v v' := by
  obtain ⟨id, content, hid, hc, rfl⟩ := V2ReadWriter.encode_ok json hm h
  obtain ⟨v', hv', hsame⟩ := hjson t v content hc
  refine ⟨v', (decode_ok_iff json).mpr ⟨id, hid, frameOf_type id content, ?_⟩, hsame⟩
  rw [frameOf_drop]
  exact hv'

namespace V2BinaryUDPPacketReadWriter

theorem encode_of_ne {m : Message B} {t : MsgType} {v : Msg B t} (hm : m.Holds t v)
    (h : t ≠ .udpPacket) : encode json m = V2ReadWriter.encode json m := by
  rcases hm with rfl | rfl
  · cases t with
    | udpPacket => exact absurd rfl h
    | _ => rfl
  · cases t with
    | udpPacket => exact absurd rfl h
    | _ => rfl

theorem encode_udpPacket {m : Message B} {p : UDPPacket} {f : Frame}
    (hm : m.Holds .udpPacket p) (h : encode json m = .ok f) :
    ∃ b, encodeUDPPacketBinary (some p) = .ok b ∧ f = frameOf v2TypeUDPPacketBinary b := by
  have hp : encodePacket (some p) = .ok f := by
    rcases hm with rfl | rfl
    · exact h
    · exact h
  unfold encodePacket at hp
  cases hb : encodeUDPPacketBinary (some p) with
  | error e =>
    rw [hb] at hp
    cases hp
  | ok b =>
    rw [hb] at hp
    cases hp
    exact ⟨b, rfl, rfl⟩

theorem decodeV2BinaryUDPPacketFrame_frameOf (b : List UInt8) :
    decodeV2BinaryUDPPacketFrame (frameOf v2TypeUDPPacketBinary b) = decodeUDPPacketBinary b := by
  obtain ⟨htype, hlen, hid⟩ := isV2MessageType_iff.mp (frameOf_type v2TypeUDPPacketBinary b)
  rw [decodeV2BinaryUDPPacketFrame, if_neg (not_not.mpr htype), if_neg (Nat.not_lt.mpr hlen),
    if_neg (not_not.mpr hid), frameOf_drop]

theorem decode_encode {Same : (t : MsgType) → Msg B t → Msg B t → Prop}
    (hjson : json.RoundTrips Same) {m : Message B} {t : MsgType} {v : Msg B t} {f : Frame}
    (hm : m.Holds t v) (h : encode json m = .ok f) :
    ∃ v', decode json f = .ok ⟨t, v'⟩ ∧ BinarySame Same t v v' := by
  by_cases ht : t = .udpPacket
  · subst ht
    obtain ⟨b, hb, rfl⟩ := encode_udpPacket json hm h
    refine ⟨UDPPacket.canonical v, ?_, rfl⟩
    rw [decode, if_pos (frameOf_type _ b), decodeV2BinaryUDPPacketFrame_frameOf,
      (decode_encodeUDPPacketBinary hb).2]
    rfl
  · rw [encode_of_ne json hm ht] at h
    obtain ⟨v', hv', hsame⟩ := V2ReadWriter.decode_encode json hjson hm h
    refine ⟨v', ?_, ?_⟩
    · rw [decode, if_neg fun hb => V2ReadWriter.decode_binary json hb _ hv',
        if_neg fun hj => ht ((udpPacket_of_decode json hv').mp hj), hv']
    · cases t with
      | udpPacket => exact absurd rfl ht
      | _ => exact hsame

end V2BinaryUDPPacketReadWriter

/-- Typed and untyped reads agree for both streams, and neither takes a UDP packet in the codec of
the other. With an encoding that can be read back, what a stream writes it reads back. -/
theorem v2_reads_agree :
    (∀ s t r, (V2ReadWriter.readMsgInto json s (.pointer t (json.zero t))).1 = .ok r ↔
      r.1 = t ∧ (V2ReadWriter.readMsg json s).1 = .ok r) ∧
    (∀ s t r,
      (V2BinaryUDPPacketReadWriter.readMsgInto json s (.pointer t (json.zero t))).1 = .ok r ↔
        r.1 = t ∧ (V2BinaryUDPPacketReadWriter.readMsg json s).1 = .ok r) ∧
    (∀ Same : (t : MsgType) → Msg B t → Msg B t → Prop, json.RoundTrips Same →
      (∀ w w' m t v, m.Holds t v → V2ReadWriter.writeMsg json w m = (.ok (), w') →
        ∃ written, w'.output = w.output ++ written ∧
          ∀ (r : Stream) rest, r.input = written ++ rest → ∃ v', Same t v v' ∧
            V2ReadWriter.readMsg json r = (.ok ⟨t, v'⟩, { r with input := rest })) ∧
      ∀ w w' m t v, m.Holds t v → V2BinaryUDPPacketReadWriter.writeMsg json w m = (.ok (), w') →
        ∃ written, w'.output = w.output ++ written ∧
          ∀ (r : Stream) rest, r.input = written ++ rest → ∃ v', BinarySame Same t v v' ∧
            V2BinaryUDPPacketReadWriter.readMsg json r = (.ok ⟨t, v'⟩, { r with input := rest })) ∧
    (∀ s f s', readFrame s = (.ok f, s') → isV2MessageType f v2TypeUDPPacket = true →
      (∀ r, (V2BinaryUDPPacketReadWriter.readMsg json s).1 ≠ .ok r) ∧
      ∀ out r, (V2BinaryUDPPacketReadWriter.readMsgInto json s out).1 ≠ .ok r) ∧
    ∀ s f s', readFrame s = (.ok f, s') → isV2MessageType f v2TypeUDPPacketBinary = true →
      (∀ r, (V2ReadWriter.readMsg json s).1 ≠ .ok r) ∧
      ∀ out r, (V2ReadWriter.readMsgInto json s out).1 ≠ .ok r := by
  refine ⟨fun s t r => ?_, fun s t r => ?_, fun Same hjson => ⟨?_, ?_⟩, ?_, ?_⟩
  · exact readWith_congr (P := fun r => r.1 = t)
      (fun f r => V2ReadWriter.decodeInto_zero_iff json) s r
  · exact readWith_congr (P := fun r => r.1 = t)
      (fun f r => V2BinaryUDPPacketReadWriter.decodeInto_zero_iff json) s r
  · intro w w' m t v hm hw
    obtain ⟨f, hf, hout, hread⟩ := writeWith_readWith hw
    obtain ⟨v', hv', hsame⟩ := V2ReadWriter.decode_encode json hjson hm hf
    refine ⟨f.bytes, hout, fun r rest hr => ⟨v', hsame, ?_⟩⟩
    rw [V2ReadWriter.readMsg, hread _ r rest hr, hv']
  · intro w w' m t v hm hw
    obtain ⟨f, hf, hout, hread⟩ := writeWith_readWith hw
    obtain ⟨v', hv', hsame⟩ := V2BinaryUDPPacketReadWriter.decode_encode json hjson hm hf
    refine ⟨f.bytes, hout, fun r rest hr => ⟨v', hsame, ?_⟩⟩
    rw [V2BinaryUDPPacketReadWriter.readMsg, hread _ r rest hr, hv']
  · intro s f s' hf hj
    constructor
    · intro r
      rw [V2BinaryUDPPacketReadWriter.readMsg, readWith, hf]
      exact V2BinaryUDPPacketReadWriter.decode_json json hj r
    · intro out r
      rw [V2BinaryUDPPacketReadWriter.readMsgInto, readWith, hf]
      exact V2BinaryUDPPacketReadWriter.decodeInto_json json hj out r
  · intro s f s' hf hb
    constructor
    · intro r
      rw [V2ReadWriter.readMsg, readWith, hf]
      exact V2ReadWriter.decode_binary json hb r
    · intro out r
      rw [V2ReadWriter.readMsgInto, readWith, hf]
      exact V2ReadWriter.decodeInto_binary json hb out r

/-- A value for each Go type, given for `UDPPacket` and for the others. -/
def Msg.cases {P : Type → Type} (udpPacket : P UDPPacket) (other : ∀ t, P (B t)) :
    (t : MsgType) → P (Msg B t)
  | .udpPacket => udpPacket
  | .login => other .login
  | .loginResp => other .loginResp
  | .newProxy => other .newProxy
  | .newProxyResp => other .newProxyResp
  | .closeProxy => other .closeProxy
  | .newWorkConn => other .newWorkConn
  | .reqWorkConn => other .reqWorkConn
  | .startWorkConn => other .startWorkConn
  | .newVisitorConn => other .newVisitorConn
  | .newVisitorConnResp => other .newVisitorConnResp
  | .ping => other .ping
  | .pong => other .pong
  | .natHoleVisitor => other .natHoleVisitor
  | .natHoleClient => other .natHoleClient
  | .natHoleResp => other .natHoleResp
  | .natHoleSid => other .natHoleSid
  | .natHoleReport => other .natHoleReport

/-- Empty messages in place of those with fields, and some encoding of UDP packets. -/
def emptyJSON : JSON fun _ => Unit where
  marshal := Msg.cases (P := fun M => Option M → Except String (List UInt8))
    (fun p => (encodeUDPPacketBinary p).mapError fun _ => "unsupported value")
    fun _ _ => .ok [0x7b, 0x7d]
  unmarshal t b := Msg.cases (P := fun M => M → Except String M)
    (fun _ => (decodeUDPPacketBinary b).mapError fun _ => "invalid character") (fun _ _ => .ok ()) t
  zero := Msg.cases (P := fun M => M) ⟨[], none, none⟩ fun _ => ()

theorem mapError_eq_ok {α : Type} {x : Except Fault α} {f : Fault → String} {a : α} :
    x.mapError f = .ok a ↔ x = .ok a := by
  cases x with
  | error e => simp [Except.mapError]
  | ok b => simp [Except.mapError]

theorem emptyJSON_roundTrips : emptyJSON.RoundTrips (BinarySame fun _ _ _ => True) := by
  intro t v content h
  by_cases ht : t = .udpPacket
  · subst ht
    have hb : encodeUDPPacketBinary (some v) = .ok content := mapError_eq_ok.mp h
    exact ⟨UDPPacket.canonical v, mapError_eq_ok.mpr (decode_encodeUDPPacketBinary hb).2, rfl⟩
  · cases t with
    | udpPacket => exact absurd rfl ht
    | _ => exact ⟨(), rfl, trivial⟩

/-- A packet that is written in the binary codec and read back. -/
theorem v2_reads_agree_packet :
    let p : UDPPacket := ⟨[7], none, some ⟨[203, 0, 113, 9], 54321, []⟩⟩
    ∃ written, V2BinaryUDPPacketReadWriter.readMsg emptyJSON ⟨written, "EOF", [], []⟩ =
      (.ok ⟨.udpPacket, p⟩, ⟨[], "EOF", [], []⟩) := by
  intro p
  have hcanon : p.canonical = p := by decide
  have hwrite : (V2BinaryUDPPacketReadWriter.writeMsg emptyJSON ⟨[], "EOF", [], []⟩
      (.value .udpPacket p)).1 = .ok () := by decide +kernel
  generalize hw : V2BinaryUDPPacketReadWriter.writeMsg emptyJSON ⟨[], "EOF", [], []⟩
    (.value .udpPacket p) = result at hwrite
  obtain ⟨_, w'⟩ := result
  obtain rfl := hwrite
  obtain ⟨-, hbinary⟩ := (v2_reads_agree emptyJSON).2.2.1 _ emptyJSON_roundTrips
  obtain ⟨written, -, hread⟩ := hbinary _ w' _ .udpPacket p (Or.inr rfl) hw
  obtain ⟨v', hv', hr⟩ := hread ⟨written, "EOF", [], []⟩ [] (by simp)
  obtain rfl : v' = p := hv'.trans hcanon
  exact ⟨written, hr⟩

end FrpXtcp.Wire

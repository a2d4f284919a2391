import FrpXtcp.Lib.Bytes
import FrpXtcp.Wire.Frame

/-!
# The binary codec of UDP packets

`pkg/msg/udp_binary.go`. The encoder computes the length of the body first, allocates it and
fills it at running offsets; the decoder reads at running offsets. A Go string is its bytes,
since the zone of an address may hold any; a nil slice is the empty one.
-/
namespace FrpXtcp.Wire

open FrpXtcp.Lib

namespace IP

/-- `net.v4InV6Prefix` -/
def v4InV6Prefix : List UInt8 := [0, 0, 0, 0, 0, 0, 0, 0, 0, 0, 0xff, 0xff]

/-- `net.IP.To4` -/
def to4 (ip : List UInt8) : Option (List UInt8) :=
  if ip.length = 4 then some ip
  else if ip.length = 16 ∧ ip.take 12 = v4InV6Prefix then some (ip.drop 12)
  else none

/-- `net.IP.To16` -/
def to16 (ip : List UInt8) : Option (List UInt8) :=
  if ip.length = 4 then some (v4InV6Prefix ++ ip)
  else if ip.length = 16 then some ip
  else none

/-- `net.IP.Equal` -/
def equal (ip x : List UInt8) : Bool :=
  if ip.length = x.length then ip = x
  else if ip.length = 4 ∧ x.length = 16 then x.take 12 = v4InV6Prefix ∧ ip = x.drop 12
  else if ip.length = 16 ∧ x.length = 4 then ip.take 12 = v4InV6Prefix ∧ ip.drop 12 = x
  else false

end IP

/-- `utf8.Valid` -/
def utf8Valid (b : List UInt8) : Bool := ByteArray.validateUTF8 ⟨b.toArray⟩

/-- `net.UDPAddr` -/
structure UDPAddr where
  ip : List UInt8
  port : Int
  zone : List UInt8
  deriving DecidableEq

/-- `msg.UDPPacket` -/
structure UDPPacket where
  content : List UInt8
  localAddr : Option UDPAddr
  remoteAddr : Option UDPAddr
  deriving DecidableEq

def maxUDPPayloadSize : Nat := 65507

def udpPacketFlagLocalAddr : UInt8 := (1 : UInt8) <<< 0
def udpPacketFlagRemoteAddr : UInt8 := (1 : UInt8) <<< 1
def udpPacketValidFlags : UInt8 := udpPacketFlagLocalAddr ||| udpPacketFlagRemoteAddr

structure BinaryUDPAddr where
  family : UInt8
  ip : List UInt8
  port : UInt16
  zone : List UInt8

def validateBinaryUDPAddr (addr : UDPAddr) : Except String BinaryUDPAddr :=
  if addr.port < 0 ∨ addr.port > 65535 then .error s!"port out of range: {addr.port}"
  else
    let port := UInt16.ofNat addr.port.toNat
    match IP.to4 addr.ip with
    | some ip =>
      if addr.zone ≠ [] then .error "IPv4 zone is forbidden" else .ok ⟨4, ip, port, []⟩
    | none =>
      match IP.to16 addr.ip with
      | none => .error "invalid IP"
      | some ip =>
        if addr.zone.length > 255 then .error "zone exceeds 255 bytes"
        else if !utf8Valid addr.zone then .error "zone is not valid UTF-8"
        else .ok ⟨6, ip, port, addr.zone⟩

def binaryUDPAddrLen (addr : BinaryUDPAddr) : Nat := 1 + addr.ip.length + 2 + 1 + addr.zone.length

/-- `putBinaryUDPAddr`, with the body it leaves. -/
def putBinaryUDPAddr (body : List UInt8) (offset : Nat) (addr : BinaryUDPAddr) :
    Except Fault (List UInt8 × Nat) := do
  let body ← Bytes.set body offset addr.family
  let offset := offset + 1
  let body ← Bytes.copyAt body offset addr.ip
  let offset := offset + addr.ip.length
  let body ← Bytes.putUint16 body offset addr.port
  let offset := offset + 2
  let body ← Bytes.set body offset (UInt8.ofNat addr.zone.length)
  let offset := offset + 1
  let body ← Bytes.copyAt body offset addr.zone
  pure (body, offset + addr.zone.length)

/-- A message of this length does not fit in a frame. -/
def frameLimitError (length : Nat) : Fault :=
  .error s!"v2 frame payload length {length} exceeds limit {defaultMaxFramePayloadSize}"

/-- An error of an address says which address it is. -/
def validateAddr (label : String) (addr : UDPAddr) : Except Fault BinaryUDPAddr :=
  match validateBinaryUDPAddr addr with
  | .error e => .error (.error s!"{label}: {e}")
  | .ok a => .ok a

def validateOptionalAddr (label : String) :
    Option UDPAddr → Except Fault (Option BinaryUDPAddr)
  | none => .ok none
  | some addr => (validateAddr label addr).map some

/-- The part of `EncodeUDPPacketBinary` before the body is made: the addresses and the length
of the body. -/
def planUDPPacketBinary (packet : UDPPacket) :
    Except Fault (Option BinaryUDPAddr × BinaryUDPAddr × Nat) :=
  match packet.remoteAddr with
  | none => .error (.error "UDP packet missing remote address")
  | some remote => do
    let length := packet.content.length
    failIf (length > maxUDPPayloadSize)
      (.error s!"UDP payload length {length} exceeds limit {maxUDPPayloadSize}")
    let localAddr ← validateOptionalAddr "local address" packet.localAddr
    let remoteAddr ← validateAddr "remote address" remote
    let bodyLen := 1 + 2 + length + (localAddr.map binaryUDPAddrLen).getD 0 +
      binaryUDPAddrLen remoteAddr
    failIf (2 + bodyLen > defaultMaxFramePayloadSize) (frameLimitError (2 + bodyLen))
    pure (localAddr, remoteAddr, bodyLen)

def putOptionalAddr (body : List UInt8) (offset : Nat) :
    Option BinaryUDPAddr → Except Fault (List UInt8 × Nat)
  | none => .ok (body, offset)
  | some addr => putBinaryUDPAddr body offset addr

/-- The rest of it, which fills the body. -/
def fillUDPPacketBinary (content : List UInt8) (localAddr : Option BinaryUDPAddr)
    (remoteAddr : BinaryUDPAddr) (bodyLen : Nat) : Except Fault (List UInt8) := do
  let flags := (if localAddr.isSome then udpPacketFlagLocalAddr else 0) |||
    udpPacketFlagRemoteAddr
  let body ← Bytes.set (List.replicate bodyLen 0) 0 flags
  let (body, offset) ← putOptionalAddr body 1 localAddr
  let (body, offset) ← putBinaryUDPAddr body offset remoteAddr
  let body ← Bytes.putUint16 body offset (UInt16.ofNat content.length)
  Bytes.copyAt body (offset + 2) content

def encodeUDPPacketBinary : Option UDPPacket → Except Fault (List UInt8)
  | none => .error (.error "nil UDP packet")
  | some packet =>
    match planUDPPacketBinary packet with
    | .error e => .error e
    | .ok (localAddr, remoteAddr, bodyLen) =>
      fillUDPPacketBinary packet.content localAddr remoteAddr bodyLen

/-- The length of the IP address of a family. -/
def ipLenOf (family : UInt8) : Except Fault Nat :=
  if family = 4 then .ok 4
  else if family = 6 then .ok 16
  else .error (.error s!"unknown address family {family}")

def readBinaryUDPAddr (body : List UInt8) (offset : Nat) : Except Fault (UDPAddr × Nat) := do
  failIf (offset ≥ body.length) (.error "truncated address family")
  let family ← Bytes.index body offset
  let offset := offset + 1
  let ipLen ← ipLenOf family
  failIf ((body.length : Int) - offset < ipLen + 3) (.error "truncated address")
  let ip ← Bytes.slice body offset (offset + ipLen)
  let offset := offset + ipLen
  let port ← Bytes.uint16 body offset
  let offset := offset + 2
  let zoneLen ← Bytes.index body offset
  let offset := offset + 1
  failIf ((body.length : Int) - offset < zoneLen.toNat) (.error "truncated zone")
  let zoneBytes ← Bytes.slice body offset (offset + zoneLen.toNat)
  failIf (family = 4 ∧ zoneLen.toNat ≠ 0) (.error "IPv4 zone is forbidden")
  failIf (utf8Valid zoneBytes = false) (.error "zone is not valid UTF-8")
  pure (⟨ip, port.toNat, zoneBytes⟩, offset + zoneLen.toNat)

/-- Two hexadecimal digits. -/
def hexByte (b : UInt8) : String :=
  String.ofList [Nat.digitChar (b.toNat / 16), Nat.digitChar (b.toNat % 16)]

/-- The address that a flag announces. -/
def readFlaggedAddr (label : String) (flag flags : UInt8) (body : List UInt8) (offset : Nat) :
    Except Fault (Option UDPAddr × Nat) :=
  if flags &&& flag ≠ 0 then
    match readBinaryUDPAddr body offset with
    | .ok (addr, offset) => .ok (some addr, offset)
    | .error (.error e) => .error (.error s!"{label}: {e}")
    | .error .outOfRange => .error .outOfRange
  else .ok (none, offset)

/-- The end of `DecodeUDPPacketBinary`: the length of the payload and the payload. -/
def readUDPPayload (body : List UInt8) (offset : Nat) : Except Fault (List UInt8) := do
  failIf ((body.length : Int) - offset < 2) (.error "truncated UDP payload length")
  let payloadLen ← Bytes.uint16 body offset
  let offset := offset + 2
  failIf (payloadLen.toNat > maxUDPPayloadSize)
    (.error s!"UDP payload length {payloadLen} exceeds limit {maxUDPPayloadSize}")
  let remaining := (body.length : Int) - offset
  failIf (remaining < payloadLen.toNat)
    (.error s!"truncated UDP payload: have {remaining} want {payloadLen}")
  failIf (remaining > payloadLen.toNat)
    (.error s!"trailing UDP packet bytes: {remaining - payloadLen.toNat}")
  Bytes.slice body offset (offset + payloadLen.toNat)

def decodeUDPPacketBinary (body : List UInt8) : Except Fault UDPPacket := do
  failIf (body.length < 3) (.error s!"UDP packet body too short: {body.length}")
  failIf (2 + body.length > defaultMaxFramePayloadSize) (frameLimitError (2 + body.length))
  let flags ← Bytes.index body 0
  failIf (flags &&& ~~~udpPacketValidFlags ≠ 0)
    (.error s!"reserved UDP packet flags set: 0x{hexByte flags}")
  failIf (flags &&& udpPacketFlagRemoteAddr = 0) (.error "UDP packet missing remote address")
  let (localAddr, offset) ← readFlaggedAddr "local address" udpPacketFlagLocalAddr flags body 1
  let (remoteAddr, offset) ←
    readFlaggedAddr "remote address" udpPacketFlagRemoteAddr flags body offset
  let content ← readUDPPayload body offset
  pure ⟨content, localAddr, remoteAddr⟩

end FrpXtcp.Wire

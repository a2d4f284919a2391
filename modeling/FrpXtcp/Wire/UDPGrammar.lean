import FrpXtcp.Wire.UDPPacket

/-!
# The grammar of encoded UDP packets

The encodings of addresses and packets, as the concatenation of their fields. The decoder
accepts exactly these, up to the limit of a frame, with one decomposition for each byte
string, and it never looks outside of its input.
-/
namespace FrpXtcp.Wire

open FrpXtcp.Lib

namespace BinaryUDPAddr

/-- The bytes of an address. -/
def bytes (a : BinaryUDPAddr) : List UInt8 :=
  a.family :: (a.ip ++ (BigEndian.toBytes 2 a.port.toNat ++
    (UInt8.ofNat a.zone.length :: a.zone)))

@[simp] theorem length_bytes (a : BinaryUDPAddr) : a.bytes.length = binaryUDPAddrLen a := by
  simp [bytes, binaryUDPAddrLen]
  omega

end BinaryUDPAddr

/-- The fields of an address that is encoded: family 4 has an IP of 4 bytes and no zone,
family 6 an IP of 16 bytes. -/
structure EncodedAddr extends BinaryUDPAddr where
  shape : family = 4 ∧ ip.length = 4 ∧ zone = [] ∨ family = 6 ∧ ip.length = 16
  zone_le : zone.length ≤ 255
  zone_utf8 : ByteArray.IsValidUTF8 ⟨zone.toArray⟩

/-- What the decoder makes of it. -/
def EncodedAddr.value (a : EncodedAddr) : UDPAddr := ⟨a.ip, a.port.toNat, a.zone⟩

theorem utf8Valid_iff (b : List UInt8) :
    utf8Valid b = true ↔ ByteArray.IsValidUTF8 ⟨b.toArray⟩ :=
  ByteArray.validateUTF8_eq_true_iff

theorem EncodedAddr.ipLenOf (a : EncodedAddr) : ipLenOf a.family = .ok a.ip.length := by
  rcases a.shape with ⟨hf, hip, -⟩ | ⟨hf, hip⟩
  · simp [Wire.ipLenOf, hf, hip]
  · simp [Wire.ipLenOf, hf, hip]

theorem EncodedAddr.zoneLen (a : EncodedAddr) :
    (UInt8.ofNat a.zone.length).toNat = a.zone.length :=
  UInt8.toNat_ofNat_of_lt' (Nat.lt_succ_of_le a.zone_le)

/-- An encoded address is read back, whatever surrounds it. -/
theorem EncodedAddr.read (a : EncodedAddr) (pre rest : List UInt8) :
    readBinaryUDPAddr (pre ++ (a.bytes ++ rest)) pre.length =
      .ok (a.value, pre.length + a.bytes.length) := by
  have hlen : ((pre ++ (a.bytes ++ rest)).length : Int) =
      pre.length + (a.ip.length + a.zone.length + 4) + rest.length := by
    simp [binaryUDPAddrLen]
    omega
  generalize hb : pre ++ (a.bytes ++ rest) = body at hlen ⊢
  have hfamily : Bytes.index body pre.length = .ok a.family :=
    Bytes.index_at (by simp [← hb, BinaryUDPAddr.bytes]; rfl) rfl
  have hip : Bytes.slice body (pre.length + 1) (pre.length + 1 + a.ip.length) = .ok a.ip :=
    Bytes.slice_at (a := pre ++ [a.family]) (by simp [← hb, BinaryUDPAddr.bytes]; rfl) (by simp) rfl
  have hport : Bytes.uint16 body (pre.length + 1 + a.ip.length) = .ok a.port :=
    Bytes.uint16_at (a := pre ++ a.family :: a.ip) (by simp [← hb, BinaryUDPAddr.bytes]; rfl)
      (by simp; omega)
  have hzoneLen : Bytes.index body (pre.length + 1 + a.ip.length + 2) =
      .ok (UInt8.ofNat a.zone.length) :=
    Bytes.index_at (a := pre ++ a.family :: (a.ip ++ BigEndian.toBytes 2 a.port.toNat))
      (by simp [← hb, BinaryUDPAddr.bytes]; rfl) (by simp; omega)
  have hzone : Bytes.slice body (pre.length + 1 + a.ip.length + 2 + 1)
      (pre.length + 1 + a.ip.length + 2 + 1 + a.zone.length) = .ok a.zone :=
    Bytes.slice_at (a := pre ++ a.family :: (a.ip ++ (BigEndian.toBytes 2 a.port.toNat ++
      [UInt8.ofNat a.zone.length]))) (by simp [← hb, BinaryUDPAddr.bytes]; rfl) (by simp; omega) rfl
  have hfour : ¬ (a.family = 4 ∧ a.zone.length ≠ 0) := by
    rintro ⟨hf, hz⟩
    rcases a.shape with ⟨-, -, hnil⟩ | ⟨hsix, -⟩
    · exact hz (by rw [hnil]; rfl)
    · rw [hsix] at hf
      cases hf
  have hutf8 : ¬ utf8Valid a.zone = false := by
    rw [(utf8Valid_iff a.zone).mpr a.zone_utf8]
    exact Bool.noConfusion
  unfold readBinaryUDPAddr
  dsimp only
  rw [failIf_neg (by omega), ok_bind, hfamily, ok_bind, a.ipLenOf, ok_bind, failIf_neg (by omega),
    ok_bind, hip, ok_bind, hport, ok_bind, hzoneLen, ok_bind, a.zoneLen, failIf_neg (by omega),
    ok_bind, hzone, ok_bind, failIf_neg hfour, ok_bind, failIf_neg hutf8, ok_bind]
  simp [value, binaryUDPAddrLen, pure, Except.pure]
  omega

theorem ipLenOf_safe (family : UInt8) :
    Safe (ipLenOf family) fun n => family = 4 ∧ n = 4 ∨ family = 6 ∧ n = 16 := by
  unfold Wire.ipLenOf
  split_ifs with h4 h6
  · exact Or.inl ⟨h4, rfl⟩
  · exact Or.inr ⟨h6, rfl⟩
  · exact Fault.noConfusion

/-- What is read is an encoded address, and no access is out of range. -/
theorem readBinaryUDPAddr_safe (pre rest : List UInt8) :
    Safe (readBinaryUDPAddr (pre ++ rest) pre.length) fun r =>
      ∃ (a : EncodedAddr) (rest' : List UInt8), rest = a.bytes ++ rest' ∧
        r = (a.value, pre.length + a.bytes.length) := by
  unfold readBinaryUDPAddr
  dsimp only
  refine Safe.failIf fun hfam => ?_
  cases rest with
  | nil => simp at hfam
  | cons family rest =>
    rw [Bytes.index_at rfl rfl, ok_bind]
    refine Safe.bind (ipLenOf_safe family) fun ipLen hipLen => ?_
    refine Safe.failIf fun haddr => ?_
    simp only [List.length_append, List.length_cons] at haddr
    obtain ⟨ip, rest, hip, rfl⟩ := Bytes.exists_append (n := ipLen) (b := rest) (by omega)
    simp only [List.length_append] at haddr
    obtain ⟨m, rest, hm, rfl⟩ := Bytes.exists_append (n := 2) (b := rest) (by omega)
    obtain ⟨port, rfl⟩ := Bytes.exists_uint16 hm
    rw [Bytes.slice_at (a := pre ++ [family]) (by simp; rfl) (by simp) (by rw [hip]), ok_bind,
      Bytes.uint16_at (a := pre ++ family :: ip) (by simp; rfl) (by simp; omega), ok_bind]
    cases rest with
    | nil =>
      simp only [List.append_nil, hm] at haddr
      omega
    | cons zoneLen rest =>
      rw [Bytes.index_at (a := pre ++ family :: (ip ++ BigEndian.toBytes 2 port.toNat))
        (x := zoneLen) (c := rest) (by simp) (by simp; omega), ok_bind]
      refine Safe.failIf fun hzone => ?_
      simp only [List.length_append, List.length_cons] at hzone
      obtain ⟨zone, rest, hz, rfl⟩ :=
        Bytes.exists_append (n := zoneLen.toNat) (b := rest) (by omega)
      rw [Bytes.slice_at (a := pre ++ family :: (ip ++ (BigEndian.toBytes 2 port.toNat ++
        [zoneLen]))) (by simp; rfl) (by simp; omega) (by rw [hz]), ok_bind]
      refine Safe.failIf fun hfour => Safe.failIf fun hutf8 => ?_
      have hzl : zoneLen = UInt8.ofNat zone.length := by rw [hz, UInt8.ofNat_toNat]
      refine ⟨⟨⟨family, ip, port, zone⟩, ?_, ?_, ?_⟩, rest, ?_, ?_⟩
      · rcases hipLen with ⟨hf, hn⟩ | ⟨hf, hn⟩
        · refine Or.inl ⟨hf, hip.trans hn, List.eq_nil_of_length_eq_zero ?_⟩
          rw [hz]
          exact not_not.mp fun hne => hfour ⟨hf, hne⟩
        · exact Or.inr ⟨hf, hip.trans hn⟩
      · have := zoneLen.toNat_lt
        show zone.length ≤ 255
        omega
      · exact (utf8Valid_iff zone).mp (by simpa using hutf8)
      · simp [BinaryUDPAddr.bytes, hzl]
      · simp only [EncodedAddr.value, BinaryUDPAddr.length_bytes, binaryUDPAddrLen, hip, hz]
        congr 1
        omega

/-- The family of an address follows from its IP. -/
theorem EncodedAddr.value_inj {a a' : EncodedAddr} (h : a.value = a'.value) : a = a' := by
  obtain ⟨⟨family, ip, port, zone⟩, shape, _, _⟩ := a
  obtain ⟨⟨family', ip', port', zone'⟩, shape', _, _⟩ := a'
  simp only [value, UDPAddr.mk.injEq] at h
  obtain ⟨rfl, hport, rfl⟩ := h
  obtain rfl := UInt16.toNat_inj.mp (Int.ofNat.inj hport)
  have hfamily : family = family' := by
    rcases shape with ⟨rfl, hip, -⟩ | ⟨rfl, hip⟩ <;> rcases shape' with ⟨rfl, hip', -⟩ | ⟨rfl, hip'⟩
    · rfl
    · exact absurd (hip.symm.trans hip') (by decide)
    · exact absurd (hip.symm.trans hip') (by decide)
    · rfl
  subst hfamily
  rfl

/-- No encoded address is the beginning of another one. -/
theorem EncodedAddr.bytes_append_inj {a a' : EncodedAddr} {rest rest' : List UInt8}
    (h : a.bytes ++ rest = a'.bytes ++ rest') : a = a' ∧ rest = rest' := by
  have hread := a.read [] rest
  have hread' := a'.read [] rest'
  rw [h, hread', Except.ok.injEq, Prod.mk.injEq] at hread
  obtain rfl := EncodedAddr.value_inj hread.1
  exact ⟨rfl, List.append_cancel_left h⟩

/-- The fields of an encoded packet. -/
structure EncodedPacket where
  localAddr : Option EncodedAddr
  remoteAddr : EncodedAddr
  payload : List UInt8
  payload_le : payload.length ≤ maxUDPPayloadSize

/-- The bytes of an address that may be missing. -/
def optionalBytes (a : Option BinaryUDPAddr) : List UInt8 := (a.map BinaryUDPAddr.bytes).getD []

namespace EncodedPacket

/-- The flags byte: 3 with a local address, 2 without. -/
def flags (e : EncodedPacket) : UInt8 := if e.localAddr.isSome then 3 else 2

/-- Flags, addresses, the length of the payload in two bytes, and the payload. -/
def bytes (e : EncodedPacket) : List UInt8 :=
  e.flags :: (optionalBytes (e.localAddr.map EncodedAddr.toBinaryUDPAddr) ++ (e.remoteAddr.bytes ++
    (BigEndian.toBytes 2 e.payload.length ++ e.payload)))

/-- What the decoder makes of it. -/
def value (e : EncodedPacket) : UDPPacket :=
  ⟨e.payload, e.localAddr.map EncodedAddr.value, some e.remoteAddr.value⟩

/-- The length of the payload as the machine word that is written. -/
def payloadLen (e : EncodedPacket) : UInt16 := UInt16.ofNat e.payload.length

theorem payloadLen_toNat (e : EncodedPacket) : e.payloadLen.toNat = e.payload.length :=
  UInt16.toNat_ofNat_of_lt' (Nat.lt_of_le_of_lt e.payload_le (by decide))

theorem flags_valid (e : EncodedPacket) : ¬ (e.flags &&& ~~~udpPacketValidFlags ≠ 0) := by
  unfold flags
  split <;> decide

theorem flags_remote (e : EncodedPacket) : e.flags &&& udpPacketFlagRemoteAddr ≠ 0 := by
  unfold flags
  split <;> decide

end EncodedPacket

/-- A byte string is the encoding of at most one packet. -/
theorem EncodedPacket.bytes_inj {e e' : EncodedPacket} (h : e.bytes = e'.bytes) : e = e' := by
  obtain ⟨l, a, payload, _⟩ := e
  obtain ⟨l', a', payload', _⟩ := e'
  simp only [bytes, flags, List.cons.injEq] at h
  obtain ⟨hflags, hrest⟩ := h
  have hlocal : l = l' ∧ a.bytes ++ (BigEndian.toBytes 2 payload.length ++ payload) =
      a'.bytes ++ (BigEndian.toBytes 2 payload'.length ++ payload') := by
    cases l with
    | none =>
      cases l' with
      | none => exact ⟨rfl, hrest⟩
      | some a' => simp at hflags
    | some a =>
      cases l' with
      | none => simp at hflags
      | some a' =>
        obtain ⟨rfl, htail⟩ := EncodedAddr.bytes_append_inj hrest
        exact ⟨rfl, htail⟩
  obtain ⟨rfl, htail⟩ := hlocal
  obtain ⟨rfl, hpayload⟩ := EncodedAddr.bytes_append_inj htail
  obtain ⟨-, rfl⟩ := List.append_inj hpayload (by simp)
  rfl

theorem readFlaggedAddr_set {l : String} {flag flags : UInt8} {b p rest : List UInt8}
    {offset : Nat} {a : EncodedAddr} (h : flags &&& flag ≠ 0)
    (hb : b = p ++ (a.bytes ++ rest)) (ho : offset = p.length) :
    readFlaggedAddr l flag flags b offset =
      .ok (some a.value, offset + a.bytes.length) := by
  subst hb ho
  rw [readFlaggedAddr, if_pos h, a.read]

/-- The local address of an encoded packet, or none, as its flags say. -/
theorem EncodedPacket.read_local (e : EncodedPacket) {body p rest : List UInt8} {offset : Nat}
    (hb : body = p ++ (optionalBytes (e.localAddr.map EncodedAddr.toBinaryUDPAddr) ++ rest))
    (ho : offset = p.length) :
    readFlaggedAddr "local address" udpPacketFlagLocalAddr e.flags body offset =
      .ok (e.localAddr.map EncodedAddr.value, offset +
        (optionalBytes (e.localAddr.map EncodedAddr.toBinaryUDPAddr)).length) := by
  unfold EncodedPacket.flags
  cases hl : e.localAddr with
  | none => rfl
  | some a =>
    rw [hl] at hb
    rw [Option.isSome_some, if_pos rfl]
    exact readFlaggedAddr_set (by decide) hb ho

theorem EncodedPacket.read_payload (e : EncodedPacket) {b p : List UInt8} {i : Nat}
    (hb : b = p ++ (BigEndian.toBytes 2 e.payload.length ++ e.payload))
    (ho : i = p.length) : readUDPPayload b i = .ok e.payload := by
  have hlen : (b.length : Int) = i + 2 + e.payload.length := by
    simp [hb, ho]
    omega
  have hmax := e.payload_le
  have hword : Bytes.uint16 b i = .ok e.payloadLen :=
    Bytes.uint16_at (by rw [e.payloadLen_toNat]; exact hb) ho
  have hcontent : Bytes.slice b (i + 2) (i + 2 + e.payload.length) =
      .ok e.payload :=
    Bytes.slice_at (a := p ++ BigEndian.toBytes 2 e.payload.length) (c := []) (by simp [hb])
      (by simp [ho]) rfl
  unfold readUDPPayload
  dsimp only
  rw [failIf_neg (by omega), ok_bind, hword, ok_bind, e.payloadLen_toNat, failIf_neg (by omega),
    ok_bind, failIf_neg (by omega), ok_bind, failIf_neg (by omega), ok_bind, hcontent]

/-- An encoded packet within the limit of a frame is decoded. -/
theorem EncodedPacket.decode (e : EncodedPacket) (h : e.bytes.length ≤ 65534) :
    decodeUDPPacketBinary e.bytes = .ok e.value := by
  obtain ⟨body, hb⟩ : ∃ body, body = e.bytes := ⟨_, rfl⟩
  rw [← hb] at h ⊢
  have hflags : Bytes.index body 0 = .ok e.flags := Bytes.index_at (a := []) hb rfl
  have hlocal : readFlaggedAddr "local address" udpPacketFlagLocalAddr e.flags body 1 = _ :=
    e.read_local (p := [e.flags]) hb rfl
  have hremote := readFlaggedAddr_set (l := "remote address") e.flags_remote
    (p := e.flags :: optionalBytes (e.localAddr.map EncodedAddr.toBinaryUDPAddr))
    (b := body) (a := e.remoteAddr) hb (Nat.add_comm ..)
  have hpayload := e.read_payload (p := e.flags :: (optionalBytes (e.localAddr.map
    EncodedAddr.toBinaryUDPAddr) ++ e.remoteAddr.bytes)) (b := body)
    (i := 1 + (optionalBytes (e.localAddr.map EncodedAddr.toBinaryUDPAddr)).length +
      e.remoteAddr.bytes.length) (by rw [hb]; simp [EncodedPacket.bytes]) (by simp; omega)
  have hpos : 3 ≤ body.length := by
    rw [hb]
    simp [EncodedPacket.bytes, binaryUDPAddrLen]
    omega
  unfold decodeUDPPacketBinary
  rw [failIf_neg (by omega), ok_bind, failIf_neg (by unfold defaultMaxFramePayloadSize; omega),
    ok_bind, hflags, ok_bind, failIf_neg e.flags_valid, ok_bind, failIf_neg e.flags_remote,
    ok_bind, hlocal, ok_bind]
  dsimp only
  rw [hremote, ok_bind]
  dsimp only
  rw [hpayload, ok_bind]
  rfl

theorem readFlaggedAddr_safe (label : String) (flag flags : UInt8) {body p rest : List UInt8}
    {offset : Nat} (hb : body = p ++ rest) (ho : offset = p.length) :
    Safe (readFlaggedAddr label flag flags body offset) fun r =>
      flags &&& flag = 0 ∧ r = (none, offset) ∨
      flags &&& flag ≠ 0 ∧ ∃ (a : EncodedAddr) (rest' : List UInt8), rest = a.bytes ++ rest' ∧
        r = (some a.value, offset + a.bytes.length) := by
  subst hb ho
  have hsafe := readBinaryUDPAddr_safe p rest
  unfold readFlaggedAddr
  split
  · rename_i hflag
    split
    · rename_i addr offset hread
      rw [hread] at hsafe
      obtain ⟨a, rest', hrest, hr⟩ := hsafe
      cases hr
      exact Or.inr ⟨hflag, a, rest', hrest, rfl⟩
    · exact Fault.noConfusion
    · rename_i hread
      rw [hread] at hsafe
      exact hsafe
  · rename_i hflag
    exact Or.inl ⟨not_not.mp hflag, rfl⟩

/-- After valid flags comes a local address or none, as they say. -/
theorem readLocalAddr_safe {flags : UInt8} (hflags : flags = 2 ∨ flags = 3) (rest : List UInt8) :
    Safe (readFlaggedAddr "local address" udpPacketFlagLocalAddr flags (flags :: rest) 1) fun r =>
      ∃ (l : Option EncodedAddr) (rest' : List UInt8), flags = (if l.isSome then 3 else 2) ∧
        rest = optionalBytes (l.map EncodedAddr.toBinaryUDPAddr) ++ rest' ∧
        r = (l.map EncodedAddr.value,
          1 + (optionalBytes (l.map EncodedAddr.toBinaryUDPAddr)).length) := by
  refine (readFlaggedAddr_safe _ _ _ (p := [flags]) rfl rfl).mono fun r hr => ?_
  rcases hr with ⟨h0, rfl⟩ | ⟨h1, a, rest', rfl, rfl⟩
  · refine ⟨none, rest, hflags.resolve_right ?_, rfl, rfl⟩
    rintro rfl
    revert h0
    decide
  · refine ⟨some a, rest', hflags.resolve_left ?_, rfl, rfl⟩
    rintro rfl
    revert h1
    decide

theorem readUDPPayload_safe {body p rest : List UInt8} {offset : Nat} (hb : body = p ++ rest)
    (ho : offset = p.length) :
    Safe (readUDPPayload body offset) fun payload =>
      payload.length ≤ maxUDPPayloadSize ∧
        rest = BigEndian.toBytes 2 payload.length ++ payload := by
  subst hb ho
  unfold readUDPPayload
  dsimp only
  refine Safe.failIf fun hword => ?_
  simp only [List.length_append] at hword
  obtain ⟨m, payload, hm, rfl⟩ := Bytes.exists_append (n := 2) (b := rest) (by omega)
  obtain ⟨payloadLen, rfl⟩ := Bytes.exists_uint16 hm
  rw [Bytes.uint16_at rfl rfl, ok_bind]
  refine Safe.failIf fun hmax => Safe.failIf fun hshort => Safe.failIf fun hlong => ?_
  have hlen : payload.length = payloadLen.toNat := by
    simp only [List.length_append, hm] at hshort hlong
    omega
  rw [Bytes.slice_at (a := p ++ BigEndian.toBytes 2 payloadLen.toNat) (m := payload) (c := [])
    (by simp) (by simp) (by rw [hlen])]
  exact ⟨by omega, by rw [hlen]⟩

theorem flags_cases {flags : UInt8} (hvalid : ¬ (flags &&& ~~~udpPacketValidFlags ≠ 0))
    (hremote : ¬ (flags &&& udpPacketFlagRemoteAddr = 0)) : flags = 2 ∨ flags = 3 := by
  have hall : ∀ n < 256, ¬ (UInt8.ofNat n &&& ~~~udpPacketValidFlags ≠ 0) →
      ¬ (UInt8.ofNat n &&& udpPacketFlagRemoteAddr = 0) →
      UInt8.ofNat n = 2 ∨ UInt8.ofNat n = 3 := by decide +kernel
  have h := hall flags.toNat flags.toNat_lt
  rw [UInt8.ofNat_toNat] at h
  exact h hvalid hremote

/-- What is decoded is an encoded packet within the limit, and no access is out of range. -/
theorem decodeUDPPacketBinary_safe (b : List UInt8) :
    Safe (decodeUDPPacketBinary b) fun p =>
      b.length ≤ 65534 ∧ ∃ e : EncodedPacket, e.bytes = b ∧ p = e.value := by
  unfold decodeUDPPacketBinary
  refine Safe.failIf fun hshort => ?_
  unfold frameLimitError
  refine Safe.failIf fun hlong => ?_
  have hle : b.length ≤ 65534 := by
    unfold defaultMaxFramePayloadSize at hlong
    omega
  cases b with
  | nil => simp at hshort
  | cons flags rest =>
    rw [show Bytes.index (flags :: rest) 0 = .ok flags from rfl, ok_bind]
    refine Safe.failIf fun hvalid => Safe.failIf fun hremote => ?_
    refine Safe.bind (readLocalAddr_safe (flags_cases hvalid hremote) rest) ?_
    rintro _ ⟨l, rest, hf, rfl, rfl⟩
    refine Safe.bind (readFlaggedAddr_safe _ _ _ (p := flags :: optionalBytes
      (l.map EncodedAddr.toBinaryUDPAddr)) rfl (Nat.add_comm ..)) ?_
    rintro _ (⟨h0, -⟩ | ⟨-, a, rest, rfl, rfl⟩)
    · exact absurd h0 hremote
    · refine Safe.bind (readUDPPayload_safe (p := flags :: (optionalBytes
        (l.map EncodedAddr.toBinaryUDPAddr) ++ a.bytes)) (by simp; rfl) (by simp; omega)) ?_
      rintro payload ⟨hpay, rfl⟩
      exact ⟨hle, ⟨l, a, payload, hpay⟩, by rw [hf]; rfl, rfl⟩

/-- The decoder never leaves its input. It accepts exactly the encoded packets that fit in a
frame, and each byte string is the encoding of at most one packet. -/
theorem udp_decoder_grammar (b : List UInt8) :
    decodeUDPPacketBinary b ≠ .error .outOfRange ∧
    ((∃ p, decodeUDPPacketBinary b = .ok p) ↔
      b.length ≤ 65534 ∧ ∃ e : EncodedPacket, e.bytes = b) ∧
    ∀ e e' : EncodedPacket, e.bytes = b → e'.bytes = b → e = e' := by
  have hsafe := decodeUDPPacketBinary_safe b
  refine ⟨?_, ⟨?_, ?_⟩, ?_⟩
  · intro h
    rw [h] at hsafe
    exact hsafe rfl
  · rintro ⟨p, hp⟩
    rw [hp] at hsafe
    exact ⟨hsafe.1, hsafe.2.imp fun e he => he.1⟩
  · rintro ⟨hle, e, rfl⟩
    exact ⟨e.value, e.decode hle⟩
  · rintro e e' rfl he
    exact EncodedPacket.bytes_inj he.symm

end FrpXtcp.Wire

import FrpXtcp.Wire.UDPGrammar

/-!
# Encoding and decoding UDP packets

The encoder writes an encoded packet of the grammar, so the decoder gives the packet back;
an IPv4 address returns in its form of 4 bytes. The other way round, what the decoder
accepts is not always what the encoder would write: the decoder takes an IPv6 address that
is an IPv4 address in disguise, and the encoder writes that as IPv4, or refuses it if it
has a zone.
-/
namespace FrpXtcp.Wire

open FrpXtcp.Lib

/-- The address with its IP as `To4` gives it, if it does. -/
def UDPAddr.canonical (addr : UDPAddr) : UDPAddr :=
  { addr with ip := (IP.to4 addr.ip).getD addr.ip }

def UDPPacket.canonical (p : UDPPacket) : UDPPacket :=
  ⟨p.content, p.localAddr.map UDPAddr.canonical, p.remoteAddr.map UDPAddr.canonical⟩

theorem IP.to4_length {ip ip' : List UInt8} (h : to4 ip = some ip') : ip'.length = 4 := by
  unfold to4 at h
  split_ifs at h with h4 h16
  · cases h
    exact h4
  · cases h
    simp [h16.1]

theorem IP.to16_of_to4_none {ip : List UInt8} (h : to4 ip = none) :
    to16 ip = if ip.length = 16 then some ip else none := by
  unfold to4 at h
  unfold to16
  split_ifs at h with h4
  · rw [if_neg h4]

/-- An IP address equals its form of 4 bytes. -/
theorem IP.equal_to4 (ip : List UInt8) : equal ip ((to4 ip).getD ip) = true := by
  unfold to4
  split_ifs with h4 h16
  · simp [equal]
  · simp [equal, h16]
  · simp [equal]

/-- An address that passes the check is encoded with the IP that `To4` gives. -/
theorem validateBinaryUDPAddr_ok {addr : UDPAddr} {a : BinaryUDPAddr}
    (h : validateBinaryUDPAddr addr = .ok a) :
    ∃ e : EncodedAddr, e.toBinaryUDPAddr = a ∧ e.value = addr.canonical := by
  unfold validateBinaryUDPAddr at h
  split at h
  · cases h
  · rename_i hrange
    have hport : ((UInt16.ofNat addr.port.toNat).toNat : Int) = addr.port := by
      have hlt : addr.port.toNat < 65536 := by omega
      rw [UInt16.toNat_ofNat_of_lt' hlt]
      omega
    dsimp only at h
    split at h
    · rename_i ip hip
      split at h
      · cases h
      · rename_i hzone
        cases h
        have hnil : addr.zone = [] := not_not.mp hzone
        refine ⟨⟨⟨4, ip, _, []⟩, Or.inl ⟨rfl, IP.to4_length hip, rfl⟩, Nat.zero_le _, ?_⟩, rfl, ?_⟩
        · exact (utf8Valid_iff []).mp (by decide)
        · simp only [EncodedAddr.value, UDPAddr.canonical, hip, hport, hnil, Option.getD_some]
    · rename_i hip
      rw [IP.to16_of_to4_none hip] at h
      split at h
      · cases h
      · rename_i ip h16
        split_ifs at h16 with hlen
        cases h16
        split_ifs at h with hzone hutf8
        cases h
        refine ⟨⟨⟨6, addr.ip, _, addr.zone⟩, Or.inr ⟨rfl, hlen⟩, Nat.le_of_not_gt hzone, ?_⟩,
          rfl, ?_⟩
        · exact (utf8Valid_iff addr.zone).mp (by simpa using hutf8)
        · simp only [EncodedAddr.value, UDPAddr.canonical, hip, hport, Option.getD_none]

theorem validateAddr_ok {label : String} {addr : UDPAddr} {a : BinaryUDPAddr} :
    validateAddr label addr = .ok a ↔ validateBinaryUDPAddr addr = .ok a := by
  unfold validateAddr
  cases validateBinaryUDPAddr addr with
  | error e => simp
  | ok b => simp

theorem validateAddr_error {label : String} {addr : UDPAddr} {e : Fault}
    (h : validateAddr label addr = .error e) :
    e ≠ .outOfRange ∧ ¬ ∃ a, validateBinaryUDPAddr addr = .ok a := by
  unfold validateAddr at h
  cases hv : validateBinaryUDPAddr addr with
  | error msg =>
    rw [hv] at h
    cases h
    exact ⟨nofun, nofun⟩
  | ok b =>
    rw [hv] at h
    cases h

theorem validateOptionalAddr_error {label : String} {addr : Option UDPAddr} {e : Fault}
    (h : validateOptionalAddr label addr = .error e) :
    e ≠ .outOfRange ∧ ∃ a ∈ addr, ¬ ∃ b, validateBinaryUDPAddr a = .ok b := by
  cases addr with
  | none => cases h
  | some addr =>
    simp only [validateOptionalAddr] at h
    cases hv : validateAddr label addr with
    | error e' =>
      rw [hv] at h
      cases h
      obtain ⟨hne, hinv⟩ := validateAddr_error hv
      exact ⟨hne, addr, rfl, hinv⟩
    | ok a =>
      rw [hv] at h
      cases h

theorem putBinaryUDPAddr_at {body p old rest : List UInt8} {i : Nat} {a : BinaryUDPAddr}
    (hb : body = p ++ (old ++ rest)) (ho : i = p.length)
    (hlen : old.length = binaryUDPAddrLen a) :
    putBinaryUDPAddr body i a = .ok (p ++ (a.bytes ++ rest), i + a.bytes.length) := by
  subst hb ho
  have hlen' := hlen
  unfold binaryUDPAddrLen at hlen'
  cases old with
  | nil =>
    rw [List.length_nil] at hlen'
    omega
  | cons x old =>
    rw [List.length_cons] at hlen'
    obtain ⟨ip, old, hip, rfl⟩ := Bytes.exists_append (n := a.ip.length) (b := old) (by omega)
    rw [List.length_append] at hlen'
    obtain ⟨port, old, hport, rfl⟩ := Bytes.exists_append (n := 2) (b := old) (by omega)
    rw [List.length_append] at hlen'
    cases old with
    | nil =>
      rw [List.length_nil] at hlen'
      omega
    | cons z zone =>
      rw [List.length_cons] at hlen'
      unfold putBinaryUDPAddr
      dsimp only
      rw [Bytes.set_at (o := x) (by rw [List.cons_append]) rfl, ok_bind,
        Bytes.copyAt_at (a := p ++ [a.family]) (by simp; rfl) (by simp) hip, ok_bind,
        Bytes.putUint16_at (a := p ++ a.family :: a.ip) _ (by simp; rfl) (by simp; omega) hport,
        ok_bind,
        Bytes.set_at (a := p ++ a.family :: (a.ip ++ BigEndian.toBytes 2 a.port.toNat))
          (o := z) (c := zone ++ rest) (by simp) (by simp; omega), ok_bind,
        Bytes.copyAt_at (a := p ++ a.family :: (a.ip ++ (BigEndian.toBytes 2 a.port.toNat ++
          [UInt8.ofNat a.zone.length]))) (o := zone) (c := rest) (by simp) (by simp; omega)
          (by omega), ok_bind]
      simp [BinaryUDPAddr.bytes, pure, Except.pure]
      omega

theorem length_optionalBytes (l : Option BinaryUDPAddr) :
    (optionalBytes l).length = (l.map binaryUDPAddrLen).getD 0 := by
  cases l with
  | none => rfl
  | some a => exact a.length_bytes

theorem putOptionalAddr_at {body p old rest : List UInt8} {i : Nat}
    {l : Option BinaryUDPAddr} (hb : body = p ++ (old ++ rest)) (ho : i = p.length)
    (hlen : old.length = (l.map binaryUDPAddrLen).getD 0) :
    putOptionalAddr body i l =
      .ok (p ++ (optionalBytes l ++ rest), i + (optionalBytes l).length) := by
  cases l with
  | none =>
    obtain rfl := List.eq_nil_of_length_eq_zero hlen
    rw [hb]
    rfl
  | some a => exact putBinaryUDPAddr_at hb ho hlen

/-- The body is filled with the encoding, and the offsets are those of its fields. -/
theorem fillUDPPacketBinary_eq (content : List UInt8) (l : Option BinaryUDPAddr)
    (r : BinaryUDPAddr) :
    fillUDPPacketBinary content l r
        (1 + 2 + content.length + (l.map binaryUDPAddrLen).getD 0 + binaryUDPAddrLen r) =
      .ok ((if l.isSome then 3 else 2) :: (optionalBytes l ++ (r.bytes ++
        (BigEndian.toBytes 2 (UInt16.ofNat content.length).toNat ++ content)))) := by
  have hbody : List.replicate
      (1 + 2 + content.length + (l.map binaryUDPAddrLen).getD 0 + binaryUDPAddrLen r) (0 : UInt8) =
      0 :: (List.replicate ((l.map binaryUDPAddrLen).getD 0) 0 ++
        (List.replicate (binaryUDPAddrLen r) 0 ++ (List.replicate 2 0 ++
          List.replicate content.length 0))) := by
    simp only [List.replicate_append_replicate, ← List.replicate_succ]
    congr 1
    omega
  have hflags : (if l.isSome then udpPacketFlagLocalAddr else 0) ||| udpPacketFlagRemoteAddr =
      if l.isSome then 3 else 2 := by
    generalize l.isSome = present
    cases present <;> decide
  unfold fillUDPPacketBinary
  dsimp only
  generalize (if l.isSome then 3 else 2 : UInt8) = flags at hflags ⊢
  rw [hbody, hflags, show Bytes.set (0 :: _) 0 flags = _ from Bytes.set_at (a := []) rfl rfl,
    ok_bind, List.nil_append,
    putOptionalAddr_at (p := [flags]) (i := 1) (by rw [List.singleton_append]) rfl (by simp),
    ok_bind]
  dsimp only
  rw [putBinaryUDPAddr_at (p := flags :: optionalBytes l) (by simp; rfl) (by simp; omega)
    (by simp), ok_bind]
  dsimp only
  rw [Bytes.putUint16_at (a := flags :: (optionalBytes l ++ r.bytes)) (o := List.replicate 2 0)
      (c := List.replicate content.length 0) _ (by simp) (by simp; omega) (by simp), ok_bind,
    Bytes.copyAt_at (a := flags :: (optionalBytes l ++ (r.bytes ++
      BigEndian.toBytes 2 (UInt16.ofNat content.length).toNat))) (c := [])
      (o := List.replicate content.length 0) (by simp) (by simp; omega) (by simp)]
  simp

/-- The length of an address in the encoding; 0 if it is missing or invalid. -/
def addrLen (addr : Option UDPAddr) : Nat :=
  match addr.map validateBinaryUDPAddr with
  | some (.ok a) => binaryUDPAddrLen a
  | _ => 0

/-- `addr` is an address of the packet. -/
def UDPPacket.HasAddr (p : UDPPacket) (addr : UDPAddr) : Prop :=
  p.localAddr = some addr ∨ p.remoteAddr = some addr

/-- The packet has a remote address, its content and the whole are within the limits, and its
addresses are valid. -/
structure UDPPacket.Encodable (p : UDPPacket) : Prop where
  remote : p.remoteAddr ≠ none
  content_le : p.content.length ≤ 65507
  valid : ∀ addr, p.HasAddr addr → ∃ a, validateBinaryUDPAddr addr = .ok a
  total_le : 2 + (1 + 2 + p.content.length + addrLen p.localAddr + addrLen p.remoteAddr) ≤ 65536

theorem UDPPacket.not_encodable_iff {p : UDPPacket} :
    ¬ p.Encodable ↔ p.remoteAddr = none ∨ p.content.length > 65507 ∨
      (∃ addr err, p.HasAddr addr ∧ validateBinaryUDPAddr addr = .error err) ∨
      2 + (1 + 2 + p.content.length + addrLen p.localAddr + addrLen p.remoteAddr) > 65536 := by
  constructor
  · intro h
    by_contra hn
    simp only [not_or, not_exists, not_and, Nat.not_lt] at hn
    obtain ⟨hremote, hcontent, hvalid, htotal⟩ := hn
    refine h ⟨hremote, hcontent, fun addr haddr => ?_, htotal⟩
    cases hv : validateBinaryUDPAddr addr with
    | error err => exact absurd hv (hvalid addr err haddr)
    | ok a => exact ⟨a, rfl⟩
  · rintro (h | h | ⟨addr, err, haddr, herr⟩ | h) hp
    · exact hp.remote h
    · exact absurd hp.content_le (Nat.not_le.mpr h)
    · obtain ⟨a, ha⟩ := hp.valid addr haddr
      rw [herr] at ha
      cases ha
    · exact absurd hp.total_le (Nat.not_le.mpr h)

theorem validateOptionalAddr_ok {label : String} {addr : Option UDPAddr}
    {l : Option BinaryUDPAddr} (h : validateOptionalAddr label addr = .ok l) :
    (∀ a ∈ addr, ∃ b, validateBinaryUDPAddr a = .ok b) ∧
      (l.map binaryUDPAddrLen).getD 0 = addrLen addr ∧
      ∃ e : Option EncodedAddr, e.map EncodedAddr.toBinaryUDPAddr = l ∧
        e.map EncodedAddr.value = addr.map UDPAddr.canonical := by
  cases addr with
  | none =>
    cases h
    exact ⟨nofun, rfl, none, rfl, rfl⟩
  | some addr =>
    simp only [validateOptionalAddr] at h
    cases hv : validateAddr label addr with
    | error e =>
      rw [hv] at h
      cases h
    | ok a =>
      rw [hv] at h
      cases h
      have hb := validateAddr_ok.mp hv
      obtain ⟨e, he, hvalue⟩ := validateBinaryUDPAddr_ok hb
      refine ⟨?_, ?_, some e, congrArg some he, congrArg some hvalue⟩
      · rintro _ ⟨⟩
        exact ⟨a, hb⟩
      · simp [addrLen, hb]

/-- The checks before the body is made are those that `Encodable` lists. -/
theorem planUDPPacketBinary_cases (p : UDPPacket) :
    (∃ (l : Option EncodedAddr) (r : EncodedAddr), p.Encodable ∧
      l.map EncodedAddr.value = p.localAddr.map UDPAddr.canonical ∧
      some r.value = p.remoteAddr.map UDPAddr.canonical ∧
      ((l.map EncodedAddr.toBinaryUDPAddr).map binaryUDPAddrLen).getD 0 = addrLen p.localAddr ∧
      binaryUDPAddrLen r.toBinaryUDPAddr = addrLen p.remoteAddr ∧
      planUDPPacketBinary p = .ok (l.map EncodedAddr.toBinaryUDPAddr, r.toBinaryUDPAddr,
        1 + 2 + p.content.length + addrLen p.localAddr + addrLen p.remoteAddr)) ∨
    ∃ e, e ≠ .outOfRange ∧ planUDPPacketBinary p = .error e ∧ ¬ p.Encodable := by
  unfold planUDPPacketBinary
  cases hremote : p.remoteAddr with
  | none =>
    refine Or.inr ⟨_, ?_, rfl, fun h => h.remote hremote⟩
    exact nofun
  | some remote =>
    dsimp only
    by_cases hmax : p.content.length > maxUDPPayloadSize
    · rw [failIf_pos hmax, error_bind]
      refine Or.inr ⟨_, ?_, rfl, fun h => absurd h.content_le (Nat.not_le.mpr hmax)⟩
      exact nofun
    rw [failIf_neg hmax, ok_bind]
    cases hl : validateOptionalAddr "local address" p.localAddr with
    | error e =>
      obtain ⟨hne, addr, haddr, hinv⟩ := validateOptionalAddr_error hl
      exact Or.inr ⟨e, hne, rfl, fun h => hinv (h.valid addr (Or.inl haddr))⟩
    | ok l =>
      rw [ok_bind]
      cases hr : validateAddr "remote address" remote with
      | error e =>
        obtain ⟨hne, hinv⟩ := validateAddr_error hr
        exact Or.inr ⟨e, hne, rfl, fun h => hinv (h.valid remote (Or.inr hremote))⟩
      | ok r =>
        obtain ⟨hlvalid, hllen, el, rfl, helvalue⟩ := validateOptionalAddr_ok hl
        have hrvalid := validateAddr_ok.mp hr
        obtain ⟨er, rfl, hervalue⟩ := validateBinaryUDPAddr_ok hrvalid
        have hrlen : binaryUDPAddrLen er.toBinaryUDPAddr = addrLen (some remote) := by
          simp [addrLen, hrvalid]
        rw [ok_bind, hllen, hrlen]
        by_cases htotal : 2 + (1 + 2 + p.content.length + addrLen p.localAddr +
            addrLen (some remote)) > defaultMaxFramePayloadSize
        · rw [failIf_pos htotal, error_bind]
          refine Or.inr ⟨_, ?_, rfl, fun h => ?_⟩
          · exact nofun
          · have hle := h.total_le
            rw [hremote] at hle
            exact absurd hle (Nat.not_le.mpr htotal)
        · refine Or.inl ⟨el, er, ⟨?_, Nat.le_of_not_gt hmax, ?_, ?_⟩, helvalue,
            congrArg some hervalue, hllen, hrlen, ?_⟩
          · rw [hremote]
            exact nofun
          · rintro addr (h | h)
            · exact hlvalid addr h
            · rw [hremote] at h
              cases h
              exact ⟨_, hrvalid⟩
          · rw [hremote]
            exact Nat.le_of_not_gt htotal
          · rw [failIf_neg htotal, ok_bind]
            rfl

/-- The encoder succeeds on the packets that can be encoded, with the encoding of the packet
in canonical form. -/
theorem encodeUDPPacketBinary_cases (p : UDPPacket) :
    (∃ e : EncodedPacket, encodeUDPPacketBinary (some p) = .ok e.bytes ∧ e.value = p.canonical ∧
      e.bytes.length ≤ 65534 ∧ p.Encodable) ∨
    ∃ err, err ≠ .outOfRange ∧ encodeUDPPacketBinary (some p) = .error err ∧ ¬ p.Encodable := by
  rcases planUDPPacketBinary_cases p with ⟨l, r, hp, hl, hr, hllen, hrlen, hplan⟩ | ⟨e, hne, he, hp⟩
  · left
    have hword : (UInt16.ofNat p.content.length).toNat = p.content.length :=
      UInt16.toNat_ofNat_of_lt' (Nat.lt_of_le_of_lt hp.content_le (by decide))
    refine ⟨⟨l, r, p.content, hp.content_le⟩, ?_, ?_, ?_, hp⟩
    · simp only [encodeUDPPacketBinary, hplan]
      rw [← hllen, ← hrlen, fillUDPPacketBinary_eq, hword, Option.isSome_map]
      rfl
    · rw [EncodedPacket.value, hl, hr]
      rfl
    · have hle := hp.total_le
      simp only [EncodedPacket.bytes, List.length_cons, List.length_append, length_optionalBytes,
        BinaryUDPAddr.length_bytes, BigEndian.length_toBytes, hllen, hrlen]
      omega
  · exact Or.inr ⟨e, hne, by simp only [encodeUDPPacketBinary, he], hp⟩

theorem decode_encodeUDPPacketBinary {p : UDPPacket} {b : List UInt8}
    (h : encodeUDPPacketBinary (some p) = .ok b) :
    b.length + 2 ≤ 65536 ∧ decodeUDPPacketBinary b = .ok p.canonical := by
  rcases encodeUDPPacketBinary_cases p with ⟨e, he, hvalue, hle, -⟩ | ⟨err, -, herr, -⟩
  · rw [he] at h
    cases h
    exact ⟨by omega, hvalue ▸ e.decode hle⟩
  · rw [herr] at h
    cases h

/-- Decoding undoes encoding up to the form of IPv4 addresses, and encoding fails for the
documented reasons only. -/
theorem udp_packet_round_trip (p : UDPPacket) :
    (∀ b, encodeUDPPacketBinary (some p) = .ok b →
      b.length + 2 ≤ 65536 ∧ decodeUDPPacketBinary b = .ok p.canonical) ∧
    (∀ addr, p.HasAddr addr → IP.equal addr.ip addr.canonical.ip = true) ∧
    encodeUDPPacketBinary (some p) ≠ .error .outOfRange ∧
    ((∃ err, encodeUDPPacketBinary (some p) = .error err) ↔
      p.remoteAddr = none ∨ p.content.length > 65507 ∨
      (∃ addr err, p.HasAddr addr ∧ validateBinaryUDPAddr addr = .error err) ∨
      2 + (1 + 2 + p.content.length + addrLen p.localAddr + addrLen p.remoteAddr) > 65536) := by
  refine ⟨?_, fun addr _ => IP.equal_to4 addr.ip, ?_, ?_⟩
  · exact fun b hb => decode_encodeUDPPacketBinary hb
  · intro h
    rcases encodeUDPPacketBinary_cases p with ⟨e, he, -⟩ | ⟨err, hne, herr, -⟩
    · rw [he] at h
      cases h
    · rw [herr] at h
      cases h
      exact hne rfl
  · rw [← UDPPacket.not_encodable_iff]
    rcases encodeUDPPacketBinary_cases p with ⟨e, he, -, -, hp⟩ | ⟨err, -, herr, hp⟩
    · exact iff_of_false (by simp [he]) (not_not.mpr hp)
    · exact iff_of_true ⟨err, herr⟩ hp

/-- A packet with an IPv4 address in 16 bytes, which comes back in 4. -/
theorem udp_packet_round_trip_mapped :
    let p : UDPPacket :=
      ⟨[7, 8], none, some ⟨IP.v4InV6Prefix ++ [203, 0, 113, 9], 54321, []⟩⟩
    ∃ b, encodeUDPPacketBinary (some p) = .ok b ∧
      decodeUDPPacketBinary b = .ok ⟨[7, 8], none, some ⟨[203, 0, 113, 9], 54321, []⟩⟩ := by
  intro p
  have hb : encodeUDPPacketBinary (some p) =
      .ok [2, 4, 203, 0, 113, 9, 0xd4, 0x31, 0, 0, 2, 7, 8] := by decide +kernel
  exact ⟨_, hb, ((udp_packet_round_trip p).1 _ hb).2⟩

/-- An address of family 6 that holds an IPv4 address. -/
def EncodedAddr.Mapped (a : EncodedAddr) : Prop := a.family = 6 ∧ (IP.to4 a.ip).isSome = true

/-- No address of family 6 in the packet that the bytes encode holds an IPv4 address. -/
def MappedFree (b : List UInt8) : Prop :=
  ∀ e : EncodedPacket, e.bytes = b →
    (∀ a ∈ e.localAddr, ¬ a.Mapped) ∧ ¬ e.remoteAddr.Mapped

/-- Equal addresses, with the IPs compared by `net.IP.Equal`. -/
def UDPAddr.Same (a a' : UDPAddr) : Prop :=
  IP.equal a.ip a'.ip = true ∧ a.port = a'.port ∧ a.zone = a'.zone

/-- The same content and equal addresses. -/
def UDPPacket.Same (p p' : UDPPacket) : Prop :=
  p.content = p'.content ∧ Option.Rel UDPAddr.Same p.localAddr p'.localAddr ∧
    Option.Rel UDPAddr.Same p.remoteAddr p'.remoteAddr

/-- `To4` leaves the decoded address as it is exactly if it is not an IPv4 address in
disguise. -/
theorem EncodedAddr.canonical_value_iff (a : EncodedAddr) :
    a.value.canonical = a.value ↔ ¬ a.Mapped := by
  have hvalue : a.value.canonical = a.value ↔ (IP.to4 a.ip).getD a.ip = a.ip := by
    simp [UDPAddr.canonical, value]
  rw [hvalue]
  rcases a.shape with ⟨hf, hip, -⟩ | ⟨hf, hip⟩
  · simp [Mapped, hf, IP.to4, hip]
  · cases h4 : IP.to4 a.ip with
    | none => simp [Mapped, h4]
    | some ip =>
      have hlen := IP.to4_length h4
      refine iff_of_false ?_ (not_not.mpr ⟨hf, by rw [h4]; rfl⟩)
      rintro rfl
      exact absurd (hip.symm.trans hlen) (by decide)

theorem EncodedPacket.canonical_value_iff (e : EncodedPacket) :
    e.value.canonical = e.value ↔ (∀ a ∈ e.localAddr, ¬ a.Mapped) ∧ ¬ e.remoteAddr.Mapped := by
  rw [← EncodedAddr.canonical_value_iff]
  cases hl : e.localAddr with
  | none => simp [UDPPacket.canonical, value, hl]
  | some a => simp [UDPPacket.canonical, value, hl, a.canonical_value_iff]

theorem EncodedPacket.value_inj {e e' : EncodedPacket} (h : e.value = e'.value) : e = e' := by
  obtain ⟨l, r, payload, _⟩ := e
  obtain ⟨l', r', payload', _⟩ := e'
  simp only [value, UDPPacket.mk.injEq, Option.some.injEq] at h
  obtain ⟨rfl, hl, hr⟩ := h
  obtain rfl := Option.map_injective (fun _ _ => EncodedAddr.value_inj) hl
  obtain rfl := EncodedAddr.value_inj hr
  rfl

/-- A decoded address that is not an IPv4 address in disguise passes the encoder's check, as
it was. -/
theorem EncodedAddr.validate_value {a : EncodedAddr} (h : ¬ a.Mapped) :
    validateBinaryUDPAddr a.value = .ok a.toBinaryUDPAddr := by
  have hlt := a.port.toNat_lt
  have hport : UInt16.ofNat (a.port.toNat : Int).toNat = a.port := by simp
  have hutf8 : ¬ (!utf8Valid a.zone) = true := by
    simp [(utf8Valid_iff a.zone).mpr a.zone_utf8]
  have hzone : ¬ a.zone.length > 255 := Nat.not_lt.mpr a.zone_le
  simp only [validateBinaryUDPAddr, value, hport]
  rw [if_neg (by omega)]
  rcases a.shape with ⟨hf, hip, hnil⟩ | ⟨hf, hip⟩
  · rw [show a.toBinaryUDPAddr = ⟨a.family, a.ip, a.port, a.zone⟩ from rfl, hf, hnil]
    simp [IP.to4, hip]
  · have h4 : IP.to4 a.ip = none := by
      cases h4 : IP.to4 a.ip with
      | none => rfl
      | some ip => exact absurd ⟨hf, by rw [h4]; rfl⟩ h
    rw [show a.toBinaryUDPAddr = ⟨a.family, a.ip, a.port, a.zone⟩ from rfl, hf]
    simp only [h4, IP.to16_of_to4_none h4, hip, if_true, if_neg hzone, if_neg hutf8]

theorem EncodedAddr.addrLen_value {a : EncodedAddr} (h : ¬ a.Mapped) :
    addrLen (some a.value) = binaryUDPAddrLen a.toBinaryUDPAddr := by
  simp [addrLen, EncodedAddr.validate_value h]

theorem EncodedPacket.encodable {e : EncodedPacket} (hle : e.bytes.length ≤ 65534)
    (hl : ∀ a ∈ e.localAddr, ¬ a.Mapped) (hr : ¬ e.remoteAddr.Mapped) : e.value.Encodable := by
  have hlocal : addrLen (e.localAddr.map EncodedAddr.value) =
      (optionalBytes (e.localAddr.map EncodedAddr.toBinaryUDPAddr)).length := by
    cases h : e.localAddr with
    | none => rfl
    | some a =>
      rw [Option.map_some, EncodedAddr.addrLen_value (hl a h), length_optionalBytes]
      rfl
  refine ⟨nofun, e.payload_le, ?_, ?_⟩
  · rintro addr (h | h)
    · obtain ⟨a, ha, rfl⟩ := Option.map_eq_some_iff.mp h
      exact ⟨_, EncodedAddr.validate_value (hl a ha)⟩
    · cases h
      exact ⟨_, EncodedAddr.validate_value hr⟩
  · simp only [EncodedPacket.bytes, List.length_cons, List.length_append,
      BinaryUDPAddr.length_bytes, BigEndian.length_toBytes] at hle
    simp only [EncodedPacket.value, hlocal, EncodedAddr.addrLen_value hr]
    omega

/-- What is decoded from an encoded packet is encoded to the same bytes exactly if no address
is an IPv4 address in disguise. -/
theorem EncodedPacket.encode_value_iff {e : EncodedPacket} (hle : e.bytes.length ≤ 65534) :
    encodeUDPPacketBinary (some e.value) = .ok e.bytes ↔
      (∀ a ∈ e.localAddr, ¬ a.Mapped) ∧ ¬ e.remoteAddr.Mapped := by
  rcases encodeUDPPacketBinary_cases e.value with
    ⟨e', he', hvalue, -, -⟩ | ⟨err, -, herr, hnot⟩
  · rw [he', Except.ok.injEq, ← e.canonical_value_iff, ← hvalue]
    constructor
    · intro h
      rw [EncodedPacket.bytes_inj h]
    · intro h
      rw [EncodedPacket.value_inj h]
  · rw [herr]
    refine iff_of_false nofun ?_
    rintro ⟨hl, hr⟩
    exact hnot (EncodedPacket.encodable hle hl hr)

/-- Without such addresses `net.IP.Equal` is equality. -/
theorem EncodedAddr.same_inj {a a' : EncodedAddr} (h : ¬ a.Mapped) (h' : ¬ a'.Mapped)
    (hs : a.value.Same a'.value) : a = a' := by
  obtain ⟨hip, hport, hzone⟩ := hs
  have hmapped : ∀ b : EncodedAddr, b.ip.length = 16 → b.ip.take 12 = IP.v4InV6Prefix →
      b.Mapped := by
    intro b hlen hpre
    rcases b.shape with ⟨-, hb, -⟩ | ⟨hf, -⟩
    · exact absurd (hlen.symm.trans hb) (by decide)
    · exact ⟨hf, by simp [IP.to4, hlen, hpre]⟩
  apply EncodedAddr.value_inj
  unfold IP.equal at hip
  split_ifs at hip with hlen h416 h164
  · exact (UDPAddr.mk.injEq ..).mpr ⟨of_decide_eq_true hip, hport, hzone⟩
  · exact absurd (hmapped a' h416.2 (of_decide_eq_true hip).1) h'
  · exact absurd (hmapped a h164.1 (of_decide_eq_true hip).1) h

theorem EncodedPacket.same_inj {e e' : EncodedPacket}
    (h : (∀ a ∈ e.localAddr, ¬ a.Mapped) ∧ ¬ e.remoteAddr.Mapped)
    (h' : (∀ a ∈ e'.localAddr, ¬ a.Mapped) ∧ ¬ e'.remoteAddr.Mapped)
    (hs : e.value.Same e'.value) : e = e' := by
  obtain ⟨l, r, payload, _⟩ := e
  obtain ⟨l', r', payload', _⟩ := e'
  obtain ⟨hc, hl, hr⟩ := hs
  obtain rfl : payload = payload' := hc
  cases hr with
  | some hr =>
    obtain rfl := EncodedAddr.same_inj h.2 h'.2 hr
    cases l with
    | none =>
      cases l' with
      | none => rfl
      | some a' => cases hl
    | some a =>
      cases l' with
      | none => cases hl
      | some a' =>
        cases hl with
        | some hl =>
          obtain rfl := EncodedAddr.same_inj (h.1 a rfl) (h'.1 a' rfl) hl
          rfl

theorem decodeUDPPacketBinary_ok {b : List UInt8} {p : UDPPacket}
    (h : decodeUDPPacketBinary b = .ok p) :
    ∃ e : EncodedPacket, e.bytes = b ∧ p = e.value ∧ b.length ≤ 65534 := by
  have hsafe := decodeUDPPacketBinary_safe b
  rw [h] at hsafe
  obtain ⟨hle, e, he, hp⟩ := hsafe
  exact ⟨e, he, hp, hle⟩

/-- What is accepted is encoded again to the same bytes exactly if no address of family 6
holds an IPv4 address, and such byte strings differ if they mean different packets. -/
theorem udp_encoding_canonical (b : List UInt8) (p : UDPPacket)
    (hp : decodeUDPPacketBinary b = .ok p) :
    (encodeUDPPacketBinary (some p) = .ok b ↔ MappedFree b) ∧
      ∀ b' p', decodeUDPPacketBinary b' = .ok p' → MappedFree b → MappedFree b' → p.Same p' →
        b = b' := by
  have hfree : ∀ e : EncodedPacket, MappedFree e.bytes ↔
      (∀ a ∈ e.localAddr, ¬ a.Mapped) ∧ ¬ e.remoteAddr.Mapped := by
    intro e
    refine ⟨fun h => h e rfl, fun h e' he' => ?_⟩
    rw [EncodedPacket.bytes_inj he']
    exact h
  obtain ⟨e, rfl, rfl, hle⟩ := decodeUDPPacketBinary_ok hp
  constructor
  · rw [hfree]
    exact EncodedPacket.encode_value_iff hle
  · intro b' p' hp' hb hb' hs
    obtain ⟨e', rfl, rfl, -⟩ := decodeUDPPacketBinary_ok hp'
    rw [EncodedPacket.same_inj ((hfree e).mp hb) ((hfree e').mp hb') hs]

/-- An empty packet from 203.0.113.9, port 54321. -/
def packetIPv4 : List UInt8 := [2, 4, 203, 0, 113, 9, 0xd4, 0x31, 0, 0, 0]

/-- The same with the address as IPv6. -/
def packetMapped : List UInt8 :=
  [2, 6, 0, 0, 0, 0, 0, 0, 0, 0, 0, 0, 0xff, 0xff, 203, 0, 113, 9, 0xd4, 0x31, 0, 0, 0]

/-- The same with a zone. -/
def packetMappedZone : List UInt8 :=
  [2, 6, 0, 0, 0, 0, 0, 0, 0, 0, 0, 0, 0xff, 0xff, 203, 0, 113, 9, 0xd4, 0x31, 1, 0x7a, 0, 0]

theorem udp_encoding_canonical_IPv4 :
    MappedFree packetIPv4 ∧
      decodeUDPPacketBinary packetIPv4 = .ok ⟨[], none, some ⟨[203, 0, 113, 9], 54321, []⟩⟩ := by
  have hdecode : decodeUDPPacketBinary packetIPv4 =
      .ok ⟨[], none, some ⟨[203, 0, 113, 9], 54321, []⟩⟩ := by decide +kernel
  exact ⟨(udp_encoding_canonical _ _ hdecode).1.mp (by decide +kernel), hdecode⟩

/-- An IPv4 address in disguise is accepted with a zone, and then cannot be encoded; without
one it is encoded to other bytes, which mean an equal packet. -/
theorem udp_encoding_canonical_fails :
    (∃ p err, decodeUDPPacketBinary packetMappedZone = .ok p ∧
      encodeUDPPacketBinary (some p) = .error err) ∧
    ∃ p p', decodeUDPPacketBinary packetMapped = .ok p ∧
      encodeUDPPacketBinary (some p) = .ok packetIPv4 ∧
      decodeUDPPacketBinary packetIPv4 = .ok p' ∧ p.Same p' ∧ packetMapped ≠ packetIPv4 := by
  refine ⟨⟨⟨[], none, some ⟨IP.v4InV6Prefix ++ [203, 0, 113, 9], 54321, [0x7a]⟩⟩,
    .error "remote address: IPv4 zone is forbidden", by decide +kernel, by decide +kernel⟩, ?_⟩
  refine ⟨⟨[], none, some ⟨IP.v4InV6Prefix ++ [203, 0, 113, 9], 54321, []⟩⟩,
    ⟨[], none, some ⟨[203, 0, 113, 9], 54321, []⟩⟩, by decide +kernel, by decide +kernel,
    by decide +kernel, ?_, by decide⟩
  exact ⟨rfl, .none, .some ⟨by decide, rfl, rfl⟩⟩

end FrpXtcp.Wire

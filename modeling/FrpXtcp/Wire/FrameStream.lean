import FrpXtcp.Wire.Message

/-!
# Streams of frames

What `WriteFrame` puts on a stream is what `ReadFrame` takes from it, frame after frame,
whatever follows. `CheckMagic` separates such streams from those of the first protocol:
no message type of that protocol is the first byte of the magic.
-/
namespace FrpXtcp.Wire

open FrpXtcp.Lib

/-- `msgTypeMap` of `pkg/msg`, the type bytes of the first protocol. -/
def msgTypeMap : List (UInt8 × MsgType) :=
  [('o'.toUInt8, .login), ('1'.toUInt8, .loginResp), ('p'.toUInt8, .newProxy),
    ('2'.toUInt8, .newProxyResp), ('c'.toUInt8, .closeProxy), ('w'.toUInt8, .newWorkConn),
    ('r'.toUInt8, .reqWorkConn), ('s'.toUInt8, .startWorkConn), ('v'.toUInt8, .newVisitorConn),
    ('3'.toUInt8, .newVisitorConnResp), ('h'.toUInt8, .ping), ('4'.toUInt8, .pong),
    ('u'.toUInt8, .udpPacket), ('i'.toUInt8, .natHoleVisitor), ('n'.toUInt8, .natHoleClient),
    ('m'.toUInt8, .natHoleResp), ('5'.toUInt8, .natHoleSid), ('6'.toUInt8, .natHoleReport)]

/-- Calls of `WriteFrame` in order, up to the first error. -/
def writeFrames (s : Stream) : List Frame → Except String Unit × Stream
  | [] => (.ok (), s)
  | f :: fs =>
    match writeFrame s f with
    | (.error e, s) => (.error e, s)
    | (.ok (), s) => writeFrames s fs

/-- `n` calls of `ReadFrame`, up to the first error. -/
def readFrames (s : Stream) : Nat → Except String (List Frame) × Stream
  | 0 => (.ok [], s)
  | n + 1 =>
    match readFrame s with
    | (.error e, s) => (.error e, s)
    | (.ok f, s) =>
      match readFrames s n with
      | (.error e, s) => (.error e, s)
      | (.ok fs, s) => (.ok (f :: fs), s)

/-- The frames that the protocol can carry. -/
def Frame.Sendable (f : Frame) : Prop :=
  f.flags = 0 ∧ f.payload.length ≤ defaultMaxFramePayloadSize

/-- No write to the stream fails. -/
def Stream.Writable (s : Stream) : Prop := ∀ r ∈ s.writes, r = none

theorem Stream.Writable.write {s : Stream} (h : s.Writable) (b : List UInt8) :
    ∃ s', s.write b = (.ok (), s') ∧ s'.Writable ∧ s'.input = s.input ∧
      s'.output = s.output ++ b := by
  unfold Stream.write
  split
  · exact ⟨_, rfl, h, rfl, rfl⟩
  · rename_i ws hw
    refine ⟨_, rfl, fun r hr => h r ?_, rfl, rfl⟩
    rw [hw]
    exact List.mem_cons_of_mem _ hr
  · rename_i e ws hw
    exact absurd (h (some e) (by rw [hw]; exact List.mem_cons_self)) nofun

theorem Stream.readFull_append {s : Stream} {a b : List UInt8} {n : Nat} (hn : a.length = n)
    (h : s.input = a ++ b) : s.readFull n = (.ok a, { s with input := b }) := by
  subst hn
  simp [Stream.readFull, h]

theorem Stream.Writable.writeFrame {s : Stream} (h : s.Writable) {f : Frame} (hf : f.Sendable) :
    ∃ s', Wire.writeFrame s f = (.ok (), s') ∧ s'.Writable ∧ s'.input = s.input ∧
      s'.output = s.output ++ f.bytes := by
  unfold Wire.writeFrame
  rw [if_neg (not_not.mpr hf.1), if_neg (Nat.not_lt.mpr hf.2)]
  obtain ⟨s₁, hw₁, h₁, hin₁, hout₁⟩ := h.write
    (BigEndian.toBytes 2 f.type.toNat ++ BigEndian.toBytes 2 f.flags.toNat ++
      BigEndian.toBytes 4 f.payload.length)
  obtain ⟨s₂, hw₂, h₂, hin₂, hout₂⟩ := h₁.write f.payload
  dsimp only
  rw [hw₁]
  refine ⟨s₂, hw₂, h₂, hin₂.trans hin₁, ?_⟩
  rw [hout₂, hout₁, Frame.bytes, List.append_assoc]

theorem Stream.Writable.writeFrames {s : Stream} (h : s.Writable) {fs : List Frame}
    (hfs : ∀ f ∈ fs, f.Sendable) :
    ∃ s', Wire.writeFrames s fs = (.ok (), s') ∧ s'.input = s.input ∧
      s'.output = s.output ++ (fs.map Frame.bytes).flatten := by
  induction fs generalizing s with
  | nil => exact ⟨s, rfl, rfl, by simp⟩
  | cons f fs ih =>
    obtain ⟨s₁, hw₁, h₁, hin₁, hout₁⟩ := h.writeFrame (hfs f List.mem_cons_self)
    obtain ⟨s₂, hw₂, hin₂, hout₂⟩ := ih h₁ fun g hg => hfs g (List.mem_cons_of_mem _ hg)
    refine ⟨s₂, ?_, hin₂.trans hin₁, ?_⟩
    · simp only [Wire.writeFrames, hw₁, hw₂]
    · rw [hout₂, hout₁, List.map_cons, List.flatten_cons, List.append_assoc]

/-- A frame is read from its bytes, and what follows stays. -/
theorem readFrame_bytes {s : Stream} {f : Frame} {rest : List UInt8} (hf : f.Sendable)
    (h : s.input = f.bytes ++ rest) : readFrame s = (.ok f, { s with input := rest }) := by
  have hmax : f.payload.length < 256 ^ 4 := Nat.lt_of_le_of_lt hf.2 (by decide)
  have hflags : f.flags = 0 := hf.1
  unfold readFrame
  rw [Stream.readFull_append (a := BigEndian.toBytes 2 f.type.toNat ++
    BigEndian.toBytes 2 f.flags.toNat ++ BigEndian.toBytes 4 f.payload.length) (by simp)
    (by rw [h, Frame.bytes, List.append_assoc])]
  have htype : ((BigEndian.toBytes 2 f.type.toNat ++ BigEndian.toBytes 2 f.flags.toNat ++
      BigEndian.toBytes 4 f.payload.length).take 2) = BigEndian.toBytes 2 f.type.toNat := by
    simp
  have hflag : (((BigEndian.toBytes 2 f.type.toNat ++ BigEndian.toBytes 2 f.flags.toNat ++
      BigEndian.toBytes 4 f.payload.length).drop 2).take 2) =
      BigEndian.toBytes 2 f.flags.toNat := by
    simp
  have hlen : ((BigEndian.toBytes 2 f.type.toNat ++ BigEndian.toBytes 2 f.flags.toNat ++
      BigEndian.toBytes 4 f.payload.length).drop 4) =
      BigEndian.toBytes 4 f.payload.length := by
    simp [List.drop_append]
  dsimp only
  rw [htype, hflag, hlen, BigEndian.ofBytes_uint16, BigEndian.ofBytes_uint16,
    BigEndian.ofBytes_toBytes hmax, if_neg (not_not.mpr hflags), if_neg (Nat.not_lt.mpr hf.2),
    Stream.readFull_append rfl rfl]

theorem readFrames_bytes {fs : List Frame} (hfs : ∀ f ∈ fs, f.Sendable) {s : Stream}
    {rest : List UInt8} (h : s.input = (fs.map Frame.bytes).flatten ++ rest) :
    readFrames s fs.length = (.ok fs, { s with input := rest }) := by
  induction fs generalizing s with
  | nil =>
    obtain rfl : s.input = rest := by simpa using h
    rfl
  | cons f fs ih =>
    rw [List.map_cons, List.flatten_cons, List.append_assoc] at h
    rw [List.length_cons, readFrames, readFrame_bytes (hfs f List.mem_cons_self) h]
    dsimp only
    rw [ih (fun g hg => hfs g (List.mem_cons_of_mem _ hg)) rfl]

theorem writeFrame_refuses {s : Stream} {f : Frame} (hf : ¬ f.Sendable) :
    ∃ e, writeFrame s f = (.error e, s) := by
  unfold writeFrame
  split_ifs with hflags hmax
  · exact ⟨_, rfl⟩
  · exact ⟨_, rfl⟩
  · exact absurd ⟨not_not.mp hflags, Nat.le_of_not_gt hmax⟩ hf

/-- What was written could be sent. -/
theorem sendable_of_writeFrame {s s' : Stream} {f : Frame} (h : writeFrame s f = (.ok (), s')) :
    f.Sendable := by
  by_contra hf
  obtain ⟨e, he⟩ := writeFrame_refuses (s := s) hf
  rw [he] at h
  cases h

theorem checkMagic_of_length {s : Stream} (h : magicV2.length ≤ s.input.length) :
    checkMagic s = if magicV2 <+: s.input then
      (.ok true, { s with input := s.input.drop magicV2.length }) else (.ok false, s) := by
  have htake : s.input.take magicV2.length = magicV2 ↔ magicV2 <+: s.input :=
    ⟨fun he => he ▸ List.take_prefix .., fun he => (List.prefix_iff_eq_take.mp he).symm⟩
  simp only [checkMagic, Stream.readFull, if_pos h, htake]

/-- A stream is taken for the second protocol only if it starts with the first byte of the
magic. -/
theorem checkMagic_true {s : Stream} (h : (checkMagic s).1 = .ok true) :
    s.input.head? = some 0x46 := by
  by_cases hlen : magicV2.length ≤ s.input.length
  · rw [checkMagic_of_length hlen] at h
    split at h
    · rename_i hp
      obtain ⟨rest, hr⟩ := hp
      rw [← hr]
      rfl
    · cases h
  · simp [checkMagic, Stream.readFull, hlen] at h

/-- Frames come back from the bytes that `WriteFrame` makes of them, and `CheckMagic` tells
the two protocols apart without losing a byte. -/
theorem frame_streams :
    (∀ (w : Stream) (fs : List Frame), w.Writable →
      (∀ f ∈ fs, f.flags = 0 ∧ f.payload.length ≤ 65536) →
      ∃ w' written, writeFrames w fs = (.ok (), w') ∧ w'.output = w.output ++ written ∧
        ∀ (r : Stream) (trailing : List UInt8), r.input = written ++ trailing →
          readFrames r fs.length = (.ok fs, { r with input := trailing })) ∧
    (∀ (w : Stream) (f : Frame), ¬ (f.flags = 0 ∧ f.payload.length ≤ 65536) →
      ∃ e, writeFrame w f = (.error e, w)) ∧
    (∀ s : Stream, 7 ≤ s.input.length → ∃ isV2 s', checkMagic s = (.ok isV2, s') ∧
      (isV2 = true ↔ magicV2 <+: s.input) ∧
      s'.input = if isV2 then s.input.drop 7 else s.input) ∧
    ∀ (s : Stream) (b : UInt8) (rest : List UInt8), s.input = b :: rest →
      b ∈ msgTypeMap.map Prod.fst → (checkMagic s).1 ≠ .ok true := by
  refine ⟨fun w fs hw hfs => ?_, fun w f hf => writeFrame_refuses hf, fun s hs => ?_, ?_⟩
  · obtain ⟨w', hwrite, -, hout⟩ := hw.writeFrames hfs
    exact ⟨w', _, hwrite, hout, fun r trailing hr => readFrames_bytes hfs hr⟩
  · rw [checkMagic_of_length hs]
    split
    · exact ⟨true, _, rfl, iff_of_true rfl ‹_›, rfl⟩
    · exact ⟨false, _, rfl, iff_of_false nofun ‹_›, rfl⟩
  · intro s b rest hs hb hv2
    have hhead := checkMagic_true hv2
    rw [hs] at hhead
    obtain rfl := Option.some.inj hhead
    revert hb
    decide

/-- An empty frame after one with two bytes of payload, and one byte that follows. -/
theorem frame_streams_two :
    ∃ written, readFrames ⟨written ++ [9], "EOF", [], []⟩ 2 =
      (.ok [{ type := 16, payload := [1, 2] }, { type := 1, payload := [] }],
        ⟨[9], "EOF", [], []⟩) := by
  obtain ⟨-, written, -, -, hread⟩ := frame_streams.1 ⟨[], "EOF", [], []⟩
    [{ type := 16, payload := [1, 2] }, { type := 1, payload := [] }] nofun (by simp)
  exact ⟨written, hread ⟨written ++ [9], "EOF", [], []⟩ [9] rfl⟩

end FrpXtcp.Wire

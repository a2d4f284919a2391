import FrpXtcp.Lib.BigEndian

/-!
# Frames

`Conn` of `pkg/proto/wire`: the frames of the second wire protocol on a byte stream, and
the magic bytes that announce it. A stream is what the peer sends until it stops and the
results of the writes to come.
-/
namespace FrpXtcp.Wire

open FrpXtcp.Lib

/-- `readErr` is the error of a read after the last byte of `input`: end of file, or the
read deadline. `writes` are the results of the next writes, `none` for success; after the
last one every write succeeds. -/
structure Stream where
  input : List UInt8
  readErr : String
  writes : List (Option String)
  output : List UInt8

namespace Stream

/-- `io.ReadFull` for a buffer of `n` bytes. -/
def readFull (s : Stream) (n : Nat) : Except String (List UInt8) × Stream :=
  if n ≤ s.input.length then (.ok (s.input.take n), { s with input := s.input.drop n })
  else
    let err := if s.readErr = "EOF" ∧ s.input ≠ [] then "unexpected EOF" else s.readErr
    (.error err, { s with input := [] })

def write (s : Stream) (b : List UInt8) : Except String Unit × Stream :=
  match s.writes with
  | [] => (.ok (), { s with output := s.output ++ b })
  | none :: ws => (.ok (), { s with writes := ws, output := s.output ++ b })
  | some e :: ws => (.error e, { s with writes := ws })

theorem readFull_ok {s s' : Stream} {n : Nat} {b : List UInt8}
    (h : s.readFull n = (.ok b, s')) :
    b.length = n ∧ s.input = b ++ s'.input ∧ s' = { s with input := s'.input } := by
  unfold readFull at h
  split at h
  · rename_i hn
    cases h
    exact ⟨List.length_take_of_le hn, (List.take_append_drop n s.input).symm, rfl⟩
  · cases h

theorem write_ok {s s' : Stream} {b : List UInt8} (h : s.write b = (.ok (), s')) :
    s'.input = s.input ∧ s'.output = s.output ++ b := by
  unfold write at h
  split at h <;> cases h <;> exact ⟨rfl, rfl⟩

end Stream

def frameTypeClientHello : UInt16 := 1
def frameTypeServerHello : UInt16 := 2
def frameTypeMessage : UInt16 := 16

def defaultMaxFramePayloadSize : Nat := 64 * 1024

structure Frame where
  type : UInt16
  flags : UInt16 := 0
  payload : List UInt8

/-- The bytes of a frame. -/
def Frame.bytes (f : Frame) : List UInt8 :=
  BigEndian.toBytes 2 f.type.toNat ++ BigEndian.toBytes 2 f.flags.toNat ++
    BigEndian.toBytes 4 f.payload.length ++ f.payload

/-- `ReadFrame` -/
def readFrame (s : Stream) : Except String Frame × Stream :=
  match s.readFull 8 with
  | (.error e, s) => (.error e, s)
  | (.ok header, s) =>
    let frameType := UInt16.ofNat (BigEndian.ofBytes (header.take 2))
    let flags := UInt16.ofNat (BigEndian.ofBytes ((header.drop 2).take 2))
    let length := BigEndian.ofBytes (header.drop 4)
    if flags ≠ 0 then (.error s!"unsupported frame flags: {flags}", s)
    else if length > defaultMaxFramePayloadSize then
      (.error s!"frame payload length {length} exceeds limit {defaultMaxFramePayloadSize}", s)
    else
      match s.readFull length with
      | (.error e, s) => (.error e, s)
      | (.ok payload, s) => (.ok { type := frameType, flags := flags, payload := payload }, s)

/-- `WriteFrame`: the header and the payload are two writes. -/
def writeFrame (s : Stream) (f : Frame) : Except String Unit × Stream :=
  if f.flags ≠ 0 then (.error s!"unsupported frame flags: {f.flags}", s)
  else if f.payload.length > defaultMaxFramePayloadSize then
    (.error
      s!"frame payload length {f.payload.length} exceeds limit {defaultMaxFramePayloadSize}", s)
  else
    let header := BigEndian.toBytes 2 f.type.toNat ++ BigEndian.toBytes 2 f.flags.toNat ++
      BigEndian.toBytes 4 f.payload.length
    match s.write header with
    | (.error e, s) => (.error e, s)
    | (.ok (), s) => s.write f.payload

/-- A header is the encoding of the three numbers read from it. -/
theorem header_bytes {header : List UInt8} (h : header.length = 8) :
    header =
      BigEndian.toBytes 2 (UInt16.ofNat (BigEndian.ofBytes (header.take 2))).toNat ++
      BigEndian.toBytes 2 (UInt16.ofNat (BigEndian.ofBytes ((header.drop 2).take 2))).toNat ++
      BigEndian.toBytes 4 (BigEndian.ofBytes (header.drop 4)) := by
  have hlength := BigEndian.toBytes_ofBytes (header.drop 4)
  rw [show (header.drop 4).length = 4 by simp [h]] at hlength
  rw [BigEndian.toBytes_uint16 (by simp [h]), BigEndian.toBytes_uint16 (by simp [h]), hlength,
    List.append_assoc, ← List.drop_drop (i := 2) (j := 2), List.take_append_drop,
    List.take_append_drop]

/-- The frame that is read is the first one of the input. -/
theorem readFrame_ok {s s' : Stream} {f : Frame} (h : readFrame s = (.ok f, s')) :
    f.flags = 0 ∧ f.payload.length ≤ defaultMaxFramePayloadSize ∧
      s.input = f.bytes ++ s'.input ∧ s' = { s with input := s'.input } := by
  unfold readFrame at h
  split at h
  · cases h
  · rename_i header s₁ hheader
    obtain ⟨hlen, hin, hs₁⟩ := Stream.readFull_ok hheader
    dsimp only at h
    split_ifs at h with hflags hmax
    · cases h
    · cases h
    · split at h
      · cases h
      · rename_i payload s₂ hpayload
        obtain ⟨hplen, hpin, hs₂⟩ := Stream.readFull_ok hpayload
        cases h
        refine ⟨by simpa using hflags, ?_, ?_, ?_⟩
        · exact Nat.le_trans (Nat.le_of_eq hplen) (Nat.le_of_not_gt hmax)
        · rw [hin, hpin, Frame.bytes]
          dsimp only
          rw [hplen, ← header_bytes hlen, List.append_assoc]
        · rw [hs₂, hs₁]

theorem writeFrame_ok {s s' : Stream} {f : Frame} (h : writeFrame s f = (.ok (), s')) :
    s'.input = s.input ∧ s'.output = s.output ++ f.bytes := by
  unfold writeFrame at h
  split_ifs at h with hflags hmax
  · cases h
  · cases h
  · dsimp only at h
    split at h
    · cases h
    · rename_i s₁ hheader
      obtain ⟨hin, hout⟩ := Stream.write_ok hheader
      obtain ⟨hin', hout'⟩ := Stream.write_ok h
      exact ⟨hin'.trans hin, by rw [hout', hout, List.append_assoc, Frame.bytes]⟩

/-- `MagicV2`: the letters FRP, the bytes 0 and 2, carriage return and line feed. -/
def magicV2 : List UInt8 := [0x46, 0x52, 0x50, 0x00, 0x02, 0x0d, 0x0a]

/-- `CheckMagic`: without the magic the bytes stay readable. -/
def checkMagic (s : Stream) : Except String Bool × Stream :=
  match s.readFull magicV2.length with
  | (.error e, s) => (.error e, s)
  | (.ok buf, s') => if buf = magicV2 then (.ok true, s') else (.ok false, s)

theorem checkMagic_magic {s : Stream} {rest : List UInt8} (h : s.input = magicV2 ++ rest) :
    checkMagic s = (.ok true, { s with input := rest }) := by
  simp [checkMagic, Stream.readFull, h]

end FrpXtcp.Wire

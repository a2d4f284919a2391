import FrpXtcp.Wire.Hello

/-!
# What the crypto transcript binds

`HashCryptoTranscript` writes a label, the length and the payload of each hello. The lengths
alone say where a payload ends, so that a payload may hold anything, the labels of the format
included.
-/
namespace FrpXtcp.Wire

open FrpXtcp.Lib

/-- The lengths that `PutUint64` can write. -/
def FitsTranscript (payload : List UInt8) : Prop := payload.length < 2 ^ 64

instance (payload : List UInt8) : Decidable (FitsTranscript payload) :=
  inferInstanceAs (Decidable (_ < _))

theorem cryptoTranscriptPart_append (label : String) (payload rest : List UInt8) :
    cryptoTranscriptPart label payload ++ rest =
      ([0] ++ label.toUTF8.toList ++ [0]) ++
        (BigEndian.toBytes 8 payload.length ++ (payload ++ rest)) := by
  simp [cryptoTranscriptPart]

/-- A part can be read off the front of what was written. -/
theorem cryptoTranscriptPart_inj {label : String} {p p' rest rest' : List UInt8}
    (hp : FitsTranscript p) (hp' : FitsTranscript p')
    (h : cryptoTranscriptPart label p ++ rest = cryptoTranscriptPart label p' ++ rest') :
    p = p' ∧ rest = rest' := by
  rw [cryptoTranscriptPart_append, cryptoTranscriptPart_append] at h
  have hframe := List.append_cancel_left h
  exact BigEndian.lengthPrefixed_inj (n := 8) hp hp' hframe

/-- The hashed bytes determine both payloads. -/
theorem cryptoTranscript_inj {c s c' s' : List UInt8} (hc : FitsTranscript c)
    (hs : FitsTranscript s) (hc' : FitsTranscript c') (hs' : FitsTranscript s')
    (h : cryptoTranscript c s = cryptoTranscript c' s') : c = c' ∧ s = s' := by
  unfold cryptoTranscript at h
  rw [List.append_assoc, List.append_assoc] at h
  have hparts := List.append_cancel_left h
  obtain ⟨hclient, hrest⟩ := cryptoTranscriptPart_inj hc hc' hparts
  rw [← List.append_nil (cryptoTranscriptPart _ s),
    ← List.append_nil (cryptoTranscriptPart _ s')] at hrest
  exact ⟨hclient, (cryptoTranscriptPart_inj hs hs' hrest).1⟩

/-- The bytes that two runs hash are equal exactly when both pairs of payloads are. Where the
hash function does not map these two byte strings together, the two ends derive the same
transcript hash exactly when each saw what the other sent. -/
theorem transcript_binds_hellos (c s c' s' : List UInt8) (hc : FitsTranscript c)
    (hs : FitsTranscript s) (hc' : FitsTranscript c') (hs' : FitsTranscript s') :
    (cryptoTranscript c s = cryptoTranscript c' s' ↔ c = c' ∧ s = s') ∧
    ∀ (sha256 : List UInt8 → List UInt8) (algorithm algorithm' : String),
      (sha256 (cryptoTranscript c s) = sha256 (cryptoTranscript c' s') →
        cryptoTranscript c s = cryptoTranscript c' s') →
      ((newCryptoContext sha256 algorithm c s).transcriptHash =
          (newCryptoContext sha256 algorithm' c' s').transcriptHash ↔ c = c' ∧ s = s') := by
  constructor
  · constructor
    · exact cryptoTranscript_inj hc hs hc' hs'
    · rintro ⟨rfl, rfl⟩
      rfl
  · intro sha256 algorithm algorithm' hnocollision
    constructor
    · intro h
      exact cryptoTranscript_inj hc hs hc' hs' (hnocollision h)
    · rintro ⟨rfl, rfl⟩
      rfl

/-- SHA-256 of two transcripts. -/
def movedDigest (bs : List UInt8) : List UInt8 :=
  if bs = cryptoTranscript [1] [0, 115] then
    [0x3a, 0x47, 0xd9, 0x54, 0x8b, 0x9f, 0x96, 0xa7, 0xc6, 0xb4, 0xf6, 0x6f, 0xca, 0xd9, 0xdc,
      0x0c, 0xf8, 0x28, 0xbb, 0xd6, 0x3e, 0x07, 0x6d, 0xf1, 0xc9, 0xce, 0x69, 0x00, 0x6f, 0xf9,
      0xf8, 0x3e]
  else if bs = cryptoTranscript [1, 0, 115] [] then
    [0xcc, 0xa0, 0xac, 0xa3, 0x95, 0x0e, 0x67, 0x2e, 0xc0, 0xe9, 0x4f, 0x6c, 0x5a, 0x6f, 0x91,
      0xc2, 0xb3, 0x8d, 0xdc, 0xed, 0xb0, 0x80, 0x0e, 0x01, 0x71, 0xce, 0x23, 0x1e, 0xbe, 0xf6,
      0x40, 0x9d]
  else []

/-- Bytes moved from the server's payload to the client's change the transcript and its hash. -/
theorem transcript_binds_hellos_moved :
    cryptoTranscript [1] [0, 115] ≠ cryptoTranscript [1, 0, 115] [] ∧
    (newCryptoContext movedDigest aeadAlgorithmAES256GCM [1] [0, 115]).transcriptHash ≠
      (newCryptoContext movedDigest aeadAlgorithmAES256GCM [1, 0, 115] []).transcriptHash := by
  obtain ⟨hbytes, hhash⟩ := transcript_binds_hellos [1] [0, 115] [1, 0, 115] [] (by decide)
    (by decide) (by decide) (by decide)
  constructor
  · intro h
    exact absurd (hbytes.mp h).1 (by decide)
  · intro h
    have hnocollision : movedDigest (cryptoTranscript [1] [0, 115]) =
        movedDigest (cryptoTranscript [1, 0, 115] []) →
        cryptoTranscript [1] [0, 115] = cryptoTranscript [1, 0, 115] [] := by
      decide +kernel
    exact absurd ((hhash movedDigest _ _ hnocollision).mp h).1 (by decide)

end FrpXtcp.Wire

import FrpXtcp.Wire.Frame

/-!
# Hello negotiation

`NewServerHello` and `ValidateServerHelloForClient` of `pkg/proto/wire`. The server
selects from what a ClientHello offers and the client checks a selection against its own
offer; the two are separate code over the same lists. The random source is an argument,
of the 32 bytes that `newCryptoRandom` asks for. The transcript of a negotiation is built
from the two payloads as they were on the wire.
-/
namespace FrpXtcp.Wire

open FrpXtcp.Lib

def messageCodecJSON : String := "json"
def udpPacketCodecBinary : String := "binary-v1"
def aeadAlgorithmAES256GCM : String := "aes-256-gcm"
def aeadAlgorithmXChaCha20Poly1305 : String := "xchacha20-poly1305"
def cryptoRandomSize : Nat := 32

def supportedAEADAlgorithms : List String :=
  [aeadAlgorithmAES256GCM, aeadAlgorithmXChaCha20Poly1305]

structure MessageCapabilities where
  codecs : List String
  udpPacketCodecs : List String

structure CryptoCapabilities where
  algorithms : List String
  clientRandom : List UInt8

structure ClientCapabilities where
  message : MessageCapabilities
  crypto : CryptoCapabilities

/-- The bootstrap information of a ClientHello is not looked at. -/
structure ClientHello where
  capabilities : ClientCapabilities

structure MessageSelection where
  codec : String
  udpPacketCodec : String
  deriving DecidableEq

structure CryptoSelection where
  algorithm : String
  serverRandom : List UInt8
  deriving DecidableEq

structure ServerSelection where
  message : MessageSelection
  crypto : CryptoSelection
  deriving DecidableEq

structure ServerHello where
  selected : ServerSelection
  error : String := ""
  deriving DecidableEq

/-- `Supports` -/
def supports (list : List String) (value : String) : Bool := list.contains value

def isSupportedAEADAlgorithm (algorithm : String) : Bool :=
  supports supportedAEADAlgorithms algorithm

/-- `SelectAEADAlgorithm`; `none` is its second result `false`. -/
def selectAEADAlgorithm : List String → Option String
  | [] => none
  | algorithm :: rest =>
    if isSupportedAEADAlgorithm algorithm then some algorithm else selectAEADAlgorithm rest

def selectUDPPacketCodec (codecs : List String) : String :=
  if supports codecs udpPacketCodecBinary then udpPacketCodecBinary else ""

def validateCryptoCapabilities (c : CryptoCapabilities) : Except String Unit :=
  if c.clientRandom.length ≠ cryptoRandomSize then
    .error s!"invalid crypto client random length {c.clientRandom.length}, want {cryptoRandomSize}"
  else if (selectAEADAlgorithm c.algorithms).isNone then .error "no supported crypto algorithm"
  else .ok ()

def validateClientHello (h : ClientHello) : Except String Unit :=
  if !supports h.capabilities.message.codecs messageCodecJSON then
    .error "unsupported message codec"
  else validateCryptoCapabilities h.capabilities.crypto

/-- `newCryptoRandom` on what `rand.Read` gives for its buffer. -/
def newCryptoRandom (random : Except String (Vector UInt8 cryptoRandomSize)) :
    Except String (List UInt8) :=
  match random with
  | .error e => .error s!"generate crypto random: {e}"
  | .ok b => .ok b.toList

def newServerHello (random : Except String (Vector UInt8 cryptoRandomSize)) (h : ClientHello) :
    Except String ServerHello :=
  match validateClientHello h with
  | .error e => .error e
  | .ok () =>
    match selectAEADAlgorithm h.capabilities.crypto.algorithms with
    | none => .error "no supported crypto algorithm"
    | some algorithm =>
      match newCryptoRandom random with
      | .error e => .error e
      | .ok serverRandom =>
        .ok { selected :=
          { message :=
              { codec := messageCodecJSON
                udpPacketCodec := selectUDPPacketCodec h.capabilities.message.udpPacketCodecs }
            crypto := { algorithm := algorithm, serverRandom := serverRandom } } }

def defaultServerHello : ServerHello :=
  { selected := { message := ⟨messageCodecJSON, ""⟩, crypto := ⟨"", []⟩ } }

def validateServerHelloForClient (h : ClientHello) (s : ServerHello) : Except String Unit :=
  let codec := s.selected.message.codec
  let udpPacketCodec := s.selected.message.udpPacketCodec
  let algorithm := s.selected.crypto.algorithm
  let length := s.selected.crypto.serverRandom.length
  if codec ≠ messageCodecJSON then .error s!"unsupported selected message codec: {codec}"
  else if udpPacketCodec ≠ "" ∧ udpPacketCodec ≠ udpPacketCodecBinary then
    .error s!"unsupported selected UDP packet codec: {udpPacketCodec}"
  else if udpPacketCodec ≠ "" ∧ !supports h.capabilities.message.udpPacketCodecs udpPacketCodec then
    .error s!"selected UDP packet codec was not advertised by client: {udpPacketCodec}"
  else if !isSupportedAEADAlgorithm algorithm then
    .error s!"unknown selected crypto algorithm: {algorithm}"
  else if !supports h.capabilities.crypto.algorithms algorithm then
    .error s!"selected crypto algorithm was not advertised by client: {algorithm}"
  else if length ≠ cryptoRandomSize then
    .error s!"invalid crypto server random length {length}, want {cryptoRandomSize}"
  else .ok ()

structure CryptoContext where
  algorithm : String
  transcriptHash : List UInt8
  deriving DecidableEq

def cryptoTranscriptLabel : String := "frp wire v2 crypto transcript"

/-- What `writeCryptoTranscriptPart` adds to the hash. -/
def cryptoTranscriptPart (label : String) (payload : List UInt8) : List UInt8 :=
  [0] ++ label.toUTF8.toList ++ [0] ++ BigEndian.toBytes 8 payload.length ++ payload

/-- The bytes that `HashCryptoTranscript` hashes. -/
def cryptoTranscript (clientHelloPayload serverHelloPayload : List UInt8) : List UInt8 :=
  cryptoTranscriptLabel.toUTF8.toList ++ cryptoTranscriptPart "client hello" clientHelloPayload ++
    cryptoTranscriptPart "server hello" serverHelloPayload

/-- `NewCryptoContext`, for the hash function `sha256`. -/
def newCryptoContext (sha256 : List UInt8 → List UInt8) (algorithm : String)
    (clientHelloPayload serverHelloPayload : List UInt8) : CryptoContext :=
  { algorithm := algorithm
    transcriptHash := sha256 (cryptoTranscript clientHelloPayload serverHelloPayload) }

/-- `a` is the first supported algorithm of the list. -/
def FirstSupported (algorithms : List String) (a : String) : Prop :=
  ∃ before after, algorithms = before ++ a :: after ∧ a ∈ supportedAEADAlgorithms ∧
    ∀ x ∈ before, x ∉ supportedAEADAlgorithms

theorem FirstSupported.mem {algorithms : List String} {a : String}
    (h : FirstSupported algorithms a) : a ∈ algorithms := by
  obtain ⟨before, after, rfl, -, -⟩ := h
  simp

theorem isSupportedAEADAlgorithm_iff (a : String) :
    isSupportedAEADAlgorithm a = true ↔ a ∈ supportedAEADAlgorithms := by
  simp [isSupportedAEADAlgorithm, supports]

/-- The selection is the first supported algorithm in the client's order. -/
theorem selectAEADAlgorithm_some {algorithms : List String} {a : String}
    (h : selectAEADAlgorithm algorithms = some a) : FirstSupported algorithms a := by
  induction algorithms with
  | nil => cases h
  | cons x rest ih =>
    simp only [selectAEADAlgorithm] at h
    split at h
    · rename_i hx
      obtain rfl := Option.some.inj h
      exact ⟨[], rest, rfl, (isSupportedAEADAlgorithm_iff x).mp hx, by simp⟩
    · rename_i hx
      obtain ⟨before, after, rfl, ha, hbefore⟩ := ih h
      refine ⟨x :: before, after, rfl, ha, ?_⟩
      intro y hy
      rcases List.mem_cons.mp hy with rfl | hy
      · exact fun hy => hx ((isSupportedAEADAlgorithm_iff y).mpr hy)
      · exact hbefore y hy

theorem selectAEADAlgorithm_isSome_iff (algorithms : List String) :
    (selectAEADAlgorithm algorithms).isSome ↔ ∃ a ∈ algorithms, a ∈ supportedAEADAlgorithms := by
  induction algorithms with
  | nil => simp [selectAEADAlgorithm]
  | cons x rest ih =>
    simp only [selectAEADAlgorithm]
    split
    · rename_i hx
      have hs := (isSupportedAEADAlgorithm_iff x).mp hx
      simp [hs]
    · rename_i hx
      have hs : x ∉ supportedAEADAlgorithms :=
        fun h => hx ((isSupportedAEADAlgorithm_iff x).mpr h)
      simp [ih, hs]

theorem validateClientHello_ok_iff (h : ClientHello) :
    validateClientHello h = .ok () ↔
      messageCodecJSON ∈ h.capabilities.message.codecs ∧
      h.capabilities.crypto.clientRandom.length = cryptoRandomSize ∧
      ∃ a ∈ h.capabilities.crypto.algorithms, a ∈ supportedAEADAlgorithms := by
  rw [← selectAEADAlgorithm_isSome_iff]
  unfold validateClientHello validateCryptoCapabilities
  by_cases hj : messageCodecJSON ∈ h.capabilities.message.codecs
  · by_cases hl : h.capabilities.crypto.clientRandom.length = cryptoRandomSize
    · cases hs : selectAEADAlgorithm h.capabilities.crypto.algorithms <;> simp [supports, hj, hl]
    · simp [supports, hj, hl]
  · simp [supports, hj]

theorem newServerHello_ok_iff {h : ClientHello} {b : Vector UInt8 cryptoRandomSize}
    {s : ServerHello} : newServerHello (.ok b) h = .ok s ↔
      validateClientHello h = .ok () ∧
      ∃ a, selectAEADAlgorithm h.capabilities.crypto.algorithms = some a ∧
        s = { selected :=
          { message := ⟨messageCodecJSON,
              selectUDPPacketCodec h.capabilities.message.udpPacketCodecs⟩
            crypto := ⟨a, b.toList⟩ } } := by
  unfold newServerHello
  cases hv : validateClientHello h with
  | error e => simp
  | ok u =>
    cases hs : selectAEADAlgorithm h.capabilities.crypto.algorithms with
    | none => simp
    | some a => simp [newCryptoRandom, eq_comm]

/-- What the client's check accepts. -/
theorem validateServerHelloForClient_ok_iff (h : ClientHello) (s : ServerHello) :
    validateServerHelloForClient h s = .ok () ↔
      s.selected.message.codec = messageCodecJSON ∧
      (s.selected.message.udpPacketCodec = "" ∨
        s.selected.message.udpPacketCodec = udpPacketCodecBinary ∧
        s.selected.message.udpPacketCodec ∈ h.capabilities.message.udpPacketCodecs) ∧
      s.selected.crypto.algorithm ∈ supportedAEADAlgorithms ∧
      s.selected.crypto.algorithm ∈ h.capabilities.crypto.algorithms ∧
      s.selected.crypto.serverRandom.length = cryptoRandomSize := by
  unfold validateServerHelloForClient
  dsimp only
  split_ifs with h1 h2 h3 h4 h5 h6
  · simp [h1]
  · simp only [false_iff]
    rintro ⟨-, hu | ⟨hu, -⟩, -⟩
    · exact h2.1 hu
    · exact h2.2 hu
  · simp only [false_iff]
    rintro ⟨-, hu | ⟨-, hu⟩, -⟩
    · exact h3.1 hu
    · simp [supports, hu] at h3
  · simp only [false_iff]
    rintro ⟨-, -, hs, -⟩
    rw [(isSupportedAEADAlgorithm_iff _).mpr hs] at h4
    cases h4
  · simp only [false_iff]
    rintro ⟨-, -, -, ha, -⟩
    simp [supports, ha] at h5
  · simp only [false_iff]
    rintro ⟨-, -, -, -, hl⟩
    exact h6 hl
  · refine iff_of_true rfl ⟨by simpa using h1, ?_, ?_, ?_, by simpa using h6⟩
    · by_cases hu : s.selected.message.udpPacketCodec = ""
      · exact Or.inl hu
      · refine Or.inr ⟨by_contra fun hb => h2 ⟨hu, hb⟩, ?_⟩
        simpa [supports, hu] using h3
    · exact (isSupportedAEADAlgorithm_iff _).mp (by simpa using h4)
    · simpa [supports] using h5

/-- What the two ends promise each other about a ClientHello: the server answers exactly the
hellos it can serve, its answer follows the client's order and passes the client's check, and
whatever passes that check was offered by the client and is supported here. -/
structure Negotiated (h : ClientHello) : Prop where
  answers : ∀ b, (∃ s, newServerHello (.ok b) h = .ok s) ↔
    messageCodecJSON ∈ h.capabilities.message.codecs ∧
    h.capabilities.crypto.clientRandom.length = cryptoRandomSize ∧
    ∃ a ∈ h.capabilities.crypto.algorithms, a ∈ supportedAEADAlgorithms
  selects : ∀ b s, newServerHello (.ok b) h = .ok s →
    FirstSupported h.capabilities.crypto.algorithms s.selected.crypto.algorithm ∧
    (s.selected.message.udpPacketCodec = udpPacketCodecBinary ↔
      udpPacketCodecBinary ∈ h.capabilities.message.udpPacketCodecs) ∧
    validateServerHelloForClient h s = .ok ()
  checked : ∀ s, validateServerHelloForClient h s = .ok () →
    (s.selected.crypto.algorithm ∈ h.capabilities.crypto.algorithms ∧
      s.selected.crypto.algorithm ∈ supportedAEADAlgorithms) ∧
    (s.selected.message.codec ∈ h.capabilities.message.codecs ∧
      s.selected.message.codec = messageCodecJSON) ∧
    (s.selected.message.udpPacketCodec ≠ "" →
      s.selected.message.udpPacketCodec ∈ h.capabilities.message.udpPacketCodecs ∧
      s.selected.message.udpPacketCodec = udpPacketCodecBinary) ∧
    s.selected.crypto.serverRandom.length = cryptoRandomSize

theorem newServerHello_answers (h : ClientHello) (b : Vector UInt8 cryptoRandomSize) :
    (∃ s, newServerHello (.ok b) h = .ok s) ↔ validateClientHello h = .ok () := by
  simp only [newServerHello_ok_iff, exists_and_left, and_iff_left_iff_imp]
  intro hv
  obtain ⟨a, ha⟩ := Option.isSome_iff_exists.mp
    ((selectAEADAlgorithm_isSome_iff _).mpr ((validateClientHello_ok_iff h).mp hv).2.2)
  exact ⟨_, a, ha, rfl⟩

theorem selectUDPPacketCodec_eq_binary_iff (codecs : List String) :
    selectUDPPacketCodec codecs = udpPacketCodecBinary ↔ udpPacketCodecBinary ∈ codecs := by
  simp [selectUDPPacketCodec, supports, udpPacketCodecBinary]

/-- The server's own answer passes the client's check. -/
theorem newServerHello_selects {h : ClientHello} {b : Vector UInt8 cryptoRandomSize}
    {s : ServerHello} (hs : newServerHello (.ok b) h = .ok s) :
    FirstSupported h.capabilities.crypto.algorithms s.selected.crypto.algorithm ∧
    (s.selected.message.udpPacketCodec = udpPacketCodecBinary ↔
      udpPacketCodecBinary ∈ h.capabilities.message.udpPacketCodecs) ∧
    validateServerHelloForClient h s = .ok () := by
  obtain ⟨-, a, ha, rfl⟩ := newServerHello_ok_iff.mp hs
  have hfirst := selectAEADAlgorithm_some ha
  refine ⟨hfirst, selectUDPPacketCodec_eq_binary_iff _, ?_⟩
  refine (validateServerHelloForClient_ok_iff _ _).mpr ⟨rfl, ?_, ?_, hfirst.mem, b.length_toList⟩
  · by_cases hb : udpPacketCodecBinary ∈ h.capabilities.message.udpPacketCodecs
    · have hu := (selectUDPPacketCodec_eq_binary_iff _).mpr hb
      exact Or.inr ⟨hu, hu.symm ▸ hb⟩
    · exact Or.inl (by simp [selectUDPPacketCodec, supports, hb])
  · obtain ⟨_, _, -, hsup, -⟩ := hfirst
    exact hsup

/-- The client's check compares the message codec with its own constant and never with what
the ClientHello offered, as it does for the UDP codec and the algorithm. The promise holds for
the hellos that offer `json`, and for those no ServerHello can answer. -/
theorem negotiated_iff (h : ClientHello) :
    Negotiated h ↔ messageCodecJSON ∈ h.capabilities.message.codecs ∨
      ∀ a ∈ h.capabilities.crypto.algorithms, a ∉ supportedAEADAlgorithms := by
  constructor
  · intro hn
    by_contra hnot
    simp only [not_or, not_forall, not_not, exists_prop] at hnot
    obtain ⟨hj, a, ha, hsup⟩ := hnot
    -- any selection of a shared algorithm is accepted, with the codec never offered
    let s : ServerHello := ⟨⟨⟨messageCodecJSON, ""⟩, ⟨a, List.replicate cryptoRandomSize 0⟩⟩, ""⟩
    have hs : validateServerHelloForClient h s = .ok () :=
      (validateServerHelloForClient_ok_iff h s).mpr
        ⟨rfl, Or.inl rfl, hsup, ha, List.length_replicate⟩
    exact hj (hn.checked s hs).2.1.1
  · intro hc
    refine ⟨fun b => (newServerHello_answers h b).trans (validateClientHello_ok_iff h),
      fun b s => newServerHello_selects, ?_⟩
    intro s hs
    obtain ⟨hcodec, hudp, hsup, ha, hlen⟩ := (validateServerHelloForClient_ok_iff h s).mp hs
    refine ⟨⟨ha, hsup⟩, ⟨?_, hcodec⟩, fun hne => (hudp.resolve_left hne).symm, hlen⟩
    rcases hc with hj | hnone
    · exact hcodec.symm ▸ hj
    · exact absurd hsup (hnone _ ha)

/-- A client that offers no message codec accepts a ServerHello that selects one. -/
theorem unoffered_codec_accepted :
    let h : ClientHello :=
      ⟨⟨⟨[], []⟩, ⟨[aeadAlgorithmAES256GCM], List.replicate cryptoRandomSize 0⟩⟩⟩
    let s : ServerHello :=
      ⟨⟨⟨messageCodecJSON, ""⟩, ⟨aeadAlgorithmAES256GCM, List.replicate cryptoRandomSize 0⟩⟩, ""⟩
    validateServerHelloForClient h s = .ok () ∧
      s.selected.message.codec ∉ h.capabilities.message.codecs := by
  refine ⟨(validateServerHelloForClient_ok_iff _ _).mpr ?_, ?_⟩ <;> decide +kernel

end FrpXtcp.Wire

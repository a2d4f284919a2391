import FrpXtcp.Wire.Transcript

/-!
# The client's hello and the keys of a control connection

The client's half of the negotiation in `pkg/proto/wire/crypto.go`, and the keys that both
ends derive from it in `pkg/util/net/conn.go`: one key for each direction, from the shared
secret, the transcript hash and a text that names the algorithm and the direction.
-/
namespace FrpXtcp.Wire

open FrpXtcp.Lib

/-- `PreferredAEADAlgorithms`, by what `hasFastAESGCM` finds. -/
def preferredAEADAlgorithms (fastAESGCM : Bool) : List String :=
  if fastAESGCM then [aeadAlgorithmAES256GCM, aeadAlgorithmXChaCha20Poly1305]
  else [aeadAlgorithmXChaCha20Poly1305, aeadAlgorithmAES256GCM]

def clientHelloWithCryptoRandom (fastAESGCM : Bool) (clientRandom : List UInt8) : ClientHello :=
  { capabilities :=
    { message := { codecs := [messageCodecJSON], udpPacketCodecs := [udpPacketCodecBinary] }
      crypto :=
        { algorithms := preferredAEADAlgorithms fastAESGCM, clientRandom := clientRandom } } }

def newClientHello (fastAESGCM : Bool) (random : Except String (Vector UInt8 cryptoRandomSize)) :
    Except String ClientHello :=
  match newCryptoRandom random with
  | .error e => .error e
  | .ok clientRandom => .ok (clientHelloWithCryptoRandom fastAESGCM clientRandom)

/-- `NewClientCryptoContext`: both payloads are decoded again, as they were on the wire. -/
def newClientCryptoContext (unmarshalClient : List UInt8 → Except String ClientHello)
    (unmarshalServer : List UInt8 → Except String ServerHello) (sha256 : List UInt8 → List UInt8)
    (clientHelloPayload serverHelloPayload : List UInt8) : Except String CryptoContext :=
  match unmarshalClient clientHelloPayload with
  | .error e => .error s!"decode ClientHello transcript: {e}"
  | .ok clientHello =>
    match unmarshalServer serverHelloPayload with
    | .error e => .error s!"decode ServerHello transcript: {e}"
    | .ok serverHello =>
      match validateServerHelloForClient clientHello serverHello with
      | .error e => .error e
      | .ok () =>
        .ok (newCryptoContext sha256 serverHello.selected.crypto.algorithm clientHelloPayload
          serverHelloPayload)

theorem newClientCryptoContext_ok {unmarshalClient : List UInt8 → Except String ClientHello}
    {unmarshalServer : List UInt8 → Except String ServerHello} {sha256 : List UInt8 → List UInt8}
    {cp sp : List UInt8} {context : CryptoContext}
    (h : newClientCryptoContext unmarshalClient unmarshalServer sha256 cp sp = .ok context) :
    ∃ clientHello serverHello, unmarshalClient cp = .ok clientHello ∧
      unmarshalServer sp = .ok serverHello ∧
      validateServerHelloForClient clientHello serverHello = .ok () ∧
      context = newCryptoContext sha256 serverHello.selected.crypto.algorithm cp sp := by
  unfold newClientCryptoContext at h
  split at h
  · cases h
  · rename_i clientHello hclient
    split at h
    · cases h
    · rename_i serverHello hserver
      split at h
      · cases h
      · cases h
        exact ⟨clientHello, serverHello, hclient, hserver, ‹_›, rfl⟩

inductive AEADCryptoRole where
  | client
  | server

inductive AEADDirection where
  | clientToServer
  | serverToClient
  deriving DecidableEq

def AEADDirection.text : AEADDirection → String
  | .clientToServer => "client-to-server"
  | .serverToClient => "server-to-client"

def aeadControlHKDFInfoPrefix : String := "frp wire v2 control aead"

/-- The `info` of `deriveAEADControlKey`. -/
def aeadControlInfo (algorithm : String) (direction : AEADDirection) : String :=
  aeadControlHKDFInfoPrefix ++ " " ++ algorithm ++ " " ++ direction.text

/-- `hkdf.Key` on a secret, a salt and an info, and whether the streams of the crypto library
take an algorithm and a key. -/
structure CryptoLib (K : Type) where
  hkdf : List UInt8 → List UInt8 → String → Except String K
  newAEADStreamReader : String → K → Except String Unit
  newAEADStreamWriter : String → K → Except String Unit

/-- An encrypted connection by what it encrypts with. -/
structure ControlCipher (K : Type) where
  algorithm : String
  readKey : K
  writeKey : K

variable {K : Type} (lib : CryptoLib K)

def deriveAEADControlKey (key : List UInt8) (algorithm : String) (transcriptHash : List UInt8)
    (direction : AEADDirection) : Except String K :=
  lib.hkdf key transcriptHash (aeadControlInfo algorithm direction)

/-- The key of the direction from the client first. -/
def deriveAEADControlKeys (key : List UInt8) (algorithm : String) (transcriptHash : List UInt8) :
    Except String (K × K) :=
  match deriveAEADControlKey lib key algorithm transcriptHash .clientToServer with
  | .error e => .error e
  | .ok clientToServerKey =>
    match deriveAEADControlKey lib key algorithm transcriptHash .serverToClient with
    | .error e => .error e
    | .ok serverToClientKey => .ok (clientToServerKey, serverToClientKey)

/-- Its keys by role: an end writes with the key of the direction away from it. -/
def AEADCryptoRole.cipher (role : AEADCryptoRole) (algorithm : String) (keys : K × K) :
    ControlCipher K :=
  match role with
  | .client => { algorithm := algorithm, readKey := keys.2, writeKey := keys.1 }
  | .server => { algorithm := algorithm, readKey := keys.1, writeKey := keys.2 }

def newAEADCryptoReadWriter (key : List UInt8) (role : AEADCryptoRole) (algorithm : String)
    (transcriptHash : List UInt8) : Except String (ControlCipher K) :=
  match deriveAEADControlKeys lib key algorithm transcriptHash with
  | .error e => .error e
  | .ok keys =>
    let cipher := role.cipher algorithm keys
    match lib.newAEADStreamReader algorithm cipher.readKey with
    | .error e => .error e
    | .ok () =>
      match lib.newAEADStreamWriter algorithm cipher.writeKey with
      | .error e => .error e
      | .ok () => .ok cipher

variable {lib}

/-- A cipher has the keys of its two directions. -/
theorem newAEADCryptoReadWriter_ok {key : List UInt8} {role : AEADCryptoRole} {algorithm : String}
    {transcriptHash : List UInt8} {cipher : ControlCipher K}
    (h : newAEADCryptoReadWriter lib key role algorithm transcriptHash = .ok cipher) :
    ∃ up down, lib.hkdf key transcriptHash (aeadControlInfo algorithm .clientToServer) = .ok up ∧
      lib.hkdf key transcriptHash (aeadControlInfo algorithm .serverToClient) = .ok down ∧
      cipher = role.cipher algorithm (up, down) := by
  unfold newAEADCryptoReadWriter deriveAEADControlKeys deriveAEADControlKey at h
  split at h
  · cases h
  · rename_i keys hkeys
    split at hkeys
    · cases hkeys
    · rename_i up hup
      split at hkeys
      · cases hkeys
      · rename_i down hdown
        cases hkeys
        dsimp only at h
        split at h
        · cases h
        · split at h
          · cases h
          · cases h
            exact ⟨up, down, hup, hdown, rfl⟩

/-- The texts of the directions end in different letters and are equally long, so that a text
names one algorithm and one direction, whatever the algorithm is called. -/
theorem aeadControlInfo_inj {a a' : String} {d d' : AEADDirection}
    (h : aeadControlInfo a d = aeadControlInfo a' d') : a = a' ∧ d = d' := by
  have hlist := congrArg String.toList h
  simp only [aeadControlInfo, String.toList_append, List.append_assoc] at hlist
  have hrest := List.append_cancel_left (List.append_cancel_left hlist)
  have hlen : ∀ d : AEADDirection, (" ".toList ++ d.text.toList).length = 17 := by
    intro d
    cases d <;> decide
  obtain ⟨ha, hd⟩ := List.append_inj' hrest ((hlen d).trans (hlen d').symm)
  refine ⟨String.toList_inj.mp ha, ?_⟩
  have htext := List.append_cancel_left hd
  cases d <;> cases d' <;> first | rfl | (revert htext; decide)

/-- What an end derives its keys from: its secret, the payloads of the two hellos as it has sent
or read them, and the algorithm. -/
structure KeySource where
  secret : List UInt8
  clientHello : List UInt8
  serverHello : List UInt8
  algorithm : String

namespace KeySource

def transcript (x : KeySource) : List UInt8 := cryptoTranscript x.clientHello x.serverHello

/-- The arguments of `hkdf.Key` for a direction. -/
def args (sha256 : List UInt8 → List UInt8) (x : KeySource) (direction : AEADDirection) :
    List UInt8 × List UInt8 × String :=
  (x.secret, sha256 x.transcript, aeadControlInfo x.algorithm direction)

/-- The cipher of an end that has these. -/
def cipher (x : KeySource) (lib : CryptoLib K) (sha256 : List UInt8 → List UInt8)
    (role : AEADCryptoRole) : Except String (ControlCipher K) :=
  newAEADCryptoReadWriter lib x.secret role x.algorithm (sha256 x.transcript)

/-- The two transcripts differ and have the same hash, or for some direction the arguments of
`hkdf.Key` differ and give the same key. -/
def Collide (lib : CryptoLib K) (sha256 : List UInt8 → List UInt8) (x y : KeySource) : Prop :=
  (x.transcript ≠ y.transcript ∧ sha256 x.transcript = sha256 y.transcript) ∨
    ∃ direction k, x.args sha256 direction ≠ y.args sha256 direction ∧
      lib.hkdf x.secret (sha256 x.transcript) (aeadControlInfo x.algorithm direction) = .ok k ∧
      lib.hkdf y.secret (sha256 y.transcript) (aeadControlInfo y.algorithm direction) = .ok k

theorem not_collide_self (lib : CryptoLib K) (sha256 : List UInt8 → List UInt8) (x : KeySource) :
    ¬ Collide lib sha256 x x := by
  rintro (⟨hne, -⟩ | ⟨direction, k, hne, -⟩)
  · exact hne rfl
  · exact hne rfl

/-- The hellos are short enough for their lengths in the transcript. -/
def Fits (x : KeySource) : Prop := FitsTranscript x.clientHello ∧ FitsTranscript x.serverHello

theorem eq_of_args_eq {sha256 : List UInt8 → List UInt8} {x y : KeySource} (hx : x.Fits)
    (hy : y.Fits) {direction : AEADDirection}
    (h : x.args sha256 direction = y.args sha256 direction)
    (hsha : ¬ (x.transcript ≠ y.transcript ∧ sha256 x.transcript = sha256 y.transcript)) :
    x = y := by
  obtain ⟨hsecret, hrest⟩ := Prod.mk.inj h
  obtain ⟨hhash, hinfo⟩ := Prod.mk.inj hrest
  have halgorithm := (aeadControlInfo_inj hinfo).1
  have htranscript : x.transcript = y.transcript := by
    by_contra hne
    exact hsha ⟨hne, hhash⟩
  obtain ⟨hclient, hserver⟩ := cryptoTranscript_inj hx.1 hx.2 hy.1 hy.2 htranscript
  cases x
  cases y
  simp_all

/-- If one end reads with a key that the other writes with, then both have derived their keys
from the same, and those of the other direction are the same as well; or what the two have
collides. -/
theorem agree_or_collide {sha256 : List UInt8 → List UInt8} {x y : KeySource} (hx : x.Fits)
    (hy : y.Fits) {client server : ControlCipher K} (hc : x.cipher lib sha256 .client = .ok client)
    (hs : y.cipher lib sha256 .server = .ok server)
    (hmatch : client.writeKey = server.readKey ∨ client.readKey = server.writeKey) :
    Collide lib sha256 x y ∨
      x = y ∧ client.writeKey = server.readKey ∧ client.readKey = server.writeKey := by
  obtain ⟨up, down, hup, hdown, rfl⟩ := newAEADCryptoReadWriter_ok hc
  obtain ⟨up', down', hup', hdown', rfl⟩ := newAEADCryptoReadWriter_ok hs
  simp only [AEADCryptoRole.cipher] at hmatch ⊢
  by_cases hcollide : Collide lib sha256 x y
  · exact Or.inl hcollide
  · right
    obtain ⟨hsha, hhkdf⟩ := not_or.mp hcollide
    have hsame : ∃ direction, x.args sha256 direction = y.args sha256 direction := by
      by_contra hne
      rcases hmatch with rfl | rfl
      · exact hhkdf ⟨.clientToServer, up, fun h => hne ⟨_, h⟩, hup, hup'⟩
      · exact hhkdf ⟨.serverToClient, down, fun h => hne ⟨_, h⟩, hdown, hdown'⟩
    obtain ⟨direction, hargs⟩ := hsame
    obtain rfl := eq_of_args_eq hx hy hargs hsha
    refine ⟨rfl, ?_, ?_⟩
    · exact Except.ok.inj (hup.symm.trans hup')
    · exact Except.ok.inj (hdown.symm.trans hdown')

end KeySource

end FrpXtcp.Wire

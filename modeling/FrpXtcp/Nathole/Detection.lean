import Mathlib.Logic.Function.Basic
import FrpXtcp.Lib.Transition
import FrpXtcp.Nathole.Analysis

/-!
# Detection of the peer

`waitDetectMessage` and `sendSidMessage` (`pkg/nathole/nathole.go`) over UDP: any number of
loops, each with its sid, key and role, and any number of detect messages. The network hands
arbitrary bytes to any loop at any time, so it loses, repeats, delays and reorders datagrams;
what the cipher excludes is a datagram that decodes and that nobody holding the key has sent.
-/
namespace FrpXtcp.Nathole.Detection

open FrpXtcp.Lib

/-- `msg.NatHoleSid` -/
structure NatHoleSid where
  transactionID : String
  sid : String
  response : Bool
  nonce : String
  deriving DecidableEq

abbrev Bytes := List UInt8

/-- The size of the buffer that a loop reads into. -/
def bufSize : Nat := 1024

/-- `EncodeMessage` and `DecodeMessageInto`; the encoding also takes the random bytes of the
cipher. What was encoded under a key decodes under it to the same message if it fits into the
buffer; of longer messages the library refuses those over 10240 bytes. -/
structure Codec where
  encodeMessage : Bytes → NatHoleSid → Bytes → Except String Bytes
  decodeMessageInto : Bytes → Bytes → Except String NatHoleSid
  decode_encode : ∀ {key m iv data}, encodeMessage key m iv = .ok data →
    data.length ≤ bufSize → decodeMessageInto key data = .ok m

/-- The arguments of one call of `waitDetectMessage`. -/
structure Loop where
  sid : String
  key : Bytes
  role : DetectRole
  deriving DecidableEq

/-- `returning` and `returned` carry the datagram that ended the loop, the address it came
from and the response that was written, if any. -/
inductive Pc where
  | reading
  | replying (data : Bytes) (raddr : String) (m : NatHoleSid)
  | returning (data : Bytes) (raddr : String) (response : Option NatHoleSid)
  | returned (data : Bytes) (raddr : String) (response : Option NatHoleSid)
  | failed (err : String)

/-- A datagram on the network, with the key and the message it was made of. -/
structure Packet where
  key : Bytes
  msg : NatHoleSid
  data : Bytes
  deriving DecidableEq

structure State where
  pc : Nat → Pc
  sent : List Packet

inductive Action where
  /-- `sendSidMessage`; `written` is whether `WriteToUDP` succeeds -/
  | sendSid (key : Bytes) (transactionID sid nonce : String) (iv : Bytes) (written : Bool)
  /-- `ReadFromUDP` of loop `i` returns, with all that follows up to a reply -/
  | receive (i : Nat) (data : Bytes) (raddr : String)
  | readError (i : Nat) (err : String)
  /-- `EncodeMessage` and `WriteToUDP` of a receiver -/
  | reply (i : Nat) (iv : Bytes) (written : Bool)
  | ret (i : Nat)

def init : State := ⟨fun _ => .reading, []⟩

def State.goto (s : State) (i : Nat) (pc : Pc) : State :=
  { s with pc := Function.update s.pc i pc }

/-- The datagram is written, or the write fails. -/
def State.write (s : State) (written : Bool) (p : Packet) : State :=
  if written then { s with sent := s.sent ++ [p] } else s

variable (codec : Codec) (loops : Nat → Loop)

/-- What a loop does with the bytes it has read. -/
def detect (l : Loop) (data : Bytes) (raddr : String) : Pc :=
  match codec.decodeMessageInto l.key data with
  | .error _ => .reading
  | .ok m =>
    if m.sid ≠ l.sid then .reading
    else if !m.response then
      -- only wait for response messages if we are a sender
      if l.role = .sender then .reading else .replying data raddr { m with response := true }
    else .returning data raddr none

def step (s : State) : Action → Option State
  | .sendSid key transactionID sid nonce iv written =>
    let m : NatHoleSid := ⟨transactionID, sid, false, nonce⟩
    match codec.encodeMessage key m iv with
    | .error _ => some s
    | .ok data => some (s.write written ⟨key, m, data⟩)
  | .receive i data raddr =>
    match s.pc i with
    | .reading => some (s.goto i (detect codec (loops i) (data.take bufSize) raddr))
    | _ => none
  | .readError i err =>
    match s.pc i with
    | .reading => some (s.goto i (.failed err))
    | _ => none
  | .reply i iv written =>
    match s.pc i with
    | .replying data raddr m =>
      match codec.encodeMessage (loops i).key m iv with
      | .error _ => some (s.goto i .reading)
      | .ok out =>
        some ((s.write written ⟨(loops i).key, m, out⟩).goto i
          (.returning data raddr (if written then some m else none)))
    | _ => none
  | .ret i =>
    match s.pc i with
    | .returning data raddr response => some (s.goto i (.returned data raddr response))
    | _ => none

def system : System State Action := ⟨init, step codec loops⟩

/-- The bytes that a loop reads decode only if they were sent under its key. -/
def Authentic (s : State) : Action → Prop
  | .receive i data _ =>
    (codec.decodeMessageInto (loops i).key (data.take bufSize)).toBool = true →
      ∃ p ∈ s.sent, p.key = (loops i).key ∧ p.data = data.take bufSize
  | _ => True

instance (s : State) (a : Action) : Decidable (Authentic codec loops s a) := by
  unfold Authentic
  cases a <;> infer_instance

variable {codec loops} {s s' : State} {a : Action}

/-- The loop has returned success, or stands at the return. -/
def Pc.succeeds (data : Bytes) (response : Option NatHoleSid) : Pc → Prop
  | .returning d _ r | .returned d _ r => d = data ∧ r = response
  | _ => False

/-- A detect message for the sid was sent under the key. -/
def Detected (s : State) (key : Bytes) (sid : String) : Prop :=
  ∃ p ∈ s.sent, p.key = key ∧ p.msg.sid = sid ∧ p.msg.response = false

/-- A receiver for the sid and the key has sent a response and returns success. -/
def Responded (loops : Nat → Loop) (s : State) (key : Bytes) (sid : String) : Prop :=
  ∃ j data m, (loops j).role ≠ .sender ∧ (loops j).sid = sid ∧ (loops j).key = key ∧
    (s.pc j).succeeds data (some m) ∧ m.sid = sid ∧ m.response = true ∧
    ∃ p ∈ s.sent, p.key = key ∧ p.msg = m

/-- The datagram decodes to a message with the sid of the loop. -/
def Accepts (codec : Codec) (l : Loop) (data : Bytes) : Prop :=
  ∃ m, codec.decodeMessageInto l.key data = .ok m ∧ m.sid = l.sid

/-- What holds of loop `l` when it is about to answer `data` with `m`. -/
structure MayReply (codec : Codec) (s : State) (l : Loop) (data : Bytes) (m : NatHoleSid) :
    Prop where
  receiver : l.role ≠ .sender
  sid : m.sid = l.sid
  response : m.response = true
  detected : Detected s l.key l.sid
  accepts : Accepts codec l data

/-- What holds of loop `l` when it returns success on `data`. -/
structure MayReturn (codec : Codec) (loops : Nat → Loop) (s : State) (l : Loop) (data : Bytes) :
    Prop where
  detected : Detected s l.key l.sid
  responded : l.role = .sender → Responded loops s l.key l.sid
  accepts : Accepts codec l data

/-- What the datagrams in flight and the loops tell about each other. -/
structure Inv (codec : Codec) (loops : Nat → Loop) (s : State) : Prop where
  encoded : ∀ p ∈ s.sent, p.data.length ≤ bufSize →
    codec.decodeMessageInto p.key p.data = .ok p.msg
  detected : ∀ p ∈ s.sent, Detected s p.key p.msg.sid
  responded : ∀ p ∈ s.sent, p.msg.response = true → Responded loops s p.key p.msg.sid
  replying : ∀ i data raddr m, s.pc i = .replying data raddr m →
    MayReply codec s (loops i) data m
  succeeds : ∀ i data response, (s.pc i).succeeds data response →
    MayReturn codec loops s (loops i) data

theorem Inv.init : Inv codec loops init := by
  refine ⟨?_, ?_, ?_, ?_, ?_⟩
  · intro p hp
    cases hp
  · intro p hp
    cases hp
  · intro p hp
    cases hp
  · intro i data raddr m hi
    cases hi
  · intro i data response hi
    exact hi.elim

/-- Datagrams stay on the network and a success is never taken back. -/
structure Grows (s s' : State) : Prop where
  sent : s.sent ⊆ s'.sent
  succeeds : ∀ j data response, (s.pc j).succeeds data response →
    (s'.pc j).succeeds data response

section Grows

variable {key data : Bytes} {sid : String} {l : Loop} {m : NatHoleSid}

theorem Grows.detected (h : Grows s s') (hd : Detected s key sid) : Detected s' key sid := by
  obtain ⟨p, hp, hrest⟩ := hd
  exact ⟨p, h.sent hp, hrest⟩

theorem Grows.responded (h : Grows s s') (hr : Responded loops s key sid) :
    Responded loops s' key sid := by
  obtain ⟨j, data, m, hrole, hsid, hkey, hpc, hm, hresp, p, hp, hpm⟩ := hr
  exact ⟨j, data, m, hrole, hsid, hkey, h.succeeds j data _ hpc, hm, hresp, p, h.sent hp, hpm⟩

theorem Grows.mayReply (h : Grows s s') (hm : MayReply codec s l data m) :
    MayReply codec s' l data m :=
  ⟨hm.receiver, hm.sid, hm.response, h.detected hm.detected, hm.accepts⟩

theorem Grows.mayReturn (h : Grows s s') (hm : MayReturn codec loops s l data) :
    MayReturn codec loops s' l data :=
  ⟨h.detected hm.detected, fun hrole => h.responded (hm.responded hrole), hm.accepts⟩

end Grows

variable (codec) in
/-- The three ways on from a datagram. -/
theorem detect_cases (l : Loop) (data : Bytes) (raddr : String) :
    detect codec l data raddr = .reading ∨
    ∃ m, codec.decodeMessageInto l.key data = .ok m ∧ m.sid = l.sid ∧
      (m.response = false ∧ l.role ≠ .sender ∧
          detect codec l data raddr = .replying data raddr { m with response := true } ∨
        m.response = true ∧ detect codec l data raddr = .returning data raddr none) := by
  unfold detect
  cases hd : codec.decodeMessageInto l.key data with
  | error e => exact Or.inl rfl
  | ok m =>
    by_cases hsid : m.sid = l.sid
    · cases hr : m.response with
      | true => exact Or.inr ⟨m, rfl, hsid, Or.inr ⟨hr, by simp [hsid, hr]⟩⟩
      | false =>
        by_cases hrole : l.role = .sender
        · exact Or.inl (by simp [hsid, hr, hrole])
        · exact Or.inr ⟨m, rfl, hsid, Or.inl ⟨hr, hrole, by simp [hsid, hr, hrole]⟩⟩
    · exact Or.inl (by simp [hsid])

/-- A move of one loop, given what its new place needs; a success is not left. -/
theorem Inv.goto (h : Inv codec loops s) {i : Nat} {pc : Pc}
    (hi : ∀ data response, (s.pc i).succeeds data response → pc.succeeds data response)
    (hreply : ∀ data raddr m, pc = .replying data raddr m → MayReply codec s (loops i) data m)
    (hsucc : ∀ data response, pc.succeeds data response →
      MayReturn codec loops s (loops i) data) :
    Inv codec loops (s.goto i pc) := by
  have hg : Grows s (s.goto i pc) := by
    refine ⟨List.Subset.refl _, ?_⟩
    intro j data response hj
    simp only [State.goto, Function.update_apply]
    split
    · rename_i hji
      exact hi data response (hji ▸ hj)
    · exact hj
  refine ⟨h.encoded, fun p hp => hg.detected (h.detected p hp),
    fun p hp hr => hg.responded (h.responded p hp hr), ?_, ?_⟩
  · intro j data raddr m hj
    apply hg.mayReply
    simp only [State.goto, Function.update_apply] at hj
    split at hj
    · rename_i hji
      exact hji ▸ hreply data raddr m hj
    · exact h.replying j data raddr m hj
  · intro j data response hj
    apply hg.mayReturn
    simp only [State.goto, Function.update_apply] at hj
    split at hj
    · rename_i hji
      exact hji ▸ hsucc data response hj
    · exact h.succeeds j data response hj

/-- One more datagram on the network: a detect message, or the response of a receiver that
returns success. -/
theorem Inv.write (h : Inv codec loops s) {p : Packet}
    (henc : p.data.length ≤ bufSize → codec.decodeMessageInto p.key p.data = .ok p.msg)
    (hdet : p.msg.response = false ∨ Detected s p.key p.msg.sid)
    (hresp : p.msg.response = true →
      Responded loops { s with sent := s.sent ++ [p] } p.key p.msg.sid) :
    Inv codec loops { s with sent := s.sent ++ [p] } := by
  have hg : Grows s { s with sent := s.sent ++ [p] } :=
    ⟨List.subset_append_left _ _, fun _ _ _ => id⟩
  refine ⟨?_, ?_, ?_, ?_, ?_⟩
  · exact List.forall_mem_append.mpr ⟨h.encoded, List.forall_mem_singleton.mpr henc⟩
  · refine List.forall_mem_append.mpr
      ⟨fun q hq => hg.detected (h.detected q hq), List.forall_mem_singleton.mpr ?_⟩
    rcases hdet with hf | hd
    · exact ⟨p, List.mem_append_right _ List.mem_cons_self, rfl, rfl, hf⟩
    · exact hg.detected hd
  · exact List.forall_mem_append.mpr
      ⟨fun q hq hr => hg.responded (h.responded q hq hr), List.forall_mem_singleton.mpr hresp⟩
  · exact fun j data raddr m hj => hg.mayReply (h.replying j data raddr m hj)
  · exact fun j data response hj => hg.mayReturn (h.succeeds j data response hj)

/-- A loop that reads has no success to lose. -/
theorem Inv.receive (h : Inv codec loops s) {i : Nat} (hpc : s.pc i = .reading) {data : Bytes}
    {raddr : String} (hlen : data.length ≤ bufSize)
    (hauth : (codec.decodeMessageInto (loops i).key data).toBool = true →
      ∃ p ∈ s.sent, p.key = (loops i).key ∧ p.data = data) :
    Inv codec loops (s.goto i (detect codec (loops i) data raddr)) := by
  have hno : ∀ d r, ¬ (s.pc i).succeeds d r := by
    intro d r hs
    rw [hpc] at hs
    exact hs
  rcases detect_cases codec (loops i) data raddr with he | ⟨m, hdec, hsid, hcase⟩
  · rw [he]
    exact h.goto (fun d r hs => absurd hs (hno d r)) nofun nofun
  · -- the datagram is one that was sent, and decodes to what it was made of
    obtain ⟨p, hp, hkey, hdata⟩ := hauth (by rw [hdec]; rfl)
    have hmsg : p.msg = m := by
      have henc := h.encoded p hp (hdata ▸ hlen)
      rw [hkey, hdata, hdec] at henc
      exact (Except.ok.inj henc).symm
    have hd := h.detected p hp
    rw [hkey, hmsg, hsid] at hd
    rcases hcase with ⟨hr, hrole, he⟩ | ⟨hr, he⟩
    · rw [he]
      refine h.goto (fun d r hs => absurd hs (hno d r)) ?_ nofun
      intro d ra m' hm
      cases hm
      exact ⟨hrole, hsid, rfl, hd, m, hdec, hsid⟩
    · rw [he]
      refine h.goto (fun d r hs => absurd hs (hno d r)) nofun ?_
      rintro d r ⟨rfl, rfl⟩
      refine ⟨hd, fun _ => ?_, m, hdec, hsid⟩
      have hresp := h.responded p hp (hmsg ▸ hr)
      rw [hkey, hmsg, hsid] at hresp
      exact hresp

/-- The answer of a receiver: it goes on the network, and the receiver returns success. -/
theorem Inv.reply (h : Inv codec loops s) {i : Nat} {data iv out : Bytes} {raddr : String}
    {m : NatHoleSid} {written : Bool} (hpc : s.pc i = .replying data raddr m)
    (henc : codec.encodeMessage (loops i).key m iv = .ok out) :
    Inv codec loops ((s.write written ⟨(loops i).key, m, out⟩).goto i
      (.returning data raddr (if written then some m else none))) := by
  have hm := h.replying i data raddr m hpc
  have hmove : ∀ r, Inv codec loops (s.goto i (.returning data raddr r)) := by
    intro r
    refine h.goto ?_ nofun ?_
    · intro d r' hs
      rw [hpc] at hs
      exact hs.elim
    · rintro d r' ⟨rfl, rfl⟩
      exact ⟨hm.detected, fun hrole => absurd hrole hm.receiver, hm.accepts⟩
  cases written with
  | false => exact hmove none
  | true =>
    have hpack : Inv codec loops { s.goto i (.returning data raddr (some m)) with
        sent := s.sent ++ [⟨(loops i).key, m, out⟩] } := by
      refine (hmove (some m)).write (codec.decode_encode henc) (Or.inr (hm.sid ▸ hm.detected)) ?_
      intro hresp
      refine ⟨i, data, m, hm.receiver, hm.sid.symm, rfl, ?_, rfl, hresp, _,
        List.mem_append_right _ List.mem_cons_self, rfl, rfl⟩
      simp [State.goto, Pc.succeeds]
    exact hpack

theorem Inv.step (h : Inv codec loops s) (hauth : Authentic codec loops s a)
    (hs : step codec loops s a = some s') : Inv codec loops s' := by
  cases a with
  | sendSid key transactionID sid nonce iv written =>
    simp only [Detection.step] at hs
    split at hs
    · cases hs
      exact h
    · rename_i data henc
      cases hs
      cases written with
      | false => exact h
      | true => exact h.write (codec.decode_encode henc) (Or.inl rfl) nofun
  | receive i data raddr =>
    simp only [Detection.step] at hs
    split at hs
    · rename_i hpc
      cases hs
      exact h.receive hpc (List.length_take_le _ _) hauth
    · cases hs
  | readError i err =>
    simp only [Detection.step] at hs
    split at hs
    · rename_i hpc
      cases hs
      refine h.goto ?_ nofun nofun
      intro d r hi
      rw [hpc] at hi
      exact hi.elim
    · cases hs
  | reply i iv written =>
    simp only [Detection.step] at hs
    split at hs
    · rename_i data raddr m hpc
      split at hs
      · cases hs
        refine h.goto ?_ nofun nofun
        intro d r hi
        rw [hpc] at hi
        exact hi.elim
      · rename_i out henc
        cases hs
        exact h.reply hpc henc
    · cases hs
  | ret i =>
    simp only [Detection.step] at hs
    split at hs
    · rename_i data raddr response hpc
      cases hs
      refine h.goto ?_ nofun ?_
      · intro d r hi
        rw [hpc] at hi
        exact hi
      · intro d r hi
        refine h.succeeds i d r ?_
        rw [hpc]
        exact hi
    · cases hs

theorem reachableBy_inv (hr : (system codec loops).ReachableBy (Authentic codec loops) s) :
    Inv codec loops s :=
  System.invariant_by .init (fun _ _ _ _ h hauth hs => h.step hauth hs) hr

/-- When a sender has returned success, a receiver for its sid and key has sent a response and
returns success too; when a receiver has, a detect message for its sid was sent under its key;
and no loop returns success on a datagram that does not decode or has another sid. -/
theorem detection_agreement
    (hr : (system codec loops).ReachableBy (Authentic codec loops) s) :
    (∀ i data raddr response, (loops i).role = .sender → s.pc i = .returned data raddr response →
      Responded loops s (loops i).key (loops i).sid) ∧
    (∀ i data raddr response, (loops i).role ≠ .sender → s.pc i = .returned data raddr response →
      Detected s (loops i).key (loops i).sid) ∧
    ∀ i data raddr response, s.pc i = .returned data raddr response →
      Accepts codec (loops i) data := by
  have h := reachableBy_inv hr
  have hret : ∀ i data raddr response, s.pc i = .returned data raddr response →
      MayReturn codec loops s (loops i) data := by
    intro i data raddr response hi
    refine h.succeeds i data response ?_
    rw [hi]
    exact ⟨rfl, rfl⟩
  refine ⟨?_, ?_, ?_⟩
  · exact fun i data raddr response hrole hi => (hret i data raddr response hi).responded hrole
  · exact fun i data raddr response _ hi => (hret i data raddr response hi).detected
  · exact fun i data raddr response hi => (hret i data raddr response hi).accepts

/-- A codec for two messages, of one byte each. -/
def sampleCodec : Codec where
  encodeMessage _ m _ :=
    if m = ⟨"t", "s1", false, "0"⟩ then .ok [0]
    else if m = ⟨"t", "s1", true, "0"⟩ then .ok [1]
    else .error "encode error"
  decodeMessageInto _ data :=
    if data = [0] then .ok ⟨"t", "s1", false, "0"⟩
    else if data = [1] then .ok ⟨"t", "s1", true, "0"⟩
    else .error "decode error"
  decode_encode := by
    intro key m iv data h _
    split at h
    · rename_i hm
      cases h
      simp [hm]
    · split at h
      · rename_i hm
        cases h
        simp [hm]
      · cases h

/-- One sender and receivers. -/
def sampleLoops (i : Nat) : Loop := ⟨"s1", [], if i = 0 then .sender else .receiver⟩

/-- Garbage, a detect message that is delivered twice, and the response. -/
theorem detection_agreement_sender :
    ∃ s, (system sampleCodec sampleLoops).ReachableBy (Authentic sampleCodec sampleLoops) s ∧
      (∃ data raddr response, s.pc 0 = .returned data raddr response) ∧
      Responded sampleLoops s [] "s1" := by
  obtain ⟨s, hr, hp⟩ := System.reachableBy_of_run
    (S := system sampleCodec sampleLoops) (C := Authentic sampleCodec sampleLoops)
    (l := [.receive 0 [9, 9] "x", .sendSid [] "t" "s1" "0" [] true, .receive 0 [0] "a",
      .receive 1 [0] "a", .reply 1 [] true, .receive 0 [1] "b", .ret 0])
    (p := fun s => match s.pc 0 with
      | .returned _ _ _ => true
      | _ => false)
    (by decide +kernel) (by decide +kernel)
  split at hp
  · rename_i data raddr response hpc
    exact ⟨s, hr, ⟨_, _, _, hpc⟩, (detection_agreement hr).1 0 _ _ _ rfl hpc⟩
  · cases hp

end FrpXtcp.Nathole.Detection

import Mathlib.Data.List.Perm.Basic
import FrpXtcp.Lib.Translation
import FrpXtcp.Nathole.Detection
import FrpXtcp.Nathole.CandidatePorts

/-!
# Punching a hole

`MakeHole` on both sides, with one socket each (`pkg/nathole/nathole.go`): each side sends one
detect message to every address of its plan and then waits in `waitDetectMessage`. Between them
is a network with a translator in front of each side. A datagram that a translator does not let
in is gone, and nothing is sent twice.

What becomes of datagrams to other hosts, and of datagrams from other hosts, is left out.
-/
namespace FrpXtcp.Nathole.HolePunch

open FrpXtcp.Lib
open FrpXtcp.Nathole.Detection (Bytes Codec Loop NatHoleSid Pc bufSize detect)

/-! ## What is sent where -/

/-- `net.JoinHostPort` -/
def joinHostPort (host port : String) : String :=
  if ':' ∈ host.toList then "[" ++ host ++ "]:" ++ port else host ++ ":" ++ port

/-- `detectAddrs` of `MakeHole`, compacted. -/
def detectAddrs (m : NatHoleResponse) : List String :=
  compact
    (if m.detectBehavior.role = .sender then m.assistedAddrs ++ m.candidateAddrs
    else if m.detectBehavior.candidatePorts = [] then m.candidateAddrs
    else [])

/-- The addresses of `sendSidMessageToRangePorts`. -/
def rangeAddrs (addrs : List String) (ports : List PortsRange) : List String :=
  (compact (parseIPs addrs)).flatMap fun ip =>
    ports.flatMap fun portsRange =>
      portsRange.ports.map fun i => joinHostPort ip (toString i)

/-- The addresses that `MakeHole` sends to, one after the other. -/
def plan (m : NatHoleResponse) : List String :=
  detectAddrs m ++ rangeAddrs m.candidateAddrs m.detectBehavior.candidatePorts

/-! ## The two sides and the network -/

inductive Side where
  | sender
  | receiver
  deriving DecidableEq

def Side.other : Side → Side
  | .sender => .receiver
  | .receiver => .sender

/-- One call of `MakeHole` with what it needs: the answer of the server, the key, its
transaction ID, and the translator in front of it. -/
structure End where
  resp : NatHoleResponse
  key : Bytes
  transactionID : String
  translator : Translator String

/-- `resolve` is `net.ResolveUDPAddr`. -/
structure Env where
  codec : Codec
  resolve : String → Option String
  ends : Side → End

/-- `todo` is the rest of the plan, `opened` what was sent to, `inbox` what has arrived and was
not read, by source and bytes. -/
structure Peer where
  todo : List String
  opened : List String
  inbox : List (String × Bytes)
  pc : Pc

/-- A datagram on its way; `response` is what its message says. -/
structure Datagram where
  origin : Side
  response : Bool
  src : String
  dst : String
  data : Bytes

/-- `admitted` counts the datagrams of the sender that the receiver's translator has let in. -/
structure State where
  peers : Side → Peer
  flying : List Datagram
  admitted : Nat

inductive Action where
  | send (x : Side) (n : Fin 20) (iv : Bytes)
  | deliver (i : Nat)
  | lose (i : Nat)
  | read (x : Side)
  | readError (x : Side) (err : String)
  | reply (x : Side) (iv : Bytes)

def State.setPeer (s : State) (x : Side) (p : Peer) : State :=
  { s with peers := Function.update s.peers x p }

variable (env : Env)

/-- The arguments of `waitDetectMessage`. -/
def Env.loop (x : Side) : Loop :=
  ⟨(env.ends x).resp.sid, (env.ends x).key, (env.ends x).resp.detectBehavior.role⟩

/-- `strings.Repeat("0", n)` -/
def nonce (n : Fin 20) : String := String.ofList (List.replicate n '0')

/-- The message of `sendSidMessage`. -/
def Env.sid (x : Side) (n : Fin 20) : NatHoleSid :=
  ⟨(env.ends x).transactionID, (env.ends x).resp.sid, false, nonce n⟩

/-- `conn.WriteToUDP(data, dst)`: the datagram passes the own translator. -/
def State.write (s : State) (x : Side) (response : Bool) (dst : String) (data : Bytes) : State :=
  { s.setPeer x { s.peers x with opened := (s.peers x).opened ++ [dst] } with
    flying := s.flying ++ [⟨x, response, (env.ends x).translator.mapping dst, dst, data⟩] }

/-- `sendSidMessage` -/
def sendSidMessage (s : State) (x : Side) (addr : String) (n : Fin 20) (iv : Bytes) : State :=
  match env.resolve addr with
  | none => s
  | some raddr =>
    match env.codec.encodeMessage (env.ends x).key (env.sid x n) iv with
    | .error _ => s
    | .ok buf => s.write env x false raddr buf

/-- A datagram arrives at the translator of the other side. -/
def arrive (s : State) (g : Datagram) : State :=
  let y := g.origin.other
  let p := s.peers y
  if (env.ends y).translator.accepts p.opened g.src g.dst then
    { s.setPeer y { p with inbox := p.inbox ++ [(g.src, g.data)] } with
      admitted := if g.origin = .sender then s.admitted + 1 else s.admitted }
  else s

def step (s : State) : Action → Option State
  | .send x n iv =>
    match (s.peers x).todo with
    | [] => none
    | addr :: todo =>
      some (sendSidMessage env (s.setPeer x { s.peers x with todo := todo }) x addr n iv)
  | .deliver i =>
    (s.flying[i]?).map fun g => arrive env { s with flying := s.flying.eraseIdx i } g
  | .lose i => (s.flying[i]?).map fun _ => { s with flying := s.flying.eraseIdx i }
  | .read x =>
    let p := s.peers x
    match p.todo, p.pc, p.inbox with
    | [], .reading, (raddr, data) :: inbox =>
      some (s.setPeer x { p with
        inbox := inbox
        pc := detect env.codec (env.loop x) (data.take bufSize) raddr })
    | _, _, _ => none
  | .readError x err =>
    let p := s.peers x
    match p.todo, p.pc with
    | [], .reading => some (s.setPeer x { p with pc := .failed err })
    | _, _ => none
  | .reply x iv =>
    let p := s.peers x
    match p.pc with
    | .replying data raddr m =>
      match env.codec.encodeMessage (env.ends x).key m iv with
      | .error _ => some (s.setPeer x { p with pc := .reading })
      | .ok out =>
        some ((s.setPeer x { p with pc := .returning data raddr (some m) }).write env x true raddr
          out)
    | _ => none

def init : State :=
  ⟨fun x => ⟨plan (env.ends x).resp, [], [], .reading⟩, [], 0⟩

def system : System State Action := ⟨init env, step env⟩

variable {env} {s s' : State} {a : Action}

@[simp] theorem setPeer_self (x : Side) (p : Peer) : (s.setPeer x p).peers x = p := by
  simp [State.setPeer]

theorem setPeer_of_ne {x y : Side} (h : y ≠ x) (p : Peer) :
    (s.setPeer x p).peers y = s.peers y := by
  simp [State.setPeer, h]

@[simp] theorem setPeer_flying (x : Side) (p : Peer) : (s.setPeer x p).flying = s.flying := rfl

@[simp] theorem setPeer_admitted (x : Side) (p : Peer) :
    (s.setPeer x p).admitted = s.admitted := rfl

/-! ## What a step does -/

/-- The network does not lose the response, and nobody gives up: no read deadline passes. -/
def Undisturbed (s : State) : Action → Prop
  | .lose i => ∀ g ∈ s.flying[i]?, g.response = false
  | .readError _ _ => False
  | _ => True

instance (s : State) : ∀ a, Decidable (Undisturbed s a)
  | .lose i => inferInstanceAs (Decidable (∀ g ∈ s.flying[i]?, g.response = false))
  | .readError _ _ => isFalse id
  | .send _ _ _ | .deliver _ | .read _ | .reply _ _ => isTrue trivial

/-- The datagram `g`, at `i`, is let in. -/
def letIn (s : State) (i : Nat) (g : Datagram) : State :=
  { s.setPeer g.origin.other { s.peers g.origin.other with
      inbox := (s.peers g.origin.other).inbox ++ [(g.src, g.data)] } with
    flying := s.flying.eraseIdx i
    admitted := if g.origin = .sender then s.admitted + 1 else s.admitted }

/-- What the undisturbed steps do, with what each one needs. -/
inductive Effect (env : Env) (s : State) : Action → State → Prop
  | skip {x : Side} {addr : String} {todo : List String} {n : Fin 20} {iv : Bytes} :
      (s.peers x).todo = addr :: todo →
      (env.resolve addr = none ∨ ∃ err,
        env.codec.encodeMessage (env.ends x).key (env.sid x n) iv = .error err) →
      Effect env s (.send x n iv) (s.setPeer x { s.peers x with todo := todo })
  | send {x : Side} {addr raddr : String} {todo : List String} {n : Fin 20} {iv buf : Bytes} :
      (s.peers x).todo = addr :: todo → env.resolve addr = some raddr →
      env.codec.encodeMessage (env.ends x).key (env.sid x n) iv = .ok buf →
      Effect env s (.send x n iv)
        ((s.setPeer x { s.peers x with todo := todo }).write env x false raddr buf)
  | letIn {i : Nat} {g : Datagram} : s.flying[i]? = some g →
      (env.ends g.origin.other).translator.accepts (s.peers g.origin.other).opened g.src g.dst =
        true →
      Effect env s (.deliver i) (letIn s i g)
  | refuse {i : Nat} {g : Datagram} : s.flying[i]? = some g →
      (env.ends g.origin.other).translator.accepts (s.peers g.origin.other).opened g.src g.dst =
        false →
      Effect env s (.deliver i) { s with flying := s.flying.eraseIdx i }
  | lose {i : Nat} {g : Datagram} : s.flying[i]? = some g → g.response = false →
      Effect env s (.lose i) { s with flying := s.flying.eraseIdx i }
  | read {x : Side} {raddr : String} {data : Bytes} {inbox : List (String × Bytes)} :
      (s.peers x).pc = .reading → (s.peers x).inbox = (raddr, data) :: inbox →
      Effect env s (.read x) (s.setPeer x { s.peers x with
        inbox := inbox
        pc := detect env.codec (env.loop x) (data.take bufSize) raddr })
  | replyFailed {x : Side} {data : Bytes} {raddr err : String} {m : NatHoleSid} {iv : Bytes} :
      (s.peers x).pc = .replying data raddr m →
      env.codec.encodeMessage (env.ends x).key m iv = .error err →
      Effect env s (.reply x iv) (s.setPeer x { s.peers x with pc := .reading })
  | reply {x : Side} {data iv out : Bytes} {raddr : String} {m : NatHoleSid} :
      (s.peers x).pc = .replying data raddr m →
      env.codec.encodeMessage (env.ends x).key m iv = .ok out →
      Effect env s (.reply x iv)
        ((s.setPeer x { s.peers x with pc := .returning data raddr (some m) }).write env x true
          raddr out)

theorem step_effect (hs : step env s a = some s') (hu : Undisturbed s a) : Effect env s a s' := by
  cases a with
  | send x n iv =>
    simp only [step] at hs
    split at hs
    · cases hs
    · rename_i addr todo htodo
      obtain rfl := Option.some.inj hs
      unfold sendSidMessage
      split
      · exact .skip htodo (Or.inl ‹_›)
      · rename_i raddr hraddr
        split
        · exact .skip htodo (Or.inr ⟨_, ‹_›⟩)
        · rename_i buf hbuf
          exact .send htodo hraddr hbuf
  | deliver i =>
    obtain ⟨g, hg, rfl⟩ := Option.map_eq_some_iff.mp hs
    unfold arrive
    dsimp only
    split
    · exact .letIn hg ‹_›
    · exact .refuse hg (Bool.eq_false_iff.mpr ‹_›)
  | lose i =>
    obtain ⟨g, hg, rfl⟩ := Option.map_eq_some_iff.mp hs
    exact .lose hg (hu g hg)
  | read x =>
    simp only [step] at hs
    split at hs
    · rename_i htodo hpc hinbox
      obtain rfl := Option.some.inj hs
      exact .read hpc hinbox
    · cases hs
  | readError x err => exact hu.elim
  | reply x iv =>
    simp only [step] at hs
    split at hs
    · rename_i data raddr m hpc
      split at hs
      · obtain rfl := Option.some.inj hs
        exact .replyFailed hpc ‹_›
      · obtain rfl := Option.some.inj hs
        exact .reply hpc ‹_›
    · cases hs

/-! ## The invariant -/

/-- The two sides have been told to make the same hole, in the two roles, with one socket each;
their messages can be encoded; and what the receiver's translator lets in can be answered. -/
structure Ready (env : Env) : Prop where
  key : (env.ends .receiver).key = (env.ends .sender).key
  sid : (env.ends .receiver).resp.sid = (env.ends .sender).resp.sid
  sender : (env.ends .sender).resp.detectBehavior.role = .sender
  receiver : (env.ends .receiver).resp.detectBehavior.role ≠ .sender
  oneSocket : ∀ x, (env.ends x).resp.detectBehavior.listenRandomPorts ≤ 0 ∧
    (env.ends x).resp.detectBehavior.sendRandomPorts ≤ 0
  encodes : ∀ x n response iv, ∃ data,
    env.codec.encodeMessage (env.ends x).key { env.sid x n with response := response } iv =
      .ok data ∧ data.length ≤ bufSize
  answers : Translator.Answers (env.ends .sender).translator (env.ends .receiver).translator

/-- A datagram with a message that was first sent by `x`. -/
def Carries (env : Env) (x : Side) (response : Bool) (data : Bytes) : Prop :=
  ∃ n, env.codec.decodeMessageInto (env.ends x).key (data.take bufSize) =
    .ok { env.sid x n with response := response }

/-- A datagram of the sender has come from `raddr` and can be answered. -/
def Heard (env : Env) (s : State) (raddr : String) : Prop :=
  ∃ d ∈ (s.peers .sender).opened, raddr = (env.ends .sender).translator.mapping d ∧
    (env.ends .receiver).translator.mapping raddr = d

/-- The receiver returns, and what it has sent last seems to come from `src`. -/
def Answered (env : Env) (s : State) (src : String) : Prop :=
  ∃ data raddr response, (s.peers .receiver).pc = .returning data raddr response ∧
    src = (env.ends .receiver).translator.mapping raddr

/-- A datagram on its way. -/
structure FlyingOk (env : Env) (s : State) (g : Datagram) : Prop where
  src : g.src = (env.ends g.origin).translator.mapping g.dst
  opened : g.dst ∈ (s.peers g.origin).opened
  detect : g.response = false → Carries env g.origin false g.data
  response : g.response = true → g.origin = .receiver ∧ Carries env .sender true g.data ∧
    Heard env s g.dst ∧ Answered env s g.src

def ReceiverPcOk (env : Env) (s : State) : Pc → Prop
  | .reading => True
  | .replying _ raddr m => Heard env s raddr ∧ ∃ n, m = { env.sid .sender n with response := true }
  | .returning _ raddr _ => Heard env s raddr
  | _ => False

def SenderPcOk (env : Env) (s : State) : Pc → Prop
  | .reading => True
  | .returning _ src _ => Answered env s src
  | _ => False

structure Inv (env : Env) (s : State) : Prop where
  flying : ∀ g ∈ s.flying, FlyingOk env s g
  receiverInbox : ∀ p ∈ (s.peers .receiver).inbox, Carries env .sender false p.2 ∧ Heard env s p.1
  senderInbox : ∀ p ∈ (s.peers .sender).inbox,
    Carries env .receiver false p.2 ∨ Carries env .sender true p.2 ∧ Answered env s p.1
  receiverPc : ReceiverPcOk env s (s.peers .receiver).pc
  senderPc : SenderPcOk env s (s.peers .sender).pc
  admitted : 0 < s.admitted ↔
    (s.peers .receiver).inbox ≠ [] ∨ (s.peers .receiver).pc ≠ .reading
  answered : ∀ src, Answered env s src →
    (∃ g ∈ s.flying, g.response = true) ∨
      (∃ p ∈ (s.peers .sender).inbox, Carries env .sender true p.2) ∨
      (s.peers .sender).pc ≠ .reading

theorem inv_init : Inv env (init env) := by
  refine ⟨?_, ?_, ?_, trivial, trivial, ?_, ?_⟩
  · intro g hg
    cases hg
  · intro p hp
    cases hp
  · intro p hp
    cases hp
  · simp [init]
  · rintro src ⟨data, raddr, response, hpc, -⟩
    cases hpc

/-- A step that leaves the two loops where they are. -/
structure Frame (s s' : State) : Prop where
  pc : ∀ x, (s'.peers x).pc = (s.peers x).pc
  opened : ∀ x, (s.peers x).opened ⊆ (s'.peers x).opened
  inbox : ∀ x, (s.peers x).inbox ⊆ (s'.peers x).inbox

theorem Heard.mono {raddr : String} (h : Heard env s raddr)
    (ho : (s.peers .sender).opened ⊆ (s'.peers .sender).opened) : Heard env s' raddr := by
  obtain ⟨d, hd, hsrc, hdst⟩ := h
  exact ⟨d, ho hd, hsrc, hdst⟩

theorem Answered.mono {src : String} (h : Answered env s src)
    (hpc : (s'.peers .receiver).pc = (s.peers .receiver).pc) : Answered env s' src := by
  obtain ⟨data, raddr, response, hr, hsrc⟩ := h
  exact ⟨data, raddr, response, hpc.trans hr, hsrc⟩

theorem FlyingOk.mono {g : Datagram} (h : FlyingOk env s g)
    (ho : ∀ x, (s.peers x).opened ⊆ (s'.peers x).opened)
    (ha : ∀ src, Answered env s src → Answered env s' src) : FlyingOk env s' g := by
  refine ⟨h.src, ho _ h.opened, h.detect, ?_⟩
  intro hr
  obtain ⟨horigin, hcarries, hheard, hanswered⟩ := h.response hr
  exact ⟨horigin, hcarries, hheard.mono (ho .sender), ha _ hanswered⟩

theorem ReceiverPcOk.mono {pc : Pc} (h : ReceiverPcOk env s pc)
    (ho : (s.peers .sender).opened ⊆ (s'.peers .sender).opened) : ReceiverPcOk env s' pc := by
  cases pc with
  | reading => trivial
  | replying data raddr m => exact ⟨h.1.mono ho, h.2⟩
  | returning data raddr response => exact Heard.mono h ho
  | _ => exact h.elim

/-- The sender reads, or returns with the answer. -/
theorem SenderPcOk.reads_or_returns {pc : Pc} (h : SenderPcOk env s pc) : pc = .reading ∨
    ∃ data src response, pc = .returning data src response ∧ Answered env s src := by
  cases pc with
  | reading => exact Or.inl rfl
  | returning data src response => exact Or.inr ⟨data, src, response, rfl, h⟩
  | _ => exact h.elim

theorem SenderPcOk.mono {pc : Pc} (h : SenderPcOk env s pc)
    (ha : ∀ src, Answered env s src → Answered env s' src) : SenderPcOk env s' pc := by
  rcases h.reads_or_returns with rfl | ⟨data, src, response, rfl, h⟩
  · trivial
  · exact ha src h

theorem Inv.frame (hi : Inv env s) (h : Frame s s')
    (hflying : ∀ g ∈ s'.flying, g ∈ s.flying ∨ FlyingOk env s' g)
    (hreceiver : ∀ p ∈ (s'.peers .receiver).inbox, p ∈ (s.peers .receiver).inbox ∨
      Carries env .sender false p.2 ∧ Heard env s' p.1)
    (hsender : ∀ p ∈ (s'.peers .sender).inbox, p ∈ (s.peers .sender).inbox ∨
      Carries env .receiver false p.2 ∨ Carries env .sender true p.2 ∧ Answered env s' p.1)
    (hadmitted : 0 < s'.admitted ↔
      (s'.peers .receiver).inbox ≠ [] ∨ (s.peers .receiver).pc ≠ .reading)
    (hresponse : ∀ g ∈ s.flying, g.response = true → (∃ g' ∈ s'.flying, g'.response = true) ∨
      ∃ p ∈ (s'.peers .sender).inbox, Carries env .sender true p.2) : Inv env s' := by
  have ha : ∀ src, Answered env s src → Answered env s' src :=
    fun src hsrc => hsrc.mono (h.pc .receiver)
  refine ⟨?_, ?_, ?_, ?_, ?_, ?_, ?_⟩
  · intro g hg
    rcases hflying g hg with hg | hg
    · exact (hi.flying g hg).mono h.opened ha
    · exact hg
  · intro p hp
    rcases hreceiver p hp with hp | hp
    · exact ⟨(hi.receiverInbox p hp).1, (hi.receiverInbox p hp).2.mono (h.opened .sender)⟩
    · exact hp
  · intro p hp
    rcases hsender p hp with hp | hp
    · exact (hi.senderInbox p hp).imp_right fun hr => ⟨hr.1, ha _ hr.2⟩
    · exact hp
  · rw [h.pc]
    exact hi.receiverPc.mono (h.opened .sender)
  · rw [h.pc]
    exact hi.senderPc.mono ha
  · rw [h.pc]
    exact hadmitted
  · intro src hsrc
    have hsrc' : Answered env s src := hsrc.mono (h.pc .receiver).symm
    rcases hi.answered src hsrc' with ⟨g, hg, hr⟩ | ⟨p, hp, hr⟩ | hpc
    · rcases hresponse g hg hr with hr | hr
      · exact Or.inl hr
      · exact Or.inr (Or.inl hr)
    · exact Or.inr (Or.inl ⟨p, h.inbox .sender hp, hr⟩)
    · rw [h.pc]
      exact Or.inr (Or.inr hpc)

/-- The two sides go on with the same datagrams before them. -/
theorem Inv.sends (hi : Inv env s) (h : Frame s s')
    (hinbox : ∀ x, (s'.peers x).inbox = (s.peers x).inbox) (hadmitted : s'.admitted = s.admitted)
    (hflying : ∀ g ∈ s'.flying, g ∈ s.flying ∨ FlyingOk env s' g)
    (hresponse : ∀ g ∈ s.flying, g.response = true → g ∈ s'.flying) : Inv env s' := by
  refine hi.frame h hflying ?_ ?_ ?_ ?_
  · rw [hinbox]
    exact fun p hp => Or.inl hp
  · rw [hinbox]
    exact fun p hp => Or.inl hp
  · rw [hinbox, hadmitted]
    exact hi.admitted
  · exact fun g hg hr => Or.inl ⟨g, hresponse g hg hr, hr⟩

theorem Inv.skip (hi : Inv env s) (x : Side) (todo : List String) :
    Inv env (s.setPeer x { s.peers x with todo := todo }) := by
  have hpeer : ∀ y, ((s.setPeer x { s.peers x with todo := todo }).peers y).inbox =
      (s.peers y).inbox ∧ ((s.setPeer x { s.peers x with todo := todo }).peers y).pc =
      (s.peers y).pc ∧ ((s.setPeer x { s.peers x with todo := todo }).peers y).opened =
      (s.peers y).opened := by
    intro y
    by_cases hy : y = x
    · subst hy
      simp
    · rw [setPeer_of_ne hy]
      exact ⟨rfl, rfl, rfl⟩
  refine hi.sends ⟨fun y => (hpeer y).2.1, ?_, ?_⟩ (fun y => (hpeer y).1) rfl
    (fun g hg => Or.inl hg) (fun g hg _ => hg)
  · intro y
    rw [(hpeer y).2.2]
    exact List.Subset.refl _
  · intro y
    rw [(hpeer y).1]
    exact List.Subset.refl _

/-- What a write does to the peers. -/
theorem write_peers (s : State) (x y : Side) (response : Bool) (dst : String) (data : Bytes) :
    ((s.write env x response dst data).peers y).inbox = (s.peers y).inbox ∧
      ((s.write env x response dst data).peers y).pc = (s.peers y).pc ∧
      ((s.write env x response dst data).peers y).todo = (s.peers y).todo ∧
      ((s.write env x response dst data).peers y).opened =
        if y = x then (s.peers y).opened ++ [dst] else (s.peers y).opened := by
  unfold State.write
  by_cases hy : y = x
  · subst hy
    simp
  · simp [setPeer_of_ne hy, hy]

theorem opened_subset_write (s : State) (x y : Side) (response : Bool) (dst : String)
    (data : Bytes) :
    (s.peers y).opened ⊆ ((s.write env x response dst data).peers y).opened := by
  rw [(write_peers s x y response dst data).2.2.2]
  split
  · exact List.subset_append_left _ _
  · exact List.Subset.refl _

theorem mem_opened_write (s : State) (x : Side) (response : Bool) (dst : String) (data : Bytes) :
    dst ∈ ((s.write env x response dst data).peers x).opened := by
  rw [(write_peers s x x response dst data).2.2.2, if_pos rfl]
  exact List.mem_append_right _ List.mem_cons_self

theorem frame_write (s : State) (x : Side) (response : Bool) (dst : String) (data : Bytes) :
    Frame s (s.write env x response dst data) := by
  refine ⟨fun y => (write_peers s x y response dst data).2.1,
    fun y => opened_subset_write s x y response dst data, ?_⟩
  intro y
  rw [(write_peers s x y response dst data).1]
  exact List.Subset.refl _

theorem Ready.carries (hr : Ready env) {x : Side} {n : Fin 20} {response : Bool} {iv data : Bytes}
    (henc : env.codec.encodeMessage (env.ends x).key { env.sid x n with response := response } iv =
      .ok data) : Carries env x response data := by
  obtain ⟨data', henc', hlen⟩ := hr.encodes x n response iv
  obtain rfl := Except.ok.inj (henc.symm.trans henc')
  refine ⟨n, ?_⟩
  rw [List.take_of_length_le hlen]
  exact env.codec.decode_encode henc hlen

/-- A message is sent. -/
theorem Inv.write (hi : Inv env s) (x : Side) (response : Bool) (dst : String) (data : Bytes)
    (hnew : FlyingOk env (s.write env x response dst data)
      ⟨x, response, (env.ends x).translator.mapping dst, dst, data⟩) :
    Inv env (s.write env x response dst data) := by
  refine hi.sends (frame_write s x response dst data)
    (fun y => (write_peers s x y response dst data).1) rfl ?_ ?_
  · intro g hg
    rcases List.mem_append.mp hg with hg | hg
    · exact Or.inl hg
    · obtain rfl := List.mem_singleton.mp hg
      exact Or.inr hnew
  · exact fun g hg _ => List.mem_append_left _ hg

theorem Inv.send (hi : Inv env s) (hr : Ready env) {x : Side} {n : Fin 20} {iv buf : Bytes}
    (dst : String)
    (henc : env.codec.encodeMessage (env.ends x).key (env.sid x n) iv = .ok buf) :
    Inv env (s.write env x false dst buf) := by
  refine hi.write x false dst buf ⟨rfl, mem_opened_write s x false dst buf, ?_, ?_⟩
  · exact fun _ => hr.carries henc
  · intro hresp
    cases hresp

theorem eq_or_mem_eraseIdx {α : Type} {l : List α} {i : Nat} {g g' : α} (hg : l[i]? = some g)
    (h : g' ∈ l) : g' = g ∨ g' ∈ l.eraseIdx i := by
  obtain ⟨hi, rfl⟩ := List.getElem?_eq_some_iff.mp hg
  exact List.mem_cons.mp ((List.getElem_cons_eraseIdx_perm hi).mem_iff.mpr h)

/-- A datagram that is not a response is gone. -/
theorem Inv.drop (hi : Inv env s) {i : Nat} {g : Datagram} (hg : s.flying[i]? = some g)
    (hresp : g.response = false) : Inv env { s with flying := s.flying.eraseIdx i } := by
  refine hi.sends ⟨fun _ => rfl, fun _ => List.Subset.refl _, fun _ => List.Subset.refl _⟩
    (fun _ => rfl) rfl (fun g' hg' => Or.inl (List.mem_of_mem_eraseIdx hg')) ?_
  intro g' hg' hresp'
  rcases eq_or_mem_eraseIdx hg hg' with rfl | hmem
  · rw [hresp] at hresp'
    cases hresp'
  · exact hmem

/-- A response is let in, because its way has been opened by what it answers. -/
theorem FlyingOk.accepted {g : Datagram} (h : FlyingOk env s g) (hresp : g.response = true) :
    (env.ends g.origin.other).translator.accepts (s.peers g.origin.other).opened g.src g.dst =
      true := by
  obtain ⟨horigin, -, ⟨d, hd, hdst, hback⟩, -⟩ := h.response hresp
  have hsrc : g.src = d := by rw [h.src, horigin, hback]
  rw [horigin, hsrc, hdst]
  exact Translator.accepts_answer hd

/-- What the receiver's translator lets in can be answered. -/
theorem FlyingOk.heard {g : Datagram} (h : FlyingOk env s g) (hr : Ready env)
    (horigin : g.origin = .sender)
    (hacc : (env.ends .receiver).translator.accepts (s.peers .receiver).opened g.src g.dst = true) :
    Heard env s g.src := by
  have hsrc := h.src
  have hopened := h.opened
  rw [horigin] at hsrc hopened
  obtain ⟨e, -, hdst, hlets⟩ := Translator.accepts_iff.mp hacc
  rw [hsrc] at hlets
  refine ⟨g.dst, hopened, hsrc, ?_⟩
  rw [hsrc]
  exact hr.answers g.dst e hdst hlets

theorem letIn_peers (s : State) (i : Nat) (g : Datagram) (x : Side) :
    (letIn s i g).peers x = { s.peers x with
      inbox := if x = g.origin.other then (s.peers x).inbox ++ [(g.src, g.data)]
        else (s.peers x).inbox } := by
  unfold letIn
  by_cases hx : x = g.origin.other
  · subst hx
    simp [State.setPeer]
  · simp [State.setPeer, hx]

theorem frame_letIn (s : State) (i : Nat) (g : Datagram) : Frame s (letIn s i g) := by
  refine ⟨fun x => by rw [letIn_peers], fun x => ?_, fun x => ?_⟩
  · rw [letIn_peers]
    exact List.Subset.refl _
  · rw [letIn_peers]
    dsimp only
    split
    · exact List.subset_append_left _ _
    · exact List.Subset.refl _

theorem Inv.letIn_receiver (hi : Inv env s) (hr : Ready env) {i : Nat} {g : Datagram}
    (hg : s.flying[i]? = some g) (horigin : g.origin = .sender)
    (hacc : (env.ends .receiver).translator.accepts (s.peers .receiver).opened g.src g.dst = true) :
    Inv env (letIn s i g) := by
  have hgok := hi.flying g (List.mem_of_getElem? hg)
  have hresp : g.response = false := by
    cases hresp : g.response with
    | false => rfl
    | true =>
      have := (hgok.response hresp).1
      rw [horigin] at this
      cases this
  have hframe := frame_letIn s i g
  have hother : g.origin.other = .receiver := by rw [horigin]; rfl
  refine hi.frame hframe (fun g' hg' => Or.inl (List.mem_of_mem_eraseIdx hg')) ?_ ?_ ?_ ?_
  · intro p hp
    rw [letIn_peers, hother, if_pos rfl] at hp
    rcases List.mem_append.mp hp with hp | hp
    · exact Or.inl hp
    · obtain rfl := List.mem_singleton.mp hp
      exact Or.inr ⟨horigin ▸ hgok.detect hresp,
        (hgok.heard hr horigin hacc).mono (hframe.opened .sender)⟩
  · intro p hp
    rw [letIn_peers, hother, if_neg (by decide)] at hp
    exact Or.inl hp
  · rw [letIn_peers, hother, if_pos rfl]
    simp [letIn, horigin]
  · intro g' hg' hresp'
    rcases eq_or_mem_eraseIdx hg hg' with rfl | hmem
    · rw [hresp] at hresp'
      cases hresp'
    · exact Or.inl ⟨g', hmem, hresp'⟩

theorem Inv.letIn_sender (hi : Inv env s) {i : Nat} {g : Datagram}
    (hg : s.flying[i]? = some g) (horigin : g.origin = .receiver) : Inv env (letIn s i g) := by
  have hgok := hi.flying g (List.mem_of_getElem? hg)
  have hframe := frame_letIn s i g
  have hother : g.origin.other = .sender := by rw [horigin]; rfl
  refine hi.frame hframe (fun g' hg' => Or.inl (List.mem_of_mem_eraseIdx hg')) ?_ ?_ ?_ ?_
  · intro p hp
    rw [letIn_peers, hother, if_neg (by decide)] at hp
    exact Or.inl hp
  · intro p hp
    rw [letIn_peers, hother, if_pos rfl] at hp
    rcases List.mem_append.mp hp with hp | hp
    · exact Or.inl hp
    · obtain rfl := List.mem_singleton.mp hp
      right
      cases hresp : g.response with
      | false => exact Or.inl (horigin ▸ hgok.detect hresp)
      | true =>
        obtain ⟨-, hcarries, -, hanswered⟩ := hgok.response hresp
        exact Or.inr ⟨hcarries, hanswered.mono (hframe.pc .receiver)⟩
  · rw [letIn_peers, hother, if_neg (by decide)]
    simpa [letIn, horigin] using hi.admitted
  · intro g' hg' hresp'
    rcases eq_or_mem_eraseIdx hg hg' with rfl | hmem
    · right
      refine ⟨(g'.src, g'.data), ?_, (hgok.response hresp').2.1⟩
      rw [letIn_peers, hother, if_pos rfl]
      exact List.mem_append_right _ List.mem_cons_self
    · exact Or.inl ⟨g', hmem, hresp'⟩

/-- What the loop of the receiver makes of a detect message of the sender. -/
theorem Carries.detect_receiver {data : Bytes} (h : Carries env .sender false data) (hr : Ready env)
    (raddr : String) : ∃ n, detect env.codec (env.loop .receiver) (data.take bufSize) raddr =
      .replying (data.take bufSize) raddr { env.sid .sender n with response := true } := by
  obtain ⟨n, hn⟩ := h
  refine ⟨n, ?_⟩
  simp [detect, Env.loop, hr.key, hn, Env.sid, hr.sid, hr.receiver]

theorem Carries.detect_sender {data : Bytes} (h : Carries env .receiver false data)
    (hr : Ready env) (raddr : String) :
    detect env.codec (env.loop .sender) (data.take bufSize) raddr = .reading := by
  obtain ⟨n, hn⟩ := h
  rw [hr.key] at hn
  simp [detect, Env.loop, hn, Env.sid, hr.sid, hr.sender]

theorem Carries.detect_response {data : Bytes} (h : Carries env .sender true data)
    (hr : Ready env) (src : String) :
    detect env.codec (env.loop .sender) (data.take bufSize) src =
      .returning (data.take bufSize) src none := by
  obtain ⟨n, hn⟩ := h
  simp [detect, Env.loop, hn, Env.sid, hr.sender]

/-- A detect message of the receiver is not a response. -/
theorem Carries.not_response {data : Bytes} (h : Carries env .receiver false data)
    (hr : Ready env) : ¬ Carries env .sender true data := by
  rintro ⟨m, hm⟩
  obtain ⟨n, hn⟩ := h
  rw [hr.key, hm] at hn
  simpa using congrArg NatHoleSid.response (Except.ok.inj hn)

theorem not_answered {src : String}
    (h : ∀ data raddr response, (s.peers .receiver).pc ≠ .returning data raddr response) :
    ¬ Answered env s src := by
  rintro ⟨data, raddr, response, hpc, -⟩
  exact h data raddr response hpc

/-- The loop of the receiver goes on to `pc`. No response has been sent before. -/
theorem Inv.turn_receiver (hi : Inv env s) {pc : Pc} {inbox : List (String × Bytes)}
    (hbefore : ∀ data raddr response, (s.peers .receiver).pc ≠ .returning data raddr response)
    (hinbox : inbox ⊆ (s.peers .receiver).inbox) (hpc : ReceiverPcOk env s pc)
    (hafter : ∀ data raddr response, pc ≠ .returning data raddr response)
    (hadmitted : 0 < s.admitted) (hreading : pc ≠ .reading) :
    Inv env (s.setPeer .receiver { s.peers .receiver with inbox := inbox, pc := pc }) := by
  have hsender : (s.setPeer .receiver { s.peers .receiver with inbox := inbox, pc := pc }).peers
      .sender = s.peers .sender := setPeer_of_ne (by decide) _
  have ha : ∀ src, ¬ Answered env s src := fun src => not_answered hbefore
  have ho : ∀ x, (s.peers x).opened ⊆ ((s.setPeer .receiver
      { s.peers .receiver with inbox := inbox, pc := pc }).peers x).opened := by
    intro x
    cases x <;> simp [State.setPeer]
  refine ⟨?_, ?_, ?_, ?_, ?_, ?_, ?_⟩
  · intro g hg
    exact (hi.flying g hg).mono ho fun src hsrc => (ha src hsrc).elim
  · intro p hp
    rw [setPeer_self] at hp
    exact ⟨(hi.receiverInbox p (hinbox hp)).1,
      (hi.receiverInbox p (hinbox hp)).2.mono (ho .sender)⟩
  · rw [hsender]
    intro p hp
    exact (hi.senderInbox p hp).imp_right fun h => (ha _ h.2).elim
  · rw [setPeer_self]
    exact hpc.mono (ho .sender)
  · rw [hsender]
    exact hi.senderPc.mono fun src hsrc => (ha src hsrc).elim
  · rw [setPeer_self]
    exact ⟨fun _ => Or.inr hreading, fun _ => hadmitted⟩
  · intro src hsrc
    refine (not_answered ?_ hsrc).elim
    simpa using hafter

theorem Inv.read_receiver (hi : Inv env s) (hr : Ready env) {raddr : String} {data : Bytes}
    {inbox : List (String × Bytes)} (hpc : (s.peers .receiver).pc = .reading)
    (hinbox : (s.peers .receiver).inbox = (raddr, data) :: inbox) :
    Inv env (s.setPeer .receiver { s.peers .receiver with
      inbox := inbox
      pc := detect env.codec (env.loop .receiver) (data.take bufSize) raddr }) := by
  have hmem : (raddr, data) ∈ (s.peers .receiver).inbox := by
    rw [hinbox]
    exact List.mem_cons_self
  obtain ⟨hcarries, hheard⟩ := hi.receiverInbox _ hmem
  obtain ⟨n, hn⟩ := hcarries.detect_receiver hr raddr
  rw [hn]
  refine hi.turn_receiver ?_ ?_ ⟨hheard, n, rfl⟩ ?_ ?_ ?_
  · simp [hpc]
  · rw [hinbox]
    exact List.subset_cons_self _ _
  · simp
  · refine hi.admitted.mpr (Or.inl ?_)
    rw [hinbox]
    exact List.cons_ne_nil _ _
  · simp

/-- The receiver answers the message that it returns with. -/
theorem Inv.reply (hi : Inv env s) (hr : Ready env) {data iv out : Bytes} {raddr : String}
    {m : NatHoleSid} (hpc : (s.peers .receiver).pc = .replying data raddr m)
    (henc : env.codec.encodeMessage (env.ends .receiver).key m iv = .ok out) :
    Inv env ((s.setPeer .receiver
      { s.peers .receiver with pc := .returning data raddr (some m) }).write env .receiver true
        raddr out) := by
  obtain ⟨hheard, n, rfl⟩ : Heard env s raddr ∧
      ∃ n, m = { env.sid .sender n with response := true } := by
    have := hi.receiverPc
    rw [hpc] at this
    exact this
  have hcarries : Carries env .sender true out := hr.carries (hr.key ▸ henc)
  generalize hs' : (s.setPeer .receiver _).write env .receiver true raddr out = s'
  have hflying : s'.flying = s.flying ++
      [⟨.receiver, true, (env.ends .receiver).translator.mapping raddr, raddr, out⟩] := by
    rw [← hs']
    rfl
  have hsender : s'.peers .sender = s.peers .sender := by
    rw [← hs']
    simp [State.write, State.setPeer]
  have hreceiver : s'.peers .receiver = { s.peers .receiver with
      opened := (s.peers .receiver).opened ++ [raddr]
      pc := .returning data raddr (some { env.sid .sender n with response := true }) } := by
    rw [← hs']
    simp [State.write, State.setPeer]
  have hadmitted : s'.admitted = s.admitted := by
    rw [← hs']
    rfl
  have ho : ∀ x, (s.peers x).opened ⊆ (s'.peers x).opened := by
    intro x
    cases x with
    | sender => rw [hsender]; exact List.Subset.refl _
    | receiver => rw [hreceiver]; exact List.subset_append_left _ _
  have ha : ∀ src, ¬ Answered env s src := fun src => not_answered (by simp [hpc])
  have hanswered : Answered env s' ((env.ends .receiver).translator.mapping raddr) :=
    ⟨_, raddr, _, by rw [hreceiver], rfl⟩
  refine ⟨?_, ?_, ?_, ?_, ?_, ?_, ?_⟩
  · intro g hg
    rw [hflying] at hg
    rcases List.mem_append.mp hg with hg | hg
    · exact (hi.flying g hg).mono ho fun src hsrc => (ha src hsrc).elim
    · obtain rfl := List.mem_singleton.mp hg
      refine ⟨rfl, ?_, ?_, fun _ => ⟨rfl, hcarries, hheard.mono (ho .sender), hanswered⟩⟩
      · rw [hreceiver]
        exact List.mem_append_right _ List.mem_cons_self
      · intro hresp
        cases hresp
  · rw [hreceiver]
    intro p hp
    exact ⟨(hi.receiverInbox p hp).1, (hi.receiverInbox p hp).2.mono (ho .sender)⟩
  · rw [hsender]
    intro p hp
    exact (hi.senderInbox p hp).imp_right fun h => (ha _ h.2).elim
  · rw [hreceiver]
    exact hheard.mono (ho .sender)
  · rw [hsender]
    exact hi.senderPc.mono fun src hsrc => (ha src hsrc).elim
  · rw [hreceiver, hadmitted, hi.admitted, hpc]
    simp
  · intro src hsrc
    left
    rw [hflying]
    exact ⟨_, List.mem_append_right _ List.mem_cons_self, rfl⟩

/-- The loop of the sender goes on to `pc`, past no response that it would not return with. -/
theorem Inv.turn_sender (hi : Inv env s) {pc : Pc} {inbox : List (String × Bytes)}
    (hbefore : (s.peers .sender).pc = .reading)
    (hinbox : inbox ⊆ (s.peers .sender).inbox) (hpc : SenderPcOk env s pc)
    (hresponse : ∀ p ∈ (s.peers .sender).inbox, Carries env .sender true p.2 →
      p ∈ inbox ∨ pc ≠ .reading) :
    Inv env (s.setPeer .sender { s.peers .sender with inbox := inbox, pc := pc }) := by
  have hreceiver : (s.setPeer .sender { s.peers .sender with inbox := inbox, pc := pc }).peers
      .receiver = s.peers .receiver := setPeer_of_ne (by decide) _
  have ha : ∀ src, Answered env s src → Answered env
      (s.setPeer .sender { s.peers .sender with inbox := inbox, pc := pc }) src :=
    fun src hsrc => hsrc.mono (by rw [hreceiver])
  have ho : ∀ x, (s.peers x).opened ⊆ ((s.setPeer .sender
      { s.peers .sender with inbox := inbox, pc := pc }).peers x).opened := by
    intro x
    cases x <;> simp [State.setPeer]
  refine ⟨?_, ?_, ?_, ?_, ?_, ?_, ?_⟩
  · exact fun g hg => (hi.flying g hg).mono ho ha
  · rw [hreceiver]
    intro p hp
    exact ⟨(hi.receiverInbox p hp).1, (hi.receiverInbox p hp).2.mono (ho .sender)⟩
  · rw [setPeer_self]
    intro p hp
    exact (hi.senderInbox p (hinbox hp)).imp_right fun h => ⟨h.1, ha _ h.2⟩
  · rw [hreceiver]
    exact hi.receiverPc.mono (ho .sender)
  · rw [setPeer_self]
    exact hpc.mono ha
  · rw [hreceiver]
    exact hi.admitted
  · intro src hsrc
    have hsrc' : Answered env s src := hsrc.mono (by rw [hreceiver])
    rw [setPeer_self]
    rcases hi.answered src hsrc' with h | ⟨p, hp, hcarries⟩ | h
    · exact Or.inl h
    · right
      rcases hresponse p hp hcarries with hp | hpc
      · exact Or.inl ⟨p, hp, hcarries⟩
      · exact Or.inr hpc
    · exact (h hbefore).elim

theorem Inv.read_sender (hi : Inv env s) (hr : Ready env) {raddr : String} {data : Bytes}
    {inbox : List (String × Bytes)} (hpc : (s.peers .sender).pc = .reading)
    (hinbox : (s.peers .sender).inbox = (raddr, data) :: inbox) :
    Inv env (s.setPeer .sender { s.peers .sender with
      inbox := inbox
      pc := detect env.codec (env.loop .sender) (data.take bufSize) raddr }) := by
  have hsub : inbox ⊆ (s.peers .sender).inbox := by
    rw [hinbox]
    exact List.subset_cons_self _ _
  have hmem : (raddr, data) ∈ (s.peers .sender).inbox := by
    rw [hinbox]
    exact List.mem_cons_self
  rcases hi.senderInbox _ hmem with hcarries | ⟨hcarries, hanswered⟩
  · rw [hcarries.detect_sender hr]
    refine hi.turn_sender hpc hsub trivial ?_
    intro p hp hresp
    rw [hinbox] at hp
    rcases List.mem_cons.mp hp with rfl | hp
    · exact (hcarries.not_response hr hresp).elim
    · exact Or.inl hp
  · rw [hcarries.detect_response hr]
    exact hi.turn_sender hpc hsub hanswered fun _ _ _ => Or.inr (by simp)

theorem Inv.not_replying (hi : Inv env s) {data : Bytes} {raddr : String} {m : NatHoleSid} :
    (s.peers .sender).pc ≠ .replying data raddr m := by
  intro hpc
  rcases hi.senderPc.reads_or_returns with h | ⟨_, _, _, h, -⟩ <;> rw [hpc] at h <;> cases h

/-- The answer of the receiver can be encoded. -/
theorem Ready.reply_ok (hr : Ready env) (n : Fin 20) (iv : Bytes) (err : String) :
    env.codec.encodeMessage (env.ends .receiver).key { env.sid .sender n with response := true }
      iv ≠ .error err := by
  obtain ⟨data, henc, -⟩ := hr.encodes .sender n true iv
  rw [hr.key, henc]
  intros h
  cases h

theorem Inv.effect (hi : Inv env s) (hr : Ready env) (he : Effect env s a s') : Inv env s' := by
  cases he with
  | skip htodo hfail => exact hi.skip _ _
  | send htodo hresolve henc => exact (hi.skip _ _).send hr _ henc
  | letIn hg hacc =>
    rename_i i g
    cases horigin : g.origin with
    | sender =>
      rw [horigin] at hacc
      exact hi.letIn_receiver hr hg horigin hacc
    | receiver => exact hi.letIn_sender hg horigin
  | refuse hg hacc =>
    rename_i i g
    refine hi.drop hg ?_
    cases hresp : g.response with
    | false => rfl
    | true =>
      rw [(hi.flying g (List.mem_of_getElem? hg)).accepted hresp] at hacc
      cases hacc
  | lose hg hresp => exact hi.drop hg hresp
  | read hpc hinbox =>
    rename_i x raddr data inbox
    cases x with
    | sender => exact hi.read_sender hr hpc hinbox
    | receiver => exact hi.read_receiver hr hpc hinbox
  | replyFailed hpc henc =>
    rename_i x data raddr err m iv
    cases x with
    | sender => exact (hi.not_replying hpc).elim
    | receiver =>
      have := hi.receiverPc
      rw [hpc] at this
      obtain ⟨-, n, rfl⟩ := this
      exact (hr.reply_ok n iv err henc).elim
  | reply hpc henc =>
    rename_i x data iv out raddr m
    cases x with
    | sender => exact (hi.not_replying hpc).elim
    | receiver => exact hi.reply hr hpc henc

theorem reachable_inv (hr : Ready env) (h : (system env).ReachableBy Undisturbed s) : Inv env s :=
  (system env).invariant_by inv_init (fun _ _ _ _ hi hu hs => hi.effect hr (step_effect hs hu)) h

/-! ## Both or neither -/

/-- Nothing is left to do but to wait for the deadline. -/
def Quiet (env : Env) (s : State) : Prop :=
  ∀ a, (∀ x err, a ≠ .readError x err) → step env s a = none

theorem quiet_of (hflying : s.flying = []) (htodo : ∀ x, (s.peers x).todo = [])
    (hpc : ∀ x, (s.peers x).pc = .reading ∧ (s.peers x).inbox = [] ∨
      ∃ data raddr response, (s.peers x).pc = .returning data raddr response) : Quiet env s := by
  intro a ha
  cases a with
  | send x n iv => simp [step, htodo]
  | deliver i => simp [step, hflying]
  | lose i => simp [step, hflying]
  | read x =>
    rcases hpc x with ⟨-, hinbox⟩ | ⟨data, raddr, response, hpc⟩
    · simp [step, hinbox]
    · simp [step, hpc]
  | readError x err => exact (ha x err rfl).elim
  | reply x iv =>
    rcases hpc x with ⟨hpc, -⟩ | ⟨data, raddr, response, hpc⟩
    · simp [step, hpc]
    · simp [step, hpc]

theorem Quiet.flying (h : Quiet env s) : s.flying = [] := by
  cases hf : s.flying with
  | nil => rfl
  | cons g flying =>
    have := h (.deliver 0) (by simp)
    simp [step, hf] at this

theorem Quiet.todo (h : Quiet env s) (x : Side) : (s.peers x).todo = [] := by
  cases ht : (s.peers x).todo with
  | nil => rfl
  | cons addr todo =>
    have := h (.send x 0 []) (by simp)
    simp [step, ht] at this

theorem Quiet.inbox (h : Quiet env s) {x : Side} (hpc : (s.peers x).pc = .reading) :
    (s.peers x).inbox = [] := by
  cases hb : (s.peers x).inbox with
  | nil => rfl
  | cons p inbox =>
    have := h (.read x) (by simp)
    simp [step, h.todo x, hpc, hb] at this

theorem Quiet.not_replying (h : Quiet env s) {x : Side} {data : Bytes} {raddr : String}
    {m : NatHoleSid} : (s.peers x).pc ≠ .replying data raddr m := by
  intro hpc
  have := h (.reply x []) (by simp)
  simp only [step, hpc] at this
  split at this <;> cases this

/-- Both calls end, each with the address at which the other one can be reached. -/
def Punched (env : Env) (s : State) : Prop :=
  ∃ data raddr response data' raddr' response',
    (s.peers .receiver).pc = .returning data raddr response ∧
      (s.peers .sender).pc = .returning data' raddr' response' ∧
      raddr = (env.ends .sender).translator.mapping raddr' ∧
      raddr' = (env.ends .receiver).translator.mapping raddr

theorem Inv.receiver_returns (hi : Inv env s) (hq : Quiet env s) (h : 0 < s.admitted) :
    ∃ data raddr response, (s.peers .receiver).pc = .returning data raddr response := by
  have hpc := hi.receiverPc
  cases hr : (s.peers .receiver).pc with
  | reading =>
    rcases hi.admitted.mp h with hinbox | hreading
    · exact (hinbox (hq.inbox hr)).elim
    · exact (hreading hr).elim
  | replying data raddr m => exact (hq.not_replying hr).elim
  | returning data raddr response => exact ⟨data, raddr, response, rfl⟩
  | _ =>
    rw [hr] at hpc
    exact hpc.elim

theorem Inv.sender_returns (hi : Inv env s) (hq : Quiet env s) {src : String}
    (h : Answered env s src) : ∃ data raddr response,
      (s.peers .sender).pc = .returning data raddr response ∧ Answered env s raddr := by
  have hreading : (s.peers .sender).pc ≠ .reading := by
    intro hpc
    rcases hi.answered src h with ⟨g, hg, -⟩ | ⟨p, hp, -⟩ | hne
    · rw [hq.flying] at hg
      cases hg
    · rw [hq.inbox hpc] at hp
      cases hp
    · exact hne hpc
  exact hi.senderPc.reads_or_returns.resolve_left hreading

/-- Once a datagram of the sender has been let in, both calls end. -/
theorem Inv.punched (hi : Inv env s) (hq : Quiet env s) (h : 0 < s.admitted) : Punched env s := by
  obtain ⟨data, raddr, response, hpc⟩ := hi.receiver_returns hq h
  obtain ⟨data', raddr', response', hpc', hanswered⟩ :=
    hi.sender_returns hq ⟨data, raddr, response, hpc, rfl⟩
  obtain ⟨data₁, raddr₁, response₁, hpc₁, hraddr'⟩ := hanswered
  rw [hpc] at hpc₁
  obtain ⟨rfl, rfl, rfl⟩ := Pc.returning.inj hpc₁
  have hheard := hi.receiverPc
  rw [hpc] at hheard
  obtain ⟨d, -, hsrc, hdst⟩ := hheard
  refine ⟨_, _, _, _, _, _, hpc, hpc', ?_, hraddr'⟩
  rw [hraddr', hdst]
  exact hsrc

/-- Otherwise both wait. -/
theorem Inv.waiting (hi : Inv env s) (h : s.admitted = 0) (x : Side) :
    (s.peers x).pc = .reading := by
  have hreceiver : (s.peers .receiver).pc = .reading := by
    by_contra hpc
    have := hi.admitted.mpr (Or.inr hpc)
    omega
  cases x with
  | receiver => exact hreceiver
  | sender =>
    refine hi.senderPc.reads_or_returns.resolve_right ?_
    rintro ⟨data, src, response, -, hanswered⟩
    exact not_answered (by simp [hreceiver]) hanswered

/-- If the response is not lost, no deadline passes and what the receiver's translator lets in can
be answered, then both sides have the hole when nothing is left to do, or both wait: they have it
if and only if the receiver's translator has let in a detect message of the sender. -/
theorem hole_for_both_or_neither (hr : Ready env) (h : (system env).ReachableBy Undisturbed s)
    (hq : Quiet env s) :
    (0 < s.admitted → Punched env s) ∧
      (s.admitted = 0 → ∀ x, (s.peers x).pc = .reading ∧ (s.peers x).inbox = []) := by
  have hi := reachable_inv hr h
  refine ⟨hi.punched hq, ?_⟩
  intro hnone x
  exact ⟨hi.waiting hnone x, hq.inbox (hi.waiting hnone x)⟩

/-- The messages of two calls. -/
def sampleMessages : List NatHoleSid :=
  ["a", "b"].flatMap fun transactionID => [false, true].flatMap fun response =>
    (List.finRange 20).map fun n => ⟨transactionID, "s", response, nonce n⟩

/-- A message is encoded by its place in the list. -/
def sampleCodec : Codec where
  encodeMessage _ m _ :=
    if m ∈ sampleMessages then .ok (List.replicate (sampleMessages.idxOf m) 0)
    else .error "encode error"
  decodeMessageInto _ data :=
    match sampleMessages[data.length]? with
    | some m => .ok m
    | none => .error "decode error"
  decode_encode := by
    intro key m iv data h _
    split at h
    · rename_i hm
      obtain rfl := Except.ok.inj h
      simp [List.getElem?_idxOf hm]
    · cases h

/-- Two sides behind translators that let in only what comes from where they have sent to. -/
def sampleEnv (resp : Side → NatHoleResponse) (mapping : Side → String → String) : Env where
  codec := sampleCodec
  resolve := some
  ends x :=
    { resp := resp x
      key := []
      transactionID := if x = .sender then "a" else "b"
      translator := ⟨mapping x, fun d src => decide (d = src), fun d => by simp⟩ }

theorem sampleEnv_encodes {resp : Side → NatHoleResponse} {mapping : Side → String → String}
    (hsid : ∀ x, (resp x).sid = "s") (x : Side) (n : Fin 20) (response : Bool) (iv : Bytes) :
    ∃ data, (sampleEnv resp mapping).codec.encodeMessage ((sampleEnv resp mapping).ends x).key
      { (sampleEnv resp mapping).sid x n with response := response } iv = .ok data ∧
        data.length ≤ bufSize := by
  have hmem : ({ (sampleEnv resp mapping).sid x n with response := response } : NatHoleSid) ∈
      sampleMessages := by
    refine List.mem_flatMap.mpr ⟨if x = .sender then "a" else "b", ?_, ?_⟩
    · split <;> simp
    · refine List.mem_flatMap.mpr ⟨response, by cases response <;> simp, ?_⟩
      refine List.mem_map.mpr ⟨n, List.mem_finRange n, ?_⟩
      simp [Env.sid, sampleEnv, hsid]
  refine ⟨_, if_pos hmem, ?_⟩
  have hlt := List.idxOf_lt_length_iff.mpr hmem
  have hlength : sampleMessages.length = 80 := by decide +kernel
  rw [List.length_replicate, bufSize]
  omega

def sampleResp : Side → NatHoleResponse
  | .sender =>
    { transactionID := "v", sid := "s", error := "", candidateAddrs := ["2.2.2.2:6000"]
      detectBehavior := { role := .sender } }
  | .receiver =>
    { transactionID := "c", sid := "s", error := "", candidateAddrs := ["1.1.1.1:5000"]
      detectBehavior := { role := .receiver } }

def sampleMapping : Side → String → String
  | .sender, _ => "1.1.1.1:5000"
  | .receiver, _ => "2.2.2.2:6000"

theorem sample_ready : Ready (sampleEnv sampleResp sampleMapping) := by
  refine ⟨rfl, rfl, rfl, by decide, ?_, sampleEnv_encodes ?_, ?_⟩
  · intro x
    cases x <;> decide
  · intro x
    cases x <;> rfl
  · exact Translator.answers_of_exact fun _ _ h => of_decide_eq_true h

/-- Whether a state is quiet after both calls have ended. -/
def bothReturn (s : State) : Bool :=
  s.flying.isEmpty && [Side.sender, .receiver].all fun x =>
    (s.peers x).todo.isEmpty && match (s.peers x).pc with
      | .returning _ _ _ => true
      | _ => false

theorem quiet_of_bothReturn (h : bothReturn s = true) : Quiet env s := by
  simp only [bothReturn, List.all_cons, List.all_nil, Bool.and_true, Bool.and_eq_true,
    List.isEmpty_iff] at h
  obtain ⟨hflying, ⟨htodo, hpc⟩, htodo', hpc'⟩ := h
  refine quiet_of hflying ?_ ?_
  · intro x
    cases x with
    | sender => exact htodo
    | receiver => exact htodo'
  · intro x
    right
    cases x with
    | sender =>
      split at hpc
      · exact ⟨_, _, _, ‹_›⟩
      · cases hpc
    | receiver =>
      split at hpc'
      · exact ⟨_, _, _, ‹_›⟩
      · cases hpc'

/-- The receiver's datagram is late, and the sender's own one opens the way for the answer. -/
theorem hole_for_both_or_neither_both :
    ∃ s, (system (sampleEnv sampleResp sampleMapping)).ReachableBy Undisturbed s ∧
      Quiet (sampleEnv sampleResp sampleMapping) s ∧
      Punched (sampleEnv sampleResp sampleMapping) s := by
  obtain ⟨s, hs, hp⟩ := System.reachableBy_of_run
    (S := system (sampleEnv sampleResp sampleMapping)) (C := Undisturbed)
    (l := [.send .receiver 0 [], .send .sender 1 [], .deliver 1, .read .receiver,
      .reply .receiver [], .deliver 0, .read .sender, .deliver 0, .read .sender])
    (p := fun s => bothReturn s && decide (0 < s.admitted)) (by decide +kernel) (by decide +kernel)
  obtain ⟨hboth, hadmitted⟩ := (Bool.and_eq_true _ _).mp hp
  have hq : Quiet (sampleEnv sampleResp sampleMapping) s := quiet_of_bothReturn hboth
  exact ⟨s, hs, hq, (hole_for_both_or_neither sample_ready hs hq).1 (of_decide_eq_true hadmitted)⟩

end FrpXtcp.Nathole.HolePunch

import FrpXtcp.Auth.Token
import FrpXtcp.Lib.Deadlines
import FrpXtcp.Lib.Transition
import FrpXtcp.Util.Backoff
import Mathlib.Data.List.Forall2

/-!
# Heartbeats

The client of a control connection sends a `Ping` every `HeartbeatInterval` seconds, the first
one at once, and the server answers each by a `Pong`, with an error if the ping does not verify
(`heartbeatWorker` and `handlePong` of `client/control.go`, `heartbeatWorker` and `handlePing` of
`server/control.go`). Each side looks once a second when it has heard from the other for the
last time, and closes the session if that is longer ago than its timeout. Both count from the
creation of their control.

Time is that of the monotonic clock, zero when the server creates its control. An action has
the time at which it happens; what the goroutines and the network need shows in conditions on
these times. A send of the dispatcher is part of the delay of its message.
-/
namespace FrpXtcp.Session.Heartbeat

open FrpXtcp.Auth (Ping TokenAuth)
open FrpXtcp.Lib
open FrpXtcp.Nathole (Digest)
open FrpXtcp.Util (second)

structure Config where
  heartbeatInterval : Int64
  clientTimeout : Int64
  serverTimeout : Int64
  clientAuth : TokenAuth
  serverAuth : TokenAuth
  detailedErrorsToClient : Bool

/-- Whether the client checks its timeout. -/
def Config.ClientChecks (cfg : Config) : Prop :=
  0 < cfg.heartbeatInterval ∧ 0 < cfg.clientTimeout

instance (cfg : Config) : Decidable cfg.ClientChecks := inferInstanceAs (Decidable (_ ∧ _))

/-- `time.Duration(n) * time.Second` -/
def seconds (n : Int64) : Int := (n * 1000000000).toInt

/-- The client's control. `due` and `checkDue` are when the tickers of the two loops fire. -/
structure Client where
  lastPong : Int
  due : Int
  checkDue : Int
  closed : Bool

structure Server where
  lastPing : Int
  checkDue : Int
  closed : Bool

/-- The client's control is created when the answer to its login arrives. The messages under way
have the times at which they were sent; of a `Pong` there is its error. -/
structure State where
  now : Int
  client : Option Client
  server : Server
  pings : List (Int × Ping)
  pongs : List (Int × String)

inductive Event where
  | start
  | sendPing (unix : Int64)
  | handlePing
  | handlePong
  | checkClient
  | checkServer

structure Action where
  time : Int
  event : Event

variable (md5 : Digest) (cfg : Config)

/-- `NewControl` and the start of `heartbeatWorker`: both loops make their first round at once. -/
def newClient (t : Int) : Client := ⟨t, t, t, false⟩

/-- `handlePing` of the server, with the ping `m` taken from the connection. -/
def handlePing (s : State) (m : Ping) : State :=
  match cfg.serverAuth.verifyPing md5 m with
  | .error err => { s with
      pongs := s.pongs ++ [(s.now,
        Server.generateResponseErrorString "invalid ping" err cfg.detailedErrorsToClient)] }
  | .ok () => { s with
      server := { s.server with lastPing := s.now }
      pongs := s.pongs ++ [(s.now, "")] }

/-- What an event does to the state at its time `s.now`. -/
def handle (s : State) : Event → Option State
  | .start =>
    match s.client with
    | none => some { s with client := some (newClient s.now) }
    | some _ => none
  | .sendPing unix =>
    match s.client with
    | some c =>
      if 0 < cfg.heartbeatInterval ∧ c.closed = false ∧ c.due ≤ s.now then
        some { s with
          client := some { c with due := s.now + seconds cfg.heartbeatInterval }
          pings := s.pings ++ [(s.now, cfg.clientAuth.setPing md5 unix {})] }
      else none
    | none => none
  | .handlePing =>
    match s.pings with
    | (_, m) :: pings =>
      if s.server.closed then none else some (handlePing md5 cfg { s with pings := pings } m)
    | [] => none
  | .handlePong =>
    match s.client, s.pongs with
    | some c, (_, error) :: pongs =>
      if c.closed then none
      else if error ≠ "" then
        some { s with client := some { c with closed := true }, pongs := pongs }
      else some { s with client := some { c with lastPong := s.now }, pongs := pongs }
    | _, _ => none
  | .checkClient =>
    match s.client with
    | some c =>
      if cfg.ClientChecks ∧ c.closed = false ∧ c.checkDue ≤ s.now then
        some { s with client := some { c with
          checkDue := s.now + second
          closed := decide (s.now - c.lastPong > seconds cfg.clientTimeout) } }
      else none
    | none => none
  | .checkServer =>
    if 0 < cfg.serverTimeout ∧ s.server.closed = false ∧ s.server.checkDue ≤ s.now then
      some { s with server := { s.server with
        checkDue := s.now + second
        closed := decide (s.now - s.server.lastPing > seconds cfg.serverTimeout) } }
    else none

def step (s : State) (a : Action) : Option State :=
  if s.now ≤ a.time then handle md5 cfg { s with now := a.time } a.event else none

def init : State := ⟨0, none, ⟨0, 0, false⟩, [], []⟩

def system : System State Action := ⟨init, step md5 cfg⟩

variable {md5 cfg} {s s' : State} {a : Action}

/-! ## What a step does -/

/-- What the events do at the time of the state, with what each one needs. -/
inductive Effect (md5 : Digest) (cfg : Config) (s : State) : State → Prop
  | start : s.client = none → Effect md5 cfg s { s with client := some (newClient s.now) }
  | sendPing {c : Client} (unix : Int64) : s.client = some c → c.closed = false →
      c.due ≤ s.now →
      Effect md5 cfg s { s with
        client := some { c with due := s.now + seconds cfg.heartbeatInterval }
        pings := s.pings ++ [(s.now, cfg.clientAuth.setPing md5 unix {})] }
  | invalidPing {u : Int} {m : Ping} {pings : List (Int × Ping)} {err error : String} :
      s.pings = (u, m) :: pings → cfg.serverAuth.verifyPing md5 m = .error err →
      Effect md5 cfg s { s with pings := pings, pongs := s.pongs ++ [(s.now, error)] }
  | handlePing {u : Int} {m : Ping} {pings : List (Int × Ping)} :
      s.pings = (u, m) :: pings → s.server.closed = false →
      Effect md5 cfg s { s with
        pings := pings
        server := { s.server with lastPing := s.now }
        pongs := s.pongs ++ [(s.now, "")] }
  | errorPong {c : Client} {v : Int} {error : String} {pongs : List (Int × String)} :
      s.client = some c → s.pongs = (v, error) :: pongs → error ≠ "" →
      Effect md5 cfg s { s with client := some { c with closed := true }, pongs := pongs }
  | handlePong {c : Client} {v : Int} {pongs : List (Int × String)} :
      s.client = some c → s.pongs = (v, "") :: pongs → c.closed = false →
      Effect md5 cfg s { s with client := some { c with lastPong := s.now }, pongs := pongs }
  | checkClient {c : Client} : s.client = some c → cfg.ClientChecks → c.closed = false →
      Effect md5 cfg s { s with client := some { c with
        checkDue := s.now + second
        closed := decide (s.now - c.lastPong > seconds cfg.clientTimeout) } }
  | checkServer : 0 < cfg.serverTimeout → s.server.closed = false →
      Effect md5 cfg s { s with server := { s.server with
        checkDue := s.now + second
        closed := decide (s.now - s.server.lastPing > seconds cfg.serverTimeout) } }

theorem handle_effect {e : Event} (h : handle md5 cfg s e = some s') : Effect md5 cfg s s' := by
  cases e with
  | start =>
    simp only [handle] at h
    split at h <;> cases h
    exact .start ‹_›
  | sendPing unix =>
    simp only [handle] at h
    split at h
    · rename_i c hc
      split at h <;> cases h
      rename_i hg
      exact .sendPing unix hc hg.2.1 hg.2.2
    · cases h
  | handlePing =>
    simp only [handle] at h
    split at h
    · rename_i u m pings hpings
      split at h
      · cases h
      · rename_i hopen
        obtain rfl := Option.some.inj h
        unfold handlePing
        split
        · exact .invalidPing hpings ‹_›
        · exact .handlePing hpings (by simpa using hopen)
    · cases h
  | handlePong =>
    simp only [handle] at h
    split at h
    · rename_i c v error pongs hc hpongs
      split at h
      · cases h
      · rename_i hopen
        split at h <;> cases h
        · exact .errorPong hc hpongs ‹_›
        · rename_i hnone
          obtain rfl := not_not.mp hnone
          exact .handlePong hc hpongs (by simpa using hopen)
    · cases h
  | checkClient =>
    simp only [handle] at h
    split at h
    · rename_i c hc
      split at h <;> cases h
      rename_i hg
      exact .checkClient hc hg.1 hg.2.1
    · cases h
  | checkServer =>
    simp only [handle] at h
    split at h <;> cases h
    rename_i hg
    exact .checkServer hg.1 hg.2.1

theorem step_effect (h : step md5 cfg s a = some s') :
    s.now ≤ a.time ∧ Effect md5 cfg { s with now := a.time } s' := by
  unfold step at h
  split at h
  · exact ⟨‹_›, handle_effect h⟩
  · cases h

/-! ## Who has not heard for long is closed -/

/-- No check of an open side is later than `slack` after it is due. -/
def Prompt (cfg : Config) (slack : Int) (s : State) (a : Action) : Prop :=
  (0 < cfg.serverTimeout → s.server.closed = false → a.time ≤ s.server.checkDue + slack) ∧
    ∀ c ∈ s.client, cfg.ClientChecks → c.closed = false → a.time ≤ c.checkDue + slack

/-- One side of the session has passed its last check, which was not long ago. -/
structure Checked (timeout slack : Int) (now last checkDue : Int) : Prop where
  past : last ≤ now
  passed : checkDue ≤ last + timeout + second
  prompt : now ≤ checkDue + slack

/-- Each side that checks and is open; the product of a timeout and a second may be out of range,
which makes it negative. -/
structure AllChecked (cfg : Config) (slack : Int) (s : State) : Prop where
  server : 0 < cfg.serverTimeout → 0 ≤ seconds cfg.serverTimeout → s.server.closed = false →
    Checked (seconds cfg.serverTimeout) slack s.now s.server.lastPing s.server.checkDue
  client : ∀ c ∈ s.client, cfg.ClientChecks → 0 ≤ seconds cfg.clientTimeout → c.closed = false →
    Checked (seconds cfg.clientTimeout) slack s.now c.lastPong c.checkDue

section Checked

variable {timeout slack : Int} {now t last checkDue : Int}

theorem Checked.later (h : Checked timeout slack now last checkDue) (ht : now ≤ t)
    (hp : t ≤ checkDue + slack) : Checked timeout slack t last checkDue :=
  ⟨Int.le_trans h.past ht, h.passed, hp⟩

theorem Checked.heard (h : Checked timeout slack now last checkDue) :
    Checked timeout slack now now checkDue := by
  obtain ⟨hpast, hpassed, hprompt⟩ := h
  exact ⟨Int.le_refl _, by omega, hprompt⟩

theorem Checked.check (h : Checked timeout slack now last checkDue) (hslack : 0 ≤ slack)
    (hpass : decide (now - last > timeout) = false) :
    Checked timeout slack now last (now + second) := by
  have hpass : ¬ now - last > timeout := by simpa using hpass
  have hsecond : (0 : Int) ≤ second := by decide
  exact ⟨h.past, by omega, by omega⟩

theorem Checked.new (htimeout : 0 ≤ timeout) (hslack : 0 ≤ slack) :
    Checked timeout slack now now now := by
  have hsecond : (0 : Int) ≤ second := by decide
  exact ⟨Int.le_refl _, by omega, by omega⟩

end Checked

/-- Time passes until the next event. -/
theorem AllChecked.wait {slack : Int} (h : AllChecked cfg slack s) (hnow : s.now ≤ a.time)
    (hp : Prompt cfg slack s a) : AllChecked cfg slack { s with now := a.time } := by
  refine ⟨?_, ?_⟩
  · intro ht hfit hopen
    exact (h.server ht hfit hopen).later hnow (hp.1 ht hopen)
  · intro c hc ht hfit hopen
    exact (h.client c hc ht hfit hopen).later hnow (hp.2 c hc ht hopen)

instance (cfg : Config) (slack : Int) (s : State) (a : Action) :
    Decidable (Prompt cfg slack s a) :=
  inferInstanceAs (Decidable (_ ∧ ∀ c ∈ s.client, cfg.ClientChecks → c.closed = false →
    a.time ≤ c.checkDue + slack))

/-- No message under way is older than `delay`, the answer to the login included, and the next
ping is not overdue by more than `slack`. -/
def Punctual (delay slack : Int) (s : State) : Prop :=
  (∀ m ∈ s.pings, s.now ≤ m.1 + delay) ∧ (∀ m ∈ s.pongs, s.now ≤ m.1 + delay) ∧
    match s.client with
    | none => s.now ≤ delay
    | some c => s.now ≤ c.due + slack

/-- What is waited for before an action comes in time. -/
def Timely (delay slack : Int) (s : State) (a : Action) : Prop :=
  Punctual delay slack { s with now := a.time }

instance (delay slack : Int) (s : State) (a : Action) : Decidable (Timely delay slack s a) :=
  haveI : Decidable (match s.client with
      | none => a.time ≤ delay
      | some c => a.time ≤ c.due + slack) :=
    match s.client with
    | none => inferInstanceAs (Decidable (a.time ≤ delay))
    | some c => inferInstanceAs (Decidable (a.time ≤ c.due + slack))
  inferInstanceAs (Decidable (_ ∧ _ ∧ _))

/-- The client is configured for the server, and both wait long enough. -/
structure Fits (cfg : Config) (delay slack : Int) : Prop where
  auth : TokenAuth.Covers cfg.clientAuth cfg.serverAuth
  nonneg : 0 ≤ delay ∧ 0 ≤ slack ∧ 0 ≤ seconds cfg.heartbeatInterval
  server : 0 < cfg.serverTimeout →
    seconds cfg.heartbeatInterval + slack + 2 * delay ≤ seconds cfg.serverTimeout
  client : cfg.ClientChecks →
    seconds cfg.heartbeatInterval + slack + 2 * delay ≤ seconds cfg.clientTimeout

/-- The pings under way from the last one that the server has handled, in the terms of a chain.
Before the first one it is the start of the client. -/
def ServerChain (cfg : Config) (delay slack : Int) (s : State) (c : Client) : Prop :=
  ∃ o, o ≤ s.server.lastPing + delay ∧
    Chain (seconds cfg.heartbeatInterval) slack c.due o (s.pings.map Prod.fst)

/-- The same from the last one whose answer the client has handled; `os` are when the pings were
sent whose answers are under way. -/
def ClientChain (cfg : Config) (delay slack : Int) (s : State) (c : Client) : Prop :=
  ∃ o os, o ≤ c.lastPong ∧
    List.Forall₂ (fun o m => o ≤ s.now ∧ m.1 ≤ o + delay) os s.pongs ∧
    Chain (seconds cfg.heartbeatInterval) slack c.due o (os ++ s.pings.map Prod.fst)

structure InTime (md5 : Digest) (cfg : Config) (delay slack : Int) (s : State) : Prop where
  serverOpen : s.server.closed = false
  clientOpen : ∀ c ∈ s.client, c.closed = false
  valid : ∀ m ∈ s.pings, m.1 ≤ s.now ∧ cfg.serverAuth.verifyPing md5 m.2 = .ok ()
  noError : ∀ m ∈ s.pongs, m.2 = ""
  unstarted : s.client = none → s.pings = [] ∧ s.pongs = [] ∧ s.server.lastPing = 0
  chains : ∀ c ∈ s.client, ServerChain cfg delay slack s c ∧ ClientChain cfg delay slack s c

/-- Time passes until the next event, which is in time: what the invariant says about the
messages holds at the later time too. -/
theorem InTime.wait {delay slack : Int} (h : InTime md5 cfg delay slack s) (hnow : s.now ≤ a.time) :
    InTime md5 cfg delay slack { s with now := a.time } := by
  refine ⟨h.serverOpen, h.clientOpen, ?_, h.noError, h.unstarted, ?_⟩
  · intro m hm
    exact ⟨Int.le_trans (h.valid m hm).1 hnow, (h.valid m hm).2⟩
  · intro c hc
    obtain ⟨hserver, o, os, ho, hos, hchain⟩ := h.chains c hc
    refine ⟨hserver, o, os, ho, ?_, hchain⟩
    exact hos.imp fun _ _ hle => ⟨Int.le_trans hle.1 hnow, hle.2⟩

section InTime

variable {delay slack : Int}

/-- The client sends its next ping. -/
theorem InTime.sendPing (h : InTime md5 cfg delay slack s) (hfits : Fits cfg delay slack)
    (ht : Punctual delay slack s) {c : Client} (hc : s.client = some c) (unix : Int64) :
    InTime md5 cfg delay slack { s with
      client := some { c with due := s.now + seconds cfg.heartbeatInterval }
      pings := s.pings ++ [(s.now, cfg.clientAuth.setPing md5 unix {})] } := by
  have htime := ht.2.2
  simp only [hc] at htime
  refine ⟨h.serverOpen, ?_, ?_, h.noError, ?_, ?_⟩
  · intro c' hc'
    obtain rfl := Option.some.inj hc'
    exact h.clientOpen c hc
  · intro m hm
    rcases List.mem_append.mp hm with hm | hm
    · exact h.valid m hm
    · obtain rfl := List.mem_singleton.mp hm
      exact ⟨Int.le_refl _, hfits.auth.verifyPing unix⟩
  · intro hnone
    cases hnone
  · intro c' hc'
    obtain rfl := Option.some.inj hc'
    obtain ⟨⟨o, ho, hchain⟩, o', os, ho', hos, hchain'⟩ := h.chains c hc
    refine ⟨⟨o, ho, ?_⟩, o', os, ho', hos, ?_⟩
    · rw [List.map_append]
      exact hchain.snoc htime
    · rw [List.map_append, ← List.append_assoc]
      exact hchain'.snoc htime

/-- The server handles the first ping and answers. -/
theorem InTime.handlePing (h : InTime md5 cfg delay slack s) (hfits : Fits cfg delay slack)
    (ht : Punctual delay slack s) {u : Int} {m : Ping} {pings : List (Int × Ping)}
    (hp : s.pings = (u, m) :: pings) :
    InTime md5 cfg delay slack { s with
      pings := pings
      server := { s.server with lastPing := s.now }
      pongs := s.pongs ++ [(s.now, "")] } := by
  have hdelay := hfits.nonneg.1
  have hu : u ≤ s.now := (h.valid (u, m) (by simp [hp])).1
  have hsoon : s.now ≤ u + delay := ht.1 (u, m) (by simp [hp])
  refine ⟨h.serverOpen, h.clientOpen, ?_, ?_, ?_, ?_⟩
  · intro m' hm
    exact h.valid m' (by simp [hp, hm])
  · intro m' hm
    rcases List.mem_append.mp hm with hm | hm
    · exact h.noError m' hm
    · obtain rfl := List.mem_singleton.mp hm
      rfl
  · intro hnone
    have hnil := (h.unstarted hnone).1
    rw [hp] at hnil
    cases hnil
  · intro c hc
    obtain ⟨⟨o, ho, hchain⟩, o', os, ho', hos, hchain'⟩ := h.chains c hc
    rw [hp, List.map_cons] at hchain hchain'
    refine ⟨⟨u, by dsimp only; omega, hchain.tail⟩, o', os ++ [u], ho', ?_, ?_⟩
    · exact List.rel_append hos (.cons ⟨hu, hsoon⟩ .nil)
    · rw [List.append_assoc]
      exact hchain'

/-- The client handles the first answer. -/
theorem InTime.handlePong (h : InTime md5 cfg delay slack s) {c : Client}
    (hc : s.client = some c) {v : Int} {pongs : List (Int × String)}
    (hp : s.pongs = (v, "") :: pongs) :
    InTime md5 cfg delay slack
      { s with client := some { c with lastPong := s.now }, pongs := pongs } := by
  refine ⟨h.serverOpen, ?_, h.valid, ?_, ?_, ?_⟩
  · intro c' hc'
    obtain rfl := Option.some.inj hc'
    exact h.clientOpen c hc
  · intro m hm
    exact h.noError m (by simp [hp, hm])
  · intro hnone
    cases hnone
  · intro c' hc'
    obtain rfl := Option.some.inj hc'
    obtain ⟨hserver, o, os, ho, hos, hchain⟩ := h.chains c hc
    rw [hp] at hos
    cases hos with
    | @cons o₁ _ os _ hle hos => exact ⟨hserver, o₁, os, hle.1, hos, hchain.tail⟩

/-- The client starts when the answer to its login arrives. -/
theorem InTime.start (h : InTime md5 cfg delay slack s) (hfits : Fits cfg delay slack)
    (ht : Punctual delay slack s) (hc : s.client = none) :
    InTime md5 cfg delay slack { s with client := some (newClient s.now) } := by
  obtain ⟨-, -, hinterval⟩ := hfits.nonneg
  obtain ⟨hpings, hpongs, hlast⟩ := h.unstarted hc
  have htime := ht.2.2
  simp only [hc] at htime
  refine ⟨h.serverOpen, ?_, h.valid, h.noError, ?_, ?_⟩
  · intro c hc'
    obtain rfl := Option.some.inj hc'
    rfl
  · intro hnone
    cases hnone
  · intro c hc'
    obtain rfl := Option.some.inj hc'
    have hchain : Chain (seconds cfg.heartbeatInterval) slack s.now s.now [] := by
      simp only [Chain]
      omega
    refine ⟨⟨s.now, by dsimp only; omega, ?_⟩, s.now, [], Int.le_refl _, ?_, ?_⟩
    · simp only [hpings]
      exact hchain
    · simp only [hpongs]
      exact .nil
    · simp only [hpings]
      exact hchain

end InTime

end FrpXtcp.Session.Heartbeat

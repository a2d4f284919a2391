import Mathlib.Logic.Function.Basic
import FrpXtcp.Lib.Transition
import FrpXtcp.Nathole.Controller

/-!
# Registering and closing proxies on the server

One proxy name is recorded in three tables under three locks: the controller's
`clientCfgs`, the proxy manager's `pxys` and the `proxies` map of the control that
registered it. `RegisterProxy`, `CloseProxy` and the proxy part of the worker's
shutdown (`server/control.go`) are cut at their lock sections, so that any number
of them, on any controls, interleave at every point where the code releases a lock.
-/
namespace FrpXtcp.Server.Proxy

open FrpXtcp.Lib
open FrpXtcp.Nathole (Controller listenClient closeClient newController)

universe u

/-- The fields of `msg.NewProxy` that `UnmarshalFromMsg` reads for an xtcp proxy. The JSON
encoding leaves out empty maps and lists, so that nil and empty are one on the wire. -/
structure NewProxy where
  proxyName : String
  proxyType : String
  useEncryption : Bool
  useCompression : Bool
  metas : List (String × String)
  annotations : List (String × String)
  sk : String
  allowUsers : List String
  deriving DecidableEq

/-- The fields of `v1.XTCPProxyConfig` that come from the message; the others have the same
values in every configuration on the server. -/
structure XTCPProxyConfig where
  name : String
  type : String
  useEncryption : Bool
  useCompression : Bool
  metadatas : List (String × String)
  annotations : List (String × String)
  secretkey : String
  allowUsers : List String
  deriving DecidableEq

/-- `ValidateAnnotations`: the error for a set of annotations, if any. -/
abbrev AnnotationCheck := List (String × String) → Option String

/-- `util.EmptyOr` on strings. -/
def emptyOr (v fallback : String) : String := if v = "" then fallback else v

/-- `XTCPProxyConfig.UnmarshalFromMsg` -/
def unmarshalFromMsg (m : NewProxy) : XTCPProxyConfig :=
  { name := m.proxyName
    type := m.proxyType
    useEncryption := m.useEncryption
    useCompression := m.useCompression
    metadatas := m.metas
    annotations := m.annotations
    secretkey := m.sk
    allowUsers := m.allowUsers }

/-- `config.NewProxyConfigurerFromMsg`; xtcp is the only registered type. -/
def newProxyConfigurerFromMsg (check : AnnotationCheck) (m : NewProxy) :
    Except String XTCPProxyConfig :=
  let m := { m with proxyType := emptyOr m.proxyType "xtcp" }
  if m.proxyType ≠ "xtcp" then .error s!"unknown proxy type: {m.proxyType}"
  else
    let cfg := unmarshalFromMsg m
    match check cfg.annotations with
    | some err => .error err
    | none => .ok cfg

theorem newProxyConfigurerFromMsg_name {check : AnnotationCheck} {m : NewProxy}
    {cfg : XTCPProxyConfig} (h : newProxyConfigurerFromMsg check m = .ok cfg) :
    cfg.name = m.proxyName := by
  simp only [newProxyConfigurerFromMsg] at h
  split at h
  · cases h
  · split at h
    · cases h
    · cases h
      rfl

/-- A server-side proxy. `ctl` is the control whose `GetWorkConn` it was given and
`closed` records that `closeOnce` has run. -/
structure XTCPProxy where
  cfg : XTCPProxyConfig
  user : String
  ctl : Nat
  closed : Bool
  deriving DecidableEq

/-- `GetName` -/
def XTCPProxy.name (pxy : XTCPProxy) : String := pxy.cfg.name

/-- `XTCPProxy.Run`; without a list of users only the proxy's own user is allowed. -/
def XTCPProxy.run (pxy : XTCPProxy) (c : Controller) (sidCh : Nat) : Except String Controller :=
  let allowUsers := if pxy.cfg.allowUsers.isEmpty then [pxy.user] else pxy.cfg.allowUsers
  listenClient c pxy.name pxy.cfg.secretkey allowUsers sidCh

/-- `XTCPProxy.Close` -/
def XTCPProxy.close (pxy : XTCPProxy) (c : Controller) : XTCPProxy × Controller :=
  if pxy.closed then (pxy, c) else ({ pxy with closed := true }, closeClient c pxy.name)

/-- The proxy manager's `pxys`, from names to proxy pointers. -/
abbrev Manager := GoMap String Nat

namespace Manager

/-- `Manager.Exist` -/
def exist (pm : Manager) (name : String) : Bool := (pm.get? name).isSome

/-- `Manager.Add` -/
def add (pm : Manager) (name : String) (pxy : Nat) : Except String Manager :=
  if (pm.get? name).isSome then .error s!"proxy name [{name}] is already in use"
  else .ok (pm.insert name pxy)

/-- `Manager.Del` -/
def del (pm : Manager) (name : String) : Manager := pm.erase name

end Manager

/-- One call of `RegisterProxy`, `CloseProxy` or the worker's closing loop, by the
statement it executes next. A proxy pointer also names the `sidCh` of its `Run`. -/
inductive Op where
  | idle
  | exist (ctl pxy : Nat)
  | run (ctl pxy : Nat)
  | add (ctl pxy : Nat)
  | insert (ctl pxy : Nat)
  | rollback (ctl pxy : Nat) (err : String)
  | registered (ctl pxy : Nat)
  | rejected (ctl : Nat) (pxy : Option Nat) (err : String)
  | closing (ctl : Nat) (rest : List Nat)
  | deleting (ctl pxy : Nat) (rest : List Nat)
  deriving DecidableEq

/-- The call has returned, or none was made. -/
def Op.resting : Op → Bool
  | .idle | .registered _ _ | .rejected _ _ _ | .closing _ [] => true
  | _ => false

/-- `proxies c` is the field of control `c`; `pxys` are the proxies made so far. -/
structure State (τ : Type u) where
  natHole : Controller
  pxyManager : Manager
  proxies : Nat → GoMap String Nat
  pxys : Nat → XTCPProxy
  nextPxy : Nat
  ops : τ → Op

/-- `next` executes the statement that a call in progress stands at. The order in
which the closing loop ranges over the map is the scheduler's choice. -/
inductive Action (τ : Type u) where
  | registerProxy (t : τ) (ctl : Nat) (user : String) (m : NewProxy)
  | closeProxy (t : τ) (ctl : Nat) (name : String)
  | closeProxies (t : τ) (ctl : Nat) (order : List Nat)
  | next (t : τ)

variable {τ : Type u} [DecidableEq τ]

def init : State τ :=
  ⟨newController, .empty, fun _ => .empty,
    fun _ => ⟨⟨"", "", false, false, [], [], "", []⟩, "", 0, false⟩, 0, fun _ => .idle⟩

def setOp (s : State τ) (t : τ) (o : Op) : State τ :=
  { s with ops := Function.update s.ops t o }

/-- The first part of `RegisterProxy`: the configuration and the proxy are built. -/
def beginRegister (check : AnnotationCheck) (s : State τ) (t : τ) (ctl : Nat) (user : String)
    (m : NewProxy) : State τ :=
  match newProxyConfigurerFromMsg check m with
  | .error err => setOp s t (.rejected ctl none err)
  | .ok cfg =>
    { s with
      pxys := Function.update s.pxys s.nextPxy ⟨cfg, user, ctl, false⟩
      nextPxy := s.nextPxy + 1
      ops := Function.update s.ops t (.exist ctl s.nextPxy) }

/-- `ctl.proxies` is read and the entry deleted under one lock. -/
def beginClose (s : State τ) (t : τ) (ctl : Nat) (name : String) : State τ :=
  match (s.proxies ctl).get? name with
  | none => setOp s t (.closing ctl [])
  | some p =>
    { s with
      proxies := Function.update s.proxies ctl ((s.proxies ctl).erase name)
      ops := Function.update s.ops t (.closing ctl [p]) }

/-- `pxy.Close()` followed by the statement `o`. -/
def closePxy (s : State τ) (t : τ) (p : Nat) (o : Op) : State τ :=
  { s with
    pxys := Function.update s.pxys p ((s.pxys p).close s.natHole).1
    natHole := ((s.pxys p).close s.natHole).2
    ops := Function.update s.ops t o }

def next (s : State τ) (t : τ) : Option (State τ) :=
  match s.ops t with
  | .exist c p =>
    let name := (s.pxys p).name
    if s.pxyManager.exist name then
      some (setOp s t (.rejected c (some p) s!"proxy [{name}] already exists"))
    else some (setOp s t (.run c p))
  | .run c p =>
    match (s.pxys p).run s.natHole p with
    | .error err => some (setOp s t (.rejected c (some p) err))
    | .ok natHole => some { setOp s t (.add c p) with natHole := natHole }
  | .add c p =>
    match s.pxyManager.add (s.pxys p).name p with
    | .error err => some (setOp s t (.rollback c p err))
    | .ok pm => some { setOp s t (.insert c p) with pxyManager := pm }
  | .insert c p =>
    some { setOp s t (.registered c p) with
      proxies := Function.update s.proxies c ((s.proxies c).insert (s.pxys p).name p) }
  | .rollback c p err => some (closePxy s t p (.rejected c (some p) err))
  | .closing c (p :: rest) => some (closePxy s t p (.deleting c p rest))
  | .deleting c p rest =>
    some { setOp s t (.closing c rest) with
      pxyManager := s.pxyManager.del (s.pxys p).name }
  | _ => none

def step (check : AnnotationCheck) (s : State τ) : Action τ → Option (State τ)
  | .registerProxy t ctl user m =>
    if (s.ops t).resting then some (beginRegister check s t ctl user m) else none
  | .closeProxy t ctl name =>
    if (s.ops t).resting then some (beginClose s t ctl name) else none
  | .closeProxies t ctl order =>
    if (s.ops t).resting && decide (order.Perm ((s.proxies ctl).toList.map Prod.snd)) then
      some { setOp s t (.closing ctl order) with
        proxies := Function.update s.proxies ctl .empty }
    else none
  | .next t => next s t

def system (check : AnnotationCheck) : System (State τ) (Action τ) := ⟨init, step check⟩

/-- The control that a call works for. -/
def Op.ctl? : Op → Option Nat
  | .idle => none
  | .exist c _ | .run c _ | .add c _ | .insert c _ | .rollback c _ _ | .registered c _
  | .rejected c _ _ | .closing c _ | .deleting c _ _ => some c

section Frame

variable {check : AnnotationCheck} {s s' : State τ} {a : Action τ}

/-- The call that a step belongs to. -/
def Action.thread : Action τ → τ
  | .registerProxy t _ _ _ | .closeProxy t _ _ | .closeProxies t _ _ | .next t => t

/-- A call that only closes proxies. -/
def Op.closesOnly : Op → Prop
  | .idle | .closing _ _ | .deleting _ _ _ => True
  | _ => False

/-- The control that a step is about, given the call it belongs to. -/
def Action.ctl? (s : State τ) : Action τ → Option Nat
  | .registerProxy _ c _ _ | .closeProxy _ c _ | .closeProxies _ c _ => some c
  | .next t => (s.ops t).ctl?

/-- One statement of a call changes that call's program counter only, stays with the
call's control, and fills the map of a control only by its insertion. -/
theorem next_frame {t : τ} (h : next s t = some s') :
    (∀ t', t' ≠ t → s'.ops t' = s.ops t') ∧ (s'.ops t).ctl? = (s.ops t).ctl? ∧
      ((s.ops t).closesOnly → (s'.ops t).closesOnly) ∧
      ∀ d, s'.proxies d = s.proxies d ∨ ∃ p, s.ops t = .insert d p := by
  cases ho : s.ops t with
  | idle => simp [next, ho] at h
  | registered c p => simp [next, ho] at h
  | rejected c p err => simp [next, ho] at h
  | exist c p =>
    simp only [next, ho] at h
    split at h <;> cases h <;>
      exact ⟨fun t' ht => Function.update_of_ne ht _ _, by simp [setOp, Op.ctl?], nofun,
        fun _ => Or.inl rfl⟩
  | run c p =>
    simp only [next, ho] at h
    split at h <;> cases h <;>
      exact ⟨fun t' ht => Function.update_of_ne ht _ _, by simp [setOp, Op.ctl?], nofun,
        fun _ => Or.inl rfl⟩
  | add c p =>
    simp only [next, ho] at h
    split at h <;> cases h <;>
      exact ⟨fun t' ht => Function.update_of_ne ht _ _, by simp [setOp, Op.ctl?], nofun,
        fun _ => Or.inl rfl⟩
  | insert c p =>
    simp only [next, ho, Option.some.injEq] at h
    subst h
    refine ⟨fun t' ht => Function.update_of_ne ht _ _, by simp [setOp, Op.ctl?], nofun, fun d => ?_⟩
    by_cases hd : d = c
    · exact Or.inr ⟨p, by rw [hd]⟩
    · exact Or.inl (Function.update_of_ne hd _ _)
  | rollback c p err =>
    simp only [next, ho, Option.some.injEq] at h
    subst h
    exact ⟨fun t' ht => Function.update_of_ne ht _ _, by simp [closePxy, Op.ctl?], nofun,
      fun _ => Or.inl rfl⟩
  | closing c rest =>
    cases rest with
    | nil => simp [next, ho] at h
    | cons p rest =>
      simp only [next, ho, Option.some.injEq] at h
      subst h
      exact ⟨fun t' ht => Function.update_of_ne ht _ _, by simp [closePxy, Op.ctl?],
        fun _ => by simp [closePxy, Op.closesOnly], fun _ => Or.inl rfl⟩
  | deleting c p rest =>
    simp only [next, ho, Option.some.injEq] at h
    subst h
    exact ⟨fun t' ht => Function.update_of_ne ht _ _, by simp [setOp, Op.ctl?],
      fun _ => by simp [setOp, Op.closesOnly], fun _ => Or.inl rfl⟩

/-- The same for every step. -/
theorem step_frame (h : step check s a = some s') :
    (∀ t, t ≠ a.thread → s'.ops t = s.ops t) ∧ (s'.ops a.thread).ctl? = a.ctl? s := by
  cases a with
  | registerProxy t c user m =>
    simp only [step] at h
    split at h <;> cases h
    unfold beginRegister
    split <;> exact ⟨fun t' ht => Function.update_of_ne ht _ _,
      by simp [setOp, Op.ctl?, Action.thread, Action.ctl?]⟩
  | closeProxy t c name =>
    simp only [step] at h
    split at h <;> cases h
    unfold beginClose
    split <;> exact ⟨fun t' ht => Function.update_of_ne ht _ _,
      by simp [setOp, Op.ctl?, Action.thread, Action.ctl?]⟩
  | closeProxies t c order =>
    simp only [step] at h
    split at h <;> cases h
    exact ⟨fun t' ht => Function.update_of_ne ht _ _,
      by simp [setOp, Op.ctl?, Action.thread, Action.ctl?]⟩
  | next t => exact ⟨(next_frame h).1, (next_frame h).2.1⟩

/-- A map stays empty unless a call inserts in it. -/
theorem step_proxies_none {d : Nat} (h : step check s a = some s')
    (hd : ∀ n, (s.proxies d).get? n = none) (hi : ∀ t p, a = .next t → s.ops t ≠ .insert d p)
    (n : String) : (s'.proxies d).get? n = none := by
  cases a with
  | registerProxy t c user m =>
    simp only [step] at h
    split at h <;> cases h
    unfold beginRegister
    split <;> exact hd n
  | closeProxy t c name =>
    simp only [step] at h
    split at h <;> cases h
    unfold beginClose
    split
    · exact hd n
    · by_cases hc : d = c
      · subst hc
        simp [hd n]
      · simpa [hc] using hd n
  | closeProxies t c order =>
    simp only [step] at h
    split at h <;> cases h
    by_cases hc : d = c
    · subst hc
      simp
    · simpa [hc] using hd n
  | next t =>
    rcases (next_frame h).2.2.2 d with he | ⟨p, hp⟩
    · rw [he]
      exact hd n
    · exact absurd hp (hi t p rfl)

end Frame

end FrpXtcp.Server.Proxy

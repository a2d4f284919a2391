import FrpXtcp.Lib.GoMap

/-!
# The hole-punching controller of the server

`pkg/nathole/controller.go`: the table of registered proxies, the table of open
sessions and the sections of the controller that run under its mutex. A section
is a function of the controller; the channels and goroutines around it belong to
the systems built on top. MD5 is a parameter of `getAuthKey`, so that nothing
below depends on what the digest computes.
-/
namespace FrpXtcp.Nathole

open FrpXtcp.Lib

/-- The MD5 digest of a byte string. -/
abbrev Digest := List UInt8 → List UInt8

def hexDigit (n : Nat) : Char :=
  if n < 10 then Char.ofNat (48 + n) else Char.ofNat (87 + n)

/-- `hex.EncodeToString` -/
def hexEncode (bs : List UInt8) : String :=
  String.ofList (bs.flatMap fun b => [hexDigit (b.toNat / 16), hexDigit (b.toNat % 16)])

/-- `util.GetAuthKey` -/
def getAuthKey (md5 : Digest) (token : String) (timestamp : Int64) : String :=
  hexEncode (md5 (token.toUTF8.toList ++ (toString timestamp.toInt).toUTF8.toList))

/-- `msg.NatHoleVisitor` -/
structure NatHoleVisitor where
  transactionID : String
  proxyName : String
  preCheck : Bool
  protocol : String
  signKey : String
  timestamp : Int64
  mappedAddrs : List String
  assistedAddrs : List String
  deriving DecidableEq

/-- `msg.NatHoleClient` -/
structure NatHoleClient where
  transactionID : String
  proxyName : String
  sid : String
  mappedAddrs : List String
  assistedAddrs : List String
  deriving DecidableEq

/-- The fields of `msg.NatHoleResp` that `GenNatHoleResponse` sets. -/
structure NatHoleResp where
  transactionID : String
  sid : String
  error : String
  deriving DecidableEq

/-- A registered proxy. `sidCh` names the channel its receiving loop reads. -/
structure ClientCfg where
  name : String
  sk : String
  allowUsers : List String
  sidCh : Nat
  deriving DecidableEq

/-- An open session; `notifyCh` is its one-slot channel. -/
structure Session where
  sid : String
  visitorMsg : NatHoleVisitor
  visitorTransporter : Nat
  clientMsg : Option NatHoleClient := none
  clientTransporter : Option Nat := none
  notifyCh : Bool := false
  deriving DecidableEq

structure Controller where
  clientCfgs : GoMap String ClientCfg
  sessions : GoMap String Session

/-- `NewController`, without the analyzer. -/
def newController : Controller := ⟨.empty, .empty⟩

/-- `Controller.ListenClient` with the fresh channel `sidCh`. -/
def listenClient (c : Controller) (name sk : String) (allowUsers : List String) (sidCh : Nat) :
    Except String Controller :=
  if (c.clientCfgs.get? name).isSome then .error s!"proxy [{name}] is repeated"
  else .ok { c with clientCfgs := c.clientCfgs.insert name ⟨name, sk, allowUsers, sidCh⟩ }

/-- `Controller.CloseClient` -/
def closeClient (c : Controller) (name : String) : Controller :=
  { c with clientCfgs := c.clientCfgs.erase name }

/-- `Controller.GenNatHoleResponse` with a nil session. -/
def genNatHoleResponse (transactionID errInfo : String) : NatHoleResp :=
  ⟨transactionID, "", errInfo⟩

/-- The rule of the pre-check: the visitor's user or a wildcard is listed. -/
def ClientCfg.allows (cfg : ClientCfg) (user : String) : Prop :=
  user ∈ cfg.allowUsers ∨ "*" ∈ cfg.allowUsers

instance (cfg : ClientCfg) (user : String) : Decidable (cfg.allows user) :=
  inferInstanceAs (Decidable (_ ∨ _))

/-- How the first part of `HandleVisitor` ends: with a reply and a return, or with
a session that was added and whose sid is now offered on `cfg.sidCh`. -/
inductive VisitorOutcome where
  | reply (resp : NatHoleResp)
  | created (cfg : ClientCfg) (session : Session)

/-- The `PreCheck` branch of `HandleVisitor`. -/
def preCheckVisitor (c : Controller) (m : NatHoleVisitor) (visitorUser : String) : NatHoleResp :=
  match c.clientCfgs.get? m.proxyName with
  | none => genNatHoleResponse m.transactionID s!"xtcp server for [{m.proxyName}] doesn't exist"
  | some cfg =>
    if cfg.allows visitorUser then genNatHoleResponse m.transactionID ""
    else genNatHoleResponse m.transactionID
      s!"xtcp visitor user [{visitorUser}] not allowed for [{m.proxyName}]"

/-- `Controller.HandleVisitor` up to and including the section that stores the
session. `sid` is what `GenSid` returned. -/
def handleVisitor (md5 : Digest) (c : Controller) (m : NatHoleVisitor) (transporter : Nat)
    (visitorUser sid : String) : Controller × VisitorOutcome :=
  if m.preCheck then (c, .reply (preCheckVisitor c m visitorUser))
  else
    match c.clientCfgs.get? m.proxyName with
    | none =>
      (c, .reply (genNatHoleResponse m.transactionID
        s!"xtcp server for [{m.proxyName}] doesn't exist"))
    | some cfg =>
      -- visitorUser is not consulted on this path
      if m.signKey ≠ getAuthKey md5 cfg.sk m.timestamp then
        (c, .reply (genNatHoleResponse m.transactionID
          s!"xtcp connection of [{m.proxyName}] auth failed"))
      else
        let session : Session := { sid := sid, visitorMsg := m, visitorTransporter := transporter }
        ({ c with sessions := c.sessions.insert sid session }, .created cfg session)

/-- The deferred `delete(c.sessions, sid)` of `HandleVisitor`. -/
def deleteSession (c : Controller) (sid : String) : Controller :=
  { c with sessions := c.sessions.erase sid }

section
variable {md5 : Digest} {c c' : Controller} {m : NatHoleVisitor} {tr : Nat} {u sid : String}

/-- A pre-check answers and leaves the controller alone. -/
theorem handleVisitor_preCheck (h : m.preCheck = true) :
    handleVisitor md5 c m tr u sid = (c, .reply (preCheckVisitor c m u)) := by
  simp [handleVisitor, h]

/-- A session is created exactly by a message of the other kind whose proxy is
registered and whose key fits the proxy's secret. -/
theorem handleVisitor_created_iff {cfg : ClientCfg} {session : Session} :
    handleVisitor md5 c m tr u sid = (c', .created cfg session) ↔
      m.preCheck = false ∧ c.clientCfgs.get? m.proxyName = some cfg ∧
      m.signKey = getAuthKey md5 cfg.sk m.timestamp ∧
      session = { sid := sid, visitorMsg := m, visitorTransporter := tr } ∧
      c' = { c with sessions := c.sessions.insert sid session } := by
  unfold handleVisitor
  cases hp : m.preCheck with
  | true => simp
  | false =>
    simp only [Bool.false_eq_true, if_false]
    cases hc : c.clientCfgs.get? m.proxyName with
    | none => simp
    | some cfg' =>
      by_cases hk : m.signKey = getAuthKey md5 cfg'.sk m.timestamp
      · simp only [hk, ne_eq, not_true_eq_false, if_false, Prod.mk.injEq,
          VisitorOutcome.created.injEq, Option.some.injEq, true_and]
        constructor
        · rintro ⟨rfl, rfl, rfl⟩
          exact ⟨rfl, rfl, rfl, rfl⟩
        · rintro ⟨rfl, -, rfl, rfl⟩
          exact ⟨rfl, rfl, rfl⟩
      · simp only [ne_eq, hk, not_false_eq_true, if_true, Prod.mk.injEq, reduceCtorEq, and_false,
          Option.some.injEq, true_and, false_iff, not_and]
        rintro rfl hk'
        exact absurd hk' hk

end

end FrpXtcp.Nathole

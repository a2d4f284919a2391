import FrpXtcp.Lib.Text
import FrpXtcp.Nathole.Controller
import FrpXtcp.Server.Connection

/-!
# Authentication by a token

`pkg/auth/token.go`: a message carries a timestamp and a key made from the token and this
timestamp. Logins always do, heartbeats and work connections only if their scope is
configured, on each side by itself. The clock is not looked at when a key is verified.
-/
namespace FrpXtcp.Auth

open FrpXtcp.Nathole (Digest getAuthKey hexEncode hexDigit)
open FrpXtcp.Server (Login NewWorkConn)

inductive AuthScope where
  | heartBeats
  | newWorkConns
  deriving DecidableEq

structure Ping where
  privilegeKey : String := ""
  timestamp : Int64 := 0

/-- `TokenAuthSetterVerifier` -/
structure TokenAuth where
  additionalAuthScopes : List AuthScope
  token : String

namespace TokenAuth

variable (md5 : Digest) (auth : TokenAuth)

/-- The key of a message of a scope, if the scope is configured. -/
def scopedKey (scope : AuthScope) (now : Int64) : Option String :=
  if scope ∈ auth.additionalAuthScopes then some (getAuthKey md5 auth.token now) else none

def verifyKey (name privilegeKey : String) (timestamp : Int64) : Except String Unit :=
  if getAuthKey md5 auth.token timestamp = privilegeKey then .ok ()
  else .error s!"token in {name} doesn't match token from configuration"

def setLogin (m : Login) : Login :=
  { m with privilegeKey := getAuthKey md5 auth.token m.timestamp }

def setPing (now : Int64) (m : Ping) : Ping :=
  match auth.scopedKey md5 .heartBeats now with
  | none => m
  | some key => { m with timestamp := now, privilegeKey := key }

def setNewWorkConn (now : Int64) (m : NewWorkConn) : NewWorkConn :=
  match auth.scopedKey md5 .newWorkConns now with
  | none => m
  | some key => { m with timestamp := now, privilegeKey := key }

def verifyLogin (m : Login) : Except String Unit :=
  auth.verifyKey md5 "login" m.privilegeKey m.timestamp

def verifyPing (m : Ping) : Except String Unit :=
  if .heartBeats ∉ auth.additionalAuthScopes then .ok ()
  else auth.verifyKey md5 "heartbeat" m.privilegeKey m.timestamp

def verifyNewWorkConn (m : NewWorkConn) : Except String Unit :=
  if .newWorkConns ∉ auth.additionalAuthScopes then .ok ()
  else auth.verifyKey md5 "NewWorkConn" m.privilegeKey m.timestamp

variable {md5}

theorem hexDigit_inj : ∀ m < 16, ∀ n < 16, hexDigit m = hexDigit n → m = n := by
  decide

theorem hexEncode_inj {bs bs' : List UInt8} (h : hexEncode bs = hexEncode bs') : bs = bs' := by
  have hlist := String.ofList_injective h
  clear h
  induction bs generalizing bs' with
  | nil =>
    cases bs' with
    | nil => rfl
    | cons b bs' => simp at hlist
  | cons b bs ih =>
    cases bs' with
    | nil => simp at hlist
    | cons b' bs' =>
      simp only [List.flatMap_cons, List.cons_append, List.nil_append, List.cons.injEq] at hlist
      obtain ⟨hhigh, hlow, hrest⟩ := hlist
      have hb := b.toNat_lt
      have hb' := b'.toNat_lt
      have hd := hexDigit_inj _ (by omega) _ (by omega) hhigh
      have hm := hexDigit_inj _ (by omega) _ (by omega) hlow
      have hbyte : b.toNat = b'.toNat := by omega
      rw [UInt8.toNat_inj.mp hbyte, ih hrest]

/-- Two tokens that MD5 maps together under one timestamp. -/
structure Collision (md5 : Digest) (token token' : String) (timestamp : Int64) : Prop where
  distinct : token ≠ token'
  digest : md5 (token.toUTF8.toList ++ (toString timestamp.toInt).toUTF8.toList) =
    md5 (token'.toUTF8.toList ++ (toString timestamp.toInt).toUTF8.toList)

/-- Equal keys for one time come from equal tokens or from a collision. -/
theorem getAuthKey_eq_iff {token token' : String} {timestamp : Int64} :
    getAuthKey md5 token timestamp = getAuthKey md5 token' timestamp ↔
      token = token' ∨ Collision md5 token token' timestamp := by
  constructor
  · intro h
    by_cases heq : token = token'
    · exact Or.inl heq
    · exact Or.inr ⟨heq, hexEncode_inj h⟩
  · rintro (rfl | hc)
    · rfl
    · exact congrArg hexEncode hc.digest

/-- A digest of 16 bytes, as that of MD5 is, leaves no key empty. -/
theorem getAuthKey_ne (hsize : ∀ bs, (md5 bs).length = 16) (token : String) (timestamp : Int64) :
    getAuthKey md5 token timestamp ≠ "" := by
  intro h
  have hempty : hexEncode (md5 (token.toUTF8.toList ++
      (toString timestamp.toInt).toUTF8.toList)) = hexEncode [] := h
  have hlen := congrArg List.length (hexEncode_inj hempty)
  rw [hsize] at hlen
  cases hlen

variable {auth}

theorem verifyKey_ok_iff {name key : String} {timestamp : Int64} :
    auth.verifyKey md5 name key timestamp = .ok () ↔ getAuthKey md5 auth.token timestamp = key := by
  unfold verifyKey
  split
  · simpa using ‹_›
  · simpa using ‹_›

/-- The same token and no scope that only the server has: what the client sends is accepted. -/
structure Covers (client server : TokenAuth) : Prop where
  token : client.token = server.token
  scopes : ∀ scope ∈ server.additionalAuthScopes, scope ∈ client.additionalAuthScopes

variable {client server : TokenAuth}

theorem Covers.verifyPing (h : Covers client server) (now : Int64) :
    server.verifyPing md5 (client.setPing md5 now {}) = .ok () := by
  unfold TokenAuth.verifyPing
  split
  · rfl
  · rename_i hscope
    have hclient := h.scopes _ (not_not.mp hscope)
    rw [verifyKey_ok_iff, setPing, scopedKey, if_pos hclient, h.token]

/-- A message of a scope is accepted if the server does not verify it, or if it has a key of the
server's token. -/
theorem scoped_iff (hsize : ∀ bs, (md5 bs).length = 16) {scope : AuthScope} {name key : String}
    {timestamp t : Int64}
    (hkey : match client.scopedKey md5 scope t with
      | none => key = ""
      | some k => key = k ∧ timestamp = t) :
    (if scope ∉ server.additionalAuthScopes then Except.ok ()
      else server.verifyKey md5 name key timestamp) = .ok () ↔
      scope ∉ server.additionalAuthScopes ∨
        scope ∈ client.additionalAuthScopes ∧
          (server.token = client.token ∨ Collision md5 server.token client.token t) := by
  split
  · rename_i hserver
    simp [hserver]
  · rename_i hserver
    rw [verifyKey_ok_iff]
    unfold scopedKey at hkey
    by_cases hclient : scope ∈ client.additionalAuthScopes
    · rw [if_pos hclient] at hkey
      obtain ⟨rfl, rfl⟩ := hkey
      rw [getAuthKey_eq_iff]
      simp [hserver, hclient]
    · rw [if_neg hclient] at hkey
      obtain rfl : key = "" := hkey
      simp [getAuthKey_ne hsize, hclient, hserver]

/-- The server accepts the login of a client exactly when their tokens are equal or collide under
the timestamp of the login. It accepts a heartbeat or a work connection exactly when its own
configuration does not ask for a key, or the client's does too and the tokens are equal or
collide under the timestamp of the message. -/
theorem token_accepted_iff (hsize : ∀ bs, (md5 bs).length = 16) (client server : TokenAuth)
    (now : Int64) :
    (∀ m, server.verifyLogin md5 (client.setLogin md5 m) = .ok () ↔
        server.token = client.token ∨ Collision md5 server.token client.token m.timestamp) ∧
      (server.verifyPing md5 (client.setPing md5 now {}) = .ok () ↔
        .heartBeats ∉ server.additionalAuthScopes ∨
          .heartBeats ∈ client.additionalAuthScopes ∧
            (server.token = client.token ∨ Collision md5 server.token client.token now)) ∧
      ∀ runID, server.verifyNewWorkConn md5 (client.setNewWorkConn md5 now ⟨runID, "", 0⟩) =
          .ok () ↔
        .newWorkConns ∉ server.additionalAuthScopes ∨
          .newWorkConns ∈ client.additionalAuthScopes ∧
            (server.token = client.token ∨ Collision md5 server.token client.token now) := by
  refine ⟨?_, ?_, ?_⟩
  · intro m
    rw [verifyLogin, verifyKey_ok_iff, setLogin, getAuthKey_eq_iff]
  · refine scoped_iff hsize (t := now) ?_
    unfold setPing
    split <;> simp_all
  · intro runID
    refine scoped_iff hsize (t := now) ?_
    unfold setNewWorkConn
    split <;> simp_all

/-- MD5 on the token "t" at the time 1. -/
def sampleDigest : Digest := fun bs =>
  if bs = "t1".toUTF8.toList then
    [131, 241, 83, 95, 153, 171, 11, 244, 233, 208, 45, 253, 133, 211, 227, 247]
  else List.replicate 16 0

theorem length_sampleDigest (bs : List UInt8) : (sampleDigest bs).length = 16 := by
  unfold sampleDigest
  split <;> rfl

/-- A server that asks heartbeats for keys, and a client without this scope. -/
theorem token_accepted_login_only :
    (TokenAuth.mk [.heartBeats] "t").verifyLogin sampleDigest
        ((TokenAuth.mk [] "t").setLogin sampleDigest ⟨"", "", "", "", 1, "", "", 0⟩) = .ok () ∧
      (TokenAuth.mk [.heartBeats] "t").verifyPing sampleDigest
        ((TokenAuth.mk [] "t").setPing sampleDigest 1 {}) ≠ .ok () := by
  obtain ⟨hlogin, hping, -⟩ :=
    token_accepted_iff length_sampleDigest ⟨[], "t"⟩ ⟨[.heartBeats], "t"⟩ 1
  exact ⟨(hlogin _).mpr (Or.inl rfl), fun h => by simpa using hping.mp h⟩

end TokenAuth

end FrpXtcp.Auth

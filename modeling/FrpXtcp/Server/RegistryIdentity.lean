import FrpXtcp.Server.Connection
import FrpXtcp.Server.RegistryRuns

/-!
# Whose entry it is

Two clients with different users and IDs can have one key, because the key is the user and
the ID with a dot between them. The check for a conflict is made for explicit client IDs
only, and the user of an entry is written once, when the entry is made. So a client can take
over the entry of another, or register under the name of another. Both happen exactly when
the entry under the key of a call belongs to another user, and the call is not refused.
-/
namespace FrpXtcp.Server.Registry

open FrpXtcp.Lib

/-- `ClientInfo.ClientID` -/
def ClientInfo.clientID (info : ClientInfo) : String :=
  if info.rawClientID ≠ "" then info.rawClientID else info.runID

/-- Another run ID is online under the explicit client ID of the call. -/
def Refused (cr : ClientRegistry) (reg : Registration) : Prop :=
  reg.rawClientID ≠ "" ∧
    ∃ info ∈ cr.clients.get? reg.key, info.online = true ∧ info.runID ≠ "" ∧
      info.runID ≠ reg.runID

instance (cr : ClientRegistry) (reg : Registration) : Decidable (Refused cr reg) :=
  inferInstanceAs (Decidable (_ ∧ _))

/-- The call is refused, or the entry under its key is of the same user. -/
def OwnKey (cr : ClientRegistry) (reg : Registration) : Prop :=
  Refused cr reg ∨ ∀ info ∈ cr.clients.get? reg.key, info.user = reg.user

/-- Registrations meet only entries of their own user. -/
def MeetsOwn (s : State) (c : Call) : Prop :=
  ∀ p ∈ c.registration, p.1.runID ≠ "" → OwnKey s.registry p.1

/-- Online entries of other clients, under other run IDs, are left as they are. -/
def KeepsOthers (s : State) (reg : Registration) (now : Nat) : Prop :=
  ∀ k info, s.registry.clients.get? k = some info → info.online = true →
    info.runID ≠ reg.runID → s.registrant info.runID ≠ some reg.identity →
    (step s (.registerWithControlID reg now)).registry.clients.get? k = some info

/-- Every online entry names the client that registered its run ID. -/
def NamesRegistrants (s : State) : Prop :=
  ∀ k info, s.registry.clients.get? k = some info → info.online = true →
    s.registrant info.runID = some (info.user, info.clientID)

theorem conflict_iff {cr : ClientRegistry} {reg : Registration} (now : Nat)
    (hr : reg.runID ≠ "") :
    (registerWithControlID cr reg now).2.2 = true ↔ Refused cr reg := by
  unfold registerWithControlID Refused
  rw [if_neg hr]
  dsimp only
  split
  · rename_i h
    exact ⟨fun _ => h, fun _ => rfl⟩
  · rename_i h
    exact ⟨by simp, fun hx => absurd hx h⟩

theorem composeClientKey_inj {user a b : String} (ha : a ≠ "") (hb : b ≠ "")
    (h : composeClientKey user a = composeClientKey user b) : a = b := by
  unfold composeClientKey at h
  by_cases hu : user = ""
  · simpa [hu] using h
  · simp only [hu, ha, hb, if_false] at h
    have hl := congrArg String.toList h
    exact String.toList_inj.mp (by simpa [toString] using hl)

theorem Registration.key_eq (reg : Registration) :
    reg.key = composeClientKey reg.user reg.effectiveID := rfl

theorem Registration.effectiveID_ne {reg : Registration} (hr : reg.runID ≠ "") :
    reg.effectiveID ≠ "" := by
  unfold effectiveID
  split
  · exact hr
  · assumption

@[simp] theorem Registration.info_clientID (reg : Registration) (old : Option ClientInfo)
    (now : Nat) : (reg.info old now).clientID = reg.effectiveID := by
  by_cases hraw : reg.rawClientID = ""
  · simp [ClientInfo.clientID, effectiveID, info, hraw]
  · simp [ClientInfo.clientID, effectiveID, info, hraw]

/-- The entry that a disconnect leaves keeps user and ID. -/
theorem disconnect_identity {clients : GoMap String ClientInfo} {key k : String}
    {info info' : ClientInfo} {now : Nat} (hk : clients.get? key = some info)
    (h : (disconnect clients key info now).get? k = some info') :
    ∃ old, clients.get? k = some old ∧ info'.user = old.user ∧ info'.clientID = old.clientID := by
  rw [disconnect_get] at h
  split at h
  · rename_i hkk
    split at h
    · cases h
    · rename_i hraw
      cases h
      exact ⟨info, hkk ▸ hk, rfl, by simp [ClientInfo.clientID, setClientOffline, hraw]⟩
  · exact ⟨info', h, rfl, rfl⟩

/-- Keys are composed of the user and the ID of their entry, and online entries name the
client that registered. -/
structure Identified (s : State) : Prop where
  wellFormed : WellFormed s.registry
  key : ∀ k info, s.registry.clients.get? k = some info →
    composeClientKey info.user info.clientID = k
  names : NamesRegistrants s

theorem identified_init : Identified system.init :=
  ⟨wellFormed_new, nofun, nofun⟩

theorem WellFormed.clientID_ne {cr : ClientRegistry} (h : WellFormed cr) {k : String}
    {info : ClientInfo} (hi : cr.clients.get? k = some info) : info.clientID ≠ "" := by
  unfold ClientInfo.clientID
  split
  · assumption
  · rename_i hraw
    cases ho : info.online with
    | true => exact h.runID_ne k info hi ho
    | false => exact absurd (h.offline k info hi ho).2.2 hraw

/-- The entries before a registration, in terms of those after the previous key was given
up. -/
theorem releasePrevious_identity {cr : ClientRegistry} (h : WellFormed cr) {runID key : String}
    {now : Nat} {k : String} {info : ClientInfo}
    (hi : (releasePrevious cr runID key now).clients.get? k = some info) :
    ∃ old, cr.clients.get? k = some old ∧ info.user = old.user ∧
      info.clientID = old.clientID := by
  rcases releasePrevious_eq h runID key now with ⟨he, -⟩ | ⟨k', info', -, hg, -, -, he⟩
  · rw [he] at hi
    exact ⟨info, hi, rfl, rfl⟩
  · rw [he] at hi
    exact disconnect_identity hg hi

/-- A registration takes effect, or nothing changes. -/
theorem step_registration {s : State} {c : Call} {reg : Registration} {now : Nat}
    (hc : c.registration = some (reg, now)) :
    step s c = s ∧ (reg.runID = "" ∨ Refused s.registry reg) ∨
      reg.runID ≠ "" ∧ ¬ Refused s.registry reg ∧
      (step s c).registry.clients =
        (releasePrevious s.registry reg.runID reg.key now).clients.insert reg.key
          (reg.info (s.registry.clients.get? reg.key) now) ∧
      (step s c).registrant = Function.update s.registrant reg.runID (some reg.identity) := by
  have happ : c.apply s.registry = (registerWithControlID s.registry reg now).1 := by
    rcases c.apply_cases with ⟨reg', now', hc', he⟩ | ⟨hc', -⟩
    · rw [hc] at hc'
      cases hc'
      exact he s.registry
    · rw [hc] at hc'
      cases hc'
  have hown : c.registrant s =
      if reg.runID = "" ∨ (registerWithControlID s.registry reg now).2.2 = true then s.registrant
      else Function.update s.registrant reg.runID (some reg.identity) := by
    simp only [Call.registrant, hc]
  rcases registerWithControlID_cases s.registry reg now with ⟨he, hx⟩ | ⟨hr, hconf, hcl, -⟩
  · refine Or.inl ⟨?_, ?_⟩
    · unfold step
      rw [happ, hown, he, if_pos hx]
    · by_cases hr : reg.runID = ""
      · exact Or.inl hr
      · exact Or.inr ((conflict_iff now hr).mp (hx.resolve_left hr))
  · refine Or.inr ⟨hr, ?_, ?_, ?_⟩
    · intro href
      rw [(conflict_iff now hr).mpr href] at hconf
      cases hconf
    · exact (congrArg ClientRegistry.clients happ).trans hcl
    · exact hown.trans (if_neg (by simp [hr, hconf]))

/-- The entry that a registration of its own user leaves names the client that calls. -/
theorem info_user {cr : ClientRegistry} {reg : Registration} (now : Nat)
    (hown : ∀ info ∈ cr.clients.get? reg.key, info.user = reg.user) :
    (reg.info (cr.clients.get? reg.key) now).user = reg.user := by
  cases ho : cr.clients.get? reg.key with
  | none => rfl
  | some old => exact hown old ho

theorem Identified.registration {s : State} (h : Identified s) {c : Call} {reg : Registration}
    {now : Nat} (hc : c.registration = some (reg, now))
    (hown : reg.runID ≠ "" → OwnKey s.registry reg) : Identified (step s c) := by
  rcases step_registration (s := s) hc with ⟨he, -⟩ | ⟨hr, hnref, hcl, hreg⟩
  · rwa [he]
  · have huser := info_user now ((hown hr).resolve_left hnref)
    refine ⟨c.apply_wellFormed h.wellFormed, fun k info hi => ?_, fun k info hi ho => ?_⟩
    · rw [hcl, GoMap.get?_insert] at hi
      split at hi
      · rename_i hk
        cases hi
        rw [huser, Registration.info_clientID, hk, reg.key_eq]
      · obtain ⟨old, hold, hu, hid⟩ := releasePrevious_identity h.wellFormed hi
        rw [hu, hid]
        exact h.key k old hold
    · rw [hreg]
      rcases (register_online h.wellFormed hcl ho).mp hi with ⟨-, rfl⟩ | ⟨-, hne, hi⟩
      · rw [huser, Registration.info_clientID]
        exact Function.update_self ..
      · rw [Function.update_of_ne hne]
        exact h.names k info hi ho

theorem Identified.markOffline {s : State} (h : Identified s) {c : Call}
    (hc : c.registration = none) : Identified (step s c) := by
  have hreg : (step s c).registrant = s.registrant := by
    simp only [step, Call.registrant, hc]
  rcases c.apply_cases with ⟨reg, now, hc', -⟩ | ⟨-, r, controlID, matchControlID, now, he⟩
  · rw [hc] at hc'
    cases hc'
  · have hcl : (step s c).registry =
        markOfflineByRunID s.registry r controlID matchControlID now := he s.registry
    refine ⟨c.apply_wellFormed h.wellFormed, ?_, ?_⟩
    · intro k info hi
      rcases markOfflineByRunID_cases h.wellFormed r controlID matchControlID now with
        ⟨hm, -⟩ | ⟨k', info', hg, -, -, -, hm⟩
      · rw [hcl, hm] at hi
        exact h.key k info hi
      · rw [hcl, hm] at hi
        obtain ⟨old, hold, hu, hid⟩ := disconnect_identity hg hi
        rw [hu, hid]
        exact h.key k old hold
    · intro k info hi ho
      rw [hreg]
      rcases markOfflineByRunID_cases h.wellFormed r controlID matchControlID now with
        ⟨hm, -⟩ | ⟨k', info', -, -, -, -, hm⟩
      · rw [hcl, hm] at hi
        exact h.names k info hi ho
      · rw [hcl, hm] at hi
        exact h.names k info ((disconnect_online ho).mp hi).2 ho

theorem identified {s : State} (h : system.ReachableBy MeetsOwn s) : Identified s := by
  refine System.invariant_by identified_init ?_ h
  intro s c s' _ ih hc hs
  obtain rfl := Option.some.inj hs
  cases hreg : c.registration with
  | none => exact ih.markOffline hreg
  | some p => exact ih.registration hreg fun hr => hc p hreg hr

/-- With an entry of its own user under its key, a call leaves other clients alone: whoever
is online under that key is the same client. -/
theorem Identified.keepsOthers {s : State} (h : Identified s) {reg : Registration} (now : Nat)
    (hr : reg.runID ≠ "") (hown : OwnKey s.registry reg) : KeepsOthers s reg now := by
  intro k info hi ho hne hid
  rcases step_registration (s := s) (c := .registerWithControlID reg now) rfl with
    ⟨he, -⟩ | ⟨-, hnref, hcl, -⟩
  · rwa [he]
  · refine (register_online h.wellFormed hcl ho).mpr (Or.inr ⟨fun hk => hid ?_, hne, hi⟩)
    subst hk
    have huser := hown.resolve_left hnref info hi
    have hkey := h.key reg.key info hi
    rw [reg.key_eq, huser] at hkey
    have hclient := composeClientKey_inj (h.wellFormed.clientID_ne hi)
      (Registration.effectiveID_ne hr) hkey
    rw [h.names reg.key info hi ho, huser, hclient, Registration.identity]

/-- A call that names its client in the registry has found no entry of another user. -/
theorem ownKey_of_names {s : State} {reg : Registration} {now : Nat} (hr : reg.runID ≠ "")
    (hn : NamesRegistrants (step s (.registerWithControlID reg now))) : OwnKey s.registry reg := by
  rcases step_registration (s := s) (c := .registerWithControlID reg now) rfl with
    ⟨-, hx⟩ | ⟨-, -, hcl, hreg⟩
  · exact Or.inl (hx.resolve_left hr)
  · right
    intro old hold
    have hget : (step s (.registerWithControlID reg now)).registry.clients.get? reg.key =
        some (reg.info (s.registry.clients.get? reg.key) now) := by
      rw [hcl, GoMap.get?_insert, if_pos rfl]
    have hname := hn reg.key _ hget rfl
    have hself : Function.update s.registrant reg.runID (some reg.identity) reg.runID =
        some reg.identity := Function.update_self ..
    rw [hreg, show (reg.info (s.registry.clients.get? reg.key) now).runID = reg.runID from rfl,
      hself] at hname
    have huser := congrArg Prod.fst (Option.some.inj hname)
    rw [Option.mem_def.mp hold] at huser
    exact huser.symm

theorem validateRunID_ne {isPrint : Char → Bool} {runID : String}
    (h : validateRunID isPrint runID = .ok ()) : runID ≠ "" := by
  rintro rfl
  cases h

/-- Let every registration so far have met only entries of its own user. Then a further one
leaves the other clients' online entries alone, and every online entry names the client that
registered its run ID, exactly if it, too, is refused or meets an entry of its own user or
none. -/
theorem clients_share_no_entry (isPrint : Char → Bool) {s : State} {reg : Registration}
    (now : Nat) (h : system.ReachableBy MeetsOwn s)
    (hv : validateRunID isPrint reg.runID = .ok ()) :
    (KeepsOthers s reg now ∧ NamesRegistrants (step s (.registerWithControlID reg now))) ↔
      OwnKey s.registry reg := by
  have hr := validateRunID_ne hv
  have hi := identified h
  constructor
  · rintro ⟨-, hn⟩
    exact ownKey_of_names hr hn
  · intro hown
    exact ⟨hi.keepsOthers now hr hown, (hi.registration rfl fun _ => hown).names⟩

/-- `unicode.IsPrint` on the characters of ASCII. -/
def isPrintASCII (c : Char) : Bool := 0x20 ≤ c.toNat && c.toNat ≤ 0x7e

/-- The first client of `clients_share_no_entry_fails`, user `a.b` without a client ID. -/
def dottedUser : Registration := ⟨"a.b", "", "c", "h", "1", "ip", "v2", 1⟩

/-- User `a`, with a run ID that makes up for the rest of the key. -/
def dottedRun : Registration := ⟨"a", "", "b.c", "h", "1", "ip", "v2", 2⟩

/-- User `a` takes over the entry of user `a.b`, who is still online, and appears under the
name of the other. -/
theorem clients_share_no_entry_fails :
    ∃ s, system.Reachable s ∧ validateRunID isPrintASCII dottedRun.runID = .ok () ∧
      ¬ KeepsOthers s dottedRun 6 ∧
      ¬ NamesRegistrants (step s (.registerWithControlID dottedRun 6)) := by
  refine ⟨step system.init (.registerWithControlID dottedUser 5), ?_, by decide +kernel, ?_, ?_⟩
  · exact System.reachable_init.next rfl
  · intro h
    have hkeep := h "a.b.c" (dottedUser.info none 5) (by decide +kernel) rfl (by decide)
      (by decide +kernel)
    revert hkeep
    decide +kernel
  · intro h
    have hname := h "a.b.c" (dottedRun.info (some (dottedUser.info none 5)) 6) (by decide +kernel)
      rfl
    revert hname
    decide +kernel

/-- A client ID is used again after its first client has left. -/
theorem clients_share_no_entry_reuse :
    let first : Registration := ⟨"user", "id", "run-1", "h", "1", "ip", "v2", 1⟩
    let second : Registration := ⟨"user", "id", "run-2", "h", "1", "ip", "v2", 2⟩
    ∃ s, system.ReachableBy MeetsOwn s ∧
      s.registry.clients.get? second.key = some (setClientOffline (first.info none 5) 6) ∧
      KeepsOthers s second 7 ∧ NamesRegistrants (step s (.registerWithControlID second 7)) := by
  intro first second
  have hfirst :
      system.ReachableBy MeetsOwn (step system.init (.registerWithControlID first 5)) := by
    refine System.ReachableBy.init.step ?_ rfl
    rintro p hp -
    obtain rfl := Option.some.inj hp
    exact Or.inr nofun
  have hgone := hfirst.step (a := .markOfflineByRunIDAndControlID "run-1" 1 6) nofun rfl
  have hget : (step (step system.init (.registerWithControlID first 5))
      (.markOfflineByRunIDAndControlID "run-1" 1 6)).registry.clients.get? second.key =
        some (setClientOffline (first.info none 5) 6) := by decide +kernel
  refine ⟨_, hgone, hget, ?_⟩
  refine (clients_share_no_entry isPrintASCII 7 hgone (by decide +kernel)).mpr (Or.inr ?_)
  intro info hi
  rw [hget] at hi
  cases hi
  rfl

end FrpXtcp.Server.Registry

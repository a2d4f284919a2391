import FrpXtcp.Lib.GoMap

/-!
# The client registry

`server/registry/registry.go`: entries keyed by user and client ID, and an index
from run IDs to keys. Every exported method runs under one mutex, so each is a
function of the registry. A registry is well formed when the index holds exactly
the online entries; registering and marking offline keep it so.
-/
namespace FrpXtcp.Server.Registry

open FrpXtcp.Lib

/-- `registry.ClientInfo`. Times are ticks of the registry's clock; 0 is the zero time. -/
structure ClientInfo where
  key : String
  user : String
  rawClientID : String
  runID : String
  controlID : UInt64
  hostname : String
  ip : String
  version : String
  wireProtocol : String
  firstConnectedAt : Nat
  lastConnectedAt : Nat
  disconnectedAt : Nat
  online : Bool
  deriving DecidableEq

structure ClientRegistry where
  clients : GoMap String ClientInfo
  runIndex : GoMap String String

/-- `NewClientRegistry` -/
def newClientRegistry : ClientRegistry := ⟨.empty, .empty⟩

def composeClientKey (user id : String) : String :=
  if user = "" then id else if id = "" then user else s!"{user}.{id}"

def setClientOffline (info : ClientInfo) (now : Nat) : ClientInfo :=
  { info with runID := "", controlID := 0, online := false, disconnectedAt := now }

/-- What both ways of going offline do to an entry: without a client ID of its own
it is deleted, otherwise it stays as an offline record. -/
def disconnect (clients : GoMap String ClientInfo) (key : String) (info : ClientInfo)
    (now : Nat) : GoMap String ClientInfo :=
  if info.rawClientID = "" then clients.erase key
  else clients.insert key (setClientOffline info now)

/-- The step of `RegisterWithControlID` that takes the run ID off another key. -/
def releasePrevious (cr : ClientRegistry) (runID key : String) (now : Nat) : ClientRegistry :=
  match cr.runIndex.get? runID with
  | none => cr
  | some previousKey =>
    if previousKey = key then cr
    else
      let clients :=
        match cr.clients.get? previousKey with
        | none => cr.clients
        | some previous =>
          if previous.runID = runID then disconnect cr.clients previousKey previous now
          else cr.clients
      ⟨clients, cr.runIndex.erase runID⟩

/-- The arguments of `RegisterWithControlID`. -/
structure Registration where
  user : String
  rawClientID : String
  runID : String
  hostname : String
  version : String
  remoteAddr : String
  wireProtocol : String
  controlID : UInt64

def Registration.key (reg : Registration) : String :=
  composeClientKey reg.user (if reg.rawClientID = "" then reg.runID else reg.rawClientID)

/-- The entry that a registration leaves under its key. -/
def Registration.info (reg : Registration) (old : Option ClientInfo) (now : Nat) : ClientInfo where
  key := (old.map ClientInfo.key).getD reg.key
  user := (old.map ClientInfo.user).getD reg.user
  rawClientID := reg.rawClientID
  runID := reg.runID
  controlID := reg.controlID
  hostname := reg.hostname
  ip := reg.remoteAddr
  version := reg.version
  wireProtocol := reg.wireProtocol
  firstConnectedAt :=
    match old with
    | none => now
    | some info => if info.firstConnectedAt = 0 then now else info.firstConnectedAt
  lastConnectedAt := now
  disconnectedAt := 0
  online := true

/-- `RegisterWithControlID`: the registry, the key and whether it conflicts with an
online client. -/
def registerWithControlID (cr : ClientRegistry) (reg : Registration) (now : Nat) :
    ClientRegistry × String × Bool :=
  if reg.runID = "" then (cr, "", false)
  else
    let old := cr.clients.get? reg.key
    let conflict := reg.rawClientID ≠ "" ∧
      ∃ info ∈ old, info.online = true ∧ info.runID ≠ "" ∧ info.runID ≠ reg.runID
    if conflict then (cr, reg.key, true)
    else
      let cr := releasePrevious cr reg.runID reg.key now
      let runIndex :=
        match old with
        | none => cr.runIndex
        | some info => if info.runID = "" then cr.runIndex else cr.runIndex.erase info.runID
      (⟨cr.clients.insert reg.key (reg.info old now), runIndex.insert reg.runID reg.key⟩,
        reg.key, false)

/-- `Register` -/
def register (cr : ClientRegistry) (reg : Registration) (now : Nat) :
    ClientRegistry × String × Bool :=
  registerWithControlID cr { reg with controlID := 0 } now

/-- `markOfflineByRunID` -/
def markOfflineByRunID (cr : ClientRegistry) (runID : String) (controlID : UInt64)
    (matchControlID : Bool) (now : Nat) : ClientRegistry :=
  match cr.runIndex.get? runID with
  | none => cr
  | some key =>
    let clients :=
      match cr.clients.get? key with
      | none => cr.clients
      | some info =>
        if info.runID = runID ∧ (matchControlID = false ∨ info.controlID = controlID) then
          disconnect cr.clients key info now
        else cr.clients
    if ∃ info ∈ clients.get? key, info.runID = runID then ⟨clients, cr.runIndex⟩
    else ⟨clients, cr.runIndex.erase runID⟩

/-- `MarkOfflineByRunIDAndControlID` -/
def markOfflineByRunIDAndControlID (cr : ClientRegistry) (runID : String) (controlID : UInt64)
    (now : Nat) : ClientRegistry :=
  markOfflineByRunID cr runID controlID true now

/-- The entry under `k` is online with run ID `r`. -/
def OnlineAt (cr : ClientRegistry) (k r : String) : Prop :=
  ∃ info, cr.clients.get? k = some info ∧ info.online = true ∧ info.runID = r

/-- The index holds exactly the online entries, and an offline entry carries no
run ID, no control ID and a client ID of its own. -/
structure WellFormed (cr : ClientRegistry) : Prop where
  index : ∀ r k, cr.runIndex.get? r = some k ↔ OnlineAt cr k r
  offline : ∀ k info, cr.clients.get? k = some info → info.online = false →
    info.runID = "" ∧ info.controlID = 0 ∧ info.rawClientID ≠ ""
  runID_ne : ∀ k info, cr.clients.get? k = some info → info.online = true → info.runID ≠ ""

theorem wellFormed_new : WellFormed newClientRegistry := by
  refine ⟨fun r k => ?_, nofun, nofun⟩
  simp [newClientRegistry, OnlineAt]

/-- No two entries are online with one run ID. -/
theorem WellFormed.unique {cr : ClientRegistry} (h : WellFormed cr) {k k' r : String}
    (hk : OnlineAt cr k r) (hk' : OnlineAt cr k' r) : k = k' := by
  rw [← h.index] at hk hk'
  exact Option.some.inj (hk.symm.trans hk')

/-- After a disconnect the entry is not online, and all others are as before. -/
theorem disconnect_get (clients : GoMap String ClientInfo) (key : String) (info : ClientInfo)
    (now : Nat) (k : String) :
    (disconnect clients key info now).get? k =
      if k = key then if info.rawClientID = "" then none else some (setClientOffline info now)
      else clients.get? k := by
  unfold disconnect
  split
  · simp
  · simp

theorem disconnect_online {clients : GoMap String ClientInfo} {key k : String}
    {info info' : ClientInfo} {now : Nat} (ho : info'.online = true) :
    (disconnect clients key info now).get? k = some info' ↔
      k ≠ key ∧ clients.get? k = some info' := by
  rw [disconnect_get]
  by_cases hk : k = key
  · simp only [hk, if_true, ne_eq, not_true_eq_false, false_and, iff_false]
    split
    · simp
    · rintro h
      cases h
      cases ho
  · simp [hk]

theorem WellFormed.disconnect {cr : ClientRegistry} (h : WellFormed cr) {key : String}
    {info : ClientInfo} (hk : cr.clients.get? key = some info) (ho : info.online = true)
    (now : Nat) :
    WellFormed ⟨disconnect cr.clients key info now, cr.runIndex.erase info.runID⟩ := by
  refine ⟨fun r k => ?_, fun k info' hi hoff => ?_, fun k info' hi hon => ?_⟩
  · rw [GoMap.get?_erase]
    by_cases hr : r = info.runID
    · subst hr
      simp only [if_true, reduceCtorEq, false_iff]
      rintro ⟨info', hi, hon, hrun⟩
      obtain ⟨hne, hi⟩ := (disconnect_online hon).mp hi
      exact hne (h.unique ⟨info', hi, hon, hrun⟩ ⟨info, hk, ho, rfl⟩)
    · rw [if_neg hr, h.index]
      constructor
      · rintro ⟨info', hi, hon, hrun⟩
        refine ⟨info', (disconnect_online hon).mpr ⟨?_, hi⟩, hon, hrun⟩
        rintro rfl
        rw [hk] at hi
        cases hi
        exact hr hrun.symm
      · rintro ⟨info', hi, hon, hrun⟩
        exact ⟨info', ((disconnect_online hon).mp hi).2, hon, hrun⟩
  · rw [disconnect_get] at hi
    by_cases hkk : k = key
    · rw [if_pos hkk] at hi
      split at hi
      · cases hi
      · cases hi
        exact ⟨rfl, rfl, ‹_›⟩
    · rw [if_neg hkk] at hi
      exact h.offline k info' hi hoff
  · exact h.runID_ne k info' ((disconnect_online hon).mp hi).2 hon

/-- The previous key of a run ID, if it is another one, is given up. -/
theorem releasePrevious_eq {cr : ClientRegistry} (h : WellFormed cr) (runID key : String)
    (now : Nat) :
    (releasePrevious cr runID key now = cr ∧ ∀ k, OnlineAt cr k runID → k = key) ∨
    ∃ k info, k ≠ key ∧ cr.clients.get? k = some info ∧ info.online = true ∧ info.runID = runID ∧
      releasePrevious cr runID key now =
        ⟨Registry.disconnect cr.clients k info now, cr.runIndex.erase runID⟩ := by
  unfold releasePrevious
  cases hi : cr.runIndex.get? runID with
  | none =>
    refine Or.inl ⟨rfl, fun k hk => ?_⟩
    rw [← h.index, hi] at hk
    cases hk
  | some previousKey =>
    obtain ⟨info, hg, ho, hr⟩ := (h.index runID previousKey).mp hi
    by_cases hk : previousKey = key
    · refine Or.inl ⟨by simp [hk], fun k hon => ?_⟩
      exact (h.unique hon ⟨info, hg, ho, hr⟩).trans hk
    · exact Or.inr ⟨previousKey, info, hk, hg, ho, hr, by simp [hk, hg, hr]⟩

theorem releasePrevious_wellFormed {cr : ClientRegistry} (h : WellFormed cr) (runID key : String)
    (now : Nat) : WellFormed (releasePrevious cr runID key now) := by
  rcases releasePrevious_eq h runID key now with ⟨he, -⟩ | ⟨k, info, -, hg, ho, hr, he⟩
  · rwa [he]
  · rw [he]
    subst hr
    exact h.disconnect hg ho now

/-- Online entries after the previous key was given up. -/
theorem releasePrevious_online {cr : ClientRegistry} (h : WellFormed cr) {runID key : String}
    {now : Nat} {k : String} {info : ClientInfo} (ho : info.online = true) :
    (releasePrevious cr runID key now).clients.get? k = some info ↔
      cr.clients.get? k = some info ∧ (info.runID = runID → k = key) := by
  rcases releasePrevious_eq h runID key now with ⟨he, hkey⟩ | ⟨k', info', hne, hg, ho', hr, he⟩
  · rw [he]
    exact ⟨fun hi => ⟨hi, fun hr => hkey k ⟨info, hi, ho, hr⟩⟩, And.left⟩
  · rw [he, disconnect_online ho]
    constructor
    · rintro ⟨hkk, hi⟩
      refine ⟨hi, fun hrun => ?_⟩
      exact absurd (h.unique ⟨info, hi, ho, hrun⟩ ⟨info', hg, ho', hr⟩) hkk
    · rintro ⟨hi, himp⟩
      refine ⟨?_, hi⟩
      rintro rfl
      rw [hg] at hi
      cases hi
      exact hne (himp hr)

/-- A conflicting or anonymous registration leaves the registry alone. -/
theorem registerWithControlID_cases (cr : ClientRegistry) (reg : Registration) (now : Nat) :
    (registerWithControlID cr reg now).1 = cr ∧
        (reg.runID = "" ∨ (registerWithControlID cr reg now).2.2 = true) ∨
      reg.runID ≠ "" ∧ (registerWithControlID cr reg now).2.2 = false ∧
      (registerWithControlID cr reg now).1.clients =
        (releasePrevious cr reg.runID reg.key now).clients.insert reg.key
          (reg.info (cr.clients.get? reg.key) now) ∧
      ∀ r, (registerWithControlID cr reg now).1.runIndex.get? r =
        if r = reg.runID then some reg.key
        else if ∃ info ∈ cr.clients.get? reg.key, info.runID ≠ "" ∧ info.runID = r then none
        else (releasePrevious cr reg.runID reg.key now).runIndex.get? r := by
  unfold registerWithControlID
  by_cases hr : reg.runID = ""
  · simp [hr]
  · rw [if_neg hr]
    dsimp only
    split
    · exact Or.inl ⟨rfl, Or.inr rfl⟩
    · refine Or.inr ⟨hr, rfl, rfl, fun r => ?_⟩
      rw [GoMap.get?_insert]
      split
      · rfl
      · cases cr.clients.get? reg.key with
        | none => simp
        | some info =>
          by_cases hi : info.runID = ""
          · simp [hi]
          · by_cases hr' : r = info.runID
            · simp [hi, hr']
            · simp [hi, hr', Ne.symm hr']

/-- The online entries after a registration that took effect. -/
theorem register_online {cr : ClientRegistry} (h : WellFormed cr) {reg : Registration} {now : Nat}
    {clients : GoMap String ClientInfo} {k : String} {info : ClientInfo}
    (hc : clients = (releasePrevious cr reg.runID reg.key now).clients.insert reg.key
      (reg.info (cr.clients.get? reg.key) now)) (ho : info.online = true) :
    clients.get? k = some info ↔
      (k = reg.key ∧ info = reg.info (cr.clients.get? reg.key) now) ∨
        (k ≠ reg.key ∧ info.runID ≠ reg.runID ∧ cr.clients.get? k = some info) := by
  subst hc
  rw [GoMap.get?_insert]
  by_cases hk : k = reg.key
  · simp [hk, eq_comm]
  · rw [if_neg hk, releasePrevious_online h ho]
    constructor
    · rintro ⟨hi, himp⟩
      exact Or.inr ⟨hk, fun hr => hk (himp hr), hi⟩
    · rintro (⟨hkk, -⟩ | ⟨-, hr, hi⟩)
      · exact absurd hkk hk
      · exact ⟨hi, fun hrr => absurd hrr hr⟩

theorem registerWithControlID_wellFormed {cr : ClientRegistry} (h : WellFormed cr)
    (reg : Registration) (now : Nat) : WellFormed (registerWithControlID cr reg now).1 := by
  rcases registerWithControlID_cases cr reg now with ⟨he, -⟩ | ⟨hr, -, hc, hidx⟩
  · rwa [he]
  · have hwf := releasePrevious_wellFormed h reg.runID reg.key now
    refine ⟨fun r k => ?_, fun k info hi hoff => ?_, fun k info hi hon => ?_⟩
    · rw [hidx]
      by_cases hrr : r = reg.runID
      · subst hrr
        rw [if_pos rfl]
        constructor
        · intro hk
          obtain rfl := Option.some.inj hk
          exact ⟨_, (register_online h hc rfl).mpr (Or.inl ⟨rfl, rfl⟩), rfl, rfl⟩
        · rintro ⟨info, hi, hon, hrun⟩
          rcases (register_online h hc hon).mp hi with ⟨hk, -⟩ | ⟨-, hne, -⟩
          · rw [hk]
          · exact absurd hrun hne
      · rw [if_neg hrr]
        have hother : OnlineAt (registerWithControlID cr reg now).1 k r ↔
            k ≠ reg.key ∧ OnlineAt cr k r := by
          constructor
          · rintro ⟨info, hi, hon, hrun⟩
            rcases (register_online h hc hon).mp hi with ⟨-, rfl⟩ | ⟨hk, -, hi⟩
            · exact absurd hrun.symm hrr
            · exact ⟨hk, info, hi, hon, hrun⟩
          · rintro ⟨hk, info, hi, hon, hrun⟩
            exact ⟨info, (register_online h hc hon).mpr
              (Or.inr ⟨hk, fun hx => hrr (hrun.symm.trans hx), hi⟩), hon, hrun⟩
        rw [hother]
        split
        · -- the old entry under the key gave up its run ID
          rename_i hold
          obtain ⟨old, hold, hne, hrun⟩ := hold
          simp only [reduceCtorEq, false_iff, not_and]
          intro hk hon
          have hon' : old.online = true := by
            cases ho : old.online with
            | true => rfl
            | false => exact absurd (h.offline _ _ hold ho).1 hne
          exact hk (h.unique hon ⟨old, hold, hon', hrun⟩)
        · rename_i hold
          rw [hwf.index]
          constructor
          · rintro ⟨info, hi, hon, hrun⟩
            have hi' := ((releasePrevious_online h hon).mp hi).1
            refine ⟨?_, info, hi', hon, hrun⟩
            rintro rfl
            exact hold ⟨info, hi', h.runID_ne _ _ hi' hon, hrun⟩
          · rintro ⟨hk, info, hi, hon, hrun⟩
            refine ⟨info, (releasePrevious_online h hon).mpr ⟨hi, fun hx => ?_⟩, hon, hrun⟩
            exact absurd (hrun.symm.trans hx) hrr
    · rw [hc, GoMap.get?_insert] at hi
      split at hi
      · cases hi
        cases hoff
      · exact hwf.offline k info hi hoff
    · rcases (register_online h hc hon).mp hi with ⟨-, rfl⟩ | ⟨-, -, hi⟩
      · exact hr
      · exact h.runID_ne k info hi hon

/-- Marking offline takes the entry of the run ID off, if it is of the asked
generation, and changes nothing else. -/
theorem markOfflineByRunID_cases {cr : ClientRegistry} (h : WellFormed cr) (runID : String)
    (controlID : UInt64) (matchControlID : Bool) (now : Nat) :
    (markOfflineByRunID cr runID controlID matchControlID now = cr ∧
      ∀ k info, cr.clients.get? k = some info → info.online = true → info.runID = runID →
        matchControlID = true ∧ info.controlID ≠ controlID) ∨
    ∃ k info, cr.clients.get? k = some info ∧ info.online = true ∧ info.runID = runID ∧
      (matchControlID = false ∨ info.controlID = controlID) ∧
      markOfflineByRunID cr runID controlID matchControlID now =
        ⟨disconnect cr.clients k info now, cr.runIndex.erase info.runID⟩ := by
  unfold markOfflineByRunID
  cases hi : cr.runIndex.get? runID with
  | none =>
    refine Or.inl ⟨rfl, fun k info hg ho hr => ?_⟩
    rw [(h.index runID k).mpr ⟨info, hg, ho, hr⟩] at hi
    cases hi
  | some key =>
    obtain ⟨info, hg, ho, hr⟩ := (h.index runID key).mp hi
    by_cases hm : matchControlID = false ∨ info.controlID = controlID
    · refine Or.inr ⟨key, info, hg, ho, hr, hm, ?_⟩
      have hgone : ¬ ∃ info' ∈ (disconnect cr.clients key info now).get? key,
          info'.runID = runID := by
        rintro ⟨info', hi', hr'⟩
        rw [Option.mem_def, disconnect_get, if_pos rfl] at hi'
        split at hi'
        · cases hi'
        · cases hi'
          exact h.runID_ne key info hg ho (hr.trans hr'.symm)
      simp only [hg, hr, hm, and_self, if_true, if_neg hgone]
    · refine Or.inl ⟨?_, fun k info' hg' ho' hr' => ?_⟩
      · have hstay : ∃ info' ∈ cr.clients.get? key, info'.runID = runID := ⟨info, hg, hr⟩
        simp only [hg, hm, and_false, if_false]
        rw [hg] at hstay
        rw [if_pos hstay]
      · obtain rfl := h.unique ⟨info', hg', ho', hr'⟩ ⟨info, hg, ho, hr⟩
        rw [hg] at hg'
        cases hg'
        simpa [not_or] using hm

theorem markOfflineByRunID_wellFormed {cr : ClientRegistry} (h : WellFormed cr) (runID : String)
    (controlID : UInt64) (matchControlID : Bool) (now : Nat) :
    WellFormed (markOfflineByRunID cr runID controlID matchControlID now) := by
  rcases markOfflineByRunID_cases h runID controlID matchControlID now with
    ⟨he, -⟩ | ⟨k, info, hg, ho, -, -, he⟩
  · rwa [he]
  · rw [he]
    exact h.disconnect hg ho now

/-- The online entries after marking one generation offline. -/
theorem markOffline_online {cr : ClientRegistry} (h : WellFormed cr) {runID : String}
    {controlID : UInt64} {now : Nat} {k : String} {info : ClientInfo} (ho : info.online = true) :
    (markOfflineByRunIDAndControlID cr runID controlID now).clients.get? k = some info ↔
      cr.clients.get? k = some info ∧ ¬ (info.runID = runID ∧ info.controlID = controlID) := by
  unfold markOfflineByRunIDAndControlID
  rcases markOfflineByRunID_cases h runID controlID true now with
    ⟨he, hnone⟩ | ⟨k', info', hg, ho', hr, hm, he⟩
  · rw [he]
    refine ⟨fun hi => ⟨hi, fun hx => ?_⟩, And.left⟩
    exact (hnone k info hi ho hx.1).2 hx.2
  · rw [he, disconnect_online ho]
    constructor
    · rintro ⟨hk, hi⟩
      refine ⟨hi, fun hx => hk ?_⟩
      exact h.unique ⟨info, hi, ho, hx.1⟩ ⟨info', hg, ho', hr⟩
    · rintro ⟨hi, hx⟩
      refine ⟨?_, hi⟩
      rintro rfl
      rw [hg] at hi
      cases hi
      exact hx ⟨hr, hm.resolve_left nofun⟩

end FrpXtcp.Server.Registry

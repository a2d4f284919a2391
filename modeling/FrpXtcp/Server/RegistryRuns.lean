import FrpXtcp.Lib.Transition
import FrpXtcp.Server.Registry

/-!
# Runs of the client registry

Sequences of calls of `server/registry/registry.go`. The first result is the
representation invariant of its two maps, for arguments of every kind. The second is about
identity: an entry is found under the one string that `composeClientKey` makes of a user
and an ID, so that two clients can meet in it. The state therefore remembers which client
registered each run ID, and the entries are compared with that.
-/
namespace FrpXtcp.Server.Registry

open FrpXtcp.Lib

/-- A call of an exported method that changes the registry; `now` is the time it reads. -/
inductive Call where
  | registerWithControlID (reg : Registration) (now : Nat)
  | register (reg : Registration) (now : Nat)
  | markOfflineByRunID (runID : String) (now : Nat)
  | markOfflineByRunIDAndControlID (runID : String) (controlID : UInt64) (now : Nat)

/-- The registration that a call makes, as `RegisterWithControlID` gets it. -/
def Call.registration : Call → Option (Registration × Nat)
  | .registerWithControlID reg now => some (reg, now)
  | .register reg now => some ({ reg with controlID := 0 }, now)
  | _ => none

def Call.apply (cr : ClientRegistry) : Call → ClientRegistry
  | .registerWithControlID reg now => (Registry.registerWithControlID cr reg now).1
  | .register reg now => (Registry.register cr reg now).1
  | .markOfflineByRunID runID now => Registry.markOfflineByRunID cr runID 0 false now
  | .markOfflineByRunIDAndControlID runID controlID now =>
    Registry.markOfflineByRunIDAndControlID cr runID controlID now

/-- The client ID, or the run ID when there is none. -/
def Registration.effectiveID (reg : Registration) : String :=
  if reg.rawClientID = "" then reg.runID else reg.rawClientID

/-- The user and the effective ID of the client that registers. -/
def Registration.identity (reg : Registration) : String × String := (reg.user, reg.effectiveID)

/-- The registry, and for each run ID the client whose registration of it took effect last. -/
structure State where
  registry : ClientRegistry
  registrant : String → Option (String × String)

/-- The registrants after a call; an anonymous or conflicting registration has no effect. -/
def Call.registrant (s : State) (c : Call) : String → Option (String × String) :=
  match c.registration with
  | none => s.registrant
  | some (reg, now) =>
    if reg.runID = "" ∨ (Registry.registerWithControlID s.registry reg now).2.2 = true then
      s.registrant
    else Function.update s.registrant reg.runID (some reg.identity)

def step (s : State) (c : Call) : State := ⟨c.apply s.registry, c.registrant s⟩

def system : System State Call := ⟨⟨newClientRegistry, fun _ => none⟩, fun s c => some (step s c)⟩

/-- A call is a registration or marks a run ID offline. -/
theorem Call.apply_cases (c : Call) :
    (∃ reg now, c.registration = some (reg, now) ∧
        ∀ cr, c.apply cr = (Registry.registerWithControlID cr reg now).1) ∨
      c.registration = none ∧
        ∃ runID controlID matchControlID now,
          ∀ cr, c.apply cr = Registry.markOfflineByRunID cr runID controlID matchControlID now := by
  cases c with
  | registerWithControlID reg now => exact Or.inl ⟨reg, now, rfl, fun _ => rfl⟩
  | register reg now => exact Or.inl ⟨_, now, rfl, fun _ => rfl⟩
  | markOfflineByRunID runID now => exact Or.inr ⟨rfl, runID, 0, false, now, fun _ => rfl⟩
  | markOfflineByRunIDAndControlID runID controlID now =>
    exact Or.inr ⟨rfl, runID, controlID, true, now, fun _ => rfl⟩

theorem Call.apply_wellFormed {cr : ClientRegistry} (h : WellFormed cr) (c : Call) :
    WellFormed (c.apply cr) := by
  rcases c.apply_cases with ⟨reg, now, -, he⟩ | ⟨-, runID, controlID, matchControlID, now, he⟩
  · rw [he]
    exact registerWithControlID_wellFormed h reg now
  · rw [he]
    exact markOfflineByRunID_wellFormed h runID controlID matchControlID now

theorem reachable_wellFormed {s : State} (h : system.Reachable s) : WellFormed s.registry := by
  refine System.invariant (I := fun s => WellFormed s.registry) wellFormed_new ?_ h
  intro s c s' _ ih hs
  obtain rfl := Option.some.inj hs
  exact c.apply_wellFormed ih

/-- An entry with a run ID is online. -/
theorem WellFormed.online_of_runID {cr : ClientRegistry} (h : WellFormed cr) {k : String}
    {info : ClientInfo} (hi : cr.clients.get? k = some info) (hr : info.runID ≠ "") :
    info.online = true := by
  cases ho : info.online with
  | true => rfl
  | false => exact absurd (h.offline k info hi ho).1 hr

/-- Marking one generation offline does nothing unless the entry of the run ID is of that
generation. -/
theorem WellFormed.markOffline_other {cr : ClientRegistry} (h : WellFormed cr) {r : String}
    {c : UInt64} (now : Nat)
    (hn : ¬ ∃ k info, cr.runIndex.get? r = some k ∧ cr.clients.get? k = some info ∧
      info.controlID = c) :
    markOfflineByRunIDAndControlID cr r c now = cr := by
  rcases markOfflineByRunID_cases h r c true now with ⟨he, -⟩ | ⟨k, info, hi, ho, hr, hm, -⟩
  · exact he
  · refine absurd ⟨k, info, ?_, hi, hm.resolve_left nofun⟩ hn
    exact (h.index r k).mpr ⟨info, hi, ho, hr⟩

/-- The index and the online entries are in bijection in every state that any calls lead
to, offline entries are records of a client ID and nothing else, and no run ID is used
twice. -/
theorem registry_representation {s : State} (h : system.Reachable s) :
    (∀ r k, s.registry.runIndex.get? r = some k ↔
      ∃ info, s.registry.clients.get? k = some info ∧ info.online = true ∧ info.runID = r) ∧
    (∀ k info, s.registry.clients.get? k = some info → info.online = false →
      info.runID = "" ∧ info.controlID = 0 ∧ info.rawClientID ≠ "") ∧
    (∀ k k' info info', s.registry.clients.get? k = some info →
      s.registry.clients.get? k' = some info' → info.runID ≠ "" → info.runID = info'.runID →
      k = k') ∧
    ∀ r c now, (¬ ∃ k info, s.registry.runIndex.get? r = some k ∧
        s.registry.clients.get? k = some info ∧ info.controlID = c) →
      markOfflineByRunIDAndControlID s.registry r c now = s.registry := by
  have hwf := reachable_wellFormed h
  refine ⟨hwf.index, hwf.offline, ?_, fun r c now hn => hwf.markOffline_other now hn⟩
  intro k k' info info' hi hi' hne he
  have ho : info.online = true := hwf.online_of_runID hi hne
  have ho' : info'.online = true := hwf.online_of_runID hi' (he ▸ hne)
  exact hwf.unique ⟨info, hi, ho, rfl⟩ ⟨info', hi', ho', he.symm⟩

/-- A run ID moves from one client ID to another, and the first one stays on record. -/
theorem registry_representation_moved :
    ∃ s, system.Reachable s ∧
      (∃ info, s.registry.clients.get? "user.new" = some info ∧ info.online = true ∧
        info.runID = "run") ∧
      ∀ info, s.registry.clients.get? "user.old" = some info → info.online = false →
        info.runID = "" ∧ info.controlID = 0 ∧ info.rawClientID ≠ "" := by
  obtain ⟨s, hr, hp⟩ := System.reachable_of_run (S := system)
    (l := [.registerWithControlID ⟨"user", "old", "run", "h", "1", "ip", "v1", 1⟩ 5,
      .registerWithControlID ⟨"user", "new", "run", "h", "1", "ip", "v2", 2⟩ 6])
    (p := fun s => s.registry.runIndex.get? "run" = some "user.new") (by decide +kernel)
  have hrep := registry_representation hr
  exact ⟨s, hr, (hrep.1 "run" "user.new").mp (of_decide_eq_true hp), hrep.2.1 "user.old"⟩

end FrpXtcp.Server.Registry

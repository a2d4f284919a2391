import FrpXtcp.Lib.Index
import FrpXtcp.Server.Proxy

/-!
# Who owns a proxy name

Every proxy is at one place at a time: not made yet, in the hands of one call, in
the map of one control, or gone. The place decides in which of the three tables
the proxy is registered, and each table indexes exactly the proxies whose place
says so. A removal by name can therefore only hit the proxy it is executed for.
-/
namespace FrpXtcp.Server.Proxy

open FrpXtcp.Lib
open FrpXtcp.Nathole (Controller ClientCfg listenClient closeClient newController)

universe u

/-- How far a proxy in the hands of a call has come. -/
inductive Stage where
  | created
  | listening
  | registered
  | deleting
  deriving DecidableEq

/-- Where a proxy is; a call works for one control. -/
inductive Place (τ : Type u) where
  | fresh
  | call (t : τ) (c : Nat) (st : Stage)
  | ctl (c : Nat)
  | gone

namespace Place

variable {τ : Type u}

/-- The nathole controller has the proxy's configuration. -/
def listening : Place τ → Prop
  | .call _ _ .listening | .call _ _ .registered | .ctl _ => True
  | _ => False

/-- The proxy manager has the proxy. -/
def added : Place τ → Prop
  | .call _ _ .registered | .call _ _ .deleting | .ctl _ => True
  | _ => False

/-- The proxy is made and `Close` has not run. -/
def alive : Place τ → Prop
  | .call _ _ .deleting | .fresh | .gone => False
  | _ => True

def ctl? : Place τ → Option Nat
  | .call _ c _ | .ctl c => some c
  | _ => none

/-- A place that the call `t` may take a proxy from or put it in. -/
def near (t : τ) : Place τ → Prop
  | .call t' _ _ => t' = t
  | _ => True

/-- The proxies of control `c` pass into the hands of the call `t`. -/
def takeAll (t : τ) (c : Nat) : Place τ → Place τ
  | .ctl c' => if c' = c then .call t c .registered else .ctl c'
  | x => x

theorem takeAll_cases (t : τ) (c : Nat) (x : Place τ) :
    (x = .ctl c ∧ x.takeAll t c = .call t c .registered) ∨ (x ≠ .ctl c ∧ x.takeAll t c = x) := by
  cases x with
  | ctl c' => by_cases hc : c' = c <;> simp [takeAll, hc]
  | _ => simp [takeAll]

end Place

/-- The proxies that a closing loop has still to delete. -/
def Op.pending : Op → List Nat
  | .closing _ rest => rest
  | .deleting _ p rest => p :: rest
  | _ => []

/-- What the program counter of a call says about the proxy `q`: the control and
the stage, if the call has it. -/
def Op.stage : Op → Nat → Option (Nat × Stage)
  | .exist c p, q | .run c p, q => if q = p then some (c, .created) else none
  | .add c p, q | .rollback c p _, q => if q = p then some (c, .listening) else none
  | .insert c p, q => if q = p then some (c, .registered) else none
  | .closing c rest, q => if q ∈ rest then some (c, .registered) else none
  | .deleting c p rest, q =>
    if q = p then some (c, .deleting) else if q ∈ rest then some (c, .registered) else none
  | .idle, _ | .registered _ _, _ | .rejected _ _ _, _ => none

/-- The proxy that the next statement of a call is about. -/
def Op.current? : Op → Option Nat
  | .exist _ p | .run _ p | .add _ p | .insert _ p | .rollback _ p _ | .closing _ (p :: _)
  | .deleting _ p _ => some p
  | _ => none

/-- `RegisterProxy` has returned an error. -/
def Op.failed : Op → Bool
  | .rejected _ _ _ => true
  | _ => false

theorem Op.stage_of_resting {o : Op} (h : o.resting = true) (q : Nat) : o.stage q = none := by
  cases o with
  | closing c rest => cases rest <;> simp_all [resting, stage]
  | _ => simp_all [resting, stage]

theorem Op.ctl_of_stage {o : Op} {q c : Nat} {st : Stage} (h : o.stage q = some (c, st)) :
    o.ctl? = some c := by
  cases o <;> simp only [stage, reduceCtorEq] at h <;> (repeat' split at h) <;> cases h <;> rfl

/-- The proxy that listens under a name, by the channel of its `ListenClient`. -/
def cfgOwner (c : Controller) (n : String) : Option Nat :=
  (c.clientCfgs.get? n).map ClientCfg.sidCh

theorem listenClient_ok {c c' : Controller} {name sk : String} {users : List String} {p : Nat}
    (h : listenClient c name sk users p = .ok c') :
    cfgOwner c name = none ∧ ∀ n, cfgOwner c' n = if n = name then some p else cfgOwner c n := by
  unfold listenClient at h
  split at h
  · cases h
  · rename_i hn
    cases h
    refine ⟨?_, fun n => ?_⟩
    · simpa [cfgOwner] using hn
    · simp only [cfgOwner, GoMap.get?_insert]
      split <;> rfl

theorem cfgOwner_closeClient (c : Controller) (name n : String) :
    cfgOwner (closeClient c name) n = if n = name then none else cfgOwner c n := by
  simp only [cfgOwner, closeClient, GoMap.get?_erase]
  split <;> rfl

theorem Manager.add_ok {pm pm' : Manager} {name : String} {p : Nat}
    (h : pm.add name p = .ok pm') :
    pm.get? name = none ∧ ∀ n, pm'.get? n = if n = name then some p else pm.get? n := by
  unfold Manager.add at h
  split at h
  · cases h
  · rename_i hn
    cases h
    exact ⟨by simpa using hn, fun n => GoMap.get?_insert _ _ _ _⟩

variable {τ : Type u}

/-- The program counters agree with the places. -/
structure Calls (ops : τ → Op) (nextPxy : Nat) (place : Nat → Place τ) : Prop where
  fresh : ∀ p, place p = .fresh ↔ nextPxy ≤ p
  stage : ∀ t p c st, (ops t).stage p = some (c, st) ↔ place p = .call t c st
  nodup : ∀ t, (ops t).pending.Nodup

/-- The tables agree with the places. -/
structure Tables (natHole : Controller) (pxyManager : Manager) (proxies : Nat → GoMap String Nat)
    (pxys : Nat → XTCPProxy) (place : Nat → Place τ) : Prop where
  cfg : Indexes (cfgOwner natHole) (fun p => (pxys p).name) (fun p => (place p).listening)
  mgr : Indexes pxyManager.get? (fun p => (pxys p).name) (fun p => (place p).added)
  ctl : ∀ c, Indexes (proxies c).get? (fun p => (pxys p).name) (fun p => place p = .ctl c)
  not_closed : ∀ p, (place p).alive → (pxys p).closed = false
  owner : ∀ p c, (place p).ctl? = some c → (pxys p).ctl = c

structure Placed (s : State τ) (place : Nat → Place τ) : Prop where
  calls : Calls s.ops s.nextPxy place
  tables : Tables s.natHole s.pxyManager s.proxies s.pxys place

theorem placed_init : Placed (init : State τ) (fun _ => .fresh) := by
  refine ⟨⟨fun p => ?_, fun t p c st => ?_, fun t => ?_⟩, ⟨?_, ?_, fun c => ?_, nofun, nofun⟩⟩
  · simp [init]
  · simp [init, Op.stage]
  · simp [init, Op.pending]
  · exact .empty (fun _ => rfl) (fun _ => id)
  · exact .empty (fun _ => rfl) (fun _ => id)
  · exact .empty (fun _ => rfl) (fun _ => nofun)

section Calls

variable {ops : τ → Op} {nextPxy : Nat} {place : Nat → Place τ} {t : τ} {o : Op}

theorem Calls.fresh_move (h : Calls ops nextPxy place) {p : Nat} {x : Place τ}
    (hp : place p ≠ .fresh) (hx : x ≠ .fresh) (q : Nat) :
    Function.update place p x q = .fresh ↔ nextPxy ≤ q := by
  rw [← h.fresh q]
  by_cases hq : q = p
  · subst hq
    simp [hp, hx]
  · simp [hq]

variable [DecidableEq τ]

/-- A statement that moves no proxy. -/
theorem Calls.advance (h : Calls ops nextPxy place) (hst : ∀ q, o.stage q = (ops t).stage q)
    (hnd : o.pending.Nodup) : Calls (Function.update ops t o) nextPxy place := by
  refine ⟨h.fresh, fun t' q c st => ?_, fun t' => ?_⟩
  · rw [← h.stage t' q c st]
    by_cases ht : t' = t
    · subst ht
      simp [hst q]
    · simp [ht]
  · by_cases ht : t' = t
    · subst ht
      simpa using hnd
    · simpa [ht] using h.nodup t'

/-- A statement of the call `t` moves the proxy `p` to the place `x`: the program
counter of `t` follows, and no other program counter has that proxy. -/
theorem Calls.move (h : Calls ops nextPxy place) {nextPxy' p : Nat} {x : Place τ}
    (hfresh : ∀ q, Function.update place p x q = .fresh ↔ nextPxy' ≤ q)
    (hp : (place p).near t) (hx : x.near t) (hother : ∀ q, q ≠ p → o.stage q = (ops t).stage q)
    (hself : ∀ c st, o.stage p = some (c, st) ↔ x = .call t c st) (hnd : o.pending.Nodup) :
    Calls (Function.update ops t o) nextPxy' (Function.update place p x) := by
  refine ⟨hfresh, fun t' q c st => ?_, fun t' => ?_⟩
  · by_cases hq : q = p
    · subst hq
      by_cases ht : t' = t
      · subst ht
        simpa using hself c st
      · have hn : (ops t').stage q ≠ some (c, st) := by
          intro hs
          rw [(h.stage t' q c st).mp hs] at hp
          exact ht hp
        have hn' : x ≠ .call t' c st := by
          rintro rfl
          exact ht hx
        simp [ht, hn, hn']
    · by_cases ht : t' = t
      · subst ht
        simpa [hq, hother q hq] using h.stage t' q c st
      · simpa [ht, hq] using h.stage t' q c st
  · by_cases ht : t' = t
    · subst ht
      simpa using hnd
    · simpa [ht] using h.nodup t'

end Calls

section Tables

variable {natHole natHole' : Controller} {pxyManager pxyManager' : Manager}
  {proxies proxies' : Nat → GoMap String Nat} {pxys : Nat → XTCPProxy} {place : Nat → Place τ}
  {p : Nat} {x : Place τ}

/-- A proxy that was not made yet is in no table. -/
theorem Tables.make (h : Tables natHole pxyManager proxies pxys place) (hp : place p = .fresh)
    (pxy : XTCPProxy) :
    Tables natHole pxyManager proxies (Function.update pxys p pxy) place := by
  have hkey : ∀ q, q ≠ p → Function.update pxys p pxy q = pxys q :=
    fun q hq => Function.update_of_ne hq _ _
  refine ⟨h.cfg.congr (fun _ => rfl) (fun _ => Iff.rfl) (fun q hq => ?_),
    h.mgr.congr (fun _ => rfl) (fun _ => Iff.rfl) (fun q hq => ?_),
    fun c' => (h.ctl c').congr (fun _ => rfl) (fun _ => Iff.rfl) (fun q hq => ?_),
    fun q hq => ?_, fun q c' hq => ?_⟩
  all_goals
    have hqp : q ≠ p := by
      rintro rfl
      simp [hp, Place.listening, Place.added, Place.alive, Place.ctl?] at hq
    simp only [hkey q hqp]
  · exact h.not_closed q hq
  · exact h.owner q c' hq

/-- A proxy moves to the place `x`; what its statement does to the tables is the
caller's part. -/
theorem Tables.move (h : Tables natHole pxyManager proxies pxys place)
    (hcfg : Indexes (cfgOwner natHole') (fun q => (pxys q).name)
      (fun q => (Function.update place p x q).listening))
    (hmgr : Indexes pxyManager'.get? (fun q => (pxys q).name)
      (fun q => (Function.update place p x q).added))
    (hmap : ∀ c, Indexes (proxies' c).get? (fun q => (pxys q).name)
      (fun q => Function.update place p x q = .ctl c))
    (hal : x.alive → (pxys p).closed = false) (ho : ∀ c, x.ctl? = some c → (pxys p).ctl = c) :
    Tables natHole' pxyManager' proxies' pxys (Function.update place p x) := by
  refine ⟨hcfg, hmgr, hmap, fun q hq => ?_, fun q c hq => ?_⟩
  · by_cases hqp : q = p
    · subst hqp
      exact hal (by simpa using hq)
    · exact h.not_closed q (by simpa [hqp] using hq)
  · by_cases hqp : q = p
    · subst hqp
      exact ho c (by simpa using hq)
    · exact h.owner q c (by simpa [hqp] using hq)

/-- The tables of the controls when no control had the proxy and none gets it. -/
theorem Tables.maps_keep (h : Tables natHole pxyManager proxies pxys place)
    (hp : ∀ c, place p ≠ .ctl c) (hx : ∀ c, x ≠ .ctl c) (c : Nat) :
    Indexes (proxies c).get? (fun q => (pxys q).name)
      (fun q => Function.update place p x q = .ctl c) :=
  (h.ctl c).keep_at (P := fun y => y = Place.ctl c) (by simp [hp c, hx c])

/-- Only the map of one control changes, and the proxy is in that of no other one. -/
theorem Tables.maps_update (h : Tables natHole pxyManager proxies pxys place) {c : Nat}
    {m : GoMap String Nat} (hp : ∀ c', c' ≠ c → place p ≠ .ctl c') (hx : ∀ c', c' ≠ c → x ≠ .ctl c')
    (hm : Indexes m.get? (fun q => (pxys q).name)
      (fun q => Function.update place p x q = .ctl c)) (c' : Nat) :
    Indexes (Function.update proxies c m c').get? (fun q => (pxys q).name)
      (fun q => Function.update place p x q = .ctl c') := by
  by_cases hc : c' = c
  · rw [hc, Function.update_self]
    exact hm
  · rw [Function.update_of_ne hc]
    exact (h.ctl c').keep_at (P := fun y => y = Place.ctl c') (by simp [hp c' hc, hx c' hc])

/-- `CloseClient` for a listening proxy. -/
theorem Tables.close (h : Tables natHole pxyManager proxies pxys place)
    (hp : (place p).listening) (hal : (place p).alive) (hx : ¬ x.listening) (hxa : ¬ x.alive)
    (ha : x.added ↔ (place p).added) (hc : ∀ c, place p ≠ .ctl c) (hxc : ∀ c, x ≠ .ctl c)
    (ho : ∀ c, x.ctl? = some c → (place p).ctl? = some c) :
    Tables ((pxys p).close natHole).2 pxyManager proxies
      (Function.update pxys p ((pxys p).close natHole).1) (Function.update place p x) := by
  have hclosed : (pxys p).close natHole =
      ({ pxys p with closed := true }, closeClient natHole (pxys p).name) := by
    simp [XTCPProxy.close, h.not_closed p hal]
  rw [hclosed]
  have hname : ∀ q,
      (Function.update pxys p { pxys p with closed := true } q).name = (pxys q).name := by
    intro q
    by_cases hq : q = p
    · subst hq
      simp [XTCPProxy.name]
    · simp [hq]
  have hctl : ∀ q,
      (Function.update pxys p { pxys p with closed := true } q).ctl = (pxys q).ctl := by
    intro q
    by_cases hq : q = p
    · subst hq
      simp
    · simp [hq]
  refine ⟨?_, ?_, fun c => ?_, fun q hq => ?_, fun q c hq => ?_⟩
  · simp only [hname]
    exact h.cfg.erase_at hp hx (cfgOwner_closeClient natHole (pxys p).name)
  · simp only [hname]
    exact h.mgr.keep_at ha
  · simp only [hname]
    exact h.maps_keep hc hxc c
  · by_cases hqp : q = p
    · subst hqp
      exact absurd (by simpa using hq) hxa
    · simpa [hqp] using h.not_closed q (by simpa [hqp] using hq)
  · rw [hctl]
    by_cases hqp : q = p
    · subst hqp
      exact h.owner q c (ho c (by simpa using hq))
    · exact h.owner q c (by simpa [hqp] using hq)

end Tables

section Steps

variable {s : State τ} {place : Nat → Place τ} {t : τ} {c p : Nat}

theorem Placed.place_eq (h : Placed s place) {st : Stage}
    (ho : (s.ops t).stage p = some (c, st)) : place p = .call t c st :=
  (h.calls.stage t p c st).mp ho

theorem mem_order_iff (h : Placed s place) {order : List Nat}
    (hperm : order.Perm ((s.proxies c).toList.map Prod.snd)) (q : Nat) :
    q ∈ order ↔ place q = .ctl c := by
  rw [hperm.mem_iff, List.mem_map]
  constructor
  · rintro ⟨⟨n, q'⟩, hm, rfl⟩
    rw [GoMap.mem_toList_iff] at hm
    exact ((h.tables.ctl c n q').mp hm).2
  · intro hq
    refine ⟨((s.pxys q).name, q), ?_, rfl⟩
    rw [GoMap.mem_toList_iff]
    exact (h.tables.ctl c).get hq

/-- Equal proxies have equal names, so a map holds a proxy only once. -/
theorem order_nodup (h : Placed s place) {order : List Nat}
    (hperm : order.Perm ((s.proxies c).toList.map Prod.snd)) : order.Nodup := by
  rw [hperm.nodup_iff]
  refine List.Nodup.map_on ?_ ((s.proxies c).nodup.of_map _)
  rintro ⟨n, q⟩ hx ⟨n', q'⟩ hy (rfl : q = q')
  rw [GoMap.mem_toList_iff] at hx hy
  have hn := ((h.tables.ctl c n q).mp hx).1
  have hn' := ((h.tables.ctl c n' q).mp hy).1
  rw [← hn, ← hn']

variable [DecidableEq τ]

/-- A statement that moves no proxy. -/
theorem Placed.advance (h : Placed s place) {o : Op} (hst : ∀ q, o.stage q = (s.ops t).stage q)
    (hnd : o.pending.Nodup) : Placed (setOp s t o) place :=
  ⟨h.calls.advance hst hnd, h.tables⟩

/-- `RegisterProxy` builds its proxy. -/
theorem Placed.create (h : Placed s place) (ho : (s.ops t).resting = true)
    (cfg : XTCPProxyConfig) (user : String) :
    Placed
      { s with
        pxys := Function.update s.pxys s.nextPxy ⟨cfg, user, c, false⟩
        nextPxy := s.nextPxy + 1
        ops := Function.update s.ops t (.exist c s.nextPxy) }
      (Function.update place s.nextPxy (.call t c .created)) := by
  have hfresh : place s.nextPxy = .fresh := (h.calls.fresh _).mpr (Nat.le_refl _)
  constructor
  · refine h.calls.move (fun q => ?_) (by simp [hfresh, Place.near]) rfl (fun q hq => ?_)
      (fun c' st => ?_) (by simp [Op.pending])
    · show _ ↔ s.nextPxy + 1 ≤ q
      by_cases hq : q = s.nextPxy
      · subst hq
        simp
      · rw [Function.update_of_ne hq, h.calls.fresh]
        omega
    · rw [Op.stage_of_resting ho]
      simp [Op.stage, hq]
    · simp [Op.stage, eq_comm]
  · have hm := h.tables.make hfresh ⟨cfg, user, c, false⟩
    exact hm.move (hm.cfg.keep_at (by simp [hfresh, Place.listening]))
      (hm.mgr.keep_at (by simp [hfresh, Place.added]))
      (hm.maps_keep (by simp [hfresh]) nofun) (by simp) (by simp [Place.ctl?])

/-- `RegisterProxy` gives up a proxy that is in no table. -/
theorem Placed.drop (h : Placed s place) (ho : s.ops t = .exist c p ∨ s.ops t = .run c p)
    (err : String) :
    Placed (setOp s t (.rejected c (some p) err)) (Function.update place p .gone) := by
  have hst : ∀ q, (s.ops t).stage q = if q = p then some (c, .created) else none := by
    rcases ho with ho | ho <;> rw [ho] <;> intro q <;> rfl
  have hp : place p = .call t c .created := h.place_eq (by simp [hst])
  constructor
  · refine h.calls.move (h.calls.fresh_move (by simp [hp]) nofun) (by simp [hp, Place.near])
      trivial (fun q hq => ?_) (fun c' st => ?_) (by simp [Op.pending])
    · rw [hst, if_neg hq]
      rfl
    · simp [Op.stage]
  · exact h.tables.move (h.tables.cfg.keep_at (by simp [hp, Place.listening]))
      (h.tables.mgr.keep_at (by simp [hp, Place.added]))
      (h.tables.maps_keep (by simp [hp]) nofun) nofun nofun

/-- `ListenClient` succeeds. -/
theorem Placed.listen (h : Placed s place) (ho : s.ops t = .run c p) {natHole : Controller}
    (hr : (s.pxys p).run s.natHole p = .ok natHole) :
    Placed { setOp s t (.add c p) with natHole := natHole }
      (Function.update place p (.call t c .listening)) := by
  have hp : place p = .call t c .created := h.place_eq (by simp [ho, Op.stage])
  obtain ⟨hfree, hset⟩ := listenClient_ok hr
  constructor
  · refine h.calls.move (h.calls.fresh_move (by simp [hp]) nofun) (by simp [hp, Place.near])
      rfl (fun q hq => ?_) (fun c' st => ?_) (by simp [Op.pending])
    · simp [Op.stage, ho, hq]
    · simp [Op.stage, eq_comm]
  · exact h.tables.move (h.tables.cfg.insert_at hfree trivial hset)
      (h.tables.mgr.keep_at (by simp [hp, Place.added]))
      (h.tables.maps_keep (by simp [hp]) nofun)
      (fun _ => h.tables.not_closed p (by simp [hp, Place.alive]))
      (fun c' hc => h.tables.owner p c' (by rw [hp]; exact hc))

/-- `PxyManager.Add` succeeds. -/
theorem Placed.add (h : Placed s place) (ho : s.ops t = .add c p) {pm : Manager}
    (hr : s.pxyManager.add (s.pxys p).name p = .ok pm) :
    Placed { setOp s t (.insert c p) with pxyManager := pm }
      (Function.update place p (.call t c .registered)) := by
  have hp : place p = .call t c .listening := h.place_eq (by simp [ho, Op.stage])
  obtain ⟨hfree, hset⟩ := Manager.add_ok hr
  constructor
  · refine h.calls.move (h.calls.fresh_move (by simp [hp]) nofun) (by simp [hp, Place.near])
      rfl (fun q hq => ?_) (fun c' st => ?_) (by simp [Op.pending])
    · simp [Op.stage, ho, hq]
    · simp [Op.stage, eq_comm]
  · exact h.tables.move (h.tables.cfg.keep_at (by simp [hp, Place.listening]))
      (h.tables.mgr.insert_at hfree trivial hset)
      (h.tables.maps_keep (by simp [hp]) nofun)
      (fun _ => h.tables.not_closed p (by simp [hp, Place.alive]))
      (fun c' hc => h.tables.owner p c' (by rw [hp]; exact hc))

/-- `ctl.proxies[name] = pxy`. No other proxy stands under that name there, for it
would also stand under it in the proxy manager. -/
theorem Placed.insert (h : Placed s place) (ho : s.ops t = .insert c p) :
    Placed
      { setOp s t (.registered c p) with
        proxies := Function.update s.proxies c ((s.proxies c).insert (s.pxys p).name p) }
      (Function.update place p (.ctl c)) := by
  have hp : place p = .call t c .registered := h.place_eq (by simp [ho, Op.stage])
  have hfree : (s.proxies c).get? (s.pxys p).name = none := by
    cases hg : (s.proxies c).get? (s.pxys p).name with
    | none => rfl
    | some q =>
      obtain ⟨hn, hq⟩ := ((h.tables.ctl c) _ q).mp hg
      have : q = p := h.tables.mgr.unique (by simp [hq, Place.added]) (by simp [hp, Place.added]) hn
      rw [this, hp] at hq
      cases hq
  constructor
  · refine h.calls.move (h.calls.fresh_move (by simp [hp]) nofun) (by simp [hp, Place.near])
      trivial (fun q hq => ?_) (fun c' st => ?_) (by simp [Op.pending])
    · simp [Op.stage, ho, hq]
    · simp [Op.stage]
  · refine h.tables.move (h.tables.cfg.keep_at (by simp [hp, Place.listening]))
      (h.tables.mgr.keep_at (by simp [hp, Place.added]))
      (h.tables.maps_update (by simp [hp]) (fun c' hc => by simp [Ne.symm hc]) ?_)
      (fun _ => h.tables.not_closed p (by simp [hp, Place.alive]))
      (fun c' hc => h.tables.owner p c' (by rw [hp]; exact hc))
    refine (h.tables.ctl c).insert_at (P := fun y => y = Place.ctl c) hfree rfl (fun k => ?_)
    simp

/-- `pxy.Close()` by a call that has the proxy registered, or listening only. -/
theorem Placed.close (h : Placed s place) {o : Op} {k : Stage} {x : Place τ}
    (ho : (s.ops t).stage p = some (c, k))
    (hx : (k = .listening ∧ x = .gone) ∨ (k = .registered ∧ x = .call t c .deleting))
    (hother : ∀ q, q ≠ p → o.stage q = (s.ops t).stage q)
    (hself : ∀ c' st', o.stage p = some (c', st') ↔ x = .call t c' st') (hnd : o.pending.Nodup) :
    Placed (closePxy s t p o) (Function.update place p x) := by
  have hp := h.place_eq ho
  constructor
  · refine h.calls.move (h.calls.fresh_move (by simp [hp]) ?_) (by simp [hp, Place.near]) ?_
      hother hself hnd
    · rcases hx with ⟨-, rfl⟩ | ⟨-, rfl⟩ <;> nofun
    · rcases hx with ⟨-, rfl⟩ | ⟨-, rfl⟩
      · trivial
      · rfl
  · rcases hx with ⟨rfl, rfl⟩ | ⟨rfl, rfl⟩
    · exact h.tables.close (by simp [hp, Place.listening]) (by simp [hp, Place.alive]) id id
        (by simp [hp, Place.added]) (by simp [hp]) nofun nofun
    · exact h.tables.close (by simp [hp, Place.listening]) (by simp [hp, Place.alive]) id id
        (by simp [hp, Place.added]) (by simp [hp]) nofun (fun c' hc => by rw [hp]; exact hc)

/-- `PxyManager.Del` -/
theorem Placed.del (h : Placed s place) {rest : List Nat} (ho : s.ops t = .deleting c p rest) :
    Placed
      { setOp s t (.closing c rest) with pxyManager := s.pxyManager.del (s.pxys p).name }
      (Function.update place p .gone) := by
  have hp : place p = .call t c .deleting := h.place_eq (by simp [ho, Op.stage])
  have hnd := h.calls.nodup t
  rw [ho, Op.pending, List.nodup_cons] at hnd
  constructor
  · refine h.calls.move (h.calls.fresh_move (by simp [hp]) nofun) (by simp [hp, Place.near])
      trivial (fun q hq => ?_) (fun c' st => ?_) hnd.2
    · simp [Op.stage, ho, hq]
    · simp [Op.stage, hnd.1]
  · exact h.tables.move (h.tables.cfg.keep_at (by simp [hp, Place.listening]))
      (h.tables.mgr.erase_at (by simp [hp, Place.added]) id (fun k => GoMap.get?_erase _ _ _))
      (h.tables.maps_keep (by simp [hp]) nofun) nofun nofun

/-- `CloseProxy` takes a proxy out of the control's map. -/
theorem Placed.take (h : Placed s place) (ho : (s.ops t).resting = true) {name : String}
    (hg : (s.proxies c).get? name = some p) :
    Placed
      { s with
        proxies := Function.update s.proxies c ((s.proxies c).erase name)
        ops := Function.update s.ops t (.closing c [p]) }
      (Function.update place p (.call t c .registered)) := by
  obtain ⟨rfl, hp⟩ := (h.tables.ctl c name p).mp hg
  constructor
  · refine h.calls.move (h.calls.fresh_move (by simp [hp]) nofun) (by simp [hp, Place.near])
      rfl (fun q hq => ?_) (fun c' st => ?_) (by simp [Op.pending])
    · rw [Op.stage_of_resting ho]
      simp [Op.stage, hq]
    · simp [Op.stage, eq_comm]
  · refine h.tables.move (h.tables.cfg.keep_at (by simp [hp, Place.listening]))
      (h.tables.mgr.keep_at (by simp [hp, Place.added]))
      (h.tables.maps_update (fun c' hc => by simp [hp, Ne.symm hc]) (by simp) ?_)
      (fun _ => h.tables.not_closed p (by simp [hp, Place.alive]))
      (fun c' hc => h.tables.owner p c' (by rw [hp]; exact hc))
    refine (h.tables.ctl c).erase_at (P := fun y => y = Place.ctl c) hp (by simp) (fun k => ?_)
    simp

/-- The worker takes all proxies out of its control's map. -/
theorem Placed.takeAll (h : Placed s place) (ho : (s.ops t).resting = true) {order : List Nat}
    (hperm : order.Perm ((s.proxies c).toList.map Prod.snd)) :
    Placed
      { setOp s t (.closing c order) with proxies := Function.update s.proxies c .empty }
      (fun q => (place q).takeAll t c) := by
  have hmem := mem_order_iff h hperm
  have hcall : ∀ q c' st, place q ≠ .call t c' st := by
    intro q c' st hq
    rw [← h.calls.stage, Op.stage_of_resting ho] at hq
    cases hq
  constructor
  · refine ⟨fun q => ?_, fun t' q c' st => ?_, fun t' => ?_⟩
    · show _ ↔ s.nextPxy ≤ q
      rw [← h.calls.fresh q]
      rcases (place q).takeAll_cases t c with ⟨hq, he⟩ | ⟨hq, he⟩ <;> rw [he]
      simp [hq]
    · have hold := h.calls.stage t' q c' st
      by_cases ht : t' = t
      · subst ht
        simp only [setOp, Function.update_self, Op.stage]
        rcases (place q).takeAll_cases t' c with ⟨hq, he⟩ | ⟨hq, he⟩ <;> rw [he]
        · simp [(hmem q).mpr hq]
        · have hn : q ∉ order := fun hm => hq ((hmem q).mp hm)
          simp [hn, hcall]
      · simp only [setOp, Function.update_of_ne ht, hold]
        rcases (place q).takeAll_cases t c with ⟨hq, he⟩ | ⟨hq, he⟩ <;> rw [he]
        simp [hq, Ne.symm ht]
    · by_cases ht : t' = t
      · subst ht
        simpa [setOp, Op.pending] using order_nodup h hperm
      · simpa [setOp, ht] using h.calls.nodup t'
  · refine ⟨h.tables.cfg.congr (fun _ => rfl) (fun q => ?_) (fun _ _ => rfl),
      h.tables.mgr.congr (fun _ => rfl) (fun q => ?_) (fun _ _ => rfl), fun c' => ?_,
      fun q hq => h.tables.not_closed q ?_, fun q c' hq => h.tables.owner q c' ?_⟩
    · rcases (place q).takeAll_cases t c with ⟨hq, he⟩ | ⟨hq, he⟩ <;> rw [he]
      simp [hq, Place.listening]
    · rcases (place q).takeAll_cases t c with ⟨hq, he⟩ | ⟨hq, he⟩ <;> rw [he]
      simp [hq, Place.added]
    · by_cases hc : c' = c
      · subst hc
        refine .empty (fun k => by simp) (fun q => ?_)
        rcases (place q).takeAll_cases t c' with ⟨hq, he⟩ | ⟨hq, he⟩ <;> rw [he]
        · simp
        · exact hq
      · simp only [Function.update_of_ne hc]
        refine (h.tables.ctl c').congr (fun _ => rfl) (fun q => ?_) (fun _ _ => rfl)
        rcases (place q).takeAll_cases t c with ⟨hq, he⟩ | ⟨hq, he⟩ <;> rw [he]
        simp [hq, Ne.symm hc]
    · rcases (place q).takeAll_cases t c with ⟨hp, he⟩ | ⟨hp, he⟩
      · simp [hp, Place.alive]
      · rwa [he] at hq
    · rcases (place q).takeAll_cases t c with ⟨hp, he⟩ | ⟨hp, he⟩
      · rw [he] at hq
        rw [hp]
        exact hq
      · rwa [he] at hq

/-- Every statement moves at most the proxy it is about, and a `RegisterProxy` that
fails leaves its proxy nowhere. -/
theorem placed_next {s' : State τ} (h : Placed s place) (hs : next s t = some s') :
    ∃ p x, (s.ops t).current? = some p ∧ Placed s' (Function.update place p x) ∧
      (∀ q, q ≠ p → s'.pxys q = s.pxys q) ∧ ((s'.ops t).failed = true → x = .gone) := by
  have hself : ∀ p, Function.update place p (place p) = place :=
    fun p => Function.update_eq_self p _
  cases ho : s.ops t with
  | idle => simp [next, ho] at hs
  | registered c p => simp [next, ho] at hs
  | rejected c p err => simp [next, ho] at hs
  | exist c p =>
    simp only [next, ho] at hs
    split at hs <;> cases hs
    · exact ⟨p, .gone, rfl, h.drop (Or.inl ho) _, fun _ _ => rfl, fun _ => rfl⟩
    · refine ⟨p, place p, rfl, ?_, fun _ _ => rfl, by simp [setOp, Op.failed]⟩
      rw [hself]
      exact h.advance (fun q => by rw [ho]; rfl) (by simp [Op.pending])
  | run c p =>
    simp only [next, ho] at hs
    split at hs <;> cases hs
    · exact ⟨p, .gone, rfl, h.drop (Or.inr ho) _, fun _ _ => rfl, fun _ => rfl⟩
    · exact ⟨p, _, rfl, h.listen ho ‹_›, fun _ _ => rfl, by simp [setOp, Op.failed]⟩
  | add c p =>
    simp only [next, ho] at hs
    split at hs <;> cases hs
    · refine ⟨p, place p, rfl, ?_, fun _ _ => rfl, by simp [setOp, Op.failed]⟩
      rw [hself]
      exact h.advance (fun q => by rw [ho]; rfl) (by simp [Op.pending])
    · exact ⟨p, _, rfl, h.add ho ‹_›, fun _ _ => rfl, by simp [setOp, Op.failed]⟩
  | insert c p =>
    simp only [next, ho, Option.some.injEq] at hs
    subst hs
    exact ⟨p, _, rfl, h.insert ho, fun _ _ => rfl, by simp [setOp, Op.failed]⟩
  | rollback c p err =>
    simp only [next, ho, Option.some.injEq] at hs
    subst hs
    refine ⟨p, .gone, rfl, h.close (c := c) (k := .listening) (by simp [ho, Op.stage])
      (Or.inl ⟨rfl, rfl⟩) (fun q hq => ?_) (fun c' st => ?_) (by simp [Op.pending]),
      fun q hq => Function.update_of_ne hq _ _, fun _ => rfl⟩
    · simp [ho, Op.stage, hq]
    · simp [Op.stage]
  | closing c rest =>
    cases rest with
    | nil => simp [next, ho] at hs
    | cons p rest =>
      simp only [next, ho, Option.some.injEq] at hs
      subst hs
      have hnd := h.calls.nodup t
      rw [ho] at hnd
      refine ⟨p, _, rfl, h.close (c := c) (k := .registered) (by simp [ho, Op.stage])
        (Or.inr ⟨rfl, rfl⟩) (fun q hq => ?_) (fun c' st => ?_) hnd,
        fun q hq => Function.update_of_ne hq _ _, by simp [closePxy, Op.failed]⟩
      · simp [ho, Op.stage, hq]
      · simp [Op.stage, eq_comm]
  | deleting c p rest =>
    simp only [next, ho, Option.some.injEq] at hs
    subst hs
    exact ⟨p, .gone, rfl, h.del ho, fun _ _ => rfl, fun _ => rfl⟩

theorem placed_step {check : AnnotationCheck} {s' : State τ} {a : Action τ}
    (h : Placed s place) (hs : step check s a = some s') : ∃ place', Placed s' place' := by
  cases a with
  | registerProxy t c user m =>
    simp only [step] at hs
    split at hs <;> cases hs
    rename_i ho
    unfold beginRegister
    split
    · exact ⟨_, h.advance (fun q => by rw [Op.stage_of_resting ho]; rfl) (by simp [Op.pending])⟩
    · exact ⟨_, h.create ho _ _⟩
  | closeProxy t c name =>
    simp only [step] at hs
    split at hs <;> cases hs
    rename_i ho
    unfold beginClose
    split
    · exact ⟨_, h.advance (fun q => by rw [Op.stage_of_resting ho]; rfl) (by simp [Op.pending])⟩
    · exact ⟨_, h.take ho ‹_›⟩
  | closeProxies t c order =>
    simp only [step] at hs
    split at hs <;> cases hs
    rename_i ho
    rw [Bool.and_eq_true, decide_eq_true_iff] at ho
    exact ⟨_, h.takeAll ho.1 ho.2⟩
  | next t =>
    obtain ⟨p, x, -, hp, -⟩ := placed_next h hs
    exact ⟨_, hp⟩

theorem reachable_placed {check : AnnotationCheck} (h : (system check).Reachable s) :
    ∃ place, Placed s place :=
  System.invariant (I := fun s => ∃ place, Placed s place) ⟨_, placed_init⟩
    (fun _ _ _ _ hi hs => hi.elim fun _ hp => placed_step hp hs) h

end Steps

end FrpXtcp.Server.Proxy

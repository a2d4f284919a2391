import FrpXtcp.Server.ProxyOwnership

/-!
# Agreement of the three proxy tables

What the places say about the tables themselves: a close removes the registration
of the proxy it closes and no other, a registration that fails leaves nothing
behind, and between calls the three tables hold the same names.
-/
namespace FrpXtcp.Server.Proxy

open FrpXtcp.Lib
open FrpXtcp.Nathole (Controller)

universe u

variable {τ : Type u}

/-- The proxy whose `Close`, and with it `CloseClient`, the call executes next. -/
def Op.closes? : Op → Option Nat
  | .rollback _ p _ | .closing _ (p :: _) => some p
  | _ => none

/-- The proxy for which the call executes `PxyManager.Del` next. -/
def Op.deletes? : Op → Option Nat
  | .deleting _ p _ => some p
  | _ => none

/-- The proxy of a `RegisterProxy` in progress. -/
def Op.registers? : Op → Option Nat
  | .exist _ p | .run _ p | .add _ p | .insert _ p | .rollback _ p _ => some p
  | _ => none

theorem Op.current_of_registers {o : Op} {p : Nat} (h : o.registers? = some p) :
    o.current? = some p := by
  cases o <;> simp_all [registers?, current?]

theorem Op.current_of_closes {o : Op} {p : Nat} (h : o.closes? = some p) : o.current? = some p := by
  cases o with
  | closing c rest => cases rest <;> simp_all [closes?, current?]
  | _ => simp_all [closes?, current?]

theorem Op.current_of_deletes {o : Op} {p : Nat} (h : o.deletes? = some p) :
    o.current? = some p := by
  cases o <;> simp_all [deletes?, current?]

/-- The registrations of all proxies but `p` are the same in both states. -/
structure SameElse (p : Nat) (s s' : State τ) : Prop where
  cfg : ∀ n q, q ≠ p → (cfgOwner s'.natHole n = some q ↔ cfgOwner s.natHole n = some q)
  mgr : ∀ n q, q ≠ p → (s'.pxyManager.get? n = some q ↔ s.pxyManager.get? n = some q)
  ctl : ∀ c n q, q ≠ p → ((s'.proxies c).get? n = some q ↔ (s.proxies c).get? n = some q)

/-- The proxy `p` is in none of the tables. -/
structure Absent (p : Nat) (s : State τ) : Prop where
  cfg : ∀ n, cfgOwner s.natHole n ≠ some p
  mgr : ∀ n, s.pxyManager.get? n ≠ some p
  ctl : ∀ c n, (s.proxies c).get? n ≠ some p

/-- All three tables have the same registrations in both states. -/
structure SameTables (s s' : State τ) : Prop where
  cfg : ∀ n, cfgOwner s'.natHole n = cfgOwner s.natHole n
  mgr : ∀ n, s'.pxyManager.get? n = s.pxyManager.get? n
  ctl : ∀ c n, (s'.proxies c).get? n = (s.proxies c).get? n

/-- No call is between its statements. -/
def Quiescent (s : State τ) : Prop := ∀ t, (s.ops t).resting = true

/-- The names in the proxy manager, the names in `clientCfgs` and the disjoint union
of the names in the controls' maps are the same. -/
structure Agree (s : State τ) : Prop where
  cfg : ∀ n, (s.natHole.clientCfgs.get? n).isSome = true ↔ (s.pxyManager.get? n).isSome = true
  ctl : ∀ n, (∃ c, ((s.proxies c).get? n).isSome = true) ↔ (s.pxyManager.get? n).isSome = true
  disjoint : ∀ n c c', ((s.proxies c).get? n).isSome = true →
    ((s.proxies c').get? n).isSome = true → c = c'

theorem SameElse.trans {p : Nat} {s s' s'' : State τ} (h : SameElse p s s')
    (h' : SameElse p s' s'') : SameElse p s s'' where
  cfg n q hq := (h'.cfg n q hq).trans (h.cfg n q hq)
  mgr n q hq := (h'.mgr n q hq).trans (h.mgr n q hq)
  ctl c n q hq := (h'.ctl c n q hq).trans (h.ctl c n q hq)

theorem SameTables.trans {s s' s'' : State τ} (h : SameTables s s') (h' : SameTables s' s'') :
    SameTables s s'' where
  cfg n := (h'.cfg n).trans (h.cfg n)
  mgr n := (h'.mgr n).trans (h.mgr n)
  ctl c n := (h'.ctl c n).trans (h.ctl c n)

theorem eq_of_sameElse {p : Nat} {x y : Option Nat}
    (h : ∀ q, q ≠ p → (x = some q ↔ y = some q)) (hx : x ≠ some p) (hy : y ≠ some p) : x = y := by
  cases x with
  | none =>
    cases y with
    | none => rfl
    | some q =>
      have hq : q ≠ p := fun he => hy (he ▸ rfl)
      exact absurd ((h q hq).mpr rfl) nofun
  | some q =>
    have hq : q ≠ p := fun he => hx (he ▸ rfl)
    exact ((h q hq).mp rfl).symm

theorem SameElse.sameTables {p : Nat} {s s' : State τ} (h : SameElse p s s') (ha : Absent p s)
    (ha' : Absent p s') : SameTables s s' where
  cfg n := eq_of_sameElse (h.cfg n) (ha'.cfg n) (ha.cfg n)
  mgr n := eq_of_sameElse (h.mgr n) (ha'.mgr n) (ha.mgr n)
  ctl c n := eq_of_sameElse (h.ctl c n) (ha'.ctl c n) (ha.ctl c n)

variable {s : State τ} {place : Nat → Place τ}

theorem Placed.quiescent_agree (h : Placed s place) (hq : Quiescent s) : Agree s := by
  have hcall : ∀ p t c st, place p ≠ .call t c st := by
    intro p t c st hp
    rw [← h.calls.stage, Op.stage_of_resting (hq t)] at hp
    cases hp
  have hl : ∀ p, (place p).listening ↔ ∃ c, place p = .ctl c := by
    intro p
    cases hp : place p with
    | call t c st => exact absurd hp (hcall p t c st)
    | _ => simp [Place.listening]
  have ha : ∀ p, (place p).added ↔ ∃ c, place p = .ctl c := by
    intro p
    cases hp : place p with
    | call t c st => exact absurd hp (hcall p t c st)
    | _ => simp [Place.added]
  have hcfg : ∀ n, (s.natHole.clientCfgs.get? n).isSome = (cfgOwner s.natHole n).isSome := by
    intro n
    simp [cfgOwner]
  refine ⟨fun n => ?_, fun n => ?_, fun n c c' hc hc' => ?_⟩
  · rw [hcfg, h.tables.cfg.isSome_iff, h.tables.mgr.isSome_iff]
    simp only [hl, ha]
  · rw [h.tables.mgr.isSome_iff]
    simp only [(h.tables.ctl _).isSome_iff, ha]
    constructor
    · rintro ⟨c, p, hn, hp⟩
      exact ⟨p, hn, c, hp⟩
    · rintro ⟨p, hn, c, hp⟩
      exact ⟨c, p, hn, hp⟩
  · rw [(h.tables.ctl _).isSome_iff] at hc hc'
    obtain ⟨p, hn, hp⟩ := hc
    obtain ⟨p', hn', hp'⟩ := hc'
    have : p = p' :=
      h.tables.mgr.unique ((ha p).mpr ⟨c, hp⟩) ((ha p').mpr ⟨c', hp'⟩) (hn.trans hn'.symm)
    subst this
    rw [hp] at hp'
    cases hp'
    rfl

theorem Placed.absent (h : Placed s place) {p : Nat} (hl : ¬ (place p).listening)
    (ha : ¬ (place p).added) (hc : ∀ c, place p ≠ .ctl c) : Absent p s where
  cfg n hn := hl ((h.tables.cfg n p).mp hn).2
  mgr n hn := ha ((h.tables.mgr n p).mp hn).2
  ctl c n hn := hc c ((h.tables.ctl c n p).mp hn).2

/-- The tables are functions of the places and the names. -/
theorem Placed.sameElse {s' : State τ} {place' : Nat → Place τ} {p : Nat} (h : Placed s place)
    (h' : Placed s' place') (hplace : ∀ q, q ≠ p → place' q = place q)
    (hpxys : ∀ q, q ≠ p → s'.pxys q = s.pxys q) : SameElse p s s' := by
  refine ⟨fun n q hq => ?_, fun n q hq => ?_, fun c n q hq => ?_⟩
  · simp only [h.tables.cfg n q, h'.tables.cfg n q, hplace q hq, hpxys q hq]
  · simp only [h.tables.mgr n q, h'.tables.mgr n q, hplace q hq, hpxys q hq]
  · simp only [h.tables.ctl c n q, h'.tables.ctl c n q, hplace q hq, hpxys q hq]

theorem Placed.closes_own {t : τ} {p : Nat} (h : Placed s place)
    (hp : (s.ops t).closes? = some p) :
    cfgOwner s.natHole (s.pxys p).name = some p := by
  have hst : ∃ c st, place p = .call t c st ∧ (st = .listening ∨ st = .registered) := by
    cases ho : s.ops t with
    | rollback c q err =>
      simp only [ho, Op.closes?, Option.some.injEq] at hp
      subst hp
      exact ⟨c, _, h.place_eq (by simp [ho, Op.stage]), Or.inl rfl⟩
    | closing c rest =>
      cases rest with
      | nil => simp [ho, Op.closes?] at hp
      | cons q rest =>
        simp only [ho, Op.closes?, Option.some.injEq] at hp
        subst hp
        exact ⟨c, _, h.place_eq (by simp [ho, Op.stage]), Or.inr rfl⟩
    | _ => simp [ho, Op.closes?] at hp
  obtain ⟨c, st, hplace, hst⟩ := hst
  refine h.tables.cfg.get (v := p) ?_
  rcases hst with rfl | rfl <;> simp [hplace, Place.listening]

theorem Placed.deletes_own {t : τ} {p : Nat} (h : Placed s place)
    (hp : (s.ops t).deletes? = some p) :
    s.pxyManager.get? (s.pxys p).name = some p := by
  cases ho : s.ops t <;> simp only [ho, Op.deletes?, Option.some.injEq, reduceCtorEq] at hp
  rename_i c q rest
  subst hp
  have hplace : place q = .call t c .deleting := h.place_eq (by simp [ho, Op.stage])
  exact h.tables.mgr.get (by simp [hplace, Place.added])

/-- The proxy of control `c` has listened; if it does no more, it was closed. -/
structure Opened (c p : Nat) (s : State τ) : Prop where
  made : p < s.nextPxy
  owner : (s.pxys p).ctl = c
  open_or_closed : (∃ n, cfgOwner s.natHole n = some p) ∨ (s.pxys p).closed = true

/-- A proxy in the map of a control listens. -/
theorem Placed.opened (h : Placed s place) {c p : Nat} {n : String}
    (hp : (s.proxies c).get? n = some p) : Opened c p s := by
  have hplace := ((h.tables.ctl c n p).mp hp).2
  refine ⟨Nat.lt_of_not_le fun hle => ?_, h.tables.owner p c (by rw [hplace]; rfl),
    Or.inl ⟨(s.pxys p).name, ?_⟩⟩
  · rw [← h.calls.fresh, hplace] at hle
    cases hle
  · exact h.tables.cfg.get (v := p) (by simp [hplace, Place.listening])

theorem Opened.closed {c p : Nat} (h : Opened c p s) (ha : Absent p s) :
    (s.pxys p).closed = true := by
  rcases h.open_or_closed with ⟨n, hn⟩ | hc
  · exact absurd hn (ha.cfg n)
  · exact hc

variable [DecidableEq τ] {t : τ} {p : Nat}

/-- One statement of a call: other proxies keep their registrations, and a failing
`RegisterProxy` ends with its own proxy unregistered. -/
theorem Placed.next_sameElse {s' : State τ} (h : Placed s place) (hs : next s t = some s')
    (hp : (s.ops t).current? = some p) :
    SameElse p s s' ∧ ((s'.ops t).failed = true → Absent p s') := by
  obtain ⟨p', x, hcur, h', hpxys, hgone⟩ := placed_next h hs
  obtain rfl : p = p' := Option.some.inj (hp.symm.trans hcur)
  refine ⟨h.sameElse h' (fun q hq => Function.update_of_ne hq _ _) hpxys, fun hf => ?_⟩
  obtain rfl := hgone hf
  exact h'.absent (by simp [Place.listening]) (by simp [Place.added]) (by simp)

theorem next_of_resting (h : (s.ops t).resting = true) : next s t = none := by
  unfold next
  split <;> simp_all [Op.resting]

/-- A `RegisterProxy` in progress stays with its proxy until it returns. -/
theorem next_registers {s' : State τ} (hp : (s.ops t).registers? = some p)
    (hs : next s t = some s') : (s'.ops t).registers? = some p ∨ (s'.ops t).resting = true := by
  cases ho : s.ops t <;> simp only [ho, Op.registers?, Option.some.injEq, reduceCtorEq] at hp
  all_goals
    subst hp
    simp only [next, ho] at hs
  · split at hs <;> cases hs <;> simp [setOp, Op.registers?, Op.resting]
  · split at hs <;> cases hs <;> simp [setOp, Op.registers?, Op.resting]
  · split at hs <;> cases hs <;> simp [setOp, Op.registers?, Op.resting]
  · cases hs
    simp [setOp, Op.resting]
  · cases hs
    simp [closePxy, Op.resting]

/-- `RegisterProxy` from its first table access on, without interference. -/
theorem register_alone {check : AnnotationCheck} {s' : State τ} {as : List (Action τ)}
    (has : ∀ a ∈ as, a = .next t) (h : Placed s place) (hp : (s.ops t).registers? = some p)
    (hr : (system check).run s as = some s') (hf : (s'.ops t).failed = true) :
    SameElse p s s' ∧ Absent p s' := by
  induction as generalizing s place with
  | nil =>
    obtain rfl := Option.some.inj hr
    cases ho : s.ops t <;> simp_all [Op.registers?, Op.failed]
  | cons a as ih =>
    obtain rfl := has a (List.mem_cons_self ..)
    simp only [System.run] at hr
    cases hs : (system check).step s (.next t) with
    | none => simp [hs] at hr
    | some s₁ =>
      rw [hs] at hr
      obtain ⟨hsame, habs⟩ := h.next_sameElse hs (Op.current_of_registers hp)
      obtain ⟨place₁, h₁⟩ := placed_step h (show step check s (.next t) = some s₁ from hs)
      rcases next_registers hp hs with hp₁ | hrest
      · obtain ⟨hsame', habs'⟩ := ih (fun a ha => has a (List.mem_cons_of_mem _ ha)) h₁ hp₁ hr
        exact ⟨hsame.trans hsame', habs'⟩
      · cases as with
        | nil =>
          obtain rfl := Option.some.inj hr
          exact ⟨hsame, habs hf⟩
        | cons b bs =>
          obtain rfl := has b (by simp)
          have hn : (system check).step s₁ (.next t) = none := next_of_resting hrest
          simp [System.run, hn] at hr


/-- The statement that builds the proxy touches no table. -/
theorem beginRegister_tables (check : AnnotationCheck) (c : Nat) (user : String) (m : NewProxy) :
    SameTables s (beginRegister check s t c user m) ∧
      ((beginRegister check s t c user m).ops t = .exist c s.nextPxy ∨
        ((beginRegister check s t c user m).ops t).resting = true) := by
  unfold beginRegister
  split
  · exact ⟨⟨fun _ => rfl, fun _ => rfl, fun _ _ => rfl⟩, Or.inr (by simp [setOp, Op.resting])⟩
  · exact ⟨⟨fun _ => rfl, fun _ => rfl, fun _ _ => rfl⟩, Or.inl (by simp)⟩

theorem registerProxy_alone {check : AnnotationCheck} {s' : State τ} {c : Nat} {user : String}
    {m : NewProxy} {as : List (Action τ)} (h : Placed s place) (has : ∀ a ∈ as, a = .next t)
    (hr : (system check).run s (.registerProxy t c user m :: as) = some s')
    (hf : (s'.ops t).failed = true) : SameTables s s' := by
  simp only [System.run] at hr
  cases hs : (system check).step s (.registerProxy t c user m) with
  | none => simp [hs] at hr
  | some s₁ =>
    rw [hs] at hr
    obtain ⟨place₁, h₁⟩ := placed_step h
      (show step check s (.registerProxy t c user m) = some s₁ from hs)
    have hs₁ : beginRegister check s t c user m = s₁ := by
      simp only [system, step] at hs
      split at hs
      · exact Option.some.inj hs
      · cases hs
    obtain ⟨hsame, ho⟩ := beginRegister_tables (s := s) (t := t) check c user m
    rw [hs₁] at hsame ho
    refine hsame.trans ?_
    rcases ho with ho | hrest
    · obtain ⟨helse, habs⟩ := register_alone has h₁ (p := s.nextPxy) (by simp [ho, Op.registers?])
        hr hf
      have hp : place₁ s.nextPxy = .call t c .created := h₁.place_eq (by simp [ho, Op.stage])
      exact helse.sameTables (h₁.absent (by simp [hp, Place.listening]) (by simp [hp, Place.added])
        (by simp [hp])) habs
    · cases as with
      | nil =>
        obtain rfl := Option.some.inj hr
        exact ⟨fun _ => rfl, fun _ => rfl, fun _ _ => rfl⟩
      | cons b bs =>
        obtain rfl := has b (by simp)
        have hn : (system check).step s₁ (.next t) = none := next_of_resting hrest
        simp [System.run, hn] at hr

/-- `Close` of a proxy takes the configuration of that proxy alone. -/
theorem Opened.closePxy {c : Nat} (h : Opened c p s) (hp : Placed s place) {q : Nat} {o : Op}
    (hq : (s.ops t).closes? = some q) : Opened c p (closePxy s t q o) := by
  have howner : ((Proxy.closePxy s t q o).pxys p).ctl = c := by
    by_cases hpq : p = q
    · subst hpq
      by_cases hc : (s.pxys p).closed = true <;>
        simpa [Proxy.closePxy, XTCPProxy.close, hc] using h.owner
    · simpa [Proxy.closePxy, hpq] using h.owner
  refine ⟨h.made, howner, ?_⟩
  have hown := hp.closes_own hq
  by_cases hpq : p = q
  · subst hpq
    refine Or.inr ?_
    by_cases hc : (s.pxys p).closed = true <;> simp [Proxy.closePxy, XTCPProxy.close, hc]
  · rcases h.open_or_closed with ⟨n, hn⟩ | hc
    · refine Or.inl ⟨n, ?_⟩
      have hne : n ≠ (s.pxys q).name := by
        rintro rfl
        exact hpq (Option.some.inj (hn.symm.trans hown))
      by_cases hc : (s.pxys q).closed = true
      · simpa [Proxy.closePxy, XTCPProxy.close, hc] using hn
      · simpa [Proxy.closePxy, XTCPProxy.close, hc, cfgOwner_closeClient, hne] using hn
    · refine Or.inr ?_
      simpa [Proxy.closePxy, hpq] using hc

/-- A proxy that has listened ends closed. -/
theorem Opened.step {check : AnnotationCheck} {s' : State τ} {a : Action τ} {d : Nat}
    (h : Opened d p s) (hp : Placed s place) (hs : step check s a = some s') : Opened d p s' := by
  have hsame : ∀ s₁ : State τ, s₁.nextPxy = s.nextPxy → s₁.natHole = s.natHole →
      s₁.pxys = s.pxys → Opened d p s₁ := by
    intro s₁ h1 h2 h3
    exact ⟨by rw [h1]; exact h.made, by rw [h3]; exact h.owner,
      by rw [h2, h3]; exact h.open_or_closed⟩
  cases a with
  | registerProxy t c user m =>
    simp only [Proxy.step] at hs
    split at hs <;> cases hs
    unfold beginRegister
    split
    · exact hsame _ rfl rfl rfl
    · refine ⟨Nat.lt_succ_of_lt h.made, ?_, ?_⟩
      · simpa [Nat.ne_of_lt h.made] using h.owner
      · simpa [Nat.ne_of_lt h.made] using h.open_or_closed
  | closeProxy t c name =>
    simp only [Proxy.step] at hs
    split at hs <;> cases hs
    unfold beginClose
    split <;> exact hsame _ rfl rfl rfl
  | closeProxies t c order =>
    simp only [Proxy.step] at hs
    split at hs <;> cases hs
    exact hsame _ rfl rfl rfl
  | next t =>
    simp only [Proxy.step] at hs
    cases ho : s.ops t with
    | run c q =>
      simp only [next, ho] at hs
      split at hs <;> cases hs
      · exact hsame _ rfl rfl rfl
      · rename_i natHole hr
        obtain ⟨hfree, hset⟩ := listenClient_ok hr
        refine ⟨h.made, h.owner, h.open_or_closed.imp ?_ id⟩
        rintro ⟨n, hn⟩
        refine ⟨n, ?_⟩
        have hne : n ≠ (s.pxys q).name := by
          rintro rfl
          rw [hfree] at hn
          cases hn
        rw [hset, if_neg hne]
        exact hn
    | rollback c q err =>
      simp only [next, ho, Option.some.injEq] at hs
      subst hs
      exact h.closePxy hp (by simp [ho, Op.closes?])
    | closing c rest =>
      cases rest with
      | nil => simp [next, ho] at hs
      | cons q rest =>
        simp only [next, ho, Option.some.injEq] at hs
        subst hs
        exact h.closePxy hp (by simp [ho, Op.closes?])
    | exist c q =>
      simp only [next, ho] at hs
      split at hs <;> cases hs <;> exact hsame _ rfl rfl rfl
    | add c q =>
      simp only [next, ho] at hs
      split at hs <;> cases hs <;> exact hsame _ rfl rfl rfl
    | insert c q =>
      simp only [next, ho, Option.some.injEq] at hs
      subst hs
      exact hsame _ rfl rfl rfl
    | deleting c q rest =>
      simp only [next, ho, Option.some.injEq] at hs
      subst hs
      exact hsame _ rfl rfl rfl
    | _ => simp [next, ho] at hs

/-- In every state that any number of calls on any controls reach: a `CloseClient` or
`Del` about to run for a proxy removes that proxy's own registration and keeps every
other; if no call is between its statements, the three tables hold the same names, and
no name is in two controls' maps; no statement of `RegisterProxy` touches another
proxy's registration, a `RegisterProxy` that fails leaves its own proxy in no table,
and one that fails without interference leaves all tables as it found them. -/
theorem proxy_name_ownership {check : AnnotationCheck} {s : State τ}
    (h : (system check).Reachable s) :
    (∀ t p s', (s.ops t).closes? = some p → step check s (.next t) = some s' →
      cfgOwner s.natHole (s.pxys p).name = some p ∧ SameElse p s s') ∧
    (∀ t p s', (s.ops t).deletes? = some p → step check s (.next t) = some s' →
      s.pxyManager.get? (s.pxys p).name = some p ∧ SameElse p s s') ∧
    (Quiescent s → Agree s) ∧
    (∀ t p s', (s.ops t).registers? = some p → step check s (.next t) = some s' →
      SameElse p s s' ∧ ((s'.ops t).failed = true → Absent p s')) ∧
    (∀ t c user m as s', (∀ a ∈ as, a = .next t) →
      (system check).run s (.registerProxy t c user m :: as) = some s' →
      (s'.ops t).failed = true → SameTables s s') := by
  obtain ⟨place, hp⟩ := reachable_placed h
  refine ⟨fun t p s' hc hs => ?_, fun t p s' hd hs => ?_, hp.quiescent_agree,
    fun t p s' hr hs => ?_, fun t c user m as s' has hr hf => ?_⟩
  · exact ⟨hp.closes_own hc, (hp.next_sameElse hs (Op.current_of_closes hc)).1⟩
  · exact ⟨hp.deletes_own hd, (hp.next_sameElse hs (Op.current_of_deletes hd)).1⟩
  · exact hp.next_sameElse hs (Op.current_of_registers hr)
  · exact registerProxy_alone hp has hr hf

/-- Controls 0 and 1 compete for one name: control 1 has passed its `Exist` test when
control 0 registers the name and begins to close it again, so that control 1 can listen
but not be added. -/
def competingSchedule : List (Action Nat) :=
  let m : NewProxy := ⟨"ssh", "xtcp", false, false, [], [], "sk", []⟩
  [.registerProxy 1 1 "bob" m, .next 1, .registerProxy 0 0 "alice" m, .next 0, .next 0, .next 0,
    .next 0, .closeProxy 0 0 "ssh", .next 0, .next 1, .next 1]

/-- The rollback of control 1 removes its own configuration while the proxy manager
still has the proxy of control 0. -/
theorem proxy_name_ownership_rollback :
    ∃ s : State Nat, (system fun _ => none).Reachable s ∧ (s.ops 1).closes? = some 0 ∧
      s.pxyManager.get? "ssh" = some 1 ∧
      ∀ s', step (fun _ => none) s (.next 1) = some s' →
        cfgOwner s.natHole (s.pxys 0).name = some 0 ∧ SameElse 0 s s' := by
  obtain ⟨s, hr, ht⟩ := System.reachable_of_run (S := system fun _ => none)
    (l := competingSchedule)
    (p := fun s => decide ((s.ops 1).closes? = some 0 ∧ s.pxyManager.get? "ssh" = some 1))
    (by decide +kernel)
  obtain ⟨hc, hm⟩ := of_decide_eq_true ht
  exact ⟨s, hr, hc, hm, fun s' hs => (proxy_name_ownership hr).1 1 0 s' hc hs⟩

end FrpXtcp.Server.Proxy

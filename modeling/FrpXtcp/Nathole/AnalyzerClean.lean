import Mathlib.Logic.Function.Basic
import FrpXtcp.Nathole.AnalyzerRuns

/-!
# The analyzer's sections under concurrent cleaning

`GetRecommandBehaviors` and `ReportSuccess` look a record up under `Analyzer.mu` and
update it under the record's own mutex; `Clean` reads the clock, takes `Analyzer.mu` and
visits the records one by one. Each section is a step here, records are pointers, and
the clock moves between the steps. A recommendation survives unless `Clean` deletes its
record in the window between the two sections.
-/
namespace FrpXtcp.Nathole.AnalyzerClean

open FrpXtcp.Lib
open FrpXtcp.Nathole.AnalyzerRuns (WellFormed easy)

/-- Where a goroutine is: between the two sections of its call, before `a.mu.Lock()` of
`Clean` with the time it has read, or in the loop of `Clean`, which holds `a.mu`; a record
that its test has found stale is deleted by the next statement. -/
inductive Pc where
  | idle
  | recommanding (key : String) (ptr : Nat) (c : NatFeature)
  | reporting (ptr : Nat) (mode index : Int)
  | cleaning (now : Int)
  | ranging (now : Int) (todo : List String)
  | deleting (now : Int) (key : String) (todo : List String)

/-- A call of `GetRecommandBehaviors` that has returned: the record it decremented and
the time at which it did. -/
structure Returned where
  key : String
  ptr : Nat
  mode : Int
  index : Int
  row : Option Row
  time : Int

structure State where
  records : GoMap String Nat
  heap : Nat → MakeHoleRecords
  nextPtr : Nat
  clock : Int
  mu : Option Nat
  pc : Nat → Pc
  returned : List Returned

inductive Action where
  | tick (now : Int)
  | lookup (t : Nat) (key : String) (c v : NatFeature)
  | recommand (t : Nat)
  | lookupReport (t : Nat) (key : String) (mode index : Int)
  | reportSuccess (t : Nat)
  | readClock (t : Nat)
  | lockForClean (t : Nat) (order : List String)
  | visit (t : Nat)
  | delete (t : Nat)

def init : State := ⟨.empty, fun _ => ⟨[], 0⟩, 0, 0, none, fun _ => .idle, []⟩

def State.goto (s : State) (t : Nat) (pc : Pc) : State := { s with pc := Function.update s.pc t pc }

/-- The first section of `GetRecommandBehaviors`. -/
def lookupOrCreate (s : State) (t : Nat) (key : String) (c v : NatFeature) : State :=
  match s.records.get? key with
  | some p => s.goto t (.recommanding key p c)
  | none =>
    { s.goto t (.recommanding key s.nextPtr c) with
      records := s.records.insert key s.nextPtr
      heap := Function.update s.heap s.nextPtr (newMakeHoleRecordsWithClock c v s.clock)
      nextPtr := s.nextPtr + 1 }

/-- Its second section and the return. -/
def recommand (s : State) (t : Nat) (key : String) (p : Nat) (c : NatFeature) : State :=
  let (r, mode, index) := (s.heap p).recommand s.clock
  { s.goto t .idle with
    heap := Function.update s.heap p r
    returned := ⟨key, p, mode, index, assignBehaviors mode index c, s.clock⟩ :: s.returned }

/-- The test of one turn of the loop of `Clean`. -/
def visit (D : Int) (s : State) (t : Nat) (now : Int) (key : String) (rest : List String) : State :=
  match s.records.get? key with
  | none => s.goto t (.ranging now rest)
  | some p =>
    if Analyzer.stale D now (s.heap p) then s.goto t (.deleting now key rest)
    else s.goto t (.ranging now rest)

def step (D : Int) (s : State) : Action → Option State
  | .tick now => if s.clock ≤ now then some { s with clock := now } else none
  | .lookup t key c v =>
    match s.pc t, s.mu with
    | .idle, none => some (lookupOrCreate s t key c v)
    | _, _ => none
  | .recommand t =>
    match s.pc t with
    | .recommanding key p c => some (recommand s t key p c)
    | _ => none
  | .lookupReport t key mode index =>
    match s.pc t, s.mu with
    | .idle, none =>
      match s.records.get? key with
      | some p => some (s.goto t (.reporting p mode index))
      | none => some s
    | _, _ => none
  | .reportSuccess t =>
    match s.pc t with
    | .reporting p mode index =>
      some { s.goto t .idle with
        heap := Function.update s.heap p ((s.heap p).reportSuccess mode index s.clock) }
    | _ => none
  | .readClock t =>
    match s.pc t with
    | .idle => some (s.goto t (.cleaning s.clock))
    | _ => none
  | .lockForClean t order =>
    match s.pc t, s.mu with
    | .cleaning now, none =>
      if order.Perm (s.records.toList.map Prod.fst) then
        some { s.goto t (.ranging now order) with mu := some t }
      else none
    | _, _ => none
  | .visit t =>
    match s.pc t with
    | .ranging now (key :: rest) => some (visit D s t now key rest)
    | .ranging _ [] => some { s.goto t .idle with mu := none }
    | _ => none
  | .delete t =>
    match s.pc t with
    | .deleting now key rest =>
      some { s.goto t (.ranging now rest) with records := s.records.erase key }
    | _ => none

def system (D : Int) : System State Action := ⟨init, step D⟩

/-- The call's record is the one the map holds for its key. -/
def Kept (s : State) (r : Returned) : Prop := s.records.get? r.key = some r.ptr

/-- `Clean` finds no record stale that a call of `GetRecommandBehaviors` has looked up and
not yet decremented. -/
def NotInFlight (D : Int) (s : State) : Action → Prop
  | .visit t => ∀ now key rest p, s.pc t = .ranging now (key :: rest) →
      s.records.get? key = some p → Analyzer.stale D now (s.heap p) = true →
      ∀ t' c, s.pc t' ≠ .recommanding key p c
  | _ => True

/-- What goroutine `t` relies on at `pc`. While it deletes a record, the calls for the key
are past their time and none is in flight. -/
def Relies (D : Int) (s : State) (t : Nat) : Pc → Prop
  | .idle => True
  | .recommanding key p _ => s.records.get? key = some p
  | .reporting p _ _ => p < s.nextPtr
  | .cleaning now => now ≤ s.clock
  | .ranging now _ => now ≤ s.clock ∧ s.mu = some t
  | .deleting now key _ => now ≤ s.clock ∧ s.mu = some t ∧
      (∀ r ∈ s.returned, r.key = key → D ≤ s.clock - r.time) ∧
      ∀ t' p c, s.pc t' ≠ .recommanding key p c

/-- A returned call: its record has an entry for what it returned and was updated since,
and it is in the map as long as `D` has not passed. -/
structure CallOk (D : Int) (s : State) (r : Returned) : Prop where
  time_le : r.time ≤ s.clock
  ptr_lt : r.ptr < s.nextPtr
  updated : r.time ≤ (s.heap r.ptr).lastUpdateTime
  entry : (r.mode, r.index) ∈ (s.heap r.ptr).scores.map BehaviorScore.row
  kept : s.clock - r.time < D → Kept s r

structure Inv (D : Int) (s : State) : Prop where
  ptr_lt : ∀ key p, s.records.get? key = some p → p < s.nextPtr
  wellFormed : ∀ p, p < s.nextPtr → WellFormed (s.heap p)
  relies : ∀ t, Relies D s t (s.pc t)
  calls : ∀ r ∈ s.returned, CallOk D s r

variable {D : Int} {s : State}

theorem inv_init : Inv D init := by
  refine ⟨?_, ?_, fun _ => trivial, ?_⟩
  · intro key p h
    cases h
  · intro p h
    cases h
  · intro r h
    cases h

/-- A goroutine moves on. It may look a record up only while no `Clean` is in its loop. -/
theorem Inv.goto (h : Inv D s) {t : Nat} {pc : Pc} (hpc : Relies D s t pc)
    (hfree : ∀ key p c, pc = .recommanding key p c → s.mu = none) : Inv D (s.goto t pc) := by
  -- a pc that relies on nobody being in flight keeps doing so
  have hmove : ∀ t' pc', Relies D s t' pc' → Relies D (s.goto t pc) t' pc' := by
    intro t' pc' hr
    cases pc' with
    | deleting now key rest =>
      obtain ⟨hnow, hmu, hold, hnone⟩ := hr
      refine ⟨hnow, hmu, hold, fun t₂ p c he => ?_⟩
      by_cases ht : t₂ = t
      · subst ht
        simp only [State.goto, Function.update_self] at he
        rw [hfree key p c he] at hmu
        cases hmu
      · simp only [State.goto, Function.update_of_ne ht] at he
        exact hnone t₂ p c he
    | _ => exact hr
  refine ⟨h.ptr_lt, h.wellFormed, fun t' => ?_, fun r hr => ?_⟩
  · by_cases ht : t' = t
    · subst ht
      simp only [State.goto, Function.update_self]
      exact hmove t' pc hpc
    · simp only [State.goto, Function.update_of_ne ht]
      exact hmove t' _ (h.relies t')
  · exact ⟨(h.calls r hr).time_le, (h.calls r hr).ptr_lt, (h.calls r hr).updated,
      (h.calls r hr).entry, (h.calls r hr).kept⟩

theorem Inv.tick (h : Inv D s) {now : Int} (hnow : s.clock ≤ now) :
    Inv D { s with clock := now } := by
  refine ⟨h.ptr_lt, h.wellFormed, fun t => ?_, fun r hr => ?_⟩
  · have hr := h.relies t
    cases hpc : s.pc t with
    | idle => trivial
    | recommanding key p c => simpa only [hpc, Relies] using hr
    | reporting p mode index => simpa only [hpc, Relies] using hr
    | cleaning n =>
      simp only [hpc, Relies] at hr ⊢
      omega
    | ranging n todo =>
      simp only [hpc, Relies] at hr ⊢
      exact ⟨by omega, hr.2⟩
    | deleting n key todo =>
      simp only [hpc, Relies] at hr ⊢
      refine ⟨by omega, hr.2.1, fun r hm hk => ?_, hr.2.2.2⟩
      have hold := hr.2.2.1 r hm hk
      omega
  · have hc := h.calls r hr
    refine ⟨le_trans hc.time_le hnow, hc.ptr_lt, hc.updated, hc.entry, fun hlt => hc.kept ?_⟩
    dsimp only at hlt
    omega

/-- A record is updated in place: the same rows, and the time of the update. -/
theorem Inv.update_heap (h : Inv D s) {p : Nat} {q : MakeHoleRecords}
    (hrows : q.scores.map BehaviorScore.row = (s.heap p).scores.map BehaviorScore.row)
    (htime : q.lastUpdateTime = s.clock) :
    Inv D { s with heap := Function.update s.heap p q } := by
  refine ⟨h.ptr_lt, fun p' hp => ?_, fun t => ?_, fun r hr => ?_⟩
  · by_cases he : p' = p
    · subst he
      simpa using (h.wellFormed p' hp).of_rows hrows
    · simpa [he] using h.wellFormed p' hp
  · have hr := h.relies t
    cases hpc : s.pc t with
    | idle => trivial
    | _ => simpa only [hpc, Relies] using hr
  · have hc := h.calls r hr
    by_cases hrp : r.ptr = p
    · refine ⟨hc.time_le, hc.ptr_lt, ?_, ?_, hc.kept⟩
      · simpa [hrp, htime] using hc.time_le
      · have he := hc.entry
        rw [hrp] at he
        simpa [hrp, hrows] using he
    · refine ⟨hc.time_le, hc.ptr_lt, ?_, ?_, hc.kept⟩
      · simpa [hrp] using hc.updated
      · simpa [hrp] using hc.entry

/-- A call returns what `recommand` has just taken from a record of the map. -/
theorem Inv.push (h : Inv D s) {r : Returned} (hr : CallOk D s r)
    (hdel : ∀ t now rest, s.pc t ≠ .deleting now r.key rest) :
    Inv D { s with returned := r :: s.returned } := by
  refine ⟨h.ptr_lt, h.wellFormed, fun t => ?_, fun r' hr' => ?_⟩
  · have hrel := h.relies t
    cases hpc : s.pc t with
    | deleting now key rest =>
      simp only [hpc, Relies] at hrel ⊢
      refine ⟨hrel.1, hrel.2.1, fun r' hm hk => ?_, hrel.2.2.2⟩
      rcases List.mem_cons.mp hm with rfl | hm
      · exact absurd (hk ▸ hpc) (hdel t now rest)
      · exact hrel.2.2.1 r' hm hk
    | idle => trivial
    | _ => simpa only [hpc, Relies] using hrel
  · rcases List.mem_cons.mp hr' with rfl | hr'
    · exact ⟨hr.time_le, hr.ptr_lt, hr.updated, hr.entry, hr.kept⟩
    · have hc := h.calls r' hr'
      exact ⟨hc.time_le, hc.ptr_lt, hc.updated, hc.entry, hc.kept⟩

/-- A new record under a key that the map does not hold. -/
theorem Inv.create (h : Inv D s) {key : String} (hkey : s.records.get? key = none)
    (hmu : s.mu = none) (c v : NatFeature) :
    Inv D { s with
      records := s.records.insert key s.nextPtr
      heap := Function.update s.heap s.nextPtr (newMakeHoleRecordsWithClock c v s.clock)
      nextPtr := s.nextPtr + 1 } := by
  have hother : ∀ {k : String} {q : Nat}, s.records.get? k = some q →
      (s.records.insert key s.nextPtr).get? k = some q := by
    intro k q hk
    have hne : k ≠ key := by
      rintro rfl
      rw [hkey] at hk
      cases hk
    simpa [hne] using hk
  refine ⟨fun k q hk => ?_, fun q hq => ?_, fun t => ?_, fun r hr => ?_⟩
  · simp only [GoMap.get?_insert] at hk
    split at hk
    · obtain rfl := Option.some.inj hk
      exact Nat.lt_succ_self _
    · exact Nat.lt_succ_of_lt (h.ptr_lt k q hk)
  · by_cases hq' : q = s.nextPtr
    · subst hq'
      simpa using WellFormed.new c v s.clock
    · have hlt : q < s.nextPtr := by
        dsimp only at hq
        omega
      simpa [hq'] using h.wellFormed q hlt
  · have hr := h.relies t
    cases hpc : s.pc t with
    | idle => trivial
    | recommanding k q c' =>
      simp only [hpc, Relies] at hr ⊢
      exact hother hr
    | reporting q mode index =>
      simp only [hpc, Relies] at hr ⊢
      omega
    | cleaning now => simpa only [hpc, Relies] using hr
    | ranging now todo =>
      simp only [hpc, Relies, hmu] at hr
      cases hr.2
    | deleting now k todo =>
      simp only [hpc, Relies, hmu] at hr
      cases hr.2.1
  · have hc := h.calls r hr
    have hne : r.ptr ≠ s.nextPtr := Nat.ne_of_lt hc.ptr_lt
    refine ⟨hc.time_le, Nat.lt_succ_of_lt hc.ptr_lt, ?_, ?_, fun hlt => hother (hc.kept hlt)⟩
    · simpa [hne] using hc.updated
    · simpa [hne] using hc.entry

def Pc.inLoop : Pc → Prop
  | .ranging _ _ | .deleting _ _ _ => True
  | _ => False

/-- `a.mu` changes hands while no other goroutine is in the loop of `Clean`. -/
theorem Inv.setMu (h : Inv D s) {mu : Option Nat}
    (hloop : ∀ t, (s.pc t).inLoop → mu = some t) : Inv D { s with mu := mu } := by
  refine ⟨h.ptr_lt, h.wellFormed, fun t => ?_, fun r hr => ?_⟩
  · have hr := h.relies t
    have hl := hloop t
    cases hpc : s.pc t with
    | idle => trivial
    | ranging now todo =>
      rw [hpc] at hr hl
      exact ⟨hr.1, hl trivial⟩
    | deleting now key todo =>
      rw [hpc] at hr hl
      exact ⟨hr.1, hl trivial, hr.2.2⟩
    | _ => simpa only [hpc, Relies] using hr
  · have hc := h.calls r hr
    exact ⟨hc.time_le, hc.ptr_lt, hc.updated, hc.entry, hc.kept⟩

/-- A goroutine in the loop of `Clean` holds `a.mu`. -/
theorem Inv.mu_of_inLoop (h : Inv D s) {t : Nat} (hl : (s.pc t).inLoop) : s.mu = some t := by
  have hr := h.relies t
  cases hpc : s.pc t with
  | ranging now todo => simp only [hpc, Relies] at hr; exact hr.2
  | deleting now key todo => simp only [hpc, Relies] at hr; exact hr.2.1
  | _ =>
    rw [hpc] at hl
    cases hl

theorem Inv.lock (h : Inv D s) {t : Nat} {now : Int} {todo : List String} (hmu : s.mu = none)
    (hnow : now ≤ s.clock) : Inv D { s.goto t (.ranging now todo) with mu := some t } := by
  have hset : Inv D { s with mu := some t } := by
    refine h.setMu fun t' hl => ?_
    rw [h.mu_of_inLoop hl] at hmu
    cases hmu
  exact hset.goto ⟨hnow, rfl⟩ nofun

theorem Inv.unlock (h : Inv D s) {t : Nat} (hmu : s.mu = some t) :
    Inv D { s.goto t .idle with mu := none } := by
  have hidle : Inv D (s.goto t .idle) := h.goto trivial nofun
  refine hidle.setMu fun t' hl => ?_
  have ht : t' = t := Option.some.inj ((hidle.mu_of_inLoop hl).symm.trans hmu)
  subst ht
  simp [State.goto, Pc.inLoop] at hl

/-- The record that `Clean` deletes is missed by no call. -/
theorem Inv.erase (h : Inv D s) {t : Nat} {now : Int} {key : String} {rest : List String}
    (hpc : s.pc t = .deleting now key rest) :
    Inv D { s.goto t (.ranging now rest) with records := s.records.erase key } := by
  have hrel := h.relies t
  rw [hpc] at hrel
  obtain ⟨hnow, hmu, hold, hnone⟩ := hrel
  have hmoved : Inv D (s.goto t (.ranging now rest)) := h.goto ⟨hnow, hmu⟩ nofun
  refine ⟨fun k q hk => ?_, h.wellFormed, fun t' => ?_, fun r hr => ?_⟩
  · simp only [GoMap.get?_erase] at hk
    split at hk
    · cases hk
    · exact h.ptr_lt k q hk
  · have hr := hmoved.relies t'
    cases hpc' : (s.goto t (.ranging now rest)).pc t' with
    | idle => trivial
    | recommanding k q c =>
      have hk : k ≠ key := by
        rintro rfl
        by_cases ht : t' = t
        · subst ht
          simp [State.goto] at hpc'
        · simp only [State.goto, Function.update_of_ne ht] at hpc'
          exact hnone t' q c hpc'
      rw [hpc'] at hr
      simpa [Relies, State.goto, hk] using hr
    | _ => simpa only [hpc', Relies] using hr
  · have hc := h.calls r hr
    refine ⟨hc.time_le, hc.ptr_lt, hc.updated, hc.entry, fun hlt => ?_⟩
    have hk : r.key ≠ key := by
      intro he
      have hpast := hold r hr he
      dsimp only [State.goto] at hlt
      omega
    simpa [Kept, hk] using hc.kept hlt

theorem inv_lookup (h : Inv D s) {t : Nat} (hmu : s.mu = none) (key : String)
    (c v : NatFeature) : Inv D (lookupOrCreate s t key c v) := by
  unfold lookupOrCreate
  cases hkey : s.records.get? key with
  | some p => exact h.goto hkey fun _ _ _ _ => hmu
  | none => exact (h.create hkey hmu c v).goto (by simp [Relies]) fun _ _ _ _ => hmu

theorem inv_recommand (h : Inv D s) {t : Nat} {key : String} {p : Nat} {c : NatFeature}
    (hpc : s.pc t = .recommanding key p c) : Inv D (recommand s t key p c) := by
  have hkey : s.records.get? key = some p := by
    have hr := h.relies t
    rwa [hpc] at hr
  have hp := h.ptr_lt key p hkey
  obtain ⟨i, b, hb, hrec⟩ := recommand_spec (h.wellFormed p hp).ne_nil s.clock
  have hrows := recommand_rows (s.heap p) s.clock
  have hmem : (b.mode, b.index) ∈ (s.heap p).scores.map BehaviorScore.row :=
    List.mem_map_of_mem (f := BehaviorScore.row) (List.mem_of_getElem? hb.get)
  simp only [recommand, hrec] at hrows ⊢
  -- the record is updated, the goroutine returns, the call is recorded
  have hheap := h.update_heap (q := ⟨_, s.clock⟩) hrows rfl
  have hidle := hheap.goto (t := t) (show Relies D _ t .idle from trivial) nofun
  refine hidle.push ⟨le_refl _, hp, ?_, ?_, fun _ => hkey⟩ ?_
  · simp [State.goto]
  · simpa [State.goto, hrows] using hmem
  · intro t' now rest he
    have ht : t' ≠ t := by
      rintro rfl
      simp [State.goto] at he
    have hr := h.relies t'
    simp only [State.goto, Function.update_of_ne ht] at he
    rw [he] at hr
    exact hr.2.2.2 t p c hpc

theorem inv_visit (h : Inv D s) {t : Nat} {now : Int} {key : String} {rest : List String}
    (hpc : s.pc t = .ranging now (key :: rest)) (hc : NotInFlight D s (.visit t)) :
    Inv D (visit D s t now key rest) := by
  have hr := h.relies t
  rw [hpc] at hr
  unfold visit
  cases hkey : s.records.get? key with
  | none => exact h.goto hr nofun
  | some p =>
    dsimp only
    split
    · rename_i hstale
      refine h.goto ⟨hr.1, hr.2, fun r hm hk => ?_, fun t' q c he => ?_⟩ nofun
      · -- a call still within its time would have made the record younger than that
        by_contra hlt
        have hcall := h.calls r hm
        have hkept := hcall.kept (by omega)
        have hptr : r.ptr = p := by
          rw [Kept, hk, hkey] at hkept
          exact (Option.some.inj hkept).symm
        have hupd := hcall.updated
        rw [hptr] at hupd
        have hs : D < now - (s.heap p).lastUpdateTime := by simpa [Analyzer.stale] using hstale
        have hnow := hr.1
        omega
      · have hrel := h.relies t'
        rw [he] at hrel
        obtain rfl := Option.some.inj (hkey.symm.trans hrel)
        exact hc now key rest p hpc hkey hstale t' c he
    · exact h.goto hr nofun

theorem inv_step {s' : State} {a : Action} (h : Inv D s) (hc : NotInFlight D s a)
    (hs : step D s a = some s') : Inv D s' := by
  cases a with
  | tick now =>
    simp only [step] at hs
    split at hs <;> cases hs
    exact h.tick ‹_›
  | lookup t key c v =>
    simp only [step] at hs
    split at hs <;> cases hs
    exact inv_lookup h ‹_› key c v
  | recommand t =>
    simp only [step] at hs
    split at hs <;> cases hs
    exact inv_recommand h ‹_›
  | lookupReport t key mode index =>
    simp only [step] at hs
    split at hs
    · split at hs <;> cases hs
      · exact h.goto (h.ptr_lt key _ ‹_›) (by simp)
      · exact h
    · cases hs
  | reportSuccess t =>
    simp only [step] at hs
    split at hs <;> cases hs
    rename_i p mode index _
    have hheap :=
      h.update_heap (q := (s.heap p).reportSuccess mode index s.clock) (raise_rows _) rfl
    exact hheap.goto (show Relies D _ t .idle from trivial) (by simp)
  | readClock t =>
    simp only [step] at hs
    split at hs <;> cases hs
    exact h.goto (le_refl s.clock) (by simp)
  | lockForClean t order =>
    simp only [step] at hs
    split at hs
    · rename_i now hpc hmu
      split at hs <;> cases hs
      have hr := h.relies t
      rw [hpc] at hr
      exact h.lock hmu hr
    · cases hs
  | visit t =>
    simp only [step] at hs
    split at hs
    · cases hs
      exact inv_visit h ‹_› hc
    · rename_i now hpc
      cases hs
      exact h.unlock (h.mu_of_inLoop (by rw [hpc]; trivial))
    · cases hs
  | delete t =>
    simp only [step] at hs
    split at hs <;> cases hs
    exact h.erase ‹_›

theorem reachableBy_inv (h : (system D).ReachableBy (NotInFlight D) s) : Inv D s :=
  System.invariant_by (I := Inv D) inv_init (fun _ _ _ _ hi hc hs => inv_step hi hc hs) h

/-- `ReportSuccess` for what a call returned raises the score of the returned row, in the
record that the call decremented. -/
def Updates (D : Int) (s : State) (r : Returned) : Prop :=
  ∀ t s₁, step D s (.lookupReport t r.key r.mode r.index) = some s₁ →
    ∃ s₂, step D s₁ (.reportSuccess t) = some s₂ ∧
      s₂.heap r.ptr = (s.heap r.ptr).reportSuccess r.mode r.index s.clock ∧
      (r.mode, r.index) ∈ (s.heap r.ptr).scores.map BehaviorScore.row

theorem updates_of_kept {r : Returned} (h : CallOk D s r) (hk : Kept s r) : Updates D s r := by
  intro t s₁ hs
  simp only [step] at hs
  split at hs
  · rw [show s.records.get? r.key = some r.ptr from hk] at hs
    cases hs
    refine ⟨_, by simp only [step, State.goto, Function.update_self]; rfl, ?_, h.entry⟩
    simp
  · cases hs

/-- In every run in which `Clean` finds no record stale that a call has looked up and not
yet decremented: while less than `D` has passed since a returned call decremented its
record, the map holds that record and `ReportSuccess` updates it. -/
theorem recommendation_kept {D : Int} {s : State}
    (h : (system D).ReachableBy (NotInFlight D) s) :
    ∀ r ∈ s.returned, s.clock - r.time < D → Kept s r ∧ Updates D s r := by
  intro r hr hlt
  have hc := (reachableBy_inv h).calls r hr
  have hk := hc.kept hlt
  exact ⟨hk, updates_of_kept hc hk⟩

/-- A first call, a pause of an hour, a second call that finds the record, and `Clean`
between the two sections of the second call. -/
def cleanBetween : List Action :=
  [.lookup 0 "k" easy easy, .recommand 0, .tick 3601, .lookup 1 "k" easy easy, .readClock 2,
    .lockForClean 2 ["k"], .visit 2, .delete 2, .visit 2, .recommand 1]

/-- The second call's record is gone although no time has passed since it was updated. -/
theorem recommendation_lost : ∃ s, (system 3600).Reachable s ∧
    ∃ r ∈ s.returned, s.clock - r.time < 3600 ∧ ¬ Kept s r := by
  obtain ⟨s, hs, hp⟩ := System.reachable_of_run (S := system 3600) (l := cleanBetween)
    (p := fun s => s.returned.any fun r =>
      decide (s.clock - r.time < 3600 ∧ s.records.get? r.key ≠ some r.ptr))
    (by decide +kernel)
  obtain ⟨r, hr, hp⟩ := List.any_eq_true.mp hp
  simp only [decide_eq_true_eq] at hp
  exact ⟨s, hs, r, hr, hp.1, hp.2⟩

/-- The record that `Clean` is about to test is not stale. -/
def FindsFresh (D : Int) (s : State) : Action → Bool
  | .visit t =>
    match s.pc t with
    | .ranging now (key :: _) => (s.records.get? key).all fun p => !Analyzer.stale D now (s.heap p)
    | _ => true
  | _ => true

theorem notInFlight_of_findsFresh {a : Action} (h : FindsFresh D s a = true) :
    NotInFlight D s a := by
  cases a with
  | visit t =>
    intro now key rest p hpc hkey hstale
    simp [FindsFresh, hpc, hkey, hstale] at h
  | _ => trivial

/-- The same calls with `Clean` after the second one has returned. -/
def cleanAfter : List Action :=
  [.lookup 0 "k" easy easy, .recommand 0, .tick 3601, .lookup 1 "k" easy easy, .recommand 1,
    .readClock 2, .lockForClean 2 ["k"], .visit 2, .visit 2, .tick 7200]

theorem recommendation_kept_after : ∃ s, (system 3600).ReachableBy (NotInFlight 3600) s ∧
    ∃ r ∈ s.returned, s.clock - r.time < 3600 ∧ Kept s r ∧ Updates 3600 s r := by
  have hfresh : (system 3600).Along (fun s a => FindsFresh 3600 s a = true) init cleanAfter := by
    decide +kernel
  have hcond : (system 3600).Along (NotInFlight 3600) init cleanAfter :=
    System.along_mono (fun _ _ h => notInFlight_of_findsFresh h) hfresh
  obtain ⟨s, hs, hp⟩ := System.reachableBy_of_run (S := system 3600) (l := cleanAfter)
    (p := fun s => s.returned.any fun r => decide (s.clock - r.time < 3600))
    hcond (by decide +kernel)
  obtain ⟨r, hr, hlt⟩ := List.any_eq_true.mp hp
  have hlt : s.clock - r.time < 3600 := by simpa using hlt
  exact ⟨s, hs, r, hr, hlt, recommendation_kept hs r hr hlt⟩

end FrpXtcp.Nathole.AnalyzerClean

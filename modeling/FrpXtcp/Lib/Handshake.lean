import Mathlib.Data.List.Basic
import FrpXtcp.Lib.Transition

/-!
# Opening and closing one resource over two FIFO channels

A client asks a server to open a resource and to close it again. Requests and answers
travel in order and are never lost, but an answer does not say which request it belongs
to, and the server may refuse any request to open. When the client opens only while none
of its requests to open is unanswered, the two sides agree whenever nothing is in flight.
-/
namespace FrpXtcp.Lib

universe u v

/-- A request on its way to the server. -/
inductive Ask (μ : Type u) where
  | opening (m : μ)
  | closing
  deriving DecidableEq

/-- What the client believes: it is waiting for an answer, or the resource is open. -/
inductive Side (μ : Type u) where
  | down
  | waiting (m : μ)
  | up (m : μ)
  deriving DecidableEq

/-- `busy` is the request that the server works on, with its verdict once there is one;
`held` is what the server has; `heard` is the answer that the client is looking at. -/
structure Link (μ : Type u) (κ : Type v) where
  side : Side μ
  asks : List (Ask μ)
  busy : Option (μ × Option Bool)
  held : Option κ
  answers : List Bool
  heard : Option Bool

namespace Link

variable {μ : Type u} {κ : Type v}

inductive Move (μ : Type u) where
  | opening (m : μ)
  | closing
  | recv
  | accept
  | reject
  | answer
  | hear
  | drop
  | settle

/-- The client's reaction to an answer. -/
def Side.hear (b : Bool) : Side μ → Side μ
  | .waiting m => if b then .up m else .down
  | x => x

/-- `value m` is what the server holds after it has accepted `m`. An open resource is
not opened again; everything else may happen at any time. -/
def step (value : μ → Option κ) (l : Link μ κ) : Move μ → Option (Link μ κ)
  | .opening m =>
    match l.side with
    | .up _ => none
    | _ => some { l with side := .waiting m, asks := l.asks ++ [.opening m] }
  | .closing => some { l with side := .down, asks := l.asks ++ [.closing], heard := none }
  | .recv =>
    match l.busy, l.asks with
    | none, .opening m :: rest => some { l with asks := rest, busy := some (m, none) }
    | none, .closing :: rest => some { l with asks := rest, held := none }
    | _, _ => none
  | .accept =>
    match l.busy with
    | some (m, none) =>
      (value m).map fun v => { l with busy := some (m, some true), held := some v }
    | _ => none
  | .reject =>
    match l.busy with
    | some (m, none) => some { l with busy := some (m, some false) }
    | _ => none
  | .answer =>
    match l.busy with
    | some (_, some b) => some { l with busy := none, answers := l.answers ++ [b] }
    | _ => none
  | .hear =>
    match l.heard, l.answers with
    | none, b :: rest => some { l with answers := rest, heard := some b }
    | _, _ => none
  | .drop =>
    match l.side, l.answers with
    | .down, _ :: rest => some { l with answers := rest }
    | _, _ => none
  | .settle =>
    match l.heard with
    | some b => some { l with side := Side.hear b l.side, heard := none }
    | none => none

def init : Link μ κ := ⟨.down, [], none, none, [], none⟩

def system (value : μ → Option κ) : System (Link μ κ) (Move μ) := ⟨init, step value⟩

/-- Every request to open has been answered, and the answer has been dealt with. -/
structure Answered (l : Link μ κ) : Prop where
  asks : ∀ m, .opening m ∉ l.asks
  busy : l.busy = none
  answers : l.answers = []
  heard : l.heard = none

/-- The client opens only when its earlier requests to open have been answered. -/
def Patient (l : Link μ κ) : Move μ → Prop
  | .opening _ => l.Answered
  | _ => True

/-- What the server has after a verdict on `m`. -/
def Settled (value : μ → Option κ) (held : Option κ) (m : μ) (b : Bool) : Prop :=
  if b then held = value m ∧ held.isSome else held = none

/-- Where the unanswered request of a waiting client is. -/
inductive Asked (value : μ → Option κ) (m : μ) : Link μ κ → Prop
  | sent {l : Link μ κ} (pre : List (Ask μ)) : l.asks = pre ++ [.opening m] →
      (∀ x ∈ pre, x = .closing) → (pre = [] → l.held = none) → l.busy = none → l.answers = [] →
      l.heard = none → Asked value m l
  | working {l : Link μ κ} : l.asks = [] → l.busy = some (m, none) → l.held = none →
      l.answers = [] → l.heard = none → Asked value m l
  | decided {l : Link μ κ} (b : Bool) : l.asks = [] → l.busy = some (m, some b) →
      Settled value l.held m b → l.answers = [] → l.heard = none → Asked value m l
  | answered {l : Link μ κ} (b : Bool) : l.asks = [] → l.busy = none →
      Settled value l.held m b → l.answers = [b] → l.heard = none → Asked value m l
  | heard {l : Link μ κ} (b : Bool) : l.asks = [] → l.busy = none →
      Settled value l.held m b → l.answers = [] → l.heard = some b → Asked value m l

/-- A client that neither waits nor has the resource has sent a request to close last, or
the server is done with all its requests and has nothing. -/
def Idle (l : Link μ κ) : Prop :=
  l.asks.getLast? = some .closing ∨ (l.asks = [] ∧ l.busy = none ∧ l.held = none)

/-- The invariant of a patient client. -/
def Inv (value : μ → Option κ) (l : Link μ κ) : Prop :=
  match l.side with
  | .down => l.Idle
  | .waiting m => Asked value m l
  | .up m => l.asks = [] ∧ l.busy = none ∧ Settled value l.held m true

section Invariant

variable {value : μ → Option κ} {l l' : Link μ κ} {m : μ}

/-- A waiting client has an unanswered request. -/
theorem Asked.unanswered (h : Asked value m l) : ¬ l.Answered := by
  intro ha
  cases h with
  | sent pre hasks => exact ha.asks m (by simp [hasks])
  | working _ hbusy => simp [ha.busy] at hbusy
  | decided _ _ hbusy => simp [ha.busy] at hbusy
  | answered _ _ _ _ hans => simp [ha.answers] at hans
  | heard _ _ _ _ _ hheard => simp [ha.heard] at hheard

theorem Idle.opening (h : l.Idle) (ha : l.Answered) (m : μ) :
    Asked value m { l with side := .waiting m, asks := l.asks ++ [.opening m] } := by
  refine .sent l.asks rfl (fun x hx => ?_) (fun hnil => ?_) ha.busy ha.answers ha.heard
  · cases x with
    | opening m' => exact absurd hx (ha.asks m')
    | closing => rfl
  · rcases h with hlast | ⟨-, -, hheld⟩
    · simp [hnil] at hlast
    · exact hheld

/-- The server takes the next request of a client that does not wait for one. -/
theorem Idle.recv {x : Ask μ} {rest : List (Ask μ)} (h : l.Idle) (hasks : l.asks = x :: rest) :
    (x = .closing ∧ rest = []) ∨ rest.getLast? = some .closing := by
  rcases h with hlast | ⟨hnil, -⟩
  · rw [hasks] at hlast
    cases rest with
    | nil => exact Or.inl ⟨by simpa using hlast, rfl⟩
    | cons y rest => exact Or.inr (by simpa using hlast)
  · rw [hasks] at hnil
    cases hnil

theorem Asked.recv (h : Asked value m l) (hs : step value l .recv = some l') :
    Asked value m l' := by
  cases h with
  | sent pre hasks hall hheld hbusy hans hheard =>
    cases pre with
    | nil =>
      simp only [step, hbusy, hasks, List.nil_append, Option.some.injEq] at hs
      subst hs
      exact .working rfl rfl (hheld rfl) hans hheard
    | cons x pre =>
      obtain rfl := hall x List.mem_cons_self
      simp only [step, hbusy, hasks, List.cons_append, Option.some.injEq] at hs
      subst hs
      exact .sent pre rfl (fun y hy => hall y (List.mem_cons_of_mem _ hy)) (fun _ => rfl) rfl
        hans hheard
  | working hasks hbusy => simp [step, hasks, hbusy] at hs
  | decided b hasks hbusy => simp [step, hasks, hbusy] at hs
  | answered b hasks hbusy => simp [step, hasks, hbusy] at hs
  | heard b hasks hbusy => simp [step, hasks, hbusy] at hs

theorem Asked.accept (h : Asked value m l) (hs : step value l .accept = some l') :
    Asked value m l' := by
  cases h with
  | working hasks hbusy hheld hans hheard =>
    simp only [step, hbusy, Option.map_eq_some_iff] at hs
    obtain ⟨v, hv, rfl⟩ := hs
    exact .decided true hasks rfl (by simp [Settled, hv]) hans hheard
  | sent pre _ _ _ hbusy => simp [step, hbusy] at hs
  | decided b _ hbusy => simp [step, hbusy] at hs
  | answered b _ hbusy => simp [step, hbusy] at hs
  | heard b _ hbusy => simp [step, hbusy] at hs

theorem Asked.reject (h : Asked value m l) (hs : step value l .reject = some l') :
    Asked value m l' := by
  cases h with
  | working hasks hbusy hheld hans hheard =>
    simp only [step, hbusy, Option.some.injEq] at hs
    subst hs
    exact .decided false hasks rfl (by simp [Settled, hheld]) hans hheard
  | sent pre _ _ _ hbusy => simp [step, hbusy] at hs
  | decided b _ hbusy => simp [step, hbusy] at hs
  | answered b _ hbusy => simp [step, hbusy] at hs
  | heard b _ hbusy => simp [step, hbusy] at hs

theorem Asked.answer (h : Asked value m l) (hs : step value l .answer = some l') :
    Asked value m l' := by
  cases h with
  | decided b hasks hbusy hheld hans hheard =>
    simp only [step, hbusy, Option.some.injEq] at hs
    subst hs
    exact .answered b hasks rfl hheld (by simp [hans]) hheard
  | sent pre _ _ _ hbusy => simp [step, hbusy] at hs
  | working _ hbusy => simp [step, hbusy] at hs
  | answered b _ hbusy => simp [step, hbusy] at hs
  | heard b _ hbusy => simp [step, hbusy] at hs

theorem Asked.hear (h : Asked value m l) (hs : step value l .hear = some l') :
    Asked value m l' := by
  cases h with
  | answered b hasks hbusy hheld hans hheard =>
    simp only [step, hheard, hans, Option.some.injEq] at hs
    subst hs
    exact .heard b hasks hbusy hheld rfl rfl
  | sent pre _ _ _ _ hans hheard => simp [step, hans, hheard] at hs
  | working _ _ _ hans hheard => simp [step, hans, hheard] at hs
  | decided b _ _ _ hans hheard => simp [step, hans, hheard] at hs
  | heard b _ _ _ _ hheard => simp [step, hheard] at hs

/-- The answer that a waiting client looks at is the one to its request. -/
theorem Asked.settle (h : Asked value m l) {b : Bool} (hb : l.heard = some b) :
    l.asks = [] ∧ l.busy = none ∧ Settled value l.held m b := by
  cases h with
  | heard b' hasks hbusy hheld _ hheard =>
    obtain rfl := Option.some.inj (hheard.symm.trans hb)
    exact ⟨hasks, hbusy, hheld⟩
  | sent pre _ _ _ _ _ hheard => simp [hheard] at hb
  | working _ _ _ _ hheard => simp [hheard] at hb
  | decided _ _ _ _ _ hheard => simp [hheard] at hb
  | answered _ _ _ _ _ hheard => simp [hheard] at hb

theorem inv_init : Inv value (init : Link μ κ) := Or.inr ⟨rfl, rfl, rfl⟩

/-- A move after which the client stands where it stood. -/
theorem Inv.stay (h : Inv value l) (hside : l'.side = l.side) (hidle : l.Idle → l'.Idle)
    (hasked : ∀ m, Asked value m l → Asked value m l')
    (hup : l.asks = [] → l.busy = none → l'.asks = [] ∧ l'.busy = none ∧ l'.held = l.held) :
    Inv value l' := by
  unfold Inv at h ⊢
  rw [hside]
  cases hl : l.side with
  | down =>
    rw [hl] at h
    exact hidle h
  | waiting m =>
    rw [hl] at h
    exact hasked m h
  | up m =>
    rw [hl] at h
    obtain ⟨hasks, hbusy, hheld⟩ := h
    obtain ⟨hasks', hbusy', heq⟩ := hup hasks hbusy
    exact ⟨hasks', hbusy', heq ▸ hheld⟩

theorem inv_recv (h : Inv value l) (hs : step value l .recv = some l') : Inv value l' := by
  have hs₀ := hs
  simp only [step] at hs
  split at hs <;> cases hs
  · rename_i m hbusy hasks
    refine h.stay rfl (fun hi => ?_) (fun _ ha => ha.recv hs₀) (fun hnil => ?_)
    · rcases hi.recv hasks with ⟨hx, -⟩ | hlast
      · cases hx
      · exact Or.inl hlast
    · simp [hasks] at hnil
  · rename_i hbusy hasks
    refine h.stay rfl (fun hi => ?_) (fun _ ha => ha.recv hs₀) (fun hnil => ?_)
    · rcases hi.recv hasks with ⟨-, hrest⟩ | hlast
      · exact Or.inr ⟨hrest, hbusy, rfl⟩
      · exact Or.inl hlast
    · simp [hasks] at hnil

/-- A verdict or an answer of the server on a request that it works on. -/
theorem Inv.working {busy : Option (μ × Option Bool)} {held : Option κ} {answers : List Bool}
    (h : Inv value l) (hbusy : l.busy ≠ none)
    (hasked : ∀ m, Asked value m l →
      Asked value m { l with busy := busy, held := held, answers := answers }) :
    Inv value { l with busy := busy, held := held, answers := answers } := by
  refine h.stay rfl (fun hi => ?_) hasked (fun _ hnone => absurd hnone hbusy)
  exact Or.inl (hi.resolve_right fun hi => hbusy hi.2.1)

theorem inv_settle (h : Inv value l) (hs : step value l .settle = some l') : Inv value l' := by
  simp only [step] at hs
  split at hs <;> cases hs
  rename_i b hb
  unfold Inv at h ⊢
  dsimp only
  cases hl : l.side with
  | down =>
    rw [hl] at h
    exact h
  | waiting m =>
    rw [hl] at h
    obtain ⟨hasks, hbusy, hheld⟩ := h.settle hb
    cases b with
    | true => exact ⟨hasks, hbusy, hheld⟩
    | false => exact Or.inr ⟨hasks, hbusy, by simpa [Settled] using hheld⟩
  | up m =>
    rw [hl] at h
    exact h

theorem inv_opening (h : Inv value l) (ha : l.Answered)
    (hs : step value l (.opening m) = some l') : Inv value l' := by
  simp only [step] at hs
  unfold Inv at h
  cases hl : l.side with
  | down =>
    simp only [hl, Option.some.injEq] at h hs
    subst hs
    exact Idle.opening h ha m
  | waiting m' =>
    rw [hl] at h
    exact absurd ha h.unanswered
  | up m' => simp [hl] at hs

theorem inv_step {a : Move μ} (h : Inv value l) (hp : Patient l a)
    (hs : step value l a = some l') : Inv value l' := by
  have hs₀ := hs
  cases a with
  | opening m => exact inv_opening h hp hs
  | closing =>
    cases hs
    exact Or.inl (by simp)
  | recv => exact inv_recv h hs
  | accept =>
    simp only [step] at hs
    split at hs
    · rename_i m hbusy
      simp only [Option.map_eq_some_iff] at hs
      obtain ⟨v, hv, rfl⟩ := hs
      exact h.working (by simp [hbusy]) fun _ ha => ha.accept hs₀
    · cases hs
  | reject =>
    simp only [step] at hs
    split at hs <;> cases hs
    rename_i m hbusy
    exact h.working (by simp [hbusy]) fun _ ha => ha.reject hs₀
  | answer =>
    simp only [step] at hs
    split at hs <;> cases hs
    rename_i m b hbusy
    exact h.working (by simp [hbusy]) fun _ ha => ha.answer hs₀
  | hear =>
    simp only [step] at hs
    split at hs <;> cases hs
    exact h.stay rfl id (fun _ ha => ha.hear hs₀) (fun hasks hbusy => ⟨hasks, hbusy, rfl⟩)
  | drop =>
    simp only [step] at hs
    split at hs <;> cases hs
    rename_i hside hans
    unfold Inv at h ⊢
    rw [hside] at h
    simp only [hside]
    exact h
  | settle => exact inv_settle h hs

theorem reachable_inv (h : (system value).ReachableBy Patient l) : Inv value l :=
  System.invariant_by (I := Inv value) inv_init
    (fun _ _ _ _ hi hp hs => inv_step hi hp hs) h

/-- What the client has open, the server holds, even while other messages travel. -/
theorem Inv.held_of_up (h : Inv value l) (hl : l.side = .up m) :
    ∃ v, value m = some v ∧ l.held = some v := by
  unfold Inv at h
  rw [hl] at h
  obtain ⟨hheld, hsome⟩ : l.held = value m ∧ l.held.isSome = true := by
    simpa [Settled] using h.2.2
  obtain ⟨v, hv⟩ := Option.isSome_iff_exists.mp hsome
  exact ⟨v, hheld ▸ hv, hv⟩

/-- Nothing is in flight. -/
structure Quiescent (l : Link μ κ) : Prop where
  asks : l.asks = []
  busy : l.busy = none
  answers : l.answers = []
  heard : l.heard = none

/-- At rest the client has open what the server holds. -/
theorem Inv.up_of_held (h : Inv value l) (hq : l.Quiescent) {v : κ} (hv : l.held = some v) :
    ∃ m, l.side = .up m ∧ value m = some v := by
  unfold Inv at h
  cases hl : l.side with
  | down =>
    rw [hl] at h
    rcases h with hlast | ⟨-, -, hheld⟩
    · simp [hq.asks] at hlast
    · simp [hheld] at hv
  | waiting m =>
    rw [hl] at h
    exact absurd ⟨by simp [hq.asks], hq.busy, hq.answers, hq.heard⟩ h.unanswered
  | up m =>
    rw [hl] at h
    obtain ⟨hheld, -⟩ : l.held = value m ∧ _ := by simpa [Settled] using h.2.2
    exact ⟨m, rfl, hheld ▸ hv⟩

end Invariant

end Link

end FrpXtcp.Lib

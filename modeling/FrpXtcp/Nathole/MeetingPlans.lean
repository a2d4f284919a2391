import FrpXtcp.Nathole.HolePunch

/-!
# Plans that meet

When the plans of the two sides lead to a hole, and that the answers of the server are such
plans: for two NATs that do not change the port, and for one that changes it regularly.
-/
namespace FrpXtcp.Nathole.HolePunch

open FrpXtcp.Lib
open FrpXtcp.Nathole.Detection (Bytes Codec Loop NatHoleSid Pc bufSize detect)

variable {env : Env} {s s' : State} {a : Action}

/-! ## Plans that meet -/

/-- `d` is an address of the sender's plan, what is sent there comes from an address of the
receiver's plan, and what the receiver sends to that one comes from `d`. -/
structure Meet (env : Env) (d : String) : Prop where
  sender : ∃ addr ∈ plan (env.ends .sender).resp, env.resolve addr = some d
  receiver : ∃ addr ∈ plan (env.ends .receiver).resp,
    env.resolve addr = some ((env.ends .sender).translator.mapping d)
  mapped : (env.ends .receiver).translator.mapping ((env.ends .sender).translator.mapping d) = d

/-- What the sender sends to `d` arrives, and not before the receiver has sent what it sends. The
latter is what `SendDelayMs` is for. The response arrives as well, and no read deadline passes. -/
def Timely (d : String) (s : State) : Action → Prop
  | .deliver i => ∀ g ∈ s.flying[i]?, g.origin = .sender → g.dst = d →
      (s.peers .receiver).todo = []
  | .lose i => ∀ g ∈ s.flying[i]?, g.response = false ∧ ¬ (g.origin = .sender ∧ g.dst = d)
  | .readError _ _ => False
  | _ => True

instance (d : String) (s : State) : ∀ a, Decidable (Timely d s a)
  | .deliver i => inferInstanceAs (Decidable (∀ g ∈ s.flying[i]?, g.origin = .sender → g.dst = d →
      (s.peers .receiver).todo = []))
  | .lose i => inferInstanceAs (Decidable (∀ g ∈ s.flying[i]?, g.response = false ∧
      ¬ (g.origin = .sender ∧ g.dst = d)))
  | .readError _ _ => isFalse id
  | .send _ _ _ | .read _ | .reply _ _ => isTrue trivial

theorem Timely.undisturbed {d : String} (h : Timely d s a) : Undisturbed s a := by
  cases a with
  | deliver i => trivial
  | send x n iv => trivial
  | lose i => exact fun g hg => (h g hg).1
  | read x => trivial
  | readError x err => exact h
  | reply x iv => trivial

/-- `d` is to be sent to, or has been sent to. -/
def Planned (env : Env) (x : Side) (d : String) (s : State) : Prop :=
  (∃ addr ∈ (s.peers x).todo, env.resolve addr = some d) ∨ d ∈ (s.peers x).opened

theorem Planned.mono {x : Side} {d : String} (h : Planned env x d s)
    (ht : (s'.peers x).todo = (s.peers x).todo)
    (ho : (s.peers x).opened ⊆ (s'.peers x).opened) : Planned env x d s' := by
  rcases h with h | h
  · exact Or.inl (ht ▸ h)
  · exact Or.inr (ho h)

theorem Planned.setPeer {x y : Side} {d : String} (h : Planned env x d s) {p : Peer}
    (ht : p.todo = (s.peers y).todo) (ho : p.opened = (s.peers y).opened) :
    Planned env x d (s.setPeer y p) := by
  by_cases hx : x = y
  · subst hx
    refine h.mono ?_ ?_
    · rw [setPeer_self, ht]
    · rw [setPeer_self, ho]
      exact List.Subset.refl _
  · refine h.mono ?_ ?_
    · rw [setPeer_of_ne hx]
    · rw [setPeer_of_ne hx]
      exact List.Subset.refl _

theorem Planned.write {x y : Side} {d dst : String} {response : Bool} {data : Bytes}
    (h : Planned env x d s) : Planned env x d (s.write env y response dst data) :=
  h.mono (write_peers s y x response dst data).2.2.1 (opened_subset_write s y x response dst data)

theorem Ready.send_ok (hr : Ready env) (x : Side) (n : Fin 20) (iv : Bytes) (err : String) :
    env.codec.encodeMessage (env.ends x).key (env.sid x n) iv ≠ .error err := by
  obtain ⟨data, henc, -⟩ := hr.encodes x n false iv
  change env.codec.encodeMessage (env.ends x).key (env.sid x n) iv = .ok data at henc
  rw [henc]
  intros h
  cases h

/-- Either the address that is sent to next is `d`, or `d` is among the others. -/
theorem Planned.next {x : Side} {d addr : String} {todo : List String} (h : Planned env x d s)
    (ht : (s.peers x).todo = addr :: todo) :
    env.resolve addr = some d ∨ Planned env x d (s.setPeer x { s.peers x with todo := todo }) := by
  rcases h with ⟨addr', haddr', hd⟩ | h
  · rw [ht] at haddr'
    rcases List.mem_cons.mp haddr' with rfl | hmem
    · exact Or.inl hd
    · exact Or.inr (Or.inl ⟨addr', by rwa [setPeer_self], hd⟩)
  · exact Or.inr (Or.inr (by rwa [setPeer_self]))

theorem Planned.effect {x : Side} {d : String} (h : Planned env x d s) (hr : Ready env)
    (he : Effect env s a s') : Planned env x d s' := by
  cases he with
  | skip htodo hfail =>
    rename_i y addr todo n iv
    by_cases hx : x = y
    · subst hx
      rcases h.next htodo with hd | h
      · rcases hfail with hnone | ⟨err, herr⟩
        · rw [hnone] at hd
          cases hd
        · exact (hr.send_ok x n iv err herr).elim
      · exact h
    · exact h.mono (by rw [setPeer_of_ne hx]) (by rw [setPeer_of_ne hx]; exact List.Subset.refl _)
  | send htodo hresolve henc =>
    rename_i y addr raddr todo n iv buf
    by_cases hx : x = y
    · subst hx
      rcases h.next htodo with hd | h
      · rw [hresolve] at hd
        obtain rfl := Option.some.inj hd
        exact Or.inr (mem_opened_write _ x false _ buf)
      · exact h.write
    · refine Planned.write (h.mono ?_ ?_)
      · rw [setPeer_of_ne hx]
      · rw [setPeer_of_ne hx]
        exact List.Subset.refl _
  | letIn hg hacc =>
    refine h.mono ?_ ?_
    · rw [letIn_peers]
    · rw [letIn_peers]
      exact List.Subset.refl _
  | refuse hg hacc => exact h
  | lose hg hresp => exact h
  | read hpc hinbox => exact h.setPeer rfl rfl
  | replyFailed hpc henc => exact h.setPeer rfl rfl
  | reply hpc henc =>
    refine Planned.write ?_
    exact h.setPeer rfl rfl

/-- What has been sent to `d` is on its way or has been let in. -/
def Underway (d : String) (s : State) : Prop :=
  d ∈ (s.peers .sender).opened →
    (∃ g ∈ s.flying, g.origin = .sender ∧ g.dst = d) ∨ 0 < s.admitted

theorem Underway.mono {d : String} (h : Underway d s)
    (ho : (s'.peers .sender).opened = (s.peers .sender).opened)
    (hf : ∀ g ∈ s.flying, g.origin = .sender → g.dst = d → g ∈ s'.flying)
    (ha : s.admitted ≤ s'.admitted) : Underway d s' := by
  intro hd
  rw [ho] at hd
  rcases h hd with ⟨g, hg, horigin, hdst⟩ | hadmitted
  · exact Or.inl ⟨g, hf g hg horigin hdst, horigin, hdst⟩
  · exact Or.inr (Nat.lt_of_lt_of_le hadmitted ha)

theorem Underway.setPeer {x : Side} {d : String} (h : Underway d s) {p : Peer}
    (ho : p.opened = (s.peers x).opened) : Underway d (s.setPeer x p) := by
  refine h.mono ?_ (fun g hg _ _ => hg) (Nat.le_refl _)
  by_cases hx : Side.sender = x
  · subst hx
    rw [setPeer_self, ho]
  · rw [setPeer_of_ne hx]

theorem Underway.write {x : Side} {d dst : String} {response : Bool} {data : Bytes}
    (h : Underway d s) : Underway d (s.write env x response dst data) := by
  intro hd
  rw [(write_peers s x .sender response dst data).2.2.2] at hd
  split at hd
  · rename_i hx
    subst hx
    rcases List.mem_append.mp hd with hd | hd
    · rcases h hd with ⟨g, hg, hrest⟩ | hadmitted
      · exact Or.inl ⟨g, List.mem_append_left _ hg, hrest⟩
      · exact Or.inr hadmitted
    · obtain rfl := List.mem_singleton.mp hd
      exact Or.inl ⟨_, List.mem_append_right _ List.mem_cons_self, rfl, rfl⟩
  · rcases h hd with ⟨g, hg, hrest⟩ | hadmitted
    · exact Or.inl ⟨g, List.mem_append_left _ hg, hrest⟩
    · exact Or.inr hadmitted

/-- The receiver has opened the way for what comes to `d`. -/
theorem Meet.accepts {d : String} (hm : Meet env d)
    (ho : (env.ends .sender).translator.mapping d ∈ (s.peers .receiver).opened) :
    (env.ends .receiver).translator.accepts (s.peers .receiver).opened
      ((env.ends .sender).translator.mapping d) d = true := by
  have h := Translator.accepts_answer (t := (env.ends .receiver).translator) ho
  rwa [hm.mapped] at h

theorem Underway.effect {d : String} (h : Underway d s) (hi : Inv env s) (hm : Meet env d)
    (hp : Planned env .receiver ((env.ends .sender).translator.mapping d) s)
    (ht : Timely d s a) (he : Effect env s a s') : Underway d s' := by
  cases he with
  | skip htodo hfail => exact h.setPeer rfl
  | send htodo hresolve henc =>
    refine Underway.write ?_
    exact h.setPeer rfl
  | letIn hg hacc =>
    rename_i i g
    by_cases horigin : g.origin = .sender
    · intro _
      right
      simp [letIn, horigin]
    · refine h.mono (by rw [letIn_peers]) ?_ (by simp [letIn, horigin])
      intro g' hg' horigin' _
      rcases eq_or_mem_eraseIdx hg hg' with rfl | hmem
      · exact (horigin horigin').elim
      · exact hmem
  | refuse hg hacc =>
    rename_i i g
    refine h.mono rfl ?_ (Nat.le_refl _)
    intro g' hg' horigin' hdst'
    rcases eq_or_mem_eraseIdx hg hg' with rfl | hmem
    · -- it is let in
      have htodo := ht g' hg horigin' hdst'
      have hopened : (env.ends .sender).translator.mapping d ∈ (s.peers .receiver).opened := by
        rcases hp with ⟨addr, haddr, -⟩ | ho
        · rw [htodo] at haddr
          cases haddr
        · exact ho
      have hsrc := (hi.flying g' hg').src
      rw [horigin', hdst'] at hsrc
      rw [horigin', hsrc, hdst'] at hacc
      have := hm.accepts hopened
      rw [show Side.sender.other = .receiver from rfl, this] at hacc
      cases hacc
    · exact hmem
  | lose hg hresp =>
    rename_i i g
    refine h.mono rfl ?_ (Nat.le_refl _)
    intro g' hg' horigin' hdst'
    rcases eq_or_mem_eraseIdx hg hg' with rfl | hmem
    · exact ((ht g' hg).2 ⟨horigin', hdst'⟩).elim
    · exact hmem
  | read hpc hinbox => exact h.setPeer rfl
  | replyFailed hpc henc => exact h.setPeer rfl
  | reply hpc henc =>
    refine Underway.write ?_
    exact h.setPeer rfl

/-- What holds while the plans are carried out. -/
structure MeetInv (env : Env) (d : String) (s : State) : Prop where
  inv : Inv env s
  sender : Planned env .sender d s
  receiver : Planned env .receiver ((env.ends .sender).translator.mapping d) s
  underway : Underway d s

theorem meetInv_init {d : String} (hm : Meet env d) : MeetInv env d (init env) := by
  refine ⟨inv_init, Or.inl hm.sender, Or.inl hm.receiver, ?_⟩
  intro hd
  cases hd

theorem MeetInv.effect {d : String} (h : MeetInv env d s) (hr : Ready env) (hm : Meet env d)
    (ht : Timely d s a) (he : Effect env s a s') : MeetInv env d s' :=
  ⟨h.inv.effect hr he, h.sender.effect hr he, h.receiver.effect hr he,
    h.underway.effect h.inv hm h.receiver ht he⟩

theorem reachable_meetInv {d : String} (hr : Ready env) (hm : Meet env d)
    (h : (system env).ReachableBy (Timely d) s) : MeetInv env d s :=
  (system env).invariant_by (meetInv_init hm)
    (fun _ _ _ _ hi ht hs => hi.effect hr hm ht (step_effect hs ht.undisturbed)) h

theorem MeetInv.admitted {d : String} (h : MeetInv env d s) (hq : Quiet env s) :
    0 < s.admitted := by
  have hopened : d ∈ (s.peers .sender).opened := by
    rcases h.sender with ⟨addr, haddr, -⟩ | ho
    · rw [hq.todo] at haddr
      cases haddr
    · exact ho
  rcases h.underway hopened with ⟨g, hg, -⟩ | hadmitted
  · rw [hq.flying] at hg
    cases hg
  · exact hadmitted

/-- Where the plans meet, the hole is made. -/
theorem meeting_plans_punch {d : String} (hr : Ready env) (hm : Meet env d)
    (h : (system env).ReachableBy (Timely d) s) (hq : Quiet env s) : Punched env s :=
  have hi := reachable_meetInv hr hm h
  hi.inv.punched hq (hi.admitted hq)

/-! ## The plans of the server -/

theorem mem_destutter' {a b : String} {l : List String} (h : a ∈ b :: l) :
    a ∈ List.destutter' (· ≠ ·) b l := by
  induction l generalizing b with
  | nil => simpa using h
  | cons c l ih =>
    by_cases hbc : b = c
    · subst hbc
      rw [List.destutter'_cons_neg _ (by simp)]
      exact ih (by simpa using h)
    · rw [List.destutter'_cons_pos _ hbc]
      rcases List.mem_cons.mp h with rfl | h
      · exact List.mem_cons_self
      · exact List.mem_cons_of_mem _ (ih h)

theorem mem_compact {a : String} {l : List String} (h : a ∈ l) : a ∈ compact l := by
  cases l with
  | nil => cases h
  | cons b l => exact mem_destutter' h

section Response

variable {transactionID sid protocol : String} {mode : Int}
  {candidateAddrs assistedAddrs : List String} {behavior : RecommandBehavior}
  {readTimeoutMs portsDifference : Int64}

/-- A side that is not given ports sends to the addresses of the other side. -/
theorem mem_plan_of_mem {addr : String}
    (hb : behavior.role = .sender ∨ behavior.portsRangeNumber ≤ 0) (h : addr ∈ candidateAddrs) :
    addr ∈ plan (newNatHoleResponse transactionID sid protocol mode candidateAddrs assistedAddrs
      behavior readTimeoutMs portsDifference) := by
  refine List.mem_append_left _ (mem_compact ?_)
  split
  · exact List.mem_append_right _ (mem_compact h)
  · rename_i hrole
    have hports : behavior.portsRangeNumber ≤ 0 := hb.resolve_left hrole
    rw [if_pos (by simp [newNatHoleResponse, getRangePorts, hports])]
    exact mem_compact h

/-- A side that is given ports sends to each one of them. -/
theorem mem_plan_of_port {r : PortsRange} {ip : String} {q : Int}
    (hr : r ∈ getRangePorts (compacted candidateAddrs) portsDifference behavior.portsRangeNumber)
    (hip : ip ∈ parseIPs (compact candidateAddrs)) (hq : q ∈ r.ports) :
    joinHostPort ip (toString q) ∈ plan (newNatHoleResponse transactionID sid protocol mode
      candidateAddrs assistedAddrs behavior readTimeoutMs portsDifference) := by
  refine List.mem_append_right _ (List.mem_flatMap.mpr ⟨ip, mem_compact hip, ?_⟩)
  exact List.mem_flatMap.mpr ⟨r, hr, List.mem_map.mpr ⟨q, hq, rfl⟩⟩

end Response

/-- The side on which the client is. -/
def clientSide (row : Row) : Side := if row.1.role = .sender then .sender else .receiver

def behaviorOf (row : Row) (x : Side) : RecommandBehavior :=
  if x = clientSide row then row.1 else row.2

def mappedOf (row : Row) (vm : NatHoleVisitor) (cm : NatHoleClient) (x : Side) : List String :=
  if x = clientSide row then cm.mappedAddrs else vm.mappedAddrs

def featureOf (row : Row) (c v : NatFeature) (x : Side) : NatFeature :=
  if x = clientSide row then c else v

/-- The two calls have the answers that `analysis` makes for the row `row` of mode `mode`. -/
structure Recommended (env : Env) (sid : String) (vm : NatHoleVisitor) (cm : NatHoleClient)
    (mode : Int) (row : Row) (c v : NatFeature) : Prop where
  client : (env.ends (clientSide row)).resp = (makeResponses sid vm cm mode row.1 row.2 c v).2
  visitor : (env.ends (clientSide row).other).resp =
    (makeResponses sid vm cm mode row.1 row.2 c v).1

variable {sid : String} {vm : NatHoleVisitor} {cm : NatHoleClient} {mode : Int} {row : Row}
  {c v : NatFeature}

theorem Side.eq_or_eq_other (x y : Side) : x = y ∨ x = y.other := by
  cases x <;> cases y <;> decide

/-- Each side gets what the server knows of the other one. -/
theorem Recommended.resp (h : Recommended env sid vm cm mode row c v) (x : Side) :
    ∃ transactionID assistedAddrs readTimeoutMs, (env.ends x).resp =
      newNatHoleResponse transactionID sid vm.protocol mode (mappedOf row vm cm x.other)
        assistedAddrs (behaviorOf row x) readTimeoutMs
        (featureOf row c v x.other).portsDifference := by
  have hne : (clientSide row).other ≠ clientSide row := by
    cases clientSide row <;> decide
  have hback : (clientSide row).other.other = clientSide row := by
    cases clientSide row <;> rfl
  rcases Side.eq_or_eq_other x (clientSide row) with rfl | rfl
  · rw [mappedOf, if_neg hne, behaviorOf, if_pos rfl, featureOf, if_neg hne]
    exact ⟨_, _, _, h.client⟩
  · rw [hback, mappedOf, if_pos rfl, behaviorOf, if_neg hne, featureOf, if_pos rfl]
    exact ⟨_, _, _, h.visitor⟩

/-- A row with one sender and one receiver, without further sockets. -/
structure OneSocket (row : Row) : Prop where
  sender : (behaviorOf row .sender).role = .sender
  receiver : (behaviorOf row .receiver).role = .receiver
  ports : ∀ x, (behaviorOf row x).listenRandomPorts ≤ 0 ∧ (behaviorOf row x).portsRandomNumber ≤ 0

theorem oneSocket_mode0 (h : row ∈ mode0Behaviors) :
    OneSocket row ∧ (behaviorOf row .receiver).portsRangeNumber ≤ 0 := by
  have hall : ∀ row ∈ mode0Behaviors, (behaviorOf row .sender).role = .sender ∧
      (behaviorOf row .receiver).role = .receiver ∧
      (∀ b ∈ [row.1, row.2], b.listenRandomPorts ≤ 0 ∧ b.portsRandomNumber ≤ 0) ∧
      (behaviorOf row .receiver).portsRangeNumber ≤ 0 := by decide
  obtain ⟨hsender, hreceiver, hports, hrange⟩ := hall row h
  refine ⟨⟨hsender, hreceiver, ?_⟩, hrange⟩
  intro x
  unfold behaviorOf
  split
  · exact hports _ (by simp)
  · exact hports _ (by simp)

theorem oneSocket_mode1 (h : row ∈ mode1Behaviors ∨ row.swap ∈ mode1Behaviors) :
    OneSocket row ∧ (behaviorOf row .receiver).portsRangeNumber = 10 := by
  have hall : ∀ row ∈ mode1Behaviors ++ mode1Behaviors.map Prod.swap,
      (behaviorOf row .sender).role = .sender ∧ (behaviorOf row .receiver).role = .receiver ∧
      (∀ b ∈ [row.1, row.2], b.listenRandomPorts ≤ 0 ∧ b.portsRandomNumber ≤ 0) ∧
      (behaviorOf row .receiver).portsRangeNumber = 10 := by decide
  have hmem : row ∈ mode1Behaviors ++ mode1Behaviors.map Prod.swap := by
    rcases h with h | h
    · exact List.mem_append_left _ h
    · exact List.mem_append_right _ (List.mem_map.mpr ⟨row.swap, h, Prod.swap_swap row⟩)
  obtain ⟨hsender, hreceiver, hports, hrange⟩ := hall row hmem
  refine ⟨⟨hsender, hreceiver, ?_⟩, hrange⟩
  intro x
  unfold behaviorOf
  split
  · exact hports _ (by simp)
  · exact hports _ (by simp)

/-- What the two calls share: the key, and a codec for their messages. -/
structure Shared (env : Env) : Prop where
  key : (env.ends .receiver).key = (env.ends .sender).key
  encodes : ∀ x n response iv, ∃ data,
    env.codec.encodeMessage (env.ends x).key { env.sid x n with response := response } iv =
      .ok data ∧ data.length ≤ bufSize

/-- The side `x` is behind a translator that shows it under one address, and the server has seen
that address. -/
structure EasyNat (env : Env) (mapped : List String) (x : Side) (addr : String) : Prop where
  mapping : ∀ d, (env.ends x).translator.mapping d = addr
  mapped : addr ∈ mapped
  resolve : env.resolve addr = some addr

theorem Recommended.ready (h : Recommended env sid vm cm mode row c v) (hrow : OneSocket row)
    (hshared : Shared env) {addr : String} {mapped : List String}
    (heasy : EasyNat env mapped .receiver addr) : Ready env := by
  have hresp : ∀ x, (env.ends x).resp.sid = sid ∧
      (env.ends x).resp.detectBehavior.role = (behaviorOf row x).role ∧
      (env.ends x).resp.detectBehavior.listenRandomPorts = (behaviorOf row x).listenRandomPorts ∧
      (env.ends x).resp.detectBehavior.sendRandomPorts = (behaviorOf row x).portsRandomNumber := by
    intro x
    obtain ⟨transactionID, assistedAddrs, readTimeoutMs, hx⟩ := h.resp x
    rw [hx]
    exact ⟨rfl, rfl, rfl, rfl⟩
  refine ⟨hshared.key, ?_, ?_, ?_, ?_, hshared.encodes, Translator.answers_of_const heasy.mapping⟩
  · rw [(hresp .receiver).1, (hresp .sender).1]
  · rw [(hresp .sender).2.1]
    exact hrow.sender
  · rw [(hresp .receiver).2.1, hrow.receiver]
    decide
  · intro x
    rw [(hresp x).2.2.1, (hresp x).2.2.2]
    exact hrow.ports x

/-- Both calls end, the receiver's with the address `src` and the sender's with `dst`. -/
def PunchedAt (s : State) (src dst : String) : Prop :=
  ∃ data response data' response', (s.peers .receiver).pc = .returning data src response ∧
    (s.peers .sender).pc = .returning data' dst response'

theorem Punched.at (h : Punched env s) {addr : String} {mapped : List String}
    (heasy : EasyNat env mapped .receiver addr) :
    PunchedAt s ((env.ends .sender).translator.mapping addr) addr := by
  obtain ⟨data, raddr, response, data', raddr', response', hr, hs, hraddr, hraddr'⟩ := h
  rw [heasy.mapping] at hraddr'
  rw [hraddr'] at hraddr hs
  exact ⟨_, _, _, _, hraddr ▸ hr, hs⟩

/-- Two sides behind NATs that do not change the port make the hole with any row of mode 0, if
what they send is in time. -/
theorem easy_nats_punched (hrow : row ∈ mode0Behaviors)
    (h : Recommended env sid vm cm 0 row c v) (hshared : Shared env) {src dst : String}
    (hsender : EasyNat env (mappedOf row vm cm .sender) .sender src)
    (hreceiver : EasyNat env (mappedOf row vm cm .receiver) .receiver dst)
    (hs : (system env).ReachableBy (Timely dst) s) (hq : Quiet env s) : PunchedAt s src dst := by
  obtain ⟨hone, hrange⟩ := oneSocket_mode0 hrow
  have hmeet : Meet env dst := by
    refine ⟨⟨dst, ?_, hreceiver.resolve⟩, ⟨src, ?_, ?_⟩, hreceiver.mapping _⟩
    · obtain ⟨transactionID, assistedAddrs, readTimeoutMs, hresp⟩ := h.resp .sender
      rw [hresp]
      exact mem_plan_of_mem (Or.inl hone.sender) hreceiver.mapped
    · obtain ⟨transactionID, assistedAddrs, readTimeoutMs, hresp⟩ := h.resp .receiver
      rw [hresp]
      exact mem_plan_of_mem (Or.inr hrange) hsender.mapped
    · rw [hsender.mapping]
      exact hsender.resolve
  have hpunched := meeting_plans_punch (h.ready hone hshared hreceiver) hmeet hs hq
  have hat := hpunched.at hreceiver
  rwa [hsender.mapping] at hat

/-- The answers of the server in an environment of two calls. -/
def responsesFor (vm : NatHoleVisitor) (cm : NatHoleClient) (mode : Int) (row : Row)
    (c v : NatFeature) (x : Side) : NatHoleResponse :=
  if x = clientSide row then (makeResponses "s" vm cm mode row.1 row.2 c v).2
  else (makeResponses "s" vm cm mode row.1 row.2 c v).1

theorem recommended_sampleEnv (vm : NatHoleVisitor) (cm : NatHoleClient) (mode : Int) (row : Row)
    (c v : NatFeature) (mapping : Side → String → String) :
    Recommended (sampleEnv (responsesFor vm cm mode row c v) mapping) "s" vm cm mode row c v := by
  refine ⟨if_pos rfl, if_neg ?_⟩
  cases clientSide row <;> decide

theorem shared_sampleEnv (vm : NatHoleVisitor) (cm : NatHoleClient) (mode : Int) (row : Row)
    (c v : NatFeature) (mapping : Side → String → String) :
    Shared (sampleEnv (responsesFor vm cm mode row c v) mapping) := by
  refine ⟨rfl, sampleEnv_encodes ?_⟩
  intro x
  unfold responsesFor
  split <;> rfl

def easyClient : NatHoleClient :=
  ⟨"c", "p", "s", ["1.1.1.1:5000", "1.1.1.1:5000"], []⟩

def easyFeature : NatFeature := ⟨.easyNAT, .noChange, 0, false, false⟩

/-- The client sends with the first row of mode 0, and the visitor receives. -/
def easyRow : Row := ({ role := .sender }, { role := .receiver, ttl := 7 })

def easyEnv : Env :=
  sampleEnv (responsesFor easyVisitor easyClient 0 easyRow easyFeature easyFeature) sampleMapping

theorem easy_nats_punched_first_row :
    ∃ s, (system easyEnv).ReachableBy (Timely "2.2.2.2:6000") s ∧ Quiet easyEnv s ∧
      PunchedAt s "1.1.1.1:5000" "2.2.2.2:6000" := by
  obtain ⟨s, hs, hp⟩ := System.reachableBy_of_run
    (S := system easyEnv) (C := Timely "2.2.2.2:6000")
    (l := [.send .receiver 0 [], .send .sender 1 [], .deliver 1, .lose 0, .read .receiver,
      .reply .receiver [], .deliver 0, .read .sender])
    (p := bothReturn) (by decide +kernel) (by decide +kernel)
  have hq : Quiet easyEnv s := quiet_of_bothReturn hp
  have hrow : easyRow ∈ mode0Behaviors := by decide
  refine ⟨s, hs, hq, easy_nats_punched hrow
    (recommended_sampleEnv easyVisitor easyClient 0 easyRow easyFeature easyFeature _)
    (shared_sampleEnv ..) ⟨fun _ => rfl, ?_, rfl⟩ ⟨fun _ => rfl, ?_, rfl⟩ hs hq⟩
  · decide
  · decide

/-- The side `x` is behind a translator that changes the port regularly: what is sent to `dst`
has a port near the last one that the server has seen. -/
structure RegularNat (env : Env) (mapped : List String) (difference : Int64) (x : Side)
    (dst : String) (last : Endpoint) (port : Int) : Prop where
  seen : ∃ addr, mapped.getLast? = some addr ∧ endpoint addr = .ok last
  noRepeat : mapped.IsChain (· ≠ ·)
  seenPort : 1 ≤ last.portNum.toInt ∧ last.portNum.toInt ≤ 65535
  spread : 0 ≤ difference.toInt ∧ difference.toInt ≤ 65535
  isPort : 1 ≤ port ∧ port ≤ 65535
  near : -(min (difference.toInt + 5) 10) ≤ port - last.portNum.toInt ∧
    port - last.portNum.toInt ≤ min (difference.toInt + 5) 10
  resolve : env.resolve (joinHostPort last.host (toString port)) =
    some ((env.ends x).translator.mapping dst)

theorem RegularNat.mem_plan {mapped : List String} {difference : Int64} {x : Side} {dst : String}
    {last : Endpoint} {port : Int} (h : RegularNat env mapped difference x dst last port)
    {transactionID protocol : String} {assistedAddrs : List String} {behavior : RecommandBehavior}
    {readTimeoutMs : Int64} (hrange : behavior.portsRangeNumber = 10) :
    joinHostPort last.host (toString port) ∈ plan (newNatHoleResponse transactionID sid protocol
      mode mapped assistedAddrs behavior readTimeoutMs difference) := by
  obtain ⟨addr, hlast, hend⟩ := h.seen
  have hten : (10 : Int64).toInt = 10 := by decide
  have hports := (getRangePorts_compacted (n := 10) (by decide) hlast hend difference).1 h.noRepeat
  have hport : port ∈ (rangeAround last.portNum difference 10).ports := by
    rw [mem_ports_of_port (by decide) (by decide) h.seenPort.1 h.seenPort.2 h.spread.1
      h.spread.2 h.isPort.1 h.isPort.2, hten]
    exact h.near
  have hip : last.host ∈ parseIPs (compact mapped) := by
    refine List.mem_filterMap.mpr ⟨addr, mem_compact (List.mem_of_getLast? hlast), ?_⟩
    rw [(endpoint_ok_iff.mp hend).1]
    rfl
  refine mem_plan_of_port (r := rangeAround last.portNum difference 10) ?_ hip hport
  rw [hrange, hports]
  exact List.mem_singleton_self _

/-- A side behind a NAT that changes the port regularly and one behind a NAT that does not make
the hole with any row of mode 1, if the first one has reported no address twice in a row and what
they send is in time. -/
theorem regular_nat_punched (hrow : row ∈ mode1Behaviors ∨ row.swap ∈ mode1Behaviors)
    (h : Recommended env sid vm cm 1 row c v) (hshared : Shared env) {dst : String}
    {last : Endpoint} {port : Int}
    (hsender : RegularNat env (mappedOf row vm cm .sender)
      (featureOf row c v .sender).portsDifference .sender dst last port)
    (hreceiver : EasyNat env (mappedOf row vm cm .receiver) .receiver dst)
    (hs : (system env).ReachableBy (Timely dst) s) (hq : Quiet env s) :
    PunchedAt s ((env.ends .sender).translator.mapping dst) dst := by
  obtain ⟨hone, hrange⟩ := oneSocket_mode1 hrow
  have hmeet : Meet env dst := by
    refine ⟨⟨dst, ?_, hreceiver.resolve⟩, ⟨_, ?_, hsender.resolve⟩, hreceiver.mapping _⟩
    · obtain ⟨transactionID, assistedAddrs, readTimeoutMs, hresp⟩ := h.resp .sender
      rw [hresp]
      exact mem_plan_of_mem (Or.inl hone.sender) hreceiver.mapped
    · obtain ⟨transactionID, assistedAddrs, readTimeoutMs, hresp⟩ := h.resp .receiver
      rw [hresp]
      exact hsender.mem_plan hrange
  exact (meeting_plans_punch (h.ready hone hshared hreceiver) hmeet hs hq).at hreceiver

def regularFeature : NatFeature := ⟨.hardNAT, .portChanged, 2, true, false⟩

def regularRow : Row :=
  ({ role := .sender }, { role := .receiver, ttl := 7, portsRangeNumber := 10 })

/-- The client's translator takes a new port for the visitor. -/
def regularMapping : Side → String → String
  | .sender, _ => "1.1.1.1:5004"
  | .receiver, _ => "2.2.2.2:6000"

def regularEnv : Env :=
  sampleEnv (responsesFor easyVisitor (regularClient ["1.1.1.1:5000", "1.1.1.1:5002"]) 1 regularRow
    regularFeature easyFeature) regularMapping

/-- The visitor sends to fifteen ports, and one of the datagrams opens the way. -/
theorem regular_nat_punched_first_row :
    ∃ s, (system regularEnv).ReachableBy (Timely "2.2.2.2:6000") s ∧ Quiet regularEnv s ∧
      PunchedAt s "1.1.1.1:5004" "2.2.2.2:6000" := by
  obtain ⟨s, hs, hp⟩ := System.reachableBy_of_run
    (S := system regularEnv) (C := Timely "2.2.2.2:6000")
    (l := .send .sender 1 [] :: List.replicate 15 (.send .receiver 0 []) ++
      [.deliver 0, .read .receiver, .reply .receiver []] ++ List.replicate 15 (.lose 0) ++
      [.deliver 0, .read .sender])
    (p := bothReturn) (by decide +kernel) (by decide +kernel)
  have hq : Quiet regularEnv s := quiet_of_bothReturn hp
  have hrow : regularRow ∈ mode1Behaviors ∨ regularRow.swap ∈ mode1Behaviors := by decide
  have hsender : RegularNat regularEnv ["1.1.1.1:5000", "1.1.1.1:5002"] 2 .sender "2.2.2.2:6000"
      ⟨"1.1.1.1", "5002", 5002⟩ 5004 := by
    refine ⟨⟨"1.1.1.1:5002", by decide, by decide +kernel⟩, ?_, ?_, ?_, ?_, ?_, ?_⟩
    all_goals decide
  exact ⟨s, hs, hq, regular_nat_punched hrow
    (recommended_sampleEnv easyVisitor _ 1 regularRow regularFeature easyFeature _)
    (shared_sampleEnv ..) hsender ⟨fun _ => rfl, by decide, rfl⟩ hs hq⟩

end FrpXtcp.Nathole.HolePunch

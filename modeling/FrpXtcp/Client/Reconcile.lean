import FrpXtcp.Client.Reload

/-!
# Reloads leave the configured proxies

After every `UpdateAll` the manager has one wrapper for each listed configuration, and a
wrapper whose configuration is unchanged is the one it had before. The wrappers that were
taken out stay stopped, and their successors ask for the proxy only after them.
-/
namespace FrpXtcp.Client.Reload

open FrpXtcp.Lib

/-- The names of a list of configurations are distinct. -/
def DistinctNames (_ : State) : Action → Prop
  | .updateAll cfgs _ => (cfgs.map ProxyConfig.name).Nodup
  | _ => True

instance (s : State) : (a : Action) → Decidable (DistinctNames s a)
  | .updateAll cfgs _ => inferInstanceAs (Decidable (cfgs.map ProxyConfig.name).Nodup)
  | .updateNext | .checkWorker _ _ | .startProxy _ | .setRunningStatus _ => isTrue trivial

section KeyBy

variable {cfgs : List ProxyConfig} {cfg : ProxyConfig} {name : String}

theorem keyBy_get? (cfgs : List ProxyConfig) (name : String) :
    (Manager.keyBy cfgs).get? name = cfgs.reverse.find? fun cfg => cfg.name = name := by
  rw [Manager.keyBy, GoMap.get?_foldl_insert, GoMap.get?_empty, Option.or_none]

theorem mem_of_keyBy (h : (Manager.keyBy cfgs).get? name = some cfg) :
    cfg ∈ cfgs ∧ cfg.name = name := by
  rw [keyBy_get?] at h
  exact ⟨List.mem_reverse.mp (List.mem_of_find?_eq_some h), by simpa using List.find?_some h⟩

theorem keyBy_of_mem (hd : (cfgs.map ProxyConfig.name).Nodup) (h : cfg ∈ cfgs) :
    (Manager.keyBy cfgs).get? cfg.name = some cfg := by
  have hsome : ((Manager.keyBy cfgs).get? cfg.name).isSome := by
    rw [keyBy_get?, List.find?_isSome]
    exact ⟨cfg, List.mem_reverse.mpr h, by simp⟩
  obtain ⟨cfg', hcfg'⟩ := Option.isSome_iff_exists.mp hsome
  obtain ⟨hmem, hname⟩ := mem_of_keyBy hcfg'
  rw [hcfg', List.inj_on_of_nodup_map hd hmem h hname]

end KeyBy

/-- The loops of `UpdateAll` still have to look at the old proxies `names` and the
configurations `rest`. -/
structure Reconciling (s : State) (names : List String) (rest : List ProxyConfig) : Prop where
  kept : ∀ name w, s.prior.get? name = some w →
    name ∈ names ∨ (Manager.keyBy s.listed).get? name = some (s.pm.wrappers w).cfg →
    s.pm.proxies.get? name = some w
  held : ∀ name w, s.pm.proxies.get? name = some w →
    name ∈ names ∨ (Manager.keyBy s.listed).get? name = some (s.pm.wrappers w).cfg
  added : ∀ cfg ∈ s.listed, cfg ∈ rest ∨ (s.pm.proxies.get? cfg.name).isSome
  listed : ∀ cfg ∈ rest, cfg ∈ s.listed

def Progress (s : State) : Prop :=
  match s.pm.update with
  | .idle => Reconciling s [] []
  | .removing cfgs names => cfgs = s.listed ∧ names.Nodup ∧ Reconciling s names s.listed
  | .adding rest => Reconciling s [] rest

/-- The state of the last `UpdateAll`. -/
structure Loop (s : State) : Prop where
  distinct : (s.listed.map ProxyConfig.name).Nodup
  prior : ∀ name w, s.prior.get? name = some w →
    w < s.pm.nextWrapper ∧ (s.pm.wrappers w).name = name
  progress : Progress s

variable {user : String} {s s' : State}

theorem loop_init : Loop init := by
  refine ⟨List.nodup_nil, nofun, ?_⟩
  exact ⟨nofun, nofun, nofun, nofun⟩

/-- The map and the configurations are as before. -/
theorem Reconciling.congr {names : List String} {rest : List ProxyConfig}
    (h : Reconciling s names rest) (hp : s'.pm.proxies = s.pm.proxies)
    (hprior : s'.prior = s.prior) (hl : s'.listed = s.listed)
    (hcfg : ∀ w, (s'.pm.wrappers w).cfg = (s.pm.wrappers w).cfg) : Reconciling s' names rest := by
  refine ⟨fun name w => ?_, fun name w => ?_, fun cfg => ?_, fun cfg => ?_⟩
  · rw [hprior, hl, hcfg, hp]
    exact h.kept name w
  · rw [hl, hcfg, hp]
    exact h.held name w
  · rw [hl, hp]
    exact h.added cfg
  · rw [hl]
    exact h.listed cfg

/-- The loop has looked at a proxy that stays, or is not there. -/
theorem Reconciling.keep {name : String} {names : List String} {rest : List ProxyConfig}
    (h : Reconciling s (name :: names) rest)
    (hk : ∀ w, s.pm.proxies.get? name = some w →
      (Manager.keyBy s.listed).get? name = some (s.pm.wrappers w).cfg) :
    Reconciling s names rest := by
  refine ⟨fun n w hw hn => ?_, fun n w hw => ?_, h.added, h.listed⟩
  · exact h.kept n w hw (hn.imp_left (List.mem_cons_of_mem name))
  · rcases h.held n w hw with hn | hn
    · rcases List.mem_cons.mp hn with rfl | hn
      · exact .inr (hk w hw)
      · exact .inl hn
    · exact .inr hn

/-- The loop has removed a proxy whose configuration is gone or has changed. -/
theorem Reconciling.stop {name : String} {names : List String} {w : Nat}
    (h : Reconciling s (name :: names) s.listed) (hnodup : (name :: names).Nodup)
    (hw : s.pm.proxies.get? name = some w)
    (hk : (Manager.keyBy s.listed).get? name ≠ some (s.pm.wrappers w).cfg)
    (hp : s'.pm.proxies = s.pm.proxies.erase name) (hprior : s'.prior = s.prior)
    (hl : s'.listed = s.listed)
    (hcfg : ∀ w, (s'.pm.wrappers w).cfg = (s.pm.wrappers w).cfg) :
    Reconciling s' names s'.listed := by
  refine ⟨fun n v => ?_, fun n v => ?_, fun cfg hc => .inl hc, fun cfg hc => hc⟩
  · rw [hprior, hl, hcfg, hp, GoMap.get?_erase]
    intro hv hn
    have hold := h.kept n v hv (hn.imp_left (List.mem_cons_of_mem name))
    have hne : n ≠ name := by
      rintro rfl
      obtain rfl := Option.some.inj (hw.symm.trans hold)
      exact hn.elim (List.nodup_cons.mp hnodup).1 hk
    rw [if_neg hne]
    exact hold
  · rw [hl, hcfg, hp, GoMap.get?_erase]
    intro hv
    split at hv
    · cases hv
    · rename_i hne
      exact (h.held n v hv).imp_left fun hn => (List.mem_cons.mp hn).resolve_left hne

/-- The loop has found that a configuration has its proxy. -/
theorem Reconciling.present {cfg : ProxyConfig} {rest : List ProxyConfig}
    (h : Reconciling s [] (cfg :: rest)) (hn : (s.pm.proxies.get? cfg.name).isSome) :
    Reconciling s [] rest := by
  refine ⟨h.kept, h.held, fun c hc => ?_, fun c hc => h.listed c (List.mem_cons_of_mem _ hc)⟩
  rcases h.added c hc with hr | hr
  · rcases List.mem_cons.mp hr with rfl | hr
    · exact .inr hn
    · exact .inl hr
  · exact .inr hr

/-- The loop has made the wrapper of a configuration. -/
theorem Reconciling.add (hc : ClientOk user s.pm) (hloop : Loop s) {cfg : ProxyConfig}
    {rest : List ProxyConfig} (h : Reconciling s [] (cfg :: rest))
    (hn : s.pm.proxies.get? cfg.name = none)
    (hp : s'.pm.proxies = s.pm.proxies.insert cfg.name s.pm.nextWrapper)
    (hprior : s'.prior = s.prior) (hl : s'.listed = s.listed)
    (hwr : s'.pm.wrappers = (s.pm.setWrapper s.pm.nextWrapper (.new user cfg)).wrappers) :
    Reconciling s' [] rest := by
  have hold : ∀ v, v < s.pm.nextWrapper → s'.pm.wrappers v = s.pm.wrappers v := by
    intro v hv
    rw [hwr, Manager.setWrapper_wrappers, if_neg (Nat.ne_of_lt hv)]
  refine ⟨fun n v => ?_, fun n v => ?_, fun c => ?_, fun c hc => ?_⟩
  · rw [hprior, hl, hp, GoMap.get?_insert]
    intro hv hk
    rw [hold v (hloop.prior n v hv).1] at hk
    have hmap := h.kept n v hv hk
    have hne : n ≠ cfg.name := by
      rintro rfl
      rw [hn] at hmap
      cases hmap
    rw [if_neg hne]
    exact hmap
  · rw [hl, hp, GoMap.get?_insert]
    intro hv
    split at hv
    · rename_i hname
      cases hv
      rw [hname, keyBy_of_mem hloop.distinct (h.listed cfg List.mem_cons_self), hwr,
        Manager.setWrapper_wrappers, if_pos rfl]
      exact .inr rfl
    · rw [hold v (hc.named n v hv).1]
      exact h.held n v hv
  · rw [hl, hp, GoMap.get?_insert]
    intro hmem
    split
    · exact .inr rfl
    · rename_i hne
      rcases h.added c hmem with hr | hr
      · rcases List.mem_cons.mp hr with rfl | hr
        · exact absurd rfl hne
        · exact .inl hr
      · exact .inr hr
  · rw [hl]
    exact h.listed c (List.mem_cons_of_mem _ hc)

theorem Progress.congr (h : Progress s) (hu : s'.pm.update = s.pm.update)
    (hp : s'.pm.proxies = s.pm.proxies) (hprior : s'.prior = s.prior)
    (hl : s'.listed = s.listed)
    (hcfg : ∀ w, (s'.pm.wrappers w).cfg = (s.pm.wrappers w).cfg) : Progress s' := by
  unfold Progress at h ⊢
  rw [hu]
  split at h
  · exact h.congr hp hprior hl hcfg
  · obtain ⟨hcfgs, hnodup, hr⟩ := h
    rw [hl]
    exact ⟨hcfgs, hnodup, hr.congr hp hprior hl hcfg⟩
  · exact h.congr hp hprior hl hcfg

/-- `UpdateAll` begins with all proxies and all configurations before it. -/
theorem Reconciling.begin {order : List String}
    (hperm : order.Perm (s.pm.proxies.toList.map Prod.fst))
    (hp : s'.pm.proxies = s.pm.proxies) (hprior : s'.prior = s.pm.proxies) :
    Reconciling s' order s'.listed := by
  refine ⟨fun name w hw _ => ?_, fun name w hw => ?_, fun cfg hc => .inl hc, fun cfg hc => hc⟩
  · rw [hp, ← hprior]
    exact hw
  · rw [hp, ← GoMap.mem_toList_iff] at hw
    exact .inl (hperm.mem_iff.mpr (List.mem_map_of_mem hw))

theorem Effect.progress {a : Action} (hi : Inv user s) (hloop : Loop s)
    (he : Effect user s a s') : Progress s' := by
  have h := hloop.progress
  cases he with
  | begin hidle hperm =>
    exact ⟨rfl, hperm.nodup_iff.mpr s.pm.proxies.nodup, .begin hperm rfl rfl⟩
  | removed hu =>
    rw [Progress, hu] at h
    obtain ⟨rfl, -, hr⟩ := h
    exact hr.congr rfl rfl rfl fun _ => rfl
  | missing hu hn =>
    rw [Progress, hu] at h
    obtain ⟨rfl, hnodup, hr⟩ := h
    have hkeep := hr.keep fun w hw => absurd (hw.symm.trans hn) nofun
    exact ⟨rfl, (List.nodup_cons.mp hnodup).2, hkeep.congr rfl rfl rfl fun _ => rfl⟩
  | keep hu hw hk =>
    rw [Progress, hu] at h
    obtain ⟨rfl, hnodup, hr⟩ := h
    have hkeep := hr.keep fun v hv => by
      rw [← Option.some.inj (hw.symm.trans hv)]
      exact hk
    exact ⟨rfl, (List.nodup_cons.mp hnodup).2, hkeep.congr rfl rfl rfl fun _ => rfl⟩
  | stop hu hw hk =>
    rw [Progress, hu] at h
    obtain ⟨rfl, hnodup, hr⟩ := h
    exact ⟨rfl, (List.nodup_cons.mp hnodup).2,
      hr.stop hnodup hw hk rfl rfl rfl (Manager.setWrapper_same Wrapper.cfg rfl)⟩
  | finish hu =>
    rw [Progress, hu] at h
    exact h.congr rfl rfl rfl fun _ => rfl
  | present hu hn =>
    rw [Progress, hu] at h
    exact (h.present hn).congr rfl rfl rfl fun _ => rfl
  | add hu hn =>
    rw [Progress, hu] at h
    exact h.add hi.client hloop hn rfl rfl rfl rfl
  | rest hw => exact h
  | ask hw hdue => exact h.congr rfl rfl rfl rfl (Manager.setWrapper_same Wrapper.cfg rfl)
  | unknown => exact h
  | found hidle => exact h.congr rfl rfl rfl rfl fun _ => rfl
  | status hsame hclosed =>
    exact h.congr rfl rfl rfl rfl (Manager.setWrapper_same Wrapper.cfg hsame.cfg)

theorem loop_step {a : Action} (hi : Inv user s) (hloop : Loop s) (hd : DistinctNames s a)
    (h : step user s a = some s') : Loop s' := by
  have he := step_effect hi.client h
  have hprogress := he.progress hi hloop
  obtain ⟨l, hl⟩ := he.change hi.client
  have hold : ∀ name w, s.prior.get? name = some w →
      w < s'.pm.nextWrapper ∧ (s'.pm.wrappers w).name = name := by
    intro name w hw
    obtain ⟨hlt, hname⟩ := hloop.prior name w hw
    exact ⟨Nat.lt_of_lt_of_le hlt hl.made.1, (hl.same w hlt).name.trans hname⟩
  cases he with
  | begin hidle hperm =>
    refine ⟨hd, fun name w hw => ?_, hprogress⟩
    obtain ⟨hlt, hname, -⟩ := hi.client.named name w hw
    exact ⟨hlt, hname⟩
  | _ => exact ⟨hloop.distinct, hold, hprogress⟩

theorem loop_reachable (h : (system user).ReachableBy DistinctNames s) : Inv user s ∧ Loop s := by
  refine System.invariant_by (I := fun s => Inv user s ∧ Loop s) ⟨inv_init, loop_init⟩ ?_ h
  intro s a s' _ hs hd hstep
  exact ⟨inv_step hs.1 hstep, loop_step hs.1 hs.2 hd hstep⟩

/-- What an `UpdateAll` that has returned leaves: one wrapper for each listed name, with the
listed configuration. Of the wrappers it found, those whose configuration is listed are still
the ones in the map, and the others have been stopped. -/
structure Reconciled (s : State) : Prop where
  names : ∀ name, (s.pm.proxies.get? name).isSome ↔ name ∈ s.listed.map ProxyConfig.name
  config : ∀ cfg ∈ s.listed, ∀ w, s.pm.proxies.get? cfg.name = some w →
    (s.pm.wrappers w).cfg = cfg
  distinct : ∀ name name' w, s.pm.proxies.get? name = some w →
    s.pm.proxies.get? name' = some w → name = name'
  unchanged : ∀ name w, s.prior.get? name = some w →
    (∃ cfg ∈ s.listed, cfg.name = name ∧ (s.pm.wrappers w).cfg = cfg) →
    s.pm.proxies.get? name = some w ∧ s.stops w = 0 ∧ (s.pm.wrappers w).phase ≠ .closed
  changed : ∀ name w, s.prior.get? name = some w →
    (¬ ∃ cfg ∈ s.listed, cfg.name = name ∧ (s.pm.wrappers w).cfg = cfg) →
    (∀ name', s.pm.proxies.get? name' ≠ some w) ∧ s.stops w = 1 ∧
      (s.pm.wrappers w).phase = .closed

/-- A wrapper in the map is not stopped. -/
theorem Inv.stops_eq_zero (hi : Inv user s) {name : String} {w : Nat}
    (hw : s.pm.proxies.get? name = some w) :
    s.stops w = 0 ∧ (s.pm.wrappers w).phase ≠ .closed := by
  obtain ⟨-, -, hopen⟩ := hi.client.named name w hw
  rw [hi.stops, if_neg fun h => hopen h.2]
  exact ⟨rfl, hopen⟩

/-- A wrapper that is not in the map any more was stopped once. -/
theorem Inv.stops_eq_one (hi : Inv user s) {w : Nat} (hw : w < s.pm.nextWrapper)
    (hout : ∀ name, s.pm.proxies.get? name ≠ some w) :
    s.stops w = 1 ∧ (s.pm.wrappers w).phase = .closed := by
  have hclosed := (hi.client.current w hw).resolve_right (hout _)
  rw [hi.stops, if_pos ⟨hw, hclosed⟩]
  exact ⟨rfl, hclosed⟩

theorem Loop.reconciled (hi : Inv user s) (hloop : Loop s) (hidle : s.pm.update = .idle) :
    Reconciled s := by
  have h := hloop.progress
  rw [Progress, hidle] at h
  have hheld : ∀ name w, s.pm.proxies.get? name = some w →
      (Manager.keyBy s.listed).get? name = some (s.pm.wrappers w).cfg :=
    fun name w hw => (h.held name w hw).resolve_left nofun
  refine ⟨fun name => ⟨fun hs => ?_, fun hs => ?_⟩, fun cfg hc w hw => ?_,
    fun name name' w hw hw' => ?_, ?_, ?_⟩
  · obtain ⟨w, hw⟩ := Option.isSome_iff_exists.mp hs
    obtain ⟨hmem, hname⟩ := mem_of_keyBy (hheld name w hw)
    exact List.mem_map.mpr ⟨_, hmem, hname⟩
  · obtain ⟨cfg, hc, rfl⟩ := List.mem_map.mp hs
    exact (h.added cfg hc).resolve_left nofun
  · have hk := hheld cfg.name w hw
    rw [keyBy_of_mem hloop.distinct hc] at hk
    exact (Option.some.inj hk).symm
  · rw [← (hi.client.named name w hw).2.1, ← (hi.client.named name' w hw').2.1]
  · rintro name w hw ⟨cfg, hc, rfl, hcfg⟩
    have hmap := h.kept cfg.name w hw (.inr (by rw [keyBy_of_mem hloop.distinct hc, hcfg]))
    exact ⟨hmap, hi.stops_eq_zero hmap⟩
  · intro name w hw hnot
    obtain ⟨hlt, hname⟩ := hloop.prior name w hw
    have hout : ∀ name', s.pm.proxies.get? name' ≠ some w := by
      intro name' hmap
      have hn : name' = name := by rw [← (hi.client.named name' w hmap).2.1, hname]
      obtain ⟨hmem, hcfg⟩ := mem_of_keyBy (hheld name' w hmap)
      exact hnot ⟨_, hmem, hcfg.trans hn, rfl⟩
    exact ⟨hout, hi.stops_eq_one hlt hout⟩

/-- A step of `UpdateAll`. -/
def Action.IsUpdate : Action → Prop
  | .updateAll _ _ | .updateNext => True
  | _ => False

/-- `UpdateAll` does not touch the wrappers that it does not stop. -/
theorem Inv.untouched (hi : Inv user s) {a : Action} (ha : a.IsUpdate)
    (h : step user s a = some s') {w : Nat} (hw : w < s.pm.nextWrapper)
    (hs : s'.stops w = s.stops w) : s'.pm.wrappers w = s.pm.wrappers w := by
  have he := step_effect hi.client h
  cases he with
  | @stop _ _ _ v hu hv hk =>
    have hne : w ≠ v := by
      rintro rfl
      simp at hs
    exact (Manager.setWrapper_wrappers ..).trans (if_neg hne)
  | add hu hn => exact (Manager.setWrapper_wrappers ..).trans (if_neg (Nat.ne_of_lt hw))
  | ask => exact ha.elim
  | status => exact ha.elim
  | _ => rfl

/-- A wrapper that is not in the map any more stays stopped and asks for nothing. -/
theorem Inv.stopped_for_ever (hr : (system user).Reachable s) {w : Nat}
    (hw : w < s.pm.nextWrapper) (hclosed : (s.pm.wrappers w).phase = .closed)
    (h : (system user).Reaches s s') :
    s'.stops w = 1 ∧ (s'.pm.wrappers w).phase = .closed ∧
      ∃ later, s'.sent = s.sent ++ later ∧ ∀ m, (w, .newProxy m) ∉ later := by
  have hstable : w < s'.pm.nextWrapper ∧ (s'.pm.wrappers w).phase = .closed ∧
      ∃ later, s'.sent = s.sent ++ later ∧ ∀ m, (w, .newProxy m) ∉ later := by
    refine System.Reaches.stable (P := fun t => w < t.pm.nextWrapper ∧
      (t.pm.wrappers w).phase = .closed ∧
        ∃ later, t.sent = s.sent ++ later ∧ ∀ m, (w, .newProxy m) ∉ later) ?_ h hr
      ⟨hw, hclosed, [], (List.append_nil _).symm, nofun⟩
    rintro t a t' ht ⟨hlt, hcl, later, hsent, hnone⟩ hstep
    have hi := inv_reachable ht
    obtain ⟨l, hl⟩ := (step_effect hi.client hstep).change hi.client
    obtain ⟨hcl', hnone'⟩ := hl.closed w hlt hcl
    refine ⟨Nat.lt_of_lt_of_le hlt hl.made.1, hcl', later ++ l, ?_, fun m hm => ?_⟩
    · rw [hl.sent, hsent, List.append_assoc]
    · exact (List.mem_append.mp hm).elim (hnone m) (hnone' m)
  obtain ⟨hlt, hcl, hlater⟩ := hstable
  refine ⟨?_, hcl, hlater⟩
  rw [(inv_reachable (h.reachable hr)).stops, if_pos ⟨hlt, hcl⟩]

/-- Reloads reconcile the proxies of the client with the configurations. -/
theorem reloads_reconcile (h : (system user).ReachableBy DistinctNames s) :
    (s.pm.update = .idle → Reconciled s) ∧
    (∀ (a : Action) s', a.IsUpdate → step user s a = some s' → ∀ w, w < s.pm.nextWrapper →
      s'.stops w = s.stops w → s'.pm.wrappers w = s.pm.wrappers w) ∧
    (∀ w, w < s.pm.nextWrapper → (∀ name, s.pm.proxies.get? name ≠ some w) →
      s.stops w = 1 ∧ (s.pm.wrappers w).phase = .closed ∧
      ∀ s', (system user).Reaches s s' → s'.stops w = 1 ∧ (s'.pm.wrappers w).phase = .closed ∧
        ∃ later, s'.sent = s.sent ++ later ∧ ∀ m, (w, .newProxy m) ∉ later) ∧
    (∀ pre w' m post, s.sent = pre ++ (w', .newProxy m) :: post → ∀ w, w < w' →
      (s.pm.wrappers w).name = (s.pm.wrappers w').name →
      (w, (s.pm.wrappers w).closeMsg) ∈ pre) := by
  obtain ⟨hi, hloop⟩ := loop_reachable h
  refine ⟨hloop.reconciled hi, fun a s' ha hs w hw => hi.untouched ha hs hw,
    fun w hw hout => ?_, hi.order⟩
  obtain ⟨hstops, hclosed⟩ := hi.stops_eq_one hw hout
  exact ⟨hstops, hclosed, fun s' => Inv.stopped_for_ever h.reachable hw hclosed⟩

/-- A configuration with a name and a local port. -/
def sampleConfig (name : String) (localPort : Int) : ProxyConfig :=
  ⟨name, "xtcp", none, [], false, false, [], "127.0.0.1", localPort, "key", [], none⟩

/-- Two proxies are started and the port of the first one changes. -/
def portChanged : List Action :=
  [.updateAll [sampleConfig "a" 80, sampleConfig "b" 22] [], .updateNext, .updateNext,
    .updateNext, .updateNext, .checkWorker 0 1, .startProxy ⟨"u.a", "", ""⟩,
    .setRunningStatus 2, .updateAll [sampleConfig "a" 81, sampleConfig "b" 22] ["a", "b"],
    .updateNext, .checkWorker 0 3, .updateNext, .updateNext, .updateNext, .updateNext,
    .updateNext, .checkWorker 2 4]

theorem reloads_reconcile_port : ∃ s, (system "u").ReachableBy DistinctNames s ∧
    s.pm.update = .idle ∧ Reconciled s ∧ s.pm.proxies.get? "a" = some 2 ∧
    s.pm.proxies.get? "b" = some 1 ∧ s.stops 1 = 0 ∧ s.stops 0 = 1 ∧
    ∃ pre m, s.sent = pre ++ [(2, .newProxy m)] ∧ (0, (s.pm.wrappers 0).closeMsg) ∈ pre := by
  obtain ⟨s, hs, hp⟩ := System.reachableBy_of_run (S := system "u") (C := DistinctNames)
    (l := portChanged)
    (p := fun s : State => decide (s.pm.update = .idle ∧ s.pm.proxies.get? "a" = some 2 ∧
      s.pm.proxies.get? "b" = some 1 ∧ s.prior.get? "a" = some 0 ∧ s.prior.get? "b" = some 1 ∧
      s.listed = [sampleConfig "a" 81, sampleConfig "b" 22] ∧
      (s.pm.wrappers 0).cfg = sampleConfig "a" 80 ∧
      (s.pm.wrappers 1).cfg = sampleConfig "b" 22 ∧
      (s.pm.wrappers 0).name = (s.pm.wrappers 2).name ∧
      s.sent = s.sent.dropLast ++ [(2, .newProxy (s.pm.wrappers 2).newProxyMsg)]))
    (by decide +kernel) (by decide +kernel)
  obtain ⟨hidle, ha, hb, hpa, hpb, hlisted, h0, h1, hname, hsent⟩ := of_decide_eq_true hp
  obtain ⟨hreconciled, -, -, horder⟩ := reloads_reconcile hs
  have hr := hreconciled hidle
  have hunchanged := hr.unchanged "b" 1 hpb ⟨sampleConfig "b" 22, by simp [hlisted], rfl, h1⟩
  have hchanged := hr.changed "a" 0 hpa (by
    rw [hlisted, h0]
    decide)
  exact ⟨s, hs, hidle, hr, ha, hb, hunchanged.2.1, hchanged.2.1, _, _, hsent,
    horder _ 2 _ [] hsent 0 (by decide) hname⟩

end FrpXtcp.Client.Reload

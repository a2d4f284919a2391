import FrpXtcp.Config.StoreMutations
import FrpXtcp.Lib.Transition

/-!
# What the store accepts and what it can read

The mutators check that a configuration has a name. The loader also needs a type that it
knows, and one entry without it makes the whole file unreadable. After mutations that all
succeeded, the file can therefore be read again exactly when every entry has such a type, and
then it gives the same maps.
-/
namespace FrpXtcp.Config

open FrpXtcp.Lib
open FrpXtcp.Client (ProxyConfig VisitorConfig)

variable {Raw Text : Type}

/-- The mutations that succeed, from an empty store. -/
def mutations (codec : Codec Raw Text) (path : String) (disk : Disk Text) :
    System (State Text) (Env Text × Call) :=
  ⟨fresh path disk, fun s a =>
    match call codec a.1 s a.2 with
    | (s', none) => some s'
    | (_, some _) => none⟩

theorem mutations_step {codec : Codec Raw Text} {path : String} {disk : Disk Text}
    {s s' : State Text} {a : Env Text × Call} (h : (mutations codec path disk).step s a = some s') :
    call codec a.1 s a.2 = (s', none) := by
  simp only [mutations] at h
  split at h
  · obtain rfl := Option.some.inj h
    assumption
  · cases h

theorem mutations_step_of_nil {codec : Codec Raw Text} {path : String} {disk : Disk Text}
    {s : State Text} {a : Env Text × Call} (h : (call codec a.1 s a.2).2 = none) :
    (mutations codec path disk).step s a = some (call codec a.1 s a.2).1 := by
  simp only [mutations]
  split
  · rename_i s' hcall
    rw [hcall]
  · rename_i s' err hcall
    rw [hcall] at h
    cases h

section Named

variable {T : Type} [Configurer T]

/-- Every configuration stands under its own name, which is not empty. -/
def NamedEntries (entries : String → Option T) : Prop :=
  ∀ n cfg, entries n = some cfg → Configurer.name cfg = n ∧ n ≠ ""

theorem EntryChange.named {entries e : String → Option T} {name : Option String}
    (h : EntryChange entries e name) (hnamed : NamedEntries entries) : NamedEntries e := by
  obtain ⟨k, x, -, hk, rfl, hx⟩ := h.eq_update
  intro n cfg hget
  by_cases hn : n = k
  · rw [hn, Function.update_self] at hget
    rw [hn]
    exact ⟨hx cfg hget, hk⟩
  · rw [Function.update_of_ne hn] at hget
    exact hnamed n cfg hget

theorem namedEntries_empty : NamedEntries (fun _ => none : String → Option T) := by
  intro n cfg h
  exact absurd h.symm (Option.some_ne_none cfg)

end Named

structure Contents.Named (c : Contents) : Prop where
  proxies : NamedEntries c.proxies
  visitors : NamedEntries c.visitors

theorem Contents.Named.apply {c c' : Contents} (h : c.Named) {call : Call}
    (hcall : call.apply c = some c') : c'.Named := by
  rcases Call.apply_cases hcall with ⟨e, he, rfl⟩ | ⟨e, he, rfl⟩
  · exact ⟨he.named h.proxies, h.visitors⟩
  · exact ⟨h.proxies, he.named h.visitors⟩

/-- A call keeps the names, whatever it returns. -/
theorem Contents.Named.call {s : State Text} (h : s.source.contents.Named)
    (codec : Codec Raw Text) (env : Env Text) (c : Call) :
    (call codec env s c).1.source.contents.Named := by
  cases hres : (Config.call codec env s c).2 with
  | none => exact h.apply (call_nil hres).1
  | some err =>
    rw [(call_error hres).1]
    exact h

/-- What holds of every state after successful mutations. -/
structure Saved (codec : Codec Raw Text) (path : String) (s : State Text) : Prop where
  synced : Synced codec s
  named : s.source.contents.Named
  path : s.source.config.path = path

theorem reachable_saved {codec : Codec Raw Text} {path : String} {disk : Disk Text}
    (hdisk : disk path = none) {s : State Text} (h : (mutations codec path disk).Reachable s) :
    Saved codec path s := by
  refine System.invariant (I := Saved codec path) ?_ ?_ h
  · exact ⟨synced_fresh codec path disk hdisk, ⟨namedEntries_empty, namedEntries_empty⟩, rfl⟩
  · intro s a s' _ hs hstep
    have hcall := mutations_step hstep
    have hsynced := hs.synced.call a.1 a.2
    have hnamed := hs.named.call codec a.1 a.2
    have hconfig := call_config codec a.1 s a.2
    rw [hcall] at hsynced hnamed hconfig
    exact ⟨hsynced, hnamed, by rw [hconfig]; exact hs.path⟩

section RoundTrip

/-- The raw message is the encoding of a configuration: it decodes to it when the target is
of its type. -/
structure Encodes {T : Type} [Configurer T] (codec : Codec Raw Text)
    (newByType : String → Option T) (unmarshal : T → Raw → Except String T) (cfg : T) (b : Raw) :
    Prop where
  notNull : codec.isJSONNull b = false
  envelope : codec.envelope b = .ok (Configurer.type cfg)
  decoded : ∀ target, newByType (Configurer.type cfg) = some target →
    unmarshal target b = .ok cfg

/-- JSON encoding and decoding of configurations of a fixed type round-trips. -/
def Codec.RoundTrips (codec : Codec Raw Text) : Prop :=
  ∀ ps vs text, codec.marshalIndent ps vs = .ok text →
    ∃ proxyData visitorData, codec.unmarshal text = .ok (proxyData, visitorData) ∧
      List.Forall₂ (Encodes codec newProxyConfigurerByType codec.unmarshalProxy) ps proxyData ∧
      List.Forall₂ (Encodes codec newVisitorConfigurerByType codec.unmarshalVisitor) vs visitorData

variable {T : Type} [Configurer T] {codec : Codec Raw Text} {newByType : String → Option T}
  {unmarshal : T → Raw → Except String T} {kind config : String}

theorem Encodes.decode_ok {cfg : T} {b : Raw} (h : Encodes codec newByType unmarshal cfg b)
    (htype : newByType (Configurer.type cfg) ≠ none) :
    decodeConfigurerJSON codec newByType unmarshal kind config b = .ok cfg := by
  obtain ⟨target, htarget⟩ := Option.ne_none_iff_exists'.mp htype
  simp [decodeConfigurerJSON, h.notNull, h.envelope, htarget, h.decoded target htarget]

theorem Encodes.decode_error {cfg : T} {b : Raw} (h : Encodes codec newByType unmarshal cfg b)
    (htype : newByType (Configurer.type cfg) = none) :
    decodeConfigurerJSON codec newByType unmarshal kind config b =
      .error s!"unknown {kind} type: {Configurer.type cfg}" := by
  simp [decodeConfigurerJSON, h.notNull, h.envelope, htype]

/-- The loop over encodings of known types puts the configurations into the map. -/
theorem loadEntries_ok {cfgs : List T} {data : List Raw}
    (h : List.Forall₂ (Encodes codec newByType unmarshal) cfgs data)
    (hname : ∀ cfg ∈ cfgs, Configurer.name cfg ≠ "")
    (htype : ∀ cfg ∈ cfgs, newByType (Configurer.type cfg) ≠ none) (i : Nat)
    (m : GoMap String T) :
    loadEntries (decodeConfigurerJSON codec newByType unmarshal kind config) kind i m data =
      .ok (cfgs.foldl (fun m cfg => m.insert (Configurer.name cfg) cfg) m) := by
  induction h generalizing i m with
  | nil => rfl
  | cons hb _ ih =>
    simp only [loadEntries, hb.decode_ok (htype _ List.mem_cons_self)]
    rw [if_neg (hname _ List.mem_cons_self), List.foldl_cons]
    exact ih (fun cfg hc => hname cfg (List.mem_cons_of_mem _ hc))
      (fun cfg hc => htype cfg (List.mem_cons_of_mem _ hc)) _ _

/-- One encoding of an unknown type stops it. -/
theorem loadEntries_error {cfgs : List T} {data : List Raw}
    (h : List.Forall₂ (Encodes codec newByType unmarshal) cfgs data)
    (htype : ∃ cfg ∈ cfgs, newByType (Configurer.type cfg) = none) (i : Nat)
    (m : GoMap String T) :
    ∃ err, loadEntries (decodeConfigurerJSON codec newByType unmarshal kind config) kind i m data =
      .error err := by
  induction h generalizing i m with
  | nil =>
    obtain ⟨cfg, hcfg, -⟩ := htype
    cases hcfg
  | @cons cfg b cfgs data hb _ ih =>
    cases hnew : newByType (Configurer.type cfg) with
    | none =>
      simp only [loadEntries, hb.decode_error hnew]
      exact ⟨_, rfl⟩
    | some target =>
      simp only [loadEntries, hb.decode_ok (by rw [hnew]; nofun)]
      split
      · exact ⟨_, rfl⟩
      · apply ih
        obtain ⟨cfg', hmem, hnone⟩ := htype
        rcases List.mem_cons.mp hmem with rfl | hmem
        · rw [hnew] at hnone
          cases hnone
        · exact ⟨cfg', hmem, hnone⟩

/-- Loading the values of a map with known types, in any order, gives the same entries. -/
theorem loadEntries_values (kind config : String) {m : GoMap String T}
    (hm : NamedEntries m.get?) {cfgs : List T} {data : List Raw} (hperm : cfgs.Perm m.values)
    (h : List.Forall₂ (Encodes codec newByType unmarshal) cfgs data) :
    (∀ n cfg, m.get? n = some cfg → newByType (Configurer.type cfg) ≠ none) ∧
      (∃ m', loadEntries (decodeConfigurerJSON codec newByType unmarshal kind config) kind 0
        .empty data = .ok m' ∧ m'.get? = m.get?) ∨
    (¬ ∀ n cfg, m.get? n = some cfg → newByType (Configurer.type cfg) ≠ none) ∧
      ∃ err, loadEntries (decodeConfigurerJSON codec newByType unmarshal kind config) kind 0
        .empty data = .error err := by
  have hkeyed : m.KeyedBy Configurer.name := fun n cfg hget => (hm n cfg hget).1
  have hmem : ∀ cfg, cfg ∈ cfgs ↔ m.get? (Configurer.name cfg) = some cfg := by
    intro cfg
    rw [hperm.mem_iff, GoMap.mem_values_iff hkeyed]
  by_cases hall : ∀ n cfg, m.get? n = some cfg → newByType (Configurer.type cfg) ≠ none
  · refine Or.inl ⟨hall, _, loadEntries_ok h ?_ ?_ 0 .empty, ?_⟩
    · intro cfg hcfg
      exact (hm _ cfg ((hmem cfg).mp hcfg)).2
    · intro cfg hcfg
      exact hall _ cfg ((hmem cfg).mp hcfg)
    · funext n
      rw [GoMap.get?_foldl_insert_values hkeyed (p := fun _ => true)
        (fun cfg => by rw [hperm.mem_iff]; simp), GoMap.get?_empty, Option.or_none]
      cases m.get? n <;> rfl
  · refine Or.inr ⟨hall, loadEntries_error h ?_ 0 .empty⟩
    simp only [not_forall, not_not] at hall
    obtain ⟨n, cfg, hget, hnone⟩ := hall
    exact ⟨cfg, (hmem cfg).mpr (by rw [(hm n cfg hget).1]; exact hget), hnone⟩

end RoundTrip

/-- Every entry has the one type that the loader knows. -/
def Contents.Loadable (c : Contents) : Prop :=
  (∀ n cfg, c.proxies n = some cfg → cfg.type = "xtcp") ∧
    (∀ n cfg, c.visitors n = some cfg → cfg.type = "xtcp")

theorem newProxyConfigurerByType_ne_none (t : String) :
    newProxyConfigurerByType t ≠ none ↔ t = "xtcp" := by
  unfold newProxyConfigurerByType
  split <;> simp [*]

theorem newVisitorConfigurerByType_ne_none (t : String) :
    newVisitorConfigurerByType t ≠ none ↔ t = "xtcp" := by
  unfold newVisitorConfigurerByType
  split <;> simp [*]

theorem Contents.loadable_iff (c : Contents) :
    c.Loadable ↔
      (∀ n cfg, c.proxies n = some cfg →
        newProxyConfigurerByType (Configurer.type cfg) ≠ none) ∧
      (∀ n cfg, c.visitors n = some cfg →
        newVisitorConfigurerByType (Configurer.type cfg) ≠ none) := by
  simp only [newProxyConfigurerByType_ne_none, newVisitorConfigurerByType_ne_none]
  rfl

/-- Loading the file of a store gives its maps, or fails because of a type. -/
theorem load_saved {codec : Codec Raw Text} (hcodec : codec.RoundTrips) {s : State Text}
    {text : Text} (hfile : s.file = some text)
    (hser : Serializes codec s.source.toBaseSource text) (hnamed : s.source.contents.Named) :
    (s.source.contents.Loadable ∧
      ∃ b, loadFromFileUnlocked codec none s.source.config.path s.disk = .ok b ∧
        b.contents = s.source.contents) ∨
    (¬ s.source.contents.Loadable ∧
      ∃ err, loadFromFileUnlocked codec none s.source.config.path s.disk =
        .error (.failed err)) := by
  obtain ⟨ps, vs, hps, hvs, htext⟩ := hser
  obtain ⟨proxyData, visitorData, hunmarshal, hproxyData, hvisitorData⟩ := hcodec ps vs text htext
  have hfile : s.disk s.source.config.path = some text := hfile
  have hproxies := loadEntries_values "proxy" "ProxyConfig" hnamed.proxies
    hps hproxyData
  have hvisitors := loadEntries_values "visitor" "VisitorConfig" hnamed.visitors hvs hvisitorData
  rw [Contents.loadable_iff]
  simp only [loadFromFileUnlocked, hfile, hunmarshal, decodeProxyConfigurerJSON,
    decodeVisitorConfigurerJSON]
  rcases hproxies with ⟨hp, m, hm, hmget⟩ | ⟨hp, err, herr⟩
  · rcases hvisitors with ⟨hv, m', hm', hmget'⟩ | ⟨hv, err, herr⟩
    · refine Or.inl ⟨⟨hp, hv⟩, ⟨m, m'⟩, ?_, Contents.ext hmget hmget'⟩
      rw [hm, hm']
    · refine Or.inr ⟨fun h => hv h.2, err, ?_⟩
      rw [hm, herr]
  · refine Or.inr ⟨fun h => hp h.1, err, ?_⟩
    rw [herr]

/-- After mutations that all succeeded, `NewStoreSource` reads the file and finds the maps
exactly when every entry of them has the type "xtcp". -/
theorem store_reloads_iff {codec : Codec Raw Text} (hcodec : codec.RoundTrips) {path : String}
    (hpath : path ≠ "") {disk : Disk Text} (hdisk : disk path = none) {s : State Text}
    (h : (mutations codec path disk).Reachable s) :
    (∃ s', newStoreSource codec none ⟨path⟩ s.disk = .ok s' ∧
      s'.contents = s.source.contents) ↔ s.source.contents.Loadable := by
  obtain ⟨hsynced, hnamed, rfl⟩ := reachable_saved hdisk h
  unfold newStoreSource
  rw [if_neg hpath]
  rcases hsynced with ⟨text, hfile, hser⟩ | ⟨hfile, hempty⟩
  · rcases load_saved hcodec hfile hser hnamed with ⟨hload, b, hb, hcontents⟩ | ⟨hload, err, herr⟩
    · simp only [hb]
      exact iff_of_true ⟨_, rfl, hcontents⟩ hload
    · simp only [herr]
      refine iff_of_false ?_ hload
      intro ⟨s', hs', _⟩
      cases hs'
  · have hnone : s.disk s.source.config.path = none := hfile
    simp only [loadFromFileUnlocked, hnone, hempty]
    refine iff_of_true ⟨_, rfl, rfl⟩ ⟨?_, ?_⟩
    · intro n cfg h
      exact absurd h.symm (Option.some_ne_none cfg)
    · intro n cfg h
      exact absurd h.symm (Option.some_ne_none cfg)

theorem plainCodec_roundTrips : plainCodec.RoundTrips := by
  intro ps vs text htext
  obtain rfl := Except.ok.inj htext
  refine ⟨_, _, rfl, ?_, ?_⟩
  · rw [List.forall₂_map_right_iff]
    exact List.forall₂_same.mpr fun p _ => ⟨rfl, rfl, fun _ _ => rfl⟩
  · rw [List.forall₂_map_right_iff]
    exact List.forall₂_same.mpr fun v _ => ⟨rfl, rfl, fun _ _ => rfl⟩

/-- The state after one proxy has been added to an empty store. -/
def oneProxy (type : String) : State PlainText :=
  (call plainCodec (quiet PlainText) (fresh "store" fun _ => none)
    (.addProxy (some (webProxy type)))).1

theorem noFailure_quiet : NoFailure plainCodec (quiet PlainText) :=
  ⟨fun ps vs => ⟨(ps, vs), rfl⟩, rfl, rfl, rfl, rfl, rfl, rfl⟩

theorem oneProxy_nil (type : String) :
    (call plainCodec (quiet PlainText) (fresh "store" fun _ => none)
      (.addProxy (some (webProxy type)))).2 = none :=
  (call_nil_iff noFailure_quiet).mpr ⟨_, rfl⟩

theorem oneProxy_reachable (type : String) :
    (mutations plainCodec "store" fun _ => none).Reachable (oneProxy type) :=
  System.reachable_init.next (a := (quiet PlainText, .addProxy (some (webProxy type))))
    (mutations_step_of_nil (oneProxy_nil type))

theorem oneProxy_contents (type : String) : (oneProxy type).source.contents =
    ⟨Function.update (fun _ => none) "web" (some (webProxy type)), fun _ => none⟩ :=
  (Option.some.inj (call_nil (oneProxy_nil type)).1).symm

theorem store_reloads_iff_xtcp :
    ∃ s', newStoreSource plainCodec none ⟨"store"⟩ (oneProxy "xtcp").disk = .ok s' ∧
      s'.contents = (oneProxy "xtcp").source.contents := by
  apply (store_reloads_iff plainCodec_roundTrips (by decide) rfl
    (oneProxy_reachable "xtcp")).mpr
  rw [oneProxy_contents]
  constructor
  · intro n cfg hget
    dsimp only at hget
    rw [Function.update_apply] at hget
    split at hget
    · obtain rfl := Option.some.inj hget
      rfl
    · exact absurd hget.symm (Option.some_ne_none cfg)
  · intro n cfg hget
    exact absurd hget.symm (Option.some_ne_none cfg)

/-- A proxy without a type is accepted, and then the store cannot be opened. -/
theorem store_unreadable :
    plainCodec.RoundTrips ∧ (mutations plainCodec "store" fun _ => none).Reachable (oneProxy "") ∧
      newStoreSource plainCodec none ⟨"store"⟩ (oneProxy "").disk =
        .error ("failed to load existing data: failed to decode proxy at index 0: " ++
          "unknown proxy type: ") :=
  ⟨plainCodec_roundTrips, oneProxy_reachable "", by rfl⟩

end FrpXtcp.Config

import Mathlib.Data.List.Sort
import Mathlib.Data.String.Basic
import FrpXtcp.Config.StoreReload

/-!
# Merging the sources

`Aggregator.Load` (`pkg/config/source/aggregator.go`) collects the enabled entries of the
config source and then those of the store, later ones under the same name replacing earlier
ones, and sorts by name. Loops over maps take any order; each is an argument here. `chosen`
says which entry of a name is left, without the loops.
-/
namespace FrpXtcp.Config

open FrpXtcp.Lib
open FrpXtcp.Client (ProxyConfig VisitorConfig)

/-- A source. All that writes its maps puts every configuration under its own name. -/
structure Source extends BaseSource where
  proxies_keyed : proxies.KeyedBy Configurer.name
  visitors_keyed : visitors.KeyedBy Configurer.name

def newConfigSource : Source :=
  ⟨newBaseSource, GoMap.keyedBy_empty _, GoMap.keyedBy_empty _⟩

section ReplaceAll

variable {T : Type} [Configurer T]

/-- A loop of `ReplaceAll`. -/
def collect (kind : String) :
    GoMap String T → List (Option T) → Except String (GoMap String T)
  | m, [] => .ok m
  | m, cfg :: rest =>
    match validateName kind cfg with
    | .error err => .error err
    | .ok (name, cfg) => collect kind (m.insert name cfg) rest

theorem collect_keyed {kind : String} {l : List (Option T)} {m m' : GoMap String T}
    (hm : m.KeyedBy Configurer.name) (h : collect kind m l = .ok m') :
    m'.KeyedBy Configurer.name := by
  induction l generalizing m with
  | nil =>
    obtain rfl := Except.ok.inj h
    exact hm
  | cons cfg l ih =>
    cases cfg with
    | none => cases h
    | some cfg =>
      simp only [collect, validateName] at h
      by_cases hname : Configurer.name cfg = ""
      · rw [if_pos hname] at h
        cases h
      · rw [if_neg hname] at h
        exact ih (hm.insert rfl) h

end ReplaceAll

/-- The config source afterwards and the error. -/
def Source.replaceAll (s : Source) (proxies : List (Option ProxyConfig))
    (visitors : List (Option VisitorConfig)) : Source × Option String :=
  match hp : collect "proxy" .empty proxies with
  | .error err => (s, some err)
  | .ok nextProxies =>
    match hv : collect "visitor" .empty visitors with
    | .error err => (s, some err)
    | .ok nextVisitors =>
      (⟨⟨nextProxies, nextVisitors⟩, collect_keyed (GoMap.keyedBy_empty _) hp,
        collect_keyed (GoMap.keyedBy_empty _) hv⟩, none)

section Store

variable {Raw Text : Type} {codec : Codec Raw Text}

theorem loadEntries_named {T : Type} [Configurer T] {decode : Raw → Except String T}
    {kind : String} {i : Nat} {m m' : GoMap String T} {data : List Raw}
    (hm : NamedEntries m.get?) (h : loadEntries decode kind i m data = .ok m') :
    NamedEntries m'.get? := by
  induction data generalizing i m with
  | nil =>
    obtain rfl := Except.ok.inj h
    exact hm
  | cons b data ih =>
    simp only [loadEntries] at h
    split at h
    · cases h
    · rename_i cfg _
      by_cases hname : Configurer.name cfg = ""
      · rw [if_pos hname] at h
        cases h
      · rw [if_neg hname] at h
        refine ih ?_ h
        intro n cfg' hget
        rw [GoMap.get?_insert] at hget
        split at hget
        · obtain rfl := Option.some.inj hget
          rw [‹n = _›]
          exact ⟨rfl, hname⟩
        · exact hm n cfg' hget

theorem loadFromFileUnlocked_named {readErr : Option String} {path : String} {disk : Disk Text}
    {b : BaseSource} (h : loadFromFileUnlocked codec readErr path disk = .ok b) :
    b.contents.Named := by
  unfold loadFromFileUnlocked at h
  cases readErr with
  | some err => cases h
  | none =>
  cases hdisk : disk path with
  | none =>
    rw [hdisk] at h
    cases h
  | some data =>
  cases hdata : codec.unmarshal data with
  | error err =>
    simp only [hdisk, hdata] at h
    cases h
  | ok raw =>
  cases hp : loadEntries (decodeProxyConfigurerJSON codec) "proxy" 0 .empty raw.1 with
  | error err =>
    simp only [hdisk, hdata, hp] at h
    cases h
  | ok proxies =>
  cases hv : loadEntries (decodeVisitorConfigurerJSON codec) "visitor" 0 .empty raw.2 with
  | error err =>
    simp only [hdisk, hdata, hp, hv] at h
    cases h
  | ok visitors =>
    simp only [hdisk, hdata, hp, hv] at h
    obtain rfl := Except.ok.inj h
    exact ⟨loadEntries_named (m := .empty) namedEntries_empty hp,
      loadEntries_named (m := .empty) namedEntries_empty hv⟩

/-- Whatever is in the file, an opened store has its entries under their names. -/
theorem newStoreSource_named {readErr : Option String} {cfg : StoreSourceConfig}
    {disk : Disk Text} {s : StoreSource} (h : newStoreSource codec readErr cfg disk = .ok s) :
    s.contents.Named := by
  unfold newStoreSource at h
  split at h
  · cases h
  · split at h
    · rename_i b hb
      obtain rfl := Except.ok.inj h
      exact loadFromFileUnlocked_named hb
    · obtain rfl := Except.ok.inj h
      exact ⟨namedEntries_empty, namedEntries_empty⟩
    · cases h

theorem Contents.Named.calls {s : State Text} (h : s.source.contents.Named)
    (l : List (Env Text × Call)) : (calls codec s l).source.contents.Named := by
  induction l generalizing s with
  | nil => exact h
  | cons p l ih => exact ih (h.call codec p.1 p.2)

/-- A store that has been opened and then used, as a source. -/
def Source.ofStore {readErr : Option String} {cfg : StoreSourceConfig} {disk : Disk Text}
    {s : StoreSource} (h : newStoreSource codec readErr cfg disk = .ok s)
    (l : List (Env Text × Call)) : Source where
  toBaseSource := (calls codec ⟨s, disk⟩ l).source.toBaseSource
  proxies_keyed n c hget :=
    (((newStoreSource_named h).calls (s := ⟨s, disk⟩) l).proxies n c hget).1
  visitors_keyed n c hget :=
    (((newStoreSource_named h).calls (s := ⟨s, disk⟩) l).visitors n c hget).1

end Store

section Load

variable {T : Type} [Configurer T]

/-- `Enabled` is nil or true. -/
def isEnabled (cfg : T) : Bool := Configurer.enabled cfg != some false

/-- A loop of `cloneConfigurers`. -/
def cloneAll (kind : String) : List (Option T) → Except String (List T)
  | [] => .ok []
  | none :: _ => .error s!"{kind} cannot be nil"
  | some cfg :: rest => (cloneAll kind rest).map (Configurer.clone cfg :: ·)

def cloneConfigurers (proxies : List (Option ProxyConfig))
    (visitors : List (Option VisitorConfig)) :
    Except String (List ProxyConfig × List VisitorConfig) := do
  let clonedProxies ← cloneAll "proxy" proxies
  let clonedVisitors ← cloneAll "visitor" visitors
  return (clonedProxies, clonedVisitors)

def BaseSource.load (s : BaseSource) (order : Iteration) :
    Except String (List ProxyConfig × List VisitorConfig) :=
  cloneConfigurers (((order.proxies s.proxies.values).val.filter isEnabled).map some)
    (((order.visitors s.visitors.values).val.filter isEnabled).map some)

/-- `m[v.GetBaseConfig().Name] = v` for each of the values. -/
def putAll (m : GoMap String T) (l : List T) : GoMap String T :=
  l.foldl (fun m cfg => m.insert (Configurer.name cfg) cfg) m

/-- `slices.SortedFunc` by name. -/
def sortedByName (l : List T) : List T :=
  l.mergeSort fun x y => decide (Configurer.name x ≤ Configurer.name y)

end Load

structure Aggregator where
  configSource : Option Source
  storeSource : Option Source

def newAggregator (configSource : Option Source) : Aggregator :=
  ⟨some (configSource.getD newConfigSource), none⟩

namespace Aggregator

def setStoreSource (a : Aggregator) (storeSource : Option Source) : Aggregator :=
  { a with storeSource := storeSource }

def getSourcesLocked (a : Aggregator) : List Source :=
  a.configSource.toList ++ a.storeSource.toList

/-- The loop of `Load` over the sources, from number `i` on. The maps are `proxyMap` and
`visitorMap`. -/
def loadSources (order : Nat → Iteration) :
    Nat → BaseSource → List Source → Except String BaseSource
  | _, maps, [] => .ok maps
  | i, maps, src :: rest =>
    match src.load (order i) with
    | .error err => .error s!"load source: {err}"
    | .ok (proxies, visitors) =>
      loadSources order (i + 1) ⟨putAll maps.proxies proxies, putAll maps.visitors visitors⟩ rest

def mapsToSortedSlices (order : Iteration) (maps : BaseSource) :
    List ProxyConfig × List VisitorConfig :=
  (sortedByName (order.proxies maps.proxies.values).val,
    sortedByName (order.visitors maps.visitors.values).val)

/-- `order i` is for the loops over source number `i`, `last` for those over the merged
maps. -/
def load (a : Aggregator) (order : Nat → Iteration) (last : Iteration) :
    Except String (List ProxyConfig × List VisitorConfig) :=
  if a.getSourcesLocked = [] then .error "no sources configured"
  else (loadSources order 0 newBaseSource a.getSourcesLocked).map (mapsToSortedSlices last)

end Aggregator

section Merged

variable {T : Type} [Configurer T]

/-- The source has an entry of this name, and it is enabled. -/
def EnabledIn (m : GoMap String T) (n : String) : Prop :=
  ∃ cfg, m.get? n = some cfg ∧
    (Configurer.enabled cfg = none ∨ Configurer.enabled cfg = some true)

/-- What `Load` is for, for one kind of configurations. -/
structure Merged (config : GoMap String T) (store : Option (GoMap String T)) (l : List T) :
    Prop where
  sorted : l.Pairwise fun x y => Configurer.name x < Configurer.name y
  present : ∀ n, (∃ cfg ∈ l, Configurer.name cfg = n) ↔
    EnabledIn config n ∨ ∃ m, store = some m ∧ EnabledIn m n
  value : ∀ cfg ∈ l,
    (∃ m entry, store = some m ∧ EnabledIn m (Configurer.name cfg) ∧
      m.get? (Configurer.name cfg) = some entry ∧ cfg = Configurer.clone entry) ∨
    ((¬ ∃ m, store = some m ∧ EnabledIn m (Configurer.name cfg)) ∧
      ∃ entry, config.get? (Configurer.name cfg) = some entry ∧ cfg = Configurer.clone entry)

/-- The entry of a name that is left. -/
def chosen (config : GoMap String T) (store : Option (GoMap String T)) (n : String) : Option T :=
  (store.bind fun m => (m.get? n).filter isEnabled).or ((config.get? n).filter isEnabled)

theorem isEnabled_iff (cfg : T) : isEnabled cfg = true ↔
    Configurer.enabled cfg = none ∨ Configurer.enabled cfg = some true := by
  unfold isEnabled
  cases Configurer.enabled cfg with
  | none => simp
  | some b => cases b <;> simp

theorem enabledIn_iff (m : GoMap String T) (n : String) :
    EnabledIn m n ↔ ∃ cfg, (m.get? n).filter isEnabled = some cfg := by
  simp only [EnabledIn, Option.filter_eq_some_iff, isEnabled_iff]

/-- A list with exactly the entries that are left, in the order of their names. -/
theorem merged_of_chosen {config : GoMap String T} {store : Option (GoMap String T)} {l : List T}
    (hconfig : config.KeyedBy Configurer.name)
    (hstore : ∀ m, store = some m → m.KeyedBy Configurer.name)
    (hsorted : l.Pairwise fun x y => Configurer.name x < Configurer.name y)
    (hmem : ∀ cfg, cfg ∈ l ↔ chosen config store (Configurer.name cfg) = some cfg) :
    Merged config store l := by
  have hname : ∀ n cfg, chosen config store n = some cfg → Configurer.name cfg = n := by
    intro n cfg hcfg
    unfold chosen at hcfg
    rcases Option.or_eq_some_iff.mp hcfg with hcfg | ⟨-, hcfg⟩
    · obtain ⟨m, hm, hget⟩ := Option.bind_eq_some_iff.mp hcfg
      exact hstore m hm n cfg (Option.filter_eq_some_iff.mp hget).1
    · exact hconfig n cfg (Option.filter_eq_some_iff.mp hcfg).1
  constructor
  · exact hsorted
  · intro n
    have hex : (∃ cfg ∈ l, Configurer.name cfg = n) ↔ ∃ cfg, chosen config store n = some cfg := by
      constructor
      · rintro ⟨cfg, hcfg, hn⟩
        rw [hmem, hn] at hcfg
        exact ⟨cfg, hcfg⟩
      · rintro ⟨cfg, hcfg⟩
        have hn := hname n cfg hcfg
        exact ⟨cfg, (hmem cfg).mpr (by rw [hn]; exact hcfg), hn⟩
    rw [hex]
    simp only [enabledIn_iff, chosen, Option.or_eq_some_iff, Option.bind_eq_some_iff]
    constructor
    · rintro ⟨cfg, ⟨m, hm, hget⟩ | ⟨-, hget⟩⟩
      · exact Or.inr ⟨m, hm, cfg, hget⟩
      · exact Or.inl ⟨cfg, hget⟩
    · intro h
      cases hs : store.bind fun m => (m.get? n).filter isEnabled with
      | some cfg =>
        obtain ⟨m, hm, hget⟩ := Option.bind_eq_some_iff.mp hs
        exact ⟨cfg, Or.inl ⟨m, hm, hget⟩⟩
      | none =>
        rcases h with ⟨cfg, hget⟩ | ⟨m, hm, cfg, hget⟩
        · exact ⟨cfg, Or.inr ⟨rfl, hget⟩⟩
        · rw [hm, Option.bind_some, hget] at hs
          cases hs
  · intro cfg hcfg
    rw [hmem] at hcfg
    unfold chosen at hcfg
    rcases Option.or_eq_some_iff.mp hcfg with hcfg | ⟨hnone, hcfg⟩
    · obtain ⟨m, hm, hget⟩ := Option.bind_eq_some_iff.mp hcfg
      exact Or.inl ⟨m, cfg, hm, (enabledIn_iff m _).mpr ⟨cfg, hget⟩,
        (Option.filter_eq_some_iff.mp hget).1, (Configurer.clone_eq cfg).symm⟩
    · refine Or.inr ⟨?_, cfg, (Option.filter_eq_some_iff.mp hcfg).1, (Configurer.clone_eq cfg).symm⟩
      rintro ⟨m, hm, hen⟩
      obtain ⟨cfg', hget⟩ := (enabledIn_iff m _).mp hen
      rw [hm, Option.bind_some, hget] at hnone
      cases hnone

theorem cloneAll_some (kind : String) (l : List T) : cloneAll kind (l.map some) = .ok l := by
  induction l with
  | nil => rfl
  | cons cfg l ih =>
    rw [List.map_cons, cloneAll, ih, Configurer.clone_eq]
    rfl

/-- The values of a map with names, sorted: strictly, and with the same members. -/
theorem sortedByName_values {m : GoMap String T} (hm : m.KeyedBy Configurer.name) {l : List T}
    (hl : l.Perm m.values) :
    (sortedByName l).Pairwise (fun x y => Configurer.name x < Configurer.name y) ∧
      ∀ cfg, cfg ∈ sortedByName l ↔ m.get? (Configurer.name cfg) = some cfg := by
  have hperm : (sortedByName l).Perm m.values := (List.mergeSort_perm l _).trans hl
  have hle : (sortedByName l).Pairwise fun x y => Configurer.name x ≤ Configurer.name y := by
    have h : (sortedByName l).Pairwise
        fun x y => decide (Configurer.name x ≤ Configurer.name y) = true := by
      apply List.pairwise_mergeSort
      · simp only [decide_eq_true_eq]
        exact fun _ _ _ => le_trans
      · simp only [Bool.or_eq_true, decide_eq_true_eq]
        exact fun _ _ => le_total _ _
    simpa using h
  have hnames : m.values.map Configurer.name = m.toList.map Prod.fst := by
    rw [GoMap.values, List.map_map]
    apply List.map_congr_left
    rintro ⟨n, cfg⟩ hmem
    exact hm n cfg ((GoMap.mem_toList_iff m n cfg).mp hmem)
  have hne : (sortedByName l).Pairwise fun x y => Configurer.name x ≠ Configurer.name y := by
    rw [← List.pairwise_map]
    apply (hperm.map Configurer.name).nodup_iff.mpr
    rw [hnames]
    exact m.nodup
  constructor
  · exact (hle.and hne).imp fun h => lt_of_le_of_ne h.1 h.2
  · intro cfg
    rw [hperm.mem_iff, GoMap.mem_values_iff hm]

/-- The result is determined by which entries are left. -/
theorem sorted_unique {l l' : List T}
    (h : l.Pairwise fun x y => Configurer.name x < Configurer.name y)
    (h' : l'.Pairwise fun x y => Configurer.name x < Configurer.name y)
    (hmem : ∀ cfg, cfg ∈ l ↔ cfg ∈ l') : l = l' := by
  have : Std.Irrefl fun x y : T => Configurer.name x < Configurer.name y :=
    ⟨fun _ => lt_irrefl _⟩
  have : Std.Antisymm fun x y : T => Configurer.name x < Configurer.name y :=
    ⟨fun _ _ hxy hyx => absurd hxy (lt_asymm hyx)⟩
  exact h.eq_of_mem_iff h' hmem

end Merged

section Spec

open Aggregator

theorem Source.load_eq (s : Source) (order : Iteration) : s.load order =
    .ok ((order.proxies s.proxies.values).val.filter isEnabled,
      (order.visitors s.visitors.values).val.filter isEnabled) := by
  unfold BaseSource.load cloneConfigurers
  rw [cloneAll_some, cloneAll_some]
  rfl

/-- Putting the enabled values of a source into a map, in any order. -/
theorem get?_putAll {T : Type} [Configurer T] {m : GoMap String T}
    (hm : m.KeyedBy Configurer.name) (o : { o : List T // o.Perm m.values }) (m₀ : GoMap String T)
    (n : String) : (putAll m₀ (o.val.filter isEnabled)).get? n =
      ((m.get? n).filter isEnabled).or (m₀.get? n) := by
  apply GoMap.get?_foldl_insert_values hm
  intro cfg
  rw [List.mem_filter, o.property.mem_iff]

/-- The merged maps have the chosen entries. -/
theorem loadSources_spec (config : Source) (store : Option Source) (order : Nat → Iteration) :
    ∃ maps, loadSources order 0 newBaseSource (getSourcesLocked ⟨some config, store⟩) = .ok maps ∧
      maps.proxies.KeyedBy Configurer.name ∧ maps.visitors.KeyedBy Configurer.name ∧
      maps.proxies.get? = chosen config.proxies (store.map (·.proxies)) ∧
      maps.visitors.get? = chosen config.visitors (store.map (·.visitors)) := by
  cases store with
  | none =>
    refine ⟨_, by simp only [getSourcesLocked, Option.toList_some, Option.toList_none,
        List.append_nil, loadSources, Source.load_eq]; rfl,
      (GoMap.keyedBy_empty _).foldl_insert _, (GoMap.keyedBy_empty _).foldl_insert _, ?_, ?_⟩
    · funext n
      exact (get?_putAll config.proxies_keyed _ _ n).trans (Option.or_none)
    · funext n
      exact (get?_putAll config.visitors_keyed _ _ n).trans (Option.or_none)
  | some store =>
    refine ⟨_, by simp only [getSourcesLocked, Option.toList_some, List.cons_append,
        List.nil_append, loadSources, Source.load_eq]; rfl,
      ((GoMap.keyedBy_empty _).foldl_insert _).foldl_insert _,
      ((GoMap.keyedBy_empty _).foldl_insert _).foldl_insert _, ?_, ?_⟩
    · funext n
      refine (get?_putAll store.proxies_keyed _ _ n).trans ?_
      exact congrArg _ ((get?_putAll config.proxies_keyed _ _ n).trans Option.or_none)
    · funext n
      refine (get?_putAll store.visitors_keyed _ _ n).trans ?_
      exact congrArg _ ((get?_putAll config.visitors_keyed _ _ n).trans Option.or_none)

theorem load_spec (config : Source) (store : Option Source) (order : Nat → Iteration)
    (last : Iteration) :
    ∃ proxies visitors,
      Aggregator.load ⟨some config, store⟩ order last = .ok (proxies, visitors) ∧
      (proxies.Pairwise (fun x y => Configurer.name x < Configurer.name y) ∧
        ∀ cfg, cfg ∈ proxies ↔
          chosen config.proxies (store.map (·.proxies)) (Configurer.name cfg) = some cfg) ∧
      (visitors.Pairwise (fun x y => Configurer.name x < Configurer.name y) ∧
        ∀ cfg, cfg ∈ visitors ↔
          chosen config.visitors (store.map (·.visitors)) (Configurer.name cfg) = some cfg) := by
  obtain ⟨maps, hload, hpkeyed, hvkeyed, hproxies, hvisitors⟩ :=
    loadSources_spec config store order
  have hne : getSourcesLocked ⟨some config, store⟩ ≠ [] := by simp [getSourcesLocked]
  refine ⟨_, _, by rw [Aggregator.load, if_neg hne, hload]; rfl, ?_, ?_⟩
  · rw [← hproxies]
    exact sortedByName_values hpkeyed (last.proxies _).property
  · rw [← hvisitors]
    exact sortedByName_values hvkeyed (last.visitors _).property

/-- `Load` returns, for proxies and for visitors, the merged configurations, and the same
whatever order the loops over maps take. -/
theorem aggregator_load_merged (configSource store : Option Source) :
    let config := configSource.getD newConfigSource
    ∃ proxies visitors,
      Merged config.proxies (store.map (·.proxies)) proxies ∧
      Merged config.visitors (store.map (·.visitors)) visitors ∧
      ∀ order last, ((newAggregator configSource).setStoreSource store).load order last =
        .ok (proxies, visitors) := by
  intro config
  let inOrder : Iteration := ⟨fun l => ⟨l, .refl l⟩, fun l => ⟨l, .refl l⟩⟩
  obtain ⟨proxies, visitors, -, ⟨hpsorted, hpmem⟩, hvsorted, hvmem⟩ :=
    load_spec config store (fun _ => inOrder) inOrder
  have hstore : ∀ {T : Type} [Configurer T] (f : Source → GoMap String T),
      (∀ s, (f s).KeyedBy Configurer.name) →
        ∀ m, store.map f = some m → m.KeyedBy Configurer.name := by
    intro T _ f hf m hm
    obtain ⟨s, -, rfl⟩ := Option.map_eq_some_iff.mp hm
    exact hf s
  refine ⟨proxies, visitors,
    merged_of_chosen config.proxies_keyed (hstore _ Source.proxies_keyed) hpsorted hpmem,
    merged_of_chosen config.visitors_keyed (hstore _ Source.visitors_keyed) hvsorted hvmem, ?_⟩
  intro order last
  obtain ⟨proxies', visitors', hload, ⟨hpsorted', hpmem'⟩, hvsorted', hvmem'⟩ :=
    load_spec config store order last
  apply hload.trans
  rw [sorted_unique hpsorted' hpsorted fun cfg => (hpmem' cfg).trans (hpmem cfg).symm,
    sorted_unique hvsorted' hvsorted fun cfg => (hvmem' cfg).trans (hvmem cfg).symm]

end Spec

end FrpXtcp.Config

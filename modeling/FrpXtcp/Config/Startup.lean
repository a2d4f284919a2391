import FrpXtcp.Config.Aggregator
import FrpXtcp.Config.Validation

/-!
# From a configuration file to a service

How `frpc` and `frps` start (`cmd/frpc/sub`, `cmd/frps`, `pkg/config/load.go`, `NewService` of
`client/service.go` and of `server/service.go`). `frpc` has three ways: with a configuration
file, whose entries go through the config source, an optional store and the aggregator, and with
a single proxy or visitor from the command line. Each way checks the configurations first and
lets `NewService` load them a second time. `verify` checks the file without the sources.
-/
namespace FrpXtcp.Config.Startup

open FrpXtcp.Lib
open FrpXtcp.Util (emptyOr)
open FrpXtcp.Client (ProxyConfig VisitorConfig validateVisitorConfigurer)
open FrpXtcp.Server.Proxy (AnnotationCheck)
open scoped List

structure ClientConfig where
  common : ClientCommonConfig
  proxies : List ProxyConfig
  visitors : List VisitorConfig

/-- What a start finds on the machine. The files do not change while it goes on. -/
structure World (Raw Text : Type) extends Machine, Directories where
  /-- `os.Getenv("http_proxy")` -/
  httpProxy : String
  validateAnnotations : AnnotationCheck
  /-- Reads and parses a file. -/
  loadConfigureFromFile : String → Except String ClientConfig
  /-- The files of a directory, without its directories. -/
  readDir : String → Except String (List String)
  /-- `filepath.Match`, of the pattern in a path. -/
  glob : String → String → Bool
  codec : Codec Raw Text
  /-- An error when the store's file is read. -/
  readErr : Option String
  disk : Disk Text
  /-- The path of the store, seen from the configuration file. -/
  storePath : String → String → String
  /-- `transport.NewServerTLSConfig` -/
  newServerTLSConfig : TLSServerConfig → Except String Unit
  /-- `net.Listen` -/
  listen : String → Int → Except String Unit
  /-- The orders of the loops over maps, in each of the two times `Load` is called. -/
  order : Nat → Nat → Iteration
  last : Nat → Iteration

section Select

variable {T : Type} [Configurer T]

/-- A loop of `validateNoDuplicateNames`. -/
def duplicateName (kind : String) : List String → List T → Option String
  | _, [] => none
  | seen, cfg :: rest =>
    if Configurer.name cfg ∈ seen then
      some s!"{kind} name [{Configurer.name cfg}] is duplicated"
    else duplicateName kind (Configurer.name cfg :: seen) rest

def validateNoDuplicateNames (proxies : List ProxyConfig) (visitors : List VisitorConfig) :
    Except String Unit :=
  match duplicateName "proxy" [] proxies with
  | some err => .error err
  | none =>
    match duplicateName "visitor" [] visitors with
    | some err => .error err
    | none => .ok ()

/-- What `FilterClientConfigurers` does with the proxies and with the visitors. -/
def filterConfigurers (start : List String) (l : List T) : List T :=
  (if start ≠ [] then l.filter fun cfg => Configurer.name cfg ∈ start else l).filter isEnabled

/-- The entry is not left out by the list of names to start. -/
def InStart (start : List String) (cfg : T) : Prop := start = [] ∨ Configurer.name cfg ∈ start

theorem mem_filterConfigurers {start : List String} {l : List T} {cfg : T} :
    cfg ∈ filterConfigurers start l ↔ cfg ∈ l ∧ InStart start cfg ∧ isEnabled cfg = true := by
  unfold filterConfigurers InStart
  by_cases h : start = []
  · simp [h]
  · simp only [ne_eq, h, not_false_eq_true, if_true, List.mem_filter, decide_eq_true_eq, false_or,
      and_assoc]

theorem filterConfigurers_sublist (start : List String) (l : List T) :
    filterConfigurers start l <+ l := by
  unfold filterConfigurers
  by_cases h : start ≠ []
  · rw [if_pos h]
    exact List.filter_sublist.trans List.filter_sublist
  · rw [if_neg h]
    exact List.filter_sublist

theorem duplicateName_eq_none {kind : String} {seen : List String} {l : List T} :
    duplicateName kind seen l = none ↔
      (l.map Configurer.name).Nodup ∧ ∀ n ∈ seen, n ∉ l.map Configurer.name := by
  induction l generalizing seen with
  | nil => simp [duplicateName]
  | cons cfg l ih =>
    by_cases h : Configurer.name cfg ∈ seen
    · rw [duplicateName, if_pos h]
      constructor
      · intro hnone
        cases hnone
      · intro hnames
        exact absurd List.mem_cons_self (hnames.2 _ h)
    · rw [duplicateName, if_neg h, ih, List.map_cons, List.nodup_cons]
      constructor
      · rintro ⟨hnodup, hseen⟩
        refine ⟨⟨hseen _ List.mem_cons_self, hnodup⟩, ?_⟩
        intro n hn hmem
        rcases List.mem_cons.mp hmem with rfl | hmem
        · exact h hn
        · exact hseen n (List.mem_cons_of_mem _ hn) hmem
      · rintro ⟨⟨hnot, hnodup⟩, hseen⟩
        refine ⟨hnodup, ?_⟩
        intro n hn hmem
        rcases List.mem_cons.mp hn with rfl | hn
        · exact hnot hmem
        · exact hseen n hn (List.mem_cons_of_mem _ hmem)

/-- `complete` keeps what the aggregator and the filters look at, and leaves nothing to a second
call. -/
structure Completes (complete : T → T) : Prop where
  name : ∀ cfg, Configurer.name (complete cfg) = Configurer.name cfg
  enabled : ∀ cfg, Configurer.enabled (complete cfg) = Configurer.enabled cfg
  idempotent : ∀ cfg, complete (complete cfg) = complete cfg

theorem Completes.sorted {complete : T → T} (h : Completes complete) {l : List T}
    (hl : l.Pairwise fun x y => Configurer.name x < Configurer.name y) (start : List String) :
    ((filterConfigurers start l).map complete).Pairwise
      fun x y => Configurer.name x < Configurer.name y := by
  rw [List.pairwise_map]
  simp only [h.name]
  exact hl.sublist (filterConfigurers_sublist start l)

/-- Names that differ, sorted. -/
theorem sortedByName_of_nodup {l : List T} (hl : (l.map Configurer.name).Nodup) :
    (sortedByName l).Pairwise fun x y => Configurer.name x < Configurer.name y := by
  have hperm : (sortedByName l).Perm l := List.mergeSort_perm l _
  have hle : (sortedByName l).Pairwise
      fun x y => decide (Configurer.name x ≤ Configurer.name y) = true := by
    apply List.pairwise_mergeSort
    · simp only [decide_eq_true_eq]
      exact fun _ _ _ => le_trans
    · simp only [Bool.or_eq_true, decide_eq_true_eq]
      exact fun _ _ => le_total _ _
  have hne : (sortedByName l).Pairwise fun x y => Configurer.name x ≠ Configurer.name y := by
    rw [← List.pairwise_map]
    exact (hperm.map Configurer.name).nodup_iff.mpr hl
  exact (hle.and hne).imp fun h => lt_of_le_of_ne (of_decide_eq_true h.1) h.2

/-- Filtering and completing what has been sorted, or sorting it in the end. -/
theorem Completes.select_eq {complete : T → T} (h : Completes complete) {l loaded : List T}
    (hl : (l.map Configurer.name).Nodup)
    (hsorted : loaded.Pairwise fun x y => Configurer.name x < Configurer.name y)
    (hmem : ∀ cfg, cfg ∈ loaded ↔ cfg ∈ l ∧ isEnabled cfg = true) (start : List String) :
    (filterConfigurers start loaded).map complete =
      sortedByName ((filterConfigurers start l).map complete) := by
  apply sorted_unique (h.sorted hsorted start)
  · apply sortedByName_of_nodup
    rw [List.map_map, show Configurer.name ∘ complete = Configurer.name from funext h.name]
    exact hl.sublist ((filterConfigurers_sublist start l).map _)
  · intro cfg
    rw [sortedByName, (List.mergeSort_perm _ _).mem_iff]
    simp only [List.mem_map, mem_filterConfigurers, hmem]
    constructor
    · rintro ⟨cfg', ⟨⟨hcfg, -⟩, hin, hen⟩, rfl⟩
      exact ⟨cfg', ⟨hcfg, hin, hen⟩, rfl⟩
    · rintro ⟨cfg', ⟨hcfg, hin, hen⟩, rfl⟩
      exact ⟨cfg', ⟨⟨hcfg, hen⟩, hin, hen⟩, rfl⟩

theorem completes_completeProxy : Completes completeProxy :=
  ⟨fun _ => rfl, fun _ => rfl, completeProxy_completeProxy⟩

theorem completes_completeVisitor : Completes VisitorConfig.complete := by
  have hbase : ∀ b : Client.VisitorBaseConfig,
      b.complete.name = b.name ∧ b.complete.enabled = b.enabled := by
    intro b
    unfold Client.VisitorBaseConfig.complete
    by_cases h : b.bindAddr = ""
    · rw [if_pos h]
      exact ⟨rfl, rfl⟩
    · rw [if_neg h]
      exact ⟨rfl, rfl⟩
  exact ⟨fun cfg => (hbase cfg.toVisitorBaseConfig).1, fun cfg => (hbase cfg.toVisitorBaseConfig).2,
    completeVisitor_completeVisitor⟩

end Select

section Start

variable {Raw Text : Type} (w : World Raw Text)

/-- One round of the loop in `LoadAdditionalClientConfigs`. -/
def loadAdditionalClientConfig (path : String) : Except String (List ClientConfig) := do
  let absDir ← w.absDir path
  match w.notExist absDir with
  | some err => .error err
  | none =>
    let files ← w.readDir absDir
    (files.filter (w.glob path)).mapM fun file =>
      (w.loadConfigureFromFile file).mapError fun err =>
        s!"load additional config from {file} error: {err}"

def loadAdditionalClientConfigs (paths : List String) :
    Except String (List ProxyConfig × List VisitorConfig) := do
  let cfgs ← paths.mapM (loadAdditionalClientConfig w)
  return (cfgs.flatten.flatMap (·.proxies), cfgs.flatten.flatMap (·.visitors))

/-- The entries of the included files, if there are any to include. -/
def includedConfigs (files : List String) : Except String (List ProxyConfig × List VisitorConfig) :=
  if files ≠ [] then loadAdditionalClientConfigs w files else .ok ([], [])

/-- `ClientConfigLoadResult`; the configurations are not completed. -/
def loadClientConfigResult (path : String) : Except String ClientConfig := do
  let allCfg ← w.loadConfigureFromFile path
  let ext ← includedConfigs w allCfg.common.includeConfigFiles
  let result : ClientConfig := ⟨allCfg.common.complete w.httpProxy, allCfg.proxies ++ ext.1,
    allCfg.visitors ++ ext.2⟩
  validateNoDuplicateNames result.proxies result.visitors
  return result

/-- `FilterClientConfigurers`, `CompleteProxyConfigurers` and `CompleteVisitorConfigurers`, which
are always called one after the other. -/
def selectConfigurers (common : ClientCommonConfig) (proxies : List ProxyConfig)
    (visitors : List VisitorConfig) : List ProxyConfig × List VisitorConfig :=
  ((filterConfigurers common.start proxies).map completeProxy,
    (filterConfigurers common.start visitors).map VisitorConfig.complete)

def loadClientConfig (path : String) : Except String ClientConfig := do
  let result ← loadClientConfigResult w path
  let cfgs := selectConfigurers result.common result.proxies result.visitors
  return ⟨result.common, cfgs.1, cfgs.2⟩

/-- `frpc verify`, with the features that the command line allows. -/
def verifyClientConfig (allowed : List String) (path : String) : Verdict :=
  match loadClientConfig w path with
  | .error err => ⟨[], [err]⟩
  | .ok cfg =>
    validateAllClientConfig w.toDirectories w.validateAnnotations allowed cfg.common cfg.proxies
      cfg.visitors

/-- `if err != nil { return err }` after a validator. -/
def accept (errors : List String) : Except String Unit :=
  if errors = [] then .ok () else .error ("\n".intercalate errors)

structure Service where
  common : ClientCommonConfig
  auth : ClientAuth
  proxyCfgs : List ProxyConfig
  visitorCfgs : List VisitorConfig

/-- The second call of `Load` in a start. -/
def newService (common : ClientCommonConfig) (aggregator : Aggregator) :
    Traced ExecSource String Service := do
  let common := common.complete w.httpProxy
  let auth ← buildClientAuth w.toMachine common.auth
  let loaded ← liftM ((aggregator.load (w.order 1) (w.last 1)).mapError fun err =>
    s!"failed to load config from aggregator: {err}")
  let cfgs := selectConfigurers common loaded.1 loaded.2
  return ⟨common, auth, cfgs.1, cfgs.2⟩

/-- Up to the service's `Run`. -/
def startServiceWithAggregator (common : ClientCommonConfig) (aggregator : Aggregator) :
    Traced ExecSource String Service :=
  newService w common aggregator

/-- `ReplaceAll` on a new config source. -/
def setConfigSource (proxies : List ProxyConfig) (visitors : List VisitorConfig) :
    Except String Source :=
  match newConfigSource.replaceAll (proxies.map some) (visitors.map some) with
  | (_, some err) => .error s!"failed to set config source: {err}"
  | (configSource, none) => .ok configSource

def openStore (path : String) : Except String Source :=
  match h : newStoreSource w.codec w.readErr ⟨path⟩ w.disk with
  | .error err => .error s!"failed to create store source: {err}"
  | .ok _ => .ok (Source.ofStore h [])

def openStoreIfEnabled (cfgFilePath : String) (store : StoreConfig) :
    Except String (Option Source) :=
  if store.path = "" then .ok none
  else (openStore w (w.storePath cfgFilePath store.path)).map some

def runClientWithAggregator (allowed : List String) (result : ClientConfig)
    (cfgFilePath : String) : Traced ExecSource String Service := do
  let configSource ← liftM (setConfigSource result.proxies result.visitors)
  let storeSource ← liftM (openStoreIfEnabled w cfgFilePath result.common.store)
  let aggregator := (newAggregator (some configSource)).setStoreSource storeSource
  let loaded ← liftM ((aggregator.load (w.order 0) (w.last 0)).mapError fun err =>
    s!"failed to load config from sources: {err}")
  let cfgs := selectConfigurers result.common loaded.1 loaded.2
  let _ ← liftM (accept (validateAllClientConfig w.toDirectories w.validateAnnotations allowed
    result.common cfgs.1 cfgs.2).errors)
  startServiceWithAggregator w result.common aggregator

def runClient (allowed : List String) (cfgFilePath : String) :
    Traced ExecSource String Service := do
  let result ← liftM (loadClientConfigResult w cfgFilePath)
  runClientWithAggregator w allowed result cfgFilePath

def startService (common : ClientCommonConfig) (proxyCfgs : List ProxyConfig)
    (visitorCfgs : List VisitorConfig) : Traced ExecSource String Service := do
  let configSource ← liftM (setConfigSource proxyCfgs visitorCfgs)
  startServiceWithAggregator w common (newAggregator (some configSource))

/-- `frpc xtcp`; the name of the command is the type. -/
def runProxyCommand (allowed : List String) (clientCfg : ClientCommonConfig) (c : ProxyConfig) :
    Traced ExecSource String Service := do
  let clientCfg := clientCfg.complete w.httpProxy
  let _ ← liftM (accept (validateClientCommonConfig w.toDirectories allowed clientCfg).errors)
  let c := completeProxy { c with type := "xtcp" }
  let _ ← liftM (accept (validateProxyConfigurerForClient w.validateAnnotations c).toList)
  startService w clientCfg [c] []

/-- `frpc xtcp visitor` -/
def runVisitorCommand (allowed : List String) (clientCfg : ClientCommonConfig)
    (c : VisitorConfig) : Traced ExecSource String Service := do
  let clientCfg := clientCfg.complete w.httpProxy
  let _ ← liftM (accept (validateClientCommonConfig w.toDirectories allowed clientCfg).errors)
  let c := VisitorConfig.complete { c with type := "xtcp" }
  let _ ← liftM (accept (validateVisitorConfigurer c).toList)
  startService w clientCfg [] [c]

/-- `NewService` of the server, up to its listeners. -/
def newServerService (cfg : ServerConfig) : Traced ExecSource String ServerAuth := do
  let _ ← liftM (w.newServerTLSConfig cfg.transport.tls)
  let auth ← buildServerAuth w.toMachine cfg.auth
  let _ ← liftM ((w.listen cfg.bindAddr cfg.bindPort).mapError fun err =>
    s!"create server listener error, {err}")
  return auth

/-- `frps`, with its configuration from a file or from the command line. -/
def runServer (allowed : List String) (cfg : ServerConfig) :
    Traced ExecSource String ServerAuth := do
  let cfg := cfg.complete
  let _ ← liftM (accept (validateServerConfig allowed cfg))
  newServerService w cfg

end Start

section Loaded

variable {T : Type} [Configurer T]

theorem collect_eq (kind : String) (m : GoMap String T) (l : List T) :
    collect kind m (l.map some) =
      if ∀ cfg ∈ l, Configurer.name cfg ≠ "" then .ok (putAll m l)
      else .error s!"{kind} name cannot be empty" := by
  induction l generalizing m with
  | nil => rfl
  | cons cfg l ih =>
    rw [List.map_cons, collect, validateName]
    by_cases h : Configurer.name cfg = ""
    · rw [if_pos h, if_neg]
      intro hall
      exact hall cfg List.mem_cons_self h
    · rw [if_neg h]
      simp only [ih, List.forall_mem_cons, ne_eq, h, not_false_eq_true, true_and]
      rfl

/-- A map filled from a list of different names. -/
theorem get?_putAll_empty {l : List T} (hl : (l.map Configurer.name).Nodup) (cfg : T) :
    (putAll .empty l).get? (Configurer.name cfg) = some cfg ↔ cfg ∈ l := by
  rw [putAll, GoMap.get?_foldl_insert]
  constructor
  · intro h
    rcases Option.or_eq_some_iff.mp h with h | ⟨-, h⟩
    · exact List.mem_reverse.mp (List.mem_of_find?_eq_some h)
    · cases h
  · intro hcfg
    cases hfind : l.reverse.find? fun v => Configurer.name v = Configurer.name cfg with
    | none =>
      have hne := List.find?_eq_none.mp hfind cfg (List.mem_reverse.mpr hcfg)
      simp at hne
    | some found =>
      have hmem := List.mem_reverse.mp (List.mem_of_find?_eq_some hfind)
      have hname : Configurer.name found = Configurer.name cfg := by
        simpa using List.find?_some hfind
      rw [List.inj_on_of_nodup_map hl hmem hcfg hname]
      rfl

/-- What the two kinds of entries have in common after `Load`. -/
structure Loaded (config : GoMap String T) (store : Option (GoMap String T)) (l : List T) :
    Prop where
  sorted : l.Pairwise fun x y => Configurer.name x < Configurer.name y
  mem : ∀ cfg, cfg ∈ l ↔ chosen config store (Configurer.name cfg) = some cfg

/-- `Load` gives the same each time, in whatever order the loops go. -/
theorem load_any (config : Source) (store : Option Source) :
    ∃ proxies visitors, Loaded config.proxies (store.map (·.proxies)) proxies ∧
      Loaded config.visitors (store.map (·.visitors)) visitors ∧
      ∀ order last, Aggregator.load ⟨some config, store⟩ order last = .ok (proxies, visitors) := by
  let inOrder : Iteration := ⟨fun l => ⟨l, .refl l⟩, fun l => ⟨l, .refl l⟩⟩
  obtain ⟨proxies, visitors, -, hp, hv⟩ := load_spec config store (fun _ => inOrder) inOrder
  refine ⟨proxies, visitors, ⟨hp.1, hp.2⟩, ⟨hv.1, hv.2⟩, ?_⟩
  intro order last
  obtain ⟨proxies', visitors', hload, hp', hv'⟩ := load_spec config store order last
  rw [hload, sorted_unique hp'.1 hp.1 fun cfg => (hp'.2 cfg).trans (hp.2 cfg).symm,
    sorted_unique hv'.1 hv.1 fun cfg => (hv'.2 cfg).trans (hv.2 cfg).symm]

theorem setStoreSource_newAggregator (config : Source) (store : Option Source) :
    (newAggregator (some config)).setStoreSource store = ⟨some config, store⟩ := rfl

/-- Without a store the enabled entries of the list are loaded. -/
theorem Loaded.mem_iff {l loaded : List T} (hl : (l.map Configurer.name).Nodup)
    (h : Loaded (putAll .empty l) none loaded) (cfg : T) :
    cfg ∈ loaded ↔ cfg ∈ l ∧ isEnabled cfg = true := by
  rw [h.mem, chosen, Option.bind_none, Option.none_or, Option.filter_eq_some_iff,
    get?_putAll_empty hl]

end Loaded

section Spec

variable {Raw Text : Type} {w : World Raw Text} {allowed : List String}

/-- Every entry has a name, also one that is not started. -/
structure Named (proxies : List ProxyConfig) (visitors : List VisitorConfig) : Prop where
  proxies : ∀ cfg ∈ proxies, Configurer.name cfg ≠ ""
  visitors : ∀ cfg ∈ visitors, Configurer.name cfg ≠ ""

theorem setConfigSource_eq_ok {proxies : List ProxyConfig} {visitors : List VisitorConfig}
    {s : Source} (h : setConfigSource proxies visitors = .ok s) :
    Named proxies visitors ∧ s.proxies = putAll .empty proxies ∧
      s.visitors = putAll .empty visitors := by
  unfold setConfigSource Source.replaceAll at h
  split at h
  · cases h
  · rename_i configSource heq
    obtain rfl := Except.ok.inj h
    split at heq
    · cases heq
    · rename_i nextProxies hp
      split at heq
      · cases heq
      · rename_i nextVisitors hv
        obtain ⟨rfl, -⟩ := Prod.mk.inj heq
        rw [collect_eq] at hp hv
        split at hp
        · split at hv
          · exact ⟨⟨‹_›, ‹_›⟩, (Except.ok.inj hp).symm, (Except.ok.inj hv).symm⟩
          · cases hv
        · cases hp

theorem Named.setConfigSource {proxies : List ProxyConfig} {visitors : List VisitorConfig}
    (h : Named proxies visitors) : ∃ s, setConfigSource proxies visitors = .ok s := by
  have hp := collect_eq "proxy" .empty proxies
  have hv := collect_eq "visitor" .empty visitors
  rw [if_pos h.proxies] at hp
  rw [if_pos h.visitors] at hv
  unfold Startup.setConfigSource Source.replaceAll
  split
  · rename_i err heq
    split at heq
    · rename_i herr
      rw [hp] at herr
      cases herr
    · split at heq
      · rename_i herr
        rw [hv] at herr
        cases herr
      · cases heq
  · exact ⟨_, rfl⟩

theorem accept_eq_ok {errors : List String} {u : Unit} : accept errors = .ok u ↔ errors = [] := by
  unfold accept
  by_cases h : errors = []
  · simp [h]
  · simp [h]

theorem auth_of_common {c : ClientCommonConfig}
    (h : (validateClientCommonConfig w.toDirectories allowed c).errors = []) :
    validateAuthConfig allowed c.auth = [] := by
  simp only [validateClientCommonConfig, List.append_eq_nil_iff] at h
  exact h.1.1.1

variable {common : ClientCommonConfig} {aggregator : Aggregator} {proxies : List ProxyConfig}
  {visitors : List VisitorConfig}

/-- A service with these configurations and the token of its configuration. -/
def IsService (w : World Raw Text) (common : ClientCommonConfig) (proxies : List ProxyConfig)
    (visitors : List VisitorConfig) (svc : Service) : Prop :=
  ∃ auth : ClientAuth, (TokenOf w.toMachine common.auth auth.token ∧
    auth.additionalScopes = common.auth.additionalScopes) ∧ svc = ⟨common, auth, proxies, visitors⟩

theorem newService_eq_ok (hcomplete : common.complete w.httpProxy = common)
    (hauth : validateAuthConfig allowed common.auth = [])
    (hload : ∀ order last, aggregator.load order last = .ok (proxies, visitors)) {svc : Service} :
    (newService w common aggregator).result = .ok svc ↔
      IsService w common (selectConfigurers common proxies visitors).1
        (selectConfigurers common proxies visitors).2 svc := by
  simp only [newService, hcomplete, hload, Traced.result_bind_eq_ok, Traced.result_lift,
    Traced.except_mapError_ok, Traced.result_pure, Except.ok.injEq, buildClientAuth_eq_ok hauth,
    IsService, exists_eq_left', eq_comm (a := svc)]

theorem newService_ensures (hcomplete : common.complete w.httpProxy = common)
    (hauth : validateAuthConfig allowed common.auth = [])
    (hload : ∀ order last, aggregator.load order last = .ok (proxies, visitors)) :
    (newService w common aggregator).Ensures (MayRun allowed common.auth)
      (IsService w common (selectConfigurers common proxies visitors).1
        (selectConfigurers common proxies visitors).2) := by
  constructor
  · unfold newService
    rw [hcomplete]
    refine ((buildClientAuth_ensures hauth).bind (R := fun _ => True) fun auth _ => ?_).trace
    exact Traced.Ensures.bind (Q := fun _ => True) (.lift fun _ _ => trivial) fun _ _ =>
      .pure trivial
  · intro svc
    exact (newService_eq_ok hcomplete hauth hload).mp

theorem validateNoDuplicateNames_eq_ok {u : Unit}
    (h : validateNoDuplicateNames proxies visitors = .ok u) :
    (proxies.map Configurer.name).Nodup ∧ (visitors.map Configurer.name).Nodup := by
  unfold validateNoDuplicateNames at h
  split at h
  · cases h
  · split at h
    · cases h
    · exact ⟨(duplicateName_eq_none.mp ‹duplicateName "proxy" _ _ = none›).1,
        (duplicateName_eq_none.mp ‹duplicateName "visitor" _ _ = none›).1⟩

theorem loadClientConfigResult_spec {path : String} {result : ClientConfig}
    (h : loadClientConfigResult w path = .ok result) :
    (∃ allCfg, w.loadConfigureFromFile path = .ok allCfg ∧
      result.common = allCfg.common.complete w.httpProxy) ∧
    (result.proxies.map Configurer.name).Nodup ∧ (result.visitors.map Configurer.name).Nodup := by
  unfold loadClientConfigResult at h
  cases hall : w.loadConfigureFromFile path with
  | error err =>
    rw [hall] at h
    cases h
  | ok allCfg =>
    simp only [hall, bind, Except.bind] at h
    split at h
    · cases h
    · split at h
      · cases h
      · rename_i hnames
        obtain rfl := Except.ok.inj h
        exact ⟨⟨allCfg, rfl, rfl⟩, validateNoDuplicateNames_eq_ok hnames⟩

end Spec

section Started

variable {Raw Text : Type} {w : World Raw Text} {allowed : List String}
  {common : ClientCommonConfig} {proxies : List ProxyConfig} {visitors : List VisitorConfig}

/-- Entries that are to be started, with their defaults filled in and each name once. -/
structure Selected {T : Type} [Configurer T] (complete : T → T) (start : List String)
    (l : List T) : Prop where
  sorted : l.Pairwise fun x y => Configurer.name x < Configurer.name y
  started : ∀ cfg ∈ l, InStart start cfg ∧ isEnabled cfg = true
  completed : ∀ cfg ∈ l, complete cfg = cfg

/-- What holds of a service that has been made: it has passed every check, its defaults and those
of its entries are filled in, and its token is the one of its configuration. -/
structure Started (w : World Raw Text) (allowed : List String) (svc : Service) : Prop where
  valid : Valid w.toDirectories w.validateAnnotations allowed svc.common svc.proxyCfgs
    svc.visitorCfgs
  completed : svc.common.complete w.httpProxy = svc.common
  token : TokenOf w.toMachine svc.common.auth svc.auth.token
  scopes : svc.auth.additionalScopes = svc.common.auth.additionalScopes
  proxies : Selected completeProxy svc.common.start svc.proxyCfgs
  visitors : Selected VisitorConfig.complete svc.common.start svc.visitorCfgs

theorem Completes.selected {T : Type} [Configurer T] {complete : T → T} (h : Completes complete)
    {l : List T} (hl : l.Pairwise fun x y => Configurer.name x < Configurer.name y)
    (start : List String) :
    Selected complete start ((filterConfigurers start l).map complete) := by
  constructor
  · exact h.sorted hl start
  · intro cfg hcfg
    obtain ⟨cfg', hcfg', rfl⟩ := List.mem_map.mp hcfg
    obtain ⟨-, hin, hen⟩ := mem_filterConfigurers.mp hcfg'
    simp only [InStart, isEnabled, h.name, h.enabled] at hin hen ⊢
    exact ⟨hin, hen⟩
  · intro cfg hcfg
    obtain ⟨cfg', -, rfl⟩ := List.mem_map.mp hcfg
    exact h.idempotent cfg'

theorem newService_started {config : Source} {store : Option Source}
    (hcomplete : common.complete w.httpProxy = common)
    (hp : Loaded config.proxies (store.map (·.proxies)) proxies)
    (hv : Loaded config.visitors (store.map (·.visitors)) visitors)
    (hload : ∀ order last,
      Aggregator.load ⟨some config, store⟩ order last = .ok (proxies, visitors))
    (hvalid : Valid w.toDirectories w.validateAnnotations allowed common
      (selectConfigurers common proxies visitors).1 (selectConfigurers common proxies visitors).2) :
    (newService w common ⟨some config, store⟩).Ensures (MayRun allowed common.auth)
      (Started w allowed) := by
  apply (newService_ensures hcomplete (auth_of_common hvalid.common) hload).mono fun _ h => h
  rintro svc ⟨auth, ⟨htoken, hscopes⟩, rfl⟩
  exact ⟨hvalid, hcomplete, htoken, hscopes, completes_completeProxy.selected hp.sorted _,
    completes_completeVisitor.selected hv.sorted _⟩

theorem runClientWithAggregator_started {result : ClientConfig} (path : String)
    (hcomplete : result.common.complete w.httpProxy = result.common) :
    (runClientWithAggregator w allowed result path).Ensures (MayRun allowed result.common.auth)
      (Started w allowed) := by
  unfold runClientWithAggregator
  refine .bind (Q := fun _ => True) (.lift fun _ _ => trivial) fun configSource _ => ?_
  refine .bind (Q := fun _ => True) (.lift fun _ _ => trivial) fun storeSource _ => ?_
  obtain ⟨proxies, visitors, hp, hv, hload⟩ := load_any configSource storeSource
  refine .bind (Q := fun loaded => loaded = (proxies, visitors)) (.lift ?_) ?_
  · intro loaded hl
    rw [setStoreSource_newAggregator, hload] at hl
    exact (Except.ok.inj hl).symm
  · rintro loaded rfl
    -- The check has seen what the second `Load` will give.
    refine .bind (.lift fun _ h => validateAllClientConfig_errors.mp (accept_eq_ok.mp h)) ?_
    intro _ hvalid
    exact newService_started hcomplete hp hv hload hvalid

/-- Configurations from the command line, which have been completed and checked. -/
theorem startService_started (hcomplete : common.complete w.httpProxy = common)
    (hcommon : (validateClientCommonConfig w.toDirectories allowed common).errors = [])
    (hpnames : (proxies.map Configurer.name).Nodup) (hvnames : (visitors.map Configurer.name).Nodup)
    (hproxies : ∀ cfg ∈ proxies,
      validateProxyConfigurerForClient w.validateAnnotations (completeProxy cfg) = none)
    (hvisitors : ∀ cfg ∈ visitors, validateVisitorConfigurer cfg.complete = none) :
    (startService w common proxies visitors).Ensures (MayRun allowed common.auth)
      (Started w allowed) := by
  unfold startService
  refine .bind (.lift fun _ h => setConfigSource_eq_ok h) ?_
  rintro configSource ⟨-, hps, hvs⟩
  obtain ⟨proxies', visitors', hp, hv, hload⟩ := load_any configSource none
  refine newService_started hcomplete hp hv hload ⟨hcommon, ?_, ?_⟩
  · intro cfg hcfg
    obtain ⟨cfg', hcfg', rfl⟩ := List.mem_map.mp hcfg
    rw [hps] at hp
    exact hproxies cfg' ((hp.mem_iff hpnames cfg').mp (mem_filterConfigurers.mp hcfg').1).1
  · intro cfg hcfg
    obtain ⟨cfg', hcfg', rfl⟩ := List.mem_map.mp hcfg
    rw [hvs] at hv
    exact hvisitors cfg' ((hv.mem_iff hvnames cfg').mp (mem_filterConfigurers.mp hcfg').1).1

/-- A way to start `frpc`. -/
inductive Start where
  | run (cfgFilePath : String)
  | proxy (clientCfg : ClientCommonConfig) (c : ProxyConfig)
  | visitor (clientCfg : ClientCommonConfig) (c : VisitorConfig)

def Start.service (w : World Raw Text) (allowed : List String) :
    Start → Traced ExecSource String Service
  | .run cfgFilePath => runClient w allowed cfgFilePath
  | .proxy clientCfg c => runProxyCommand w allowed clientCfg c
  | .visitor clientCfg c => runVisitorCommand w allowed clientCfg c

/-- The common configuration as it is written. -/
def Start.written (w : World Raw Text) : Start → Except String ClientCommonConfig
  | .run cfgFilePath => (w.loadConfigureFromFile cfgFilePath).map (·.common)
  | .proxy clientCfg _ | .visitor clientCfg _ => .ok clientCfg

/-- A command that the written configuration names and the command line allows. -/
def Start.MayRun (w : World Raw Text) (allowed : List String) (start : Start) (e : ExecSource) :
    Prop :=
  ∃ c, start.written w = .ok c ∧ Startup.MayRun allowed c.auth e

theorem MayRun.of_complete {c : ClientCommonConfig} {httpProxy : String} {e : ExecSource}
    (h : MayRun allowed (c.complete httpProxy).auth e) : MayRun allowed c.auth e :=
  ⟨h.allows, h.source, h.valid⟩

theorem Start.service_started (start : Start) :
    (start.service w allowed).Ensures (start.MayRun w allowed) (Started w allowed) := by
  cases start with
  | run path =>
    refine .bind (.lift fun _ h => (loadClientConfigResult_spec h).1) ?_
    rintro result ⟨allCfg, hall, hcommon⟩
    have hrun : (runClientWithAggregator w allowed result path).Ensures
        (Startup.MayRun allowed result.common.auth) (Started w allowed) :=
      runClientWithAggregator_started path (by rw [hcommon, ClientCommonConfig.complete_complete])
    apply hrun.mono
    · intro e hmay
      rw [hcommon] at hmay
      exact ⟨allCfg.common, by rw [Start.written, hall]; rfl, hmay.of_complete⟩
    · exact fun _ h => h
  | proxy clientCfg c =>
    refine .bind (.lift fun _ h => accept_eq_ok.mp h) fun _ hcommon => ?_
    refine .bind (.lift fun _ h => Option.toList_eq_nil_iff.mp (accept_eq_ok.mp h)) ?_
    intro _ hcheck
    have hmay : ∀ e, Startup.MayRun allowed (clientCfg.complete w.httpProxy).auth e →
        Start.MayRun w allowed (.proxy clientCfg c) e :=
      fun e h => ⟨clientCfg, rfl, h.of_complete⟩
    refine Traced.Ensures.mono ?_ hmay fun _ h => h
    refine startService_started (clientCfg.complete_complete w.httpProxy) hcommon
      (List.nodup_singleton _) List.nodup_nil ?_ (List.forall_mem_nil _)
    intro cfg hcfg
    rw [List.mem_singleton.mp hcfg, completeProxy_completeProxy]
    exact hcheck
  | visitor clientCfg c =>
    refine .bind (.lift fun _ h => accept_eq_ok.mp h) fun _ hcommon => ?_
    refine .bind (.lift fun _ h => Option.toList_eq_nil_iff.mp (accept_eq_ok.mp h)) ?_
    intro _ hcheck
    have hmay : ∀ e, Startup.MayRun allowed (clientCfg.complete w.httpProxy).auth e →
        Start.MayRun w allowed (.visitor clientCfg c) e :=
      fun e h => ⟨clientCfg, rfl, h.of_complete⟩
    refine Traced.Ensures.mono ?_ hmay fun _ h => h
    refine startService_started (clientCfg.complete_complete w.httpProxy) hcommon
      List.nodup_nil (List.nodup_singleton _) (List.forall_mem_nil _) ?_
    intro cfg hcfg
    rw [List.mem_singleton.mp hcfg, completeVisitor_completeVisitor]
    exact hcheck

theorem TokenOf.of_complete {m : Machine} {cfg : AuthConfig} {token : String}
    (h : TokenOf m cfg.complete token) : TokenOf m cfg token := by
  cases h with
  | written hsrc => exact .written hsrc
  | file hsrc htype hfile hread => exact .file hsrc htype hfile hread
  | exec hsrc htype hexec hrun => exact .exec hsrc htype hexec hrun

theorem runServer_started (cfg : ServerConfig) :
    (runServer w allowed cfg).Ensures (MayRun allowed cfg.auth) fun auth =>
      TokenOf w.toMachine cfg.auth auth.token ∧
        auth.additionalScopes = cfg.auth.additionalScopes := by
  refine .bind (.lift fun _ h => accept_eq_ok.mp h) fun _ hvalid => ?_
  have hauth : validateAuthConfig allowed cfg.auth.complete = [] := by
    simp only [validateServerConfig, List.append_eq_nil_iff] at hvalid
    exact hvalid.1.1.1
  refine .bind (Q := fun _ => True) (.lift fun _ _ => trivial) fun _ _ => ?_
  refine .bind ((buildServerAuth_ensures hauth).mono ?_ fun _ h => h) fun auth h => ?_
  · intro e hmay
    exact ⟨hmay.allows, hmay.source, hmay.valid⟩
  · exact .bind (Q := fun _ => True) (.lift fun _ _ => trivial) fun _ _ =>
      .pure ⟨h.1.of_complete, h.2⟩

end Started

section Sample

def sampleAuth : AuthConfig := ⟨"", ["HeartBeats"], "", none⟩

def sampleCommon : ClientCommonConfig where
  auth := sampleAuth
  serverAddr := ""
  serverPort := 0
  natHoleSTUNServer := ""
  loginFailExit := none
  start := []
  log := ⟨"", "", 0⟩
  transport :=
    { protocol := "", wireProtocol := "v2", dialServerTimeout := 0, dialServerKeepAlive := 0
      proxyURL := "", poolCount := 0, tcpMux := some false, tcpMuxKeepaliveInterval := 0
      quic := ⟨0, 0, 0⟩, heartbeatInterval := 0, heartbeatTimeout := 0
      tls := ⟨none, none, "", "", ""⟩ }
  includeConfigFiles := []
  store := ⟨""⟩

def sampleProxy (name : String) (enabled : Option Bool) : ProxyConfig :=
  ⟨name, "xtcp", enabled, [], false, false, [], "", 22, "secret", [], none⟩

/-- A machine whose commands print a token. -/
def sampleWorld : World Unit Unit where
  readFile _ := .error "no such file"
  output _ := .ok "token"
  trimSpace text := text
  absDir path := .ok path
  notExist _ := none
  httpProxy := ""
  validateAnnotations _ := none
  loadConfigureFromFile _ := .ok ⟨sampleCommon,
    [sampleProxy "web" none, sampleProxy "ssh" none, sampleProxy "old" (some false)], []⟩
  readDir _ := .ok []
  glob _ _ := false
  codec := ⟨(), fun _ _ => .ok (), fun _ => .ok ([], []), fun _ => false, fun _ => .ok "xtcp",
    fun cfg _ => .ok cfg, fun cfg _ => .ok cfg⟩
  readErr := none
  disk _ := none
  storePath _ path := path
  newServerTLSConfig _ := .ok ()
  listen _ _ := .ok ()
  order _ _ := ⟨fun l => ⟨l, .refl l⟩, fun l => ⟨l, .refl l⟩⟩
  last _ := ⟨fun l => ⟨l, .refl l⟩, fun l => ⟨l, .refl l⟩⟩

end Sample

section Entry

variable {Raw Text : Type} {w : World Raw Text} {allowed : List String}

/-- Whichever way `frpc` is started, a service that is made has passed every check. -/
theorem started_service_checked (start : Start) {svc : Service}
    (h : (start.service w allowed).result = .ok svc) : Started w allowed svc :=
  start.service_started.result svc h

theorem started_service_checked_proxy :
    ∃ svc, ((Start.proxy sampleCommon (sampleProxy "web" none)).service sampleWorld []).result =
      .ok svc ∧ Started sampleWorld [] svc := by
  have hok : ((Start.proxy sampleCommon (sampleProxy "web" none)).service
      sampleWorld []).result.isOk = true := by decide +kernel
  cases h : ((Start.proxy sampleCommon (sampleProxy "web" none)).service sampleWorld []).result with
  | error err =>
    rw [h] at hok
    cases hok
  | ok svc => exact ⟨svc, rfl, started_service_checked _ h⟩

/-- Client and server run a command for their token only if the configuration names it and the
command line allows such commands, also in starts that fail later. -/
theorem token_commands_allowed :
    (∀ start : Start, ∀ e ∈ (start.service w allowed).trace, start.MayRun w allowed e) ∧
      ∀ cfg : ServerConfig, ∀ e ∈ (runServer w allowed cfg).trace, MayRun allowed cfg.auth e :=
  ⟨fun start => start.service_started.trace, fun cfg => (runServer_started cfg).trace⟩

/-- The token comes from a command. -/
def sampleExec : ClientCommonConfig :=
  { sampleCommon with
    auth := { sampleAuth with tokenSource := some ⟨"exec", none, some ⟨"pass", ["frp"], []⟩⟩ } }

theorem token_commands_allowed_exec :
    ((Start.proxy sampleExec (sampleProxy "web" none)).service sampleWorld []).trace = [] ∧
      ((Start.proxy sampleExec (sampleProxy "web" none)).service sampleWorld
        [tokenSourceExec]).trace = [⟨"pass", ["frp"], []⟩] ∧
      (Start.proxy sampleExec (sampleProxy "web" none)).MayRun sampleWorld [tokenSourceExec]
        ⟨"pass", ["frp"], []⟩ :=
  ⟨by decide +kernel, by decide +kernel, token_commands_allowed.1 _ _ (by decide +kernel)⟩

end Entry

section Verify

variable {Raw Text : Type} {w : World Raw Text} {allowed : List String} {result : ClientConfig}
  {path : String}

theorem verifyClientConfig_errors (hload : loadClientConfigResult w path = .ok result) :
    (verifyClientConfig w allowed path).errors = [] ↔
      Valid w.toDirectories w.validateAnnotations allowed result.common
        (selectConfigurers result.common result.proxies result.visitors).1
        (selectConfigurers result.common result.proxies result.visitors).2 := by
  rw [verifyClientConfig, loadClientConfig, hload]
  exact validateAllClientConfig_errors

/-- What `NewService` selects from the sources, and what `verify` has selected from the file. -/
theorem selectConfigurers_loaded (common : ClientCommonConfig) {proxies proxies' : List ProxyConfig}
    {visitors visitors' : List VisitorConfig} (hp : (proxies.map Configurer.name).Nodup)
    (hv : (visitors.map Configurer.name).Nodup)
    (hp' : Loaded (putAll .empty proxies) none proxies')
    (hv' : Loaded (putAll .empty visitors) none visitors') :
    selectConfigurers common proxies' visitors' =
      (sortedByName (selectConfigurers common proxies visitors).1,
        sortedByName (selectConfigurers common proxies visitors).2) :=
  Prod.ext (completes_completeProxy.select_eq hp hp'.sorted (hp'.mem_iff hp) _)
    (completes_completeVisitor.select_eq hv hv'.sorted (hv'.mem_iff hv) _)

/-- Without a store, `frpc` starts a service exactly if `verify` accepts the file, every entry has
a name and the token can be had. -/
theorem runClient_eq_ok (hload : loadClientConfigResult w path = .ok result)
    (hstore : result.common.store.path = "") (svc : Service) :
    (runClient w allowed path).result = .ok svc ↔
      (verifyClientConfig w allowed path).errors = [] ∧ Named result.proxies result.visitors ∧
        IsService w result.common
          (sortedByName (selectConfigurers result.common result.proxies result.visitors).1)
          (sortedByName (selectConfigurers result.common result.proxies result.visitors).2)
          svc := by
  obtain ⟨⟨allCfg, -, hcommon⟩, hpnames, hvnames⟩ := loadClientConfigResult_spec hload
  have hcomplete : result.common.complete w.httpProxy = result.common := by
    rw [hcommon, ClientCommonConfig.complete_complete]
  have hperm : ∀ {T : Type} [Configurer T] (l : List T), (sortedByName l).Perm l :=
    fun l => List.mergeSort_perm l _
  rw [verifyClientConfig_errors hload]
  simp only [runClient, runClientWithAggregator, Traced.result_bind_eq_ok, Traced.result_lift,
    hload, Except.ok.injEq, exists_eq_left', openStoreIfEnabled, hstore, if_true, accept_eq_ok,
    validateAllClientConfig_errors]
  constructor
  · rintro ⟨config, hconfig, loaded, hl, -, hvalid, hnew⟩
    obtain ⟨hnamed, hps, hvs⟩ := setConfigSource_eq_ok hconfig
    obtain ⟨proxies, visitors, hp, hv, hany⟩ := load_any config none
    rw [setStoreSource_newAggregator, hany] at hl
    obtain rfl := Except.ok.inj hl
    rw [hps] at hp
    rw [hvs] at hv
    have hselect := selectConfigurers_loaded result.common hpnames hvnames hp hv
    have hservice := (newService_eq_ok hcomplete (auth_of_common hvalid.common) hany).mp hnew
    rw [hselect] at hvalid hservice
    exact ⟨hvalid.perm (hperm _).symm (hperm _).symm, hnamed, hservice⟩
  · rintro ⟨hvalid, hnamed, hservice⟩
    obtain ⟨config, hconfig⟩ := hnamed.setConfigSource
    obtain ⟨-, hps, hvs⟩ := setConfigSource_eq_ok hconfig
    obtain ⟨proxies, visitors, hp, hv, hany⟩ := load_any config none
    rw [hps] at hp
    rw [hvs] at hv
    have hselect := selectConfigurers_loaded result.common hpnames hvnames hp hv
    refine ⟨config, hconfig, (proxies, visitors), ?_, (), ?_, ?_⟩
    · rw [setStoreSource_newAggregator, hany]
      rfl
    · rw [hselect]
      exact hvalid.perm (hperm _) (hperm _)
    · refine (newService_eq_ok hcomplete (auth_of_common hvalid.common) hany).mpr ?_
      rw [hselect]
      exact hservice

/-- `frpc` and `frpc verify` agree on every file: one that does not load is refused by both, with
the same error. One that loads and names no store starts a service exactly if `verify` accepts
it, every entry has a name and the token can be had; the service has the entries that have been
verified, in the order of their names. -/
theorem run_starts_verified (w : World Raw Text) (allowed : List String) (path : String) :
    (∀ err, loadClientConfigResult w path = .error err →
      (verifyClientConfig w allowed path).errors = [err] ∧
        (runClient w allowed path).result = .error err) ∧
    ∀ result, loadClientConfigResult w path = .ok result → result.common.store.path = "" →
      ∀ svc, (runClient w allowed path).result = .ok svc ↔
        (verifyClientConfig w allowed path).errors = [] ∧ Named result.proxies result.visitors ∧
          IsService w result.common
            (sortedByName (selectConfigurers result.common result.proxies result.visitors).1)
            (sortedByName (selectConfigurers result.common result.proxies result.visitors).2)
            svc := by
  refine ⟨fun err hload => ⟨?_, ?_⟩, fun result hload hstore => runClient_eq_ok hload hstore⟩
  · rw [verifyClientConfig, loadClientConfig, hload]
    rfl
  · rw [runClient, hload]
    rfl

theorem run_starts_verified_sample :
    ∃ svc, (runClient sampleWorld [] "frpc.toml").result = .ok svc ∧
      svc.proxyCfgs = sortedByName [completeProxy (sampleProxy "web" none),
        completeProxy (sampleProxy "ssh" none)] :=
  ⟨_, ((run_starts_verified sampleWorld [] "frpc.toml").2 _ rfl rfl _).mpr
    ⟨by decide +kernel, ⟨by decide +kernel, by decide +kernel⟩, ⟨["HeartBeats"], ""⟩,
      ⟨.written rfl, rfl⟩, rfl⟩, rfl⟩

end Verify

end FrpXtcp.Config.Startup

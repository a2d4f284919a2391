import Mathlib.Logic.Function.Basic
import FrpXtcp.Client.ProxyManager
import FrpXtcp.Client.VisitorManager
import FrpXtcp.Lib.HostPort

/-!
# The store of configurations

`pkg/config/source/store.go`: proxies and visitors in two maps and in a JSON file. A mutator
changes a map, writes both maps to a temporary file that it renames over the store file, and
undoes the change if any step of that fails; `NewStoreSource` reads the file. The texts that
JSON encoding produces are left open: a `Codec` says what they are and how they are read.
-/
namespace FrpXtcp.Config

open FrpXtcp.Lib
open FrpXtcp.Client (ProxyConfig VisitorConfig)

/-- `util.ClonePtr`, and `NatTraversalConfig.Clone` for the one flag of that type. -/
def clonePtr {T : Type} : Option T → Option T
  | none => none
  | some v => some v

/-- `maps.Clone`, entry by entry. -/
def cloneMap (m : List (String × String)) : List (String × String) :=
  m.map fun entry => (entry.1, entry.2)

/-- `slices.Clone` appends to an empty slice. -/
def cloneSlice (s : List String) : List String := [] ++ s

/-- `XTCPProxyConfig.Clone` with `ProxyBaseConfig.Clone`. -/
def cloneProxyConfig (c : ProxyConfig) : ProxyConfig :=
  { c with
    enabled := clonePtr c.enabled
    annotations := cloneMap c.annotations
    metadatas := cloneMap c.metadatas
    allowUsers := cloneSlice c.allowUsers
    natTraversal := clonePtr c.natTraversal }

/-- `XTCPVisitorConfig.Clone` with `VisitorBaseConfig.Clone`. -/
def cloneVisitorConfig (c : VisitorConfig) : VisitorConfig :=
  { c with
    enabled := clonePtr c.enabled
    disableAssistedAddrs := clonePtr c.disableAssistedAddrs }

@[simp] theorem clonePtr_eq {T : Type} (v : Option T) : clonePtr v = v := by
  cases v with
  | none => rfl
  | some v => rfl

@[simp] theorem cloneMap_eq (m : List (String × String)) : cloneMap m = m :=
  List.map_id m

theorem cloneProxyConfig_eq (c : ProxyConfig) : cloneProxyConfig c = c := by
  simp [cloneProxyConfig, cloneSlice]

theorem cloneVisitorConfig_eq (c : VisitorConfig) : cloneVisitorConfig c = c := by
  simp [cloneVisitorConfig]

/-- What the sources read of a configuration, through `GetBaseConfig`, and `Clone`: a copy has the
value of what it was made from. -/
class Configurer (T : Type) where
  name : T → String
  type : T → String
  enabled : T → Option Bool
  clone : T → T
  clone_eq : ∀ cfg, clone cfg = cfg

instance : Configurer ProxyConfig where
  name := ProxyConfig.name
  type := ProxyConfig.type
  enabled := ProxyConfig.enabled
  clone := cloneProxyConfig
  clone_eq := cloneProxyConfig_eq

instance : Configurer VisitorConfig where
  name c := c.name
  type c := c.type
  enabled c := c.enabled
  clone := cloneVisitorConfig
  clone_eq := cloneVisitorConfig_eq

structure BaseSource where
  proxies : GoMap String ProxyConfig
  visitors : GoMap String VisitorConfig

def newBaseSource : BaseSource := ⟨.empty, .empty⟩

structure StoreSourceConfig where
  path : String

structure StoreSource extends BaseSource where
  config : StoreSourceConfig

/-- The files, by path, with what they hold. -/
abbrev Disk (Text : Type) := String → Option Text

/-- The order in which a loop goes over the values of a map. -/
structure Iteration where
  proxies : (l : List ProxyConfig) → { o : List ProxyConfig // o.Perm l }
  visitors : (l : List VisitorConfig) → { o : List VisitorConfig // o.Perm l }

/-- JSON encoding and decoding, of the store file and of single configurations. -/
structure Codec (Raw Text : Type) where
  /-- What a new file holds. -/
  empty : Text
  marshalIndent : List ProxyConfig → List VisitorConfig → Except String Text
  unmarshal : Text → Except String (List Raw × List Raw)
  isJSONNull : Raw → Bool
  /-- `Unmarshal` into a `typedEnvelope`. -/
  envelope : Raw → Except String String
  unmarshalProxy : ProxyConfig → Raw → Except String ProxyConfig
  unmarshalVisitor : VisitorConfig → Raw → Except String VisitorConfig

/-- What the operating system answers while the store is saved: the text of an error, or
`none`. -/
structure Answers (Text : Type) where
  mkdirAll : Option String
  openFile : Option String
  /-- With what the file holds after a write that failed. -/
  write : Option (String × Text)
  sync : Option String
  close : Option String
  rename : Option String
  /-- Whether `os.Remove` removes the file. -/
  remove : Bool

structure Env (Text : Type) where
  order : Iteration
  answers : Answers Text

variable {Raw Text : Type}

section Save

variable (codec : Codec Raw Text) (env : Env Text)

def tmpPath (s : StoreSource) : String := s.config.path ++ ".tmp"

/-- `os.Remove(tmpPath)`, whose error is ignored. -/
def removeTmp (s : StoreSource) (disk : Disk Text) : Disk Text :=
  if env.answers.remove then Function.update disk (tmpPath s) none else disk

/-- `os.Rename(tmpPath, s.config.Path)`, when it succeeds. -/
def renameTmp (s : StoreSource) (disk : Disk Text) : Disk Text :=
  Function.update (Function.update disk (tmpPath s) none) s.config.path (disk (tmpPath s))

/-- The error, and the files afterwards. -/
def saveToFileUnlocked (s : StoreSource) (disk : Disk Text) : Option String × Disk Text :=
  match codec.marshalIndent (env.order.proxies s.proxies.values).val
      (env.order.visitors s.visitors.values).val with
  | .error err => (some s!"failed to marshal JSON: {err}", disk)
  | .ok data =>
  match env.answers.mkdirAll with
  | some err => (some s!"failed to create directory: {err}", disk)
  | none =>
  match env.answers.openFile with
  | some err => (some s!"failed to create temp file: {err}", disk)
  | none =>
  let opened := Function.update disk (tmpPath s) (some codec.empty)
  match env.answers.write with
  | some (err, written) =>
    (some s!"failed to write temp file: {err}",
      removeTmp env s (Function.update opened (tmpPath s) (some written)))
  | none =>
  let full := Function.update opened (tmpPath s) (some data)
  match env.answers.sync with
  | some err => (some s!"failed to sync temp file: {err}", removeTmp env s full)
  | none =>
  match env.answers.close with
  | some err => (some s!"failed to close temp file: {err}", removeTmp env s full)
  | none =>
  match env.answers.rename with
  | some err => (some s!"failed to rename temp file: {err}", removeTmp env s full)
  | none => (none, renameTmp s full)

end Save

/-- A store and the files. -/
structure State (Text : Type) where
  source : StoreSource
  disk : Disk Text

/-- `entriesFn` of the store helpers: the map that a mutator is about. -/
structure Selector (T : Type) where
  entries : StoreSource → GoMap String T
  modify : (GoMap String T → GoMap String T) → StoreSource → StoreSource

def proxyStoreEntries : Selector ProxyConfig :=
  ⟨fun s => s.proxies, fun f s => { s with proxies := f s.proxies }⟩

def visitorStoreEntries : Selector VisitorConfig :=
  ⟨fun s => s.visitors, fun f s => { s with visitors := f s.visitors }⟩

section Mutators

variable (codec : Codec Raw Text) (env : Env Text)

/-- The state afterwards and the error. -/
def persistOrRollbackUnlocked (rollback : StoreSource → StoreSource) (s : State Text) :
    State Text × Option String :=
  match saveToFileUnlocked codec env s.source s.disk with
  | (some err, disk) => (⟨rollback s.source, disk⟩, some s!"failed to persist: {err}")
  | (none, disk) => (⟨s.source, disk⟩, none)

variable {T : Type}

def addStoreEntry (entriesFn : Selector T) (kind name : String) (value : T) (s : State Text) :
    State Text × Option String :=
  match (entriesFn.entries s.source).get? name with
  | some _ => (s, some s!"already exists: {kind} {quote name}")
  | none =>
    persistOrRollbackUnlocked codec env (entriesFn.modify (·.erase name))
      { s with source := entriesFn.modify (·.insert name value) s.source }

def updateStoreEntry (entriesFn : Selector T) (kind name : String) (value : T) (s : State Text) :
    State Text × Option String :=
  match (entriesFn.entries s.source).get? name with
  | none => (s, some s!"not found: {kind} {quote name}")
  | some old =>
    persistOrRollbackUnlocked codec env (entriesFn.modify (·.insert name old))
      { s with source := entriesFn.modify (·.insert name value) s.source }

def removeStoreEntry (entriesFn : Selector T) (kind name : String) (s : State Text) :
    State Text × Option String :=
  if name = "" then (s, some s!"{kind} name cannot be empty")
  else match (entriesFn.entries s.source).get? name with
  | none => (s, some s!"not found: {kind} {quote name}")
  | some old =>
    persistOrRollbackUnlocked codec env (entriesFn.modify (·.insert name old))
      { s with source := entriesFn.modify (·.erase name) s.source }

/-- `validateProxyName` and `validateVisitorName`: the name, with the configuration that is
now known not to be nil. -/
def validateName [Configurer T] (kind : String) : Option T → Except String (String × T)
  | none => .error s!"{kind} cannot be nil"
  | some cfg =>
    if Configurer.name cfg = "" then .error s!"{kind} name cannot be empty"
    else .ok (Configurer.name cfg, cfg)

def validateProxyName : Option ProxyConfig → Except String (String × ProxyConfig) :=
  validateName "proxy"

def validateVisitorName : Option VisitorConfig → Except String (String × VisitorConfig) :=
  validateName "visitor"

/-- `if err != nil { return err }` after the check of a name. -/
def checked (name : Except String (String × T)) (s : State Text)
    (mutate : String → T → State Text × Option String) : State Text × Option String :=
  match name with
  | .error err => (s, some err)
  | .ok (name, cfg) => mutate name cfg

def addProxy (proxy : Option ProxyConfig) (s : State Text) : State Text × Option String :=
  checked (validateProxyName proxy) s fun name cfg =>
    addStoreEntry codec env proxyStoreEntries "proxy" name cfg s

def updateProxy (proxy : Option ProxyConfig) (s : State Text) : State Text × Option String :=
  checked (validateProxyName proxy) s fun name cfg =>
    updateStoreEntry codec env proxyStoreEntries "proxy" name cfg s

def removeProxy (name : String) (s : State Text) : State Text × Option String :=
  removeStoreEntry codec env proxyStoreEntries "proxy" name s

def addVisitor (visitor : Option VisitorConfig) (s : State Text) : State Text × Option String :=
  checked (validateVisitorName visitor) s fun name cfg =>
    addStoreEntry codec env visitorStoreEntries "visitor" name cfg s

def updateVisitor (visitor : Option VisitorConfig) (s : State Text) :
    State Text × Option String :=
  checked (validateVisitorName visitor) s fun name cfg =>
    updateStoreEntry codec env visitorStoreEntries "visitor" name cfg s

def removeVisitor (name : String) (s : State Text) : State Text × Option String :=
  removeStoreEntry codec env visitorStoreEntries "visitor" name s

end Mutators

inductive Call where
  | addProxy (proxy : Option ProxyConfig)
  | updateProxy (proxy : Option ProxyConfig)
  | removeProxy (name : String)
  | addVisitor (visitor : Option VisitorConfig)
  | updateVisitor (visitor : Option VisitorConfig)
  | removeVisitor (name : String)

def call (codec : Codec Raw Text) (env : Env Text) (s : State Text) :
    Call → State Text × Option String
  | .addProxy proxy => addProxy codec env proxy s
  | .updateProxy proxy => updateProxy codec env proxy s
  | .removeProxy name => removeProxy codec env name s
  | .addVisitor visitor => addVisitor codec env visitor s
  | .updateVisitor visitor => updateVisitor codec env visitor s
  | .removeVisitor name => removeVisitor codec env name s

section Load

/-- What `reflect.New` gives for `XTCPProxyConfig`, with its type set. -/
def newProxyConfigurerByType (proxyType : String) : Option ProxyConfig :=
  if proxyType = "xtcp" then
    some ⟨"", proxyType, none, [], false, false, [], "", 0, "", [], none⟩
  else none

def newVisitorConfigurerByType (visitorType : String) : Option VisitorConfig :=
  if visitorType = "xtcp" then
    some ⟨⟨"", visitorType, none, ⟨false, false⟩, "", "", "", "", 0⟩, "", false, 0, 0, "", 0, none⟩
  else none

/-- `DecodeProxyConfigurerJSON` and `DecodeVisitorConfigurerJSON`. -/
def decodeConfigurerJSON {T : Type} (codec : Codec Raw Text) (newByType : String → Option T)
    (unmarshal : T → Raw → Except String T) (kind config : String) (b : Raw) : Except String T :=
  if codec.isJSONNull b then .error "type is required"
  else match codec.envelope b with
  | .error err => .error err
  | .ok type =>
    match newByType type with
    | none => .error s!"unknown {kind} type: {type}"
    | some configurer =>
      match unmarshal configurer b with
      | .error err => .error s!"unmarshal {config} error: {err}"
      | .ok cfg => .ok cfg

def decodeProxyConfigurerJSON (codec : Codec Raw Text) : Raw → Except String ProxyConfig :=
  decodeConfigurerJSON codec newProxyConfigurerByType codec.unmarshalProxy "proxy" "ProxyConfig"

def decodeVisitorConfigurerJSON (codec : Codec Raw Text) : Raw → Except String VisitorConfig :=
  decodeConfigurerJSON codec newVisitorConfigurerByType codec.unmarshalVisitor "visitor"
    "VisitorConfig"

/-- A loop of `loadFromFileUnlocked`, from index `i` on. -/
def loadEntries {T : Type} [Configurer T] (decode : Raw → Except String T) (kind : String) :
    Nat → GoMap String T → List Raw → Except String (GoMap String T)
  | _, m, [] => .ok m
  | i, m, data :: rest =>
    match decode data with
    | .error err => .error s!"failed to decode {kind} at index {i}: {err}"
    | .ok cfg =>
      if Configurer.name cfg = "" then .error s!"{kind} name cannot be empty"
      else loadEntries decode kind (i + 1) (m.insert (Configurer.name cfg) cfg) rest

inductive LoadError where
  | notExist
  | failed (text : String)

/-- `readErr` is an error of `os.ReadFile` other than that there is no file. -/
def loadFromFileUnlocked (codec : Codec Raw Text) (readErr : Option String) (path : String)
    (disk : Disk Text) : Except LoadError BaseSource :=
  match readErr, disk path with
  | some err, _ => .error (.failed err)
  | none, none => .error .notExist
  | none, some data =>
    match codec.unmarshal data with
    | .error err => .error (.failed s!"failed to parse JSON: {err}")
    | .ok (proxyData, visitorData) =>
      match loadEntries (decodeProxyConfigurerJSON codec) "proxy" 0 .empty proxyData with
      | .error err => .error (.failed err)
      | .ok proxies =>
        match loadEntries (decodeVisitorConfigurerJSON codec) "visitor" 0 .empty visitorData with
        | .error err => .error (.failed err)
        | .ok visitors => .ok ⟨proxies, visitors⟩

def newStoreSource (codec : Codec Raw Text) (readErr : Option String) (cfg : StoreSourceConfig)
    (disk : Disk Text) : Except String StoreSource :=
  if cfg.path = "" then .error "path is required"
  else match loadFromFileUnlocked codec readErr cfg.path disk with
  | .ok base => .ok { base with config := cfg }
  | .error .notExist => .ok { newBaseSource with config := cfg }
  | .error (.failed err) => .error s!"failed to load existing data: {err}"

end Load

end FrpXtcp.Config

import FrpXtcp.Client.ProxyManager
import FrpXtcp.Client.XTCPVisitor
import FrpXtcp.Lib.Traced

/-!
# Defaults, checks and the token of a configuration

The common configurations of client and server (`pkg/config/v1/client.go`, `server.go`,
`common.go`) with their defaults, the checks of `pkg/config/v1/validation`, and the sources a
token can come from (`pkg/config/v1/value_source.go`, `pkg/auth/auth.go`): a file or the output
of a command. Whether a command may be run is decided in the checks and nowhere else, so the
commands that are run are the effects of the model. An `error` that `AppendError` has put
together is the list of its parts; nil is the empty list. Fields that no function here reads
are left out.
-/
namespace FrpXtcp.Config.Startup

open FrpXtcp.Lib
open FrpXtcp.Util (emptyOr)
open FrpXtcp.Client (ProxyConfig VisitorConfig validateVisitorConfigurer)
open FrpXtcp.Server.Proxy (AnnotationCheck)

section Sources

structure ExecEnvVar where
  name : String
  value : String
  deriving DecidableEq

structure ExecSource where
  command : String
  args : List String
  env : List ExecEnvVar
  deriving DecidableEq

structure FileSource where
  path : String
  deriving DecidableEq

structure ValueSource where
  type : String
  file : Option FileSource
  exec : Option ExecSource
  deriving DecidableEq

def FileSource.validate (f : FileSource) : Option String :=
  if f.path = "" then some "file path cannot be empty" else none

/-- The body of the loop in `ExecSource.Validate`. -/
def ExecEnvVar.validate (env : ExecEnvVar) : Option String :=
  if env.name = "" then some "exec env name cannot be empty"
  else if '=' ∈ env.name.toList then some "exec env name cannot contain '='"
  else none

def ExecSource.validate (e : ExecSource) : Option String :=
  if e.command = "" then some "exec command cannot be empty"
  else e.env.findSome? ExecEnvVar.validate

def ValueSource.validate (v : ValueSource) : Option String :=
  if v.type = "file" then
    match v.file with
    | none => some "file configuration is required when type is 'file'"
    | some file => file.validate
  else if v.type = "exec" then
    match v.exec with
    | none => some "exec configuration is required when type is 'exec'"
    | some exec => exec.validate
  else some s!"unsupported value source type: {v.type} (only 'file' and 'exec' are supported)"

/-- What the machine answers when a value is resolved. -/
structure Machine where
  /-- `os.ReadFile` -/
  readFile : String → Except String String
  /-- `cmd.Output` -/
  output : ExecSource → Except String String
  /-- `strings.TrimSpace` -/
  trimSpace : String → String

variable (w : Machine)

def FileSource.resolve (f : FileSource) : Except String String :=
  match f.validate with
  | some err => .error err
  | none =>
    match w.readFile f.path with
    | .error err => .error s!"failed to read file {f.path}: {err}"
    | .ok content => .ok (w.trimSpace content)

def ExecSource.resolve (e : ExecSource) : Traced ExecSource String String :=
  match e.validate with
  | some err => liftM (Except.error err)
  | none =>
    .perform e <|
      match w.output e with
      | .error err => .error s!"failed to execute command {e.command}: {err}"
      | .ok content => .ok (w.trimSpace content)

def ValueSource.resolve (v : ValueSource) : Traced ExecSource String String :=
  match v.validate with
  | some err => liftM (Except.error err)
  | none =>
    if v.type = "file" then
      match v.file with
      | none => liftM (Except.error "fileSource cannot be nil")
      | some file => liftM (file.resolve w)
    else if v.type = "exec" then
      match v.exec with
      | none => liftM (Except.error "execSource cannot be nil")
      | some exec => exec.resolve w
    else liftM (Except.error s!"unsupported value source type: {v.type}")

end Sources

section Configs

/-- `AuthClientConfig` and `AuthServerConfig`, which have the same fields. -/
structure AuthConfig where
  method : String
  additionalScopes : List String
  token : String
  tokenSource : Option ValueSource
  deriving DecidableEq

structure LogConfig where
  /-- `To` -/
  target : String
  level : String
  maxDays : Int
  deriving DecidableEq

structure QUICOptions where
  keepalivePeriod : Int
  maxIdleTimeout : Int
  maxIncomingStreams : Int
  deriving DecidableEq

structure TLSClientConfig where
  enable : Option Bool
  disableCustomTLSFirstByte : Option Bool
  certFile : String
  keyFile : String
  trustedCaFile : String
  deriving DecidableEq

structure ClientTransportConfig where
  protocol : String
  wireProtocol : String
  dialServerTimeout : Int
  dialServerKeepAlive : Int
  proxyURL : String
  poolCount : Int
  tcpMux : Option Bool
  tcpMuxKeepaliveInterval : Int
  quic : QUICOptions
  heartbeatInterval : Int
  heartbeatTimeout : Int
  tls : TLSClientConfig
  deriving DecidableEq

structure StoreConfig where
  path : String
  deriving DecidableEq

structure ClientCommonConfig where
  auth : AuthConfig
  serverAddr : String
  serverPort : Int
  natHoleSTUNServer : String
  loginFailExit : Option Bool
  start : List String
  log : LogConfig
  transport : ClientTransportConfig
  includeConfigFiles : List String
  store : StoreConfig
  deriving DecidableEq

def AuthConfig.complete (c : AuthConfig) : AuthConfig :=
  { c with method := emptyOr c.method "token" }

def LogConfig.complete (c : LogConfig) : LogConfig :=
  ⟨emptyOr c.target "console", emptyOr c.level "info", emptyOr c.maxDays 3⟩

def QUICOptions.complete (c : QUICOptions) : QUICOptions :=
  ⟨emptyOr c.keepalivePeriod 10, emptyOr c.maxIdleTimeout 30, emptyOr c.maxIncomingStreams 100000⟩

def TLSClientConfig.complete (c : TLSClientConfig) : TLSClientConfig :=
  { c with
    enable := emptyOr c.enable (some true)
    disableCustomTLSFirstByte := emptyOr c.disableCustomTLSFirstByte (some true) }

/-- The value behind a pointer, or the zero value: `lo.FromPtr`. -/
def fromPtr (b : Option Bool) : Bool := b.getD false

/-- `httpProxy` is the environment's `http_proxy`. -/
def ClientTransportConfig.complete (httpProxy : String) (c : ClientTransportConfig) :
    ClientTransportConfig :=
  let tcpMux := emptyOr c.tcpMux (some true)
  { protocol := emptyOr c.protocol "tcp"
    wireProtocol := emptyOr c.wireProtocol "v1"
    dialServerTimeout := emptyOr c.dialServerTimeout 10
    dialServerKeepAlive := emptyOr c.dialServerKeepAlive 7200
    proxyURL := emptyOr c.proxyURL httpProxy
    poolCount := emptyOr c.poolCount 1
    tcpMux := tcpMux
    tcpMuxKeepaliveInterval := emptyOr c.tcpMuxKeepaliveInterval 30
    quic := c.quic.complete
    heartbeatInterval := emptyOr c.heartbeatInterval (if fromPtr tcpMux then -1 else 30)
    heartbeatTimeout := emptyOr c.heartbeatTimeout (if fromPtr tcpMux then -1 else 90)
    tls := c.tls.complete }

def ClientCommonConfig.complete (httpProxy : String) (c : ClientCommonConfig) :
    ClientCommonConfig :=
  { c with
    serverAddr := emptyOr c.serverAddr "0.0.0.0"
    serverPort := emptyOr c.serverPort 7000
    loginFailExit := emptyOr c.loginFailExit (some true)
    natHoleSTUNServer := emptyOr c.natHoleSTUNServer "stun.easyvoip.com:3478"
    auth := c.auth.complete
    log := c.log.complete
    transport := c.transport.complete httpProxy }

structure TLSServerConfig where
  force : Bool
  certFile : String
  keyFile : String
  trustedCaFile : String
  deriving DecidableEq

structure ServerTransportConfig where
  tcpMux : Option Bool
  tcpMuxKeepaliveInterval : Int
  tcpKeepAlive : Int
  maxPoolCount : Int
  heartbeatTimeout : Int
  quic : QUICOptions
  tls : TLSServerConfig
  deriving DecidableEq

structure ServerConfig where
  auth : AuthConfig
  bindAddr : String
  bindPort : Int
  log : LogConfig
  transport : ServerTransportConfig
  detailedErrorsToClient : Option Bool
  userConnTimeout : Int
  natHoleAnalysisDataReserveHours : Int
  deriving DecidableEq

def ServerTransportConfig.complete (c : ServerTransportConfig) : ServerTransportConfig :=
  let tcpMux := emptyOr c.tcpMux (some true)
  { tcpMux := tcpMux
    tcpMuxKeepaliveInterval := emptyOr c.tcpMuxKeepaliveInterval 30
    tcpKeepAlive := emptyOr c.tcpKeepAlive 7200
    maxPoolCount := emptyOr c.maxPoolCount 5
    heartbeatTimeout := emptyOr c.heartbeatTimeout (if fromPtr tcpMux then -1 else 90)
    quic := c.quic.complete
    tls := if c.tls.trustedCaFile ≠ "" then { c.tls with force := true } else c.tls }

def ServerConfig.complete (c : ServerConfig) : ServerConfig where
  auth := c.auth.complete
  log := c.log.complete
  transport := c.transport.complete
  bindAddr := emptyOr c.bindAddr "0.0.0.0"
  bindPort := emptyOr c.bindPort 7000
  detailedErrorsToClient := emptyOr c.detailedErrorsToClient (some true)
  userConnTimeout := emptyOr c.userConnTimeout 10
  natHoleAnalysisDataReserveHours := emptyOr c.natHoleAnalysisDataReserveHours (7 * 24)

/-- `XTCPProxyConfig.Complete`, which is that of the base. -/
def completeProxy (c : ProxyConfig) : ProxyConfig :=
  { c with localIP := emptyOr c.localIP "127.0.0.1" }

theorem emptyOr_emptyOr {T : Type} [DecidableEq T] [Inhabited T] (v fallback : T) :
    emptyOr (emptyOr v fallback) fallback = emptyOr v fallback := by
  unfold emptyOr
  by_cases h : v = default
  · rw [if_pos h, ite_self]
  · rw [if_neg h, if_neg h]

/-- The second `Complete` of a start changes nothing. -/
theorem ClientCommonConfig.complete_complete (httpProxy : String) (c : ClientCommonConfig) :
    (c.complete httpProxy).complete httpProxy = c.complete httpProxy := by
  simp only [ClientCommonConfig.complete, AuthConfig.complete, LogConfig.complete,
    ClientTransportConfig.complete, QUICOptions.complete, TLSClientConfig.complete,
    emptyOr_emptyOr]

theorem completeProxy_completeProxy (c : ProxyConfig) :
    completeProxy (completeProxy c) = completeProxy c := by
  simp only [completeProxy, emptyOr_emptyOr]

theorem completeVisitor_completeVisitor (c : VisitorConfig) : c.complete.complete = c.complete := by
  have hbase : ∀ b : Client.VisitorBaseConfig, b.complete.complete = b.complete := by
    intro b
    unfold Client.VisitorBaseConfig.complete
    by_cases h : b.bindAddr = ""
    · rw [if_pos h]
      rfl
    · rw [if_neg h, if_neg h]
  simp only [VisitorConfig.complete, emptyOr_emptyOr, hbase]

end Configs

section Checks

/-- `%v` of a list of names. -/
def bracketed (l : List String) : String := "[" ++ " ".intercalate l ++ "]"

def supportedTransportProtocols : List String := ["tcp"]

def supportedWireProtocols : List String := ["v1", "v2"]

def supportedAuthMethods : List String := ["token"]

def supportedAuthAdditionalScopes : List String := ["HeartBeats", "NewWorkConns"]

def supportedLogLevels : List String := ["trace", "debug", "info", "warn", "error"]

def tokenSourceExec : String := "TokenSourceExec"

/-- One part of an error, if the condition holds. -/
def reject (p : Prop) [Decidable p] (err : String) : List String := if p then [err] else []

theorem reject_eq_nil {p : Prop} [Decidable p] {err : String} : reject p err = [] ↔ ¬ p := by
  by_cases h : p <;> simp [reject, h]

/-- `allowed` are the features that the command line allows. -/
def validateUnsafeFeature (allowed : List String) (feature : String) : List String :=
  reject (feature ∉ allowed) (s!"unsafe feature \"{feature}\" is not enabled. " ++
    "To enable it, ensure it is allowed in the configuration or command line flags")

def validateAuthTokenSource (allowed : List String) (token : String) :
    Option ValueSource → List String
  | none => []
  | some src =>
    reject (token ≠ "") "cannot specify both auth.token and auth.tokenSource" ++
      (if src.type = "exec" then validateUnsafeFeature allowed tokenSourceExec else []) ++
      (src.validate.map fun err => s!"invalid auth.tokenSource: {err}").toList

def validateAuthConfig (allowed : List String) (c : AuthConfig) : List String :=
  reject (c.method ∉ supportedAuthMethods)
      s!"invalid auth method, optional values are {bracketed supportedAuthMethods}" ++
    reject (¬ c.additionalScopes.all fun scope => scope ∈ supportedAuthAdditionalScopes)
      (s!"invalid auth additional scopes, " ++
        s!"optional values are {bracketed supportedAuthAdditionalScopes}") ++
    validateAuthTokenSource allowed c.token c.tokenSource

def validateLogConfig (c : LogConfig) : List String :=
  reject (c.level ∉ supportedLogLevels)
    s!"invalid log level, optional values are {bracketed supportedLogLevels}"

/-- What a validator returns. -/
structure Verdict where
  warnings : List String
  errors : List String
  deriving DecidableEq

def checkTLSConfig (name value : String) : List String :=
  reject (value ≠ "") s!"{name} is invalid when transport.tls.enable is false"

def validateTransportConfig (c : ClientTransportConfig) : Verdict where
  warnings :=
    if fromPtr c.tls.enable then []
    else
      checkTLSConfig "transport.tls.certFile" c.tls.certFile ++
        checkTLSConfig "transport.tls.keyFile" c.tls.keyFile ++
        checkTLSConfig "transport.tls.trustedCaFile" c.tls.trustedCaFile
  errors :=
    reject (c.heartbeatTimeout > 0 ∧ c.heartbeatInterval > 0 ∧
        c.heartbeatTimeout < c.heartbeatInterval)
      ("invalid transport.heartbeatTimeout, " ++
        "heartbeat timeout should not less than heartbeat interval") ++
    reject (c.protocol ∉ supportedTransportProtocols)
      ("invalid transport.protocol, " ++
        s!"optional values are {bracketed supportedTransportProtocols}") ++
    reject (c.wireProtocol ∉ supportedWireProtocols)
      s!"invalid transport.wireProtocol, optional values are {bracketed supportedWireProtocols}"

/-- The directories of the files to include. -/
structure Directories where
  /-- `filepath.Abs(filepath.Dir(f))` -/
  absDir : String → Except String String
  /-- The error of `os.Stat`, if it says that there is no such directory. -/
  notExist : String → Option String

variable (dirs : Directories)

def validateIncludeFiles (files : List String) : List String :=
  files.flatMap fun f =>
    match dirs.absDir f with
    | .error err => [s!"include: parse directory of {f} failed: {err}"]
    | .ok absDir =>
      reject ((dirs.notExist absDir).isSome) s!"include: directory of {f} not exist"

def validateClientCommonConfig (allowed : List String) (c : ClientCommonConfig) : Verdict where
  warnings := (validateTransportConfig c.transport).warnings
  errors :=
    validateAuthConfig allowed c.auth ++ validateLogConfig c.log ++
      (validateTransportConfig c.transport).errors ++ validateIncludeFiles dirs c.includeConfigFiles

def validatePort (port : Int) (fieldPath : String) : Option String :=
  if 0 ≤ port ∧ port ≤ 65535 then none
  else some s!"{fieldPath}: port number {port} must be in the range 0..65535"

/-- The checks of the authentication are those of the client. -/
def validateServerConfig (allowed : List String) (c : ServerConfig) : List String :=
  validateAuthConfig allowed c.auth ++ validateLogConfig c.log ++
    (validatePort c.bindPort "bindPort").toList ++
    reject (c.transport.maxPoolCount < 0)
      "invalid transport.maxPoolCount, must be non-negative"

variable (validateAnnotations : AnnotationCheck)

def validateProxyBaseConfigForClient (c : ProxyConfig) : Option String :=
  if c.name = "" then some "name should not be empty"
  else
    match validateAnnotations c.annotations with
    | some err => some err
    | none => (validatePort c.localPort "localPort").map fun err => s!"localPort: {err}"

/-- `ValidateProxyConfigurerForClient`, for the one type of proxies that there is. -/
def validateProxyConfigurerForClient (c : ProxyConfig) : Option String :=
  validateProxyBaseConfigForClient validateAnnotations c

def validateAllClientConfig (allowed : List String) (c : ClientCommonConfig)
    (proxyCfgs : List ProxyConfig) (visitorCfgs : List VisitorConfig) : Verdict :=
  let common := validateClientCommonConfig dirs allowed c
  if common.errors ≠ [] then common
  else
    let proxyErr := proxyCfgs.findSome? fun c =>
      (validateProxyConfigurerForClient validateAnnotations c).map fun err =>
        s!"proxy {c.name}: {err}"
    let visitorErr := visitorCfgs.findSome? fun c =>
      (validateVisitorConfigurer c).map fun err => s!"visitor {c.name}: {err}"
    ⟨common.warnings, (proxyErr.or visitorErr).toList⟩

/-- Nothing is wrong with the configuration. -/
structure Valid (allowed : List String) (c : ClientCommonConfig) (proxyCfgs : List ProxyConfig)
    (visitorCfgs : List VisitorConfig) : Prop where
  common : (validateClientCommonConfig dirs allowed c).errors = []
  proxies : ∀ cfg ∈ proxyCfgs, validateProxyConfigurerForClient validateAnnotations cfg = none
  visitors : ∀ cfg ∈ visitorCfgs, validateVisitorConfigurer cfg = none

variable {dirs validateAnnotations} {allowed : List String} {c : ClientCommonConfig}
  {proxyCfgs : List ProxyConfig} {visitorCfgs : List VisitorConfig}

theorem validateAllClientConfig_errors :
    (validateAllClientConfig dirs validateAnnotations allowed c proxyCfgs visitorCfgs).errors = [] ↔
      Valid dirs validateAnnotations allowed c proxyCfgs visitorCfgs := by
  unfold validateAllClientConfig
  by_cases hcommon : (validateClientCommonConfig dirs allowed c).errors = []
  · rw [if_neg (not_not_intro hcommon), Option.toList_eq_nil_iff, Option.or_eq_none_iff,
      List.findSome?_eq_none_iff, List.findSome?_eq_none_iff]
    simp only [Option.map_eq_none_iff]
    constructor
    · intro ⟨hproxies, hvisitors⟩
      exact ⟨hcommon, hproxies, hvisitors⟩
    · intro h
      exact ⟨h.proxies, h.visitors⟩
  · rw [if_pos hcommon]
    constructor
    · intro h
      exact absurd h hcommon
    · intro h
      exact h.common

/-- The order of the configurations does not matter. -/
theorem Valid.perm (h : Valid dirs validateAnnotations allowed c proxyCfgs visitorCfgs)
    {proxyCfgs' : List ProxyConfig} {visitorCfgs' : List VisitorConfig}
    (hproxies : proxyCfgs'.Perm proxyCfgs) (hvisitors : visitorCfgs'.Perm visitorCfgs) :
    Valid dirs validateAnnotations allowed c proxyCfgs' visitorCfgs' := by
  constructor
  · exact h.common
  · intro cfg hcfg
    exact h.proxies cfg (hproxies.mem_iff.mp hcfg)
  · intro cfg hcfg
    exact h.visitors cfg (hvisitors.mem_iff.mp hcfg)

end Checks

section Auth

variable (w : Machine)

structure ClientAuth where
  additionalScopes : List String
  token : String
  deriving DecidableEq

structure ServerAuth where
  additionalScopes : List String
  token : String
  deriving DecidableEq

/-- What `BuildClientAuth` and `BuildServerAuth` begin with. -/
def resolveToken (cfg : AuthConfig) : Traced ExecSource String String :=
  if cfg.method = "token" then
    match cfg.tokenSource with
    | none => pure cfg.token
    | some src =>
      (src.resolve w).mapError fun err => s!"failed to resolve auth.tokenSource: {err}"
  else pure cfg.token

def newAuthSetter (method : String) (additionalScopes : List String) (token : String) :
    Except String ClientAuth :=
  if method = "token" then .ok ⟨additionalScopes, token⟩
  else .error s!"unsupported auth method: {method}"

def buildClientAuth (cfg : AuthConfig) : Traced ExecSource String ClientAuth := do
  let token ← resolveToken w cfg
  newAuthSetter cfg.method cfg.additionalScopes token

def buildServerAuth (cfg : AuthConfig) : Traced ExecSource String ServerAuth := do
  let token ← resolveToken w cfg
  return ⟨cfg.additionalScopes, token⟩

/-- The token of a configuration: the one written there, or what its source gives. -/
inductive TokenOf (cfg : AuthConfig) : String → Prop
  | written (h : cfg.tokenSource = none) : TokenOf cfg cfg.token
  | file {src : ValueSource} {file : FileSource} {content : String}
      (hsrc : cfg.tokenSource = some src) (htype : src.type = "file") (hfile : src.file = some file)
      (hread : w.readFile file.path = .ok content) : TokenOf cfg (w.trimSpace content)
  | exec {src : ValueSource} {exec : ExecSource} {content : String}
      (hsrc : cfg.tokenSource = some src) (htype : src.type = "exec") (hexec : src.exec = some exec)
      (hrun : w.output exec = .ok content) : TokenOf cfg (w.trimSpace content)

variable {w} {allowed : List String} {cfg : AuthConfig}

theorem method_of_valid (h : validateAuthConfig allowed cfg = []) : cfg.method = "token" := by
  simp only [validateAuthConfig, List.append_eq_nil_iff, reject_eq_nil, not_not] at h
  simpa [supportedAuthMethods] using h.1.1

theorem source_of_valid (h : validateAuthConfig allowed cfg = []) {src : ValueSource}
    (hsrc : cfg.tokenSource = some src) :
    src.validate = none ∧ (src.type = "exec" → tokenSourceExec ∈ allowed) := by
  simp only [validateAuthConfig, List.append_eq_nil_iff] at h
  have h' := h.2
  rw [hsrc, validateAuthTokenSource, List.append_eq_nil_iff, List.append_eq_nil_iff,
    Option.toList_eq_nil_iff, Option.map_eq_none_iff] at h'
  constructor
  · exact h'.2
  · intro htype
    have hfeature := h'.1.2
    rw [if_pos htype, validateUnsafeFeature, reject_eq_nil, not_not] at hfeature
    exact hfeature

/-- A source that passes its check has what its type asks for. -/
theorem ValueSource.cases_of_valid {src : ValueSource} (h : src.validate = none) :
    (src.type = "file" ∧ ∃ file, src.file = some file ∧ file.validate = none) ∨
      (src.type = "exec" ∧ ∃ exec, src.exec = some exec ∧ exec.validate = none) := by
  unfold ValueSource.validate at h
  by_cases hfile : src.type = "file"
  · rw [if_pos hfile] at h
    cases hs : src.file with
    | none => simp [hs] at h
    | some file => exact .inl ⟨hfile, file, rfl, by simpa [hs] using h⟩
  · by_cases hexec : src.type = "exec"
    · rw [if_neg hfile, if_pos hexec] at h
      cases hs : src.exec with
      | none => simp [hs] at h
      | some exec => exact .inr ⟨hexec, exec, rfl, by simpa [hs] using h⟩
    · rw [if_neg hfile, if_neg hexec] at h
      cases h

/-- A command that may be run for the token: it is the source of the token, and the command line
allows such sources. -/
structure MayRun (allowed : List String) (cfg : AuthConfig) (e : ExecSource) : Prop where
  allows : tokenSourceExec ∈ allowed
  source : ∃ src, cfg.tokenSource = some src ∧ src.type = "exec" ∧ src.exec = some e
  valid : e.validate = none

theorem resolveToken_ensures (h : validateAuthConfig allowed cfg = []) :
    (resolveToken w cfg).Ensures (MayRun allowed cfg) (TokenOf w cfg) := by
  rw [resolveToken, if_pos (method_of_valid h)]
  cases hsrc : cfg.tokenSource with
  | none => exact .pure (.written hsrc)
  | some src =>
    obtain ⟨hvalid, hallowed⟩ := source_of_valid h hsrc
    apply Traced.Ensures.mapError
    rw [ValueSource.resolve, hvalid]
    rcases ValueSource.cases_of_valid hvalid with
      ⟨htype, file, hfile, hok⟩ | ⟨htype, exec, hexec, hok⟩
    · simp only [htype, if_true, hfile]
      apply Traced.Ensures.lift
      intro token ht
      rw [FileSource.resolve, hok] at ht
      cases hread : w.readFile file.path with
      | error err => simp [hread] at ht
      | ok content =>
        rw [hread] at ht
        obtain rfl := Except.ok.inj ht
        exact .file hsrc htype hfile hread
    · have hne : src.type ≠ "file" := by
        rw [htype]
        decide
      simp only [if_neg hne, if_pos htype, hexec, ExecSource.resolve, hok]
      constructor
      · intro e he
        obtain rfl := List.mem_singleton.mp he
        exact ⟨hallowed htype, ⟨src, hsrc, htype, hexec⟩, hok⟩
      · intro token ht
        cases hrun : w.output exec with
        | error err => simp [Traced.perform, hrun] at ht
        | ok content =>
          simp only [Traced.perform, hrun] at ht
          obtain rfl := Except.ok.inj ht
          exact .exec hsrc htype hexec hrun

/-- A checked configuration gives its token, unless the file or the command does not. -/
theorem resolveToken_of_tokenOf (h : validateAuthConfig allowed cfg = []) {token : String}
    (ht : TokenOf w cfg token) : (resolveToken w cfg).result = .ok token := by
  rw [resolveToken, if_pos (method_of_valid h)]
  cases ht with
  | written hsrc =>
    rw [hsrc]
    rfl
  | @file src file content hsrc htype hfile hread =>
    have hvalid := (source_of_valid h hsrc).1
    have hok : file.validate = none := by simpa [ValueSource.validate, htype, hfile] using hvalid
    simp only [hsrc]
    rw [Traced.result_mapError_eq_ok, ValueSource.resolve, hvalid]
    simp only [htype, if_true, hfile, Traced.result_lift, FileSource.resolve, hok, hread]
  | @exec src exec content hsrc htype hexec hrun =>
    have hvalid := (source_of_valid h hsrc).1
    have hok : exec.validate = none := by simpa [ValueSource.validate, htype, hexec] using hvalid
    simp only [hsrc]
    rw [Traced.result_mapError_eq_ok, ValueSource.resolve, hvalid]
    simp [htype, hexec, ExecSource.resolve, hok, Traced.perform, hrun]

theorem buildClientAuth_eq_ok (h : validateAuthConfig allowed cfg = []) {auth : ClientAuth} :
    (buildClientAuth w cfg).result = .ok auth ↔
      TokenOf w cfg auth.token ∧ auth.additionalScopes = cfg.additionalScopes := by
  rw [buildClientAuth, Traced.result_bind_eq_ok]
  simp only [Traced.result_lift, newAuthSetter, if_pos (method_of_valid h), Except.ok.injEq]
  constructor
  · rintro ⟨token, ht, rfl⟩
    exact ⟨(resolveToken_ensures h).result token ht, rfl⟩
  · rintro ⟨ht, hscopes⟩
    exact ⟨auth.token, resolveToken_of_tokenOf h ht, by rw [← hscopes]⟩

theorem buildClientAuth_ensures (h : validateAuthConfig allowed cfg = []) :
    (buildClientAuth w cfg).Ensures (MayRun allowed cfg) fun auth =>
      TokenOf w cfg auth.token ∧ auth.additionalScopes = cfg.additionalScopes := by
  constructor
  · refine ((resolveToken_ensures h).bind (R := fun _ => True) fun token _ => ?_).trace
    exact .lift fun _ _ => trivial
  · intro auth
    exact (buildClientAuth_eq_ok h).mp

theorem buildServerAuth_ensures (h : validateAuthConfig allowed cfg = []) :
    (buildServerAuth w cfg).Ensures (MayRun allowed cfg) fun auth =>
      TokenOf w cfg auth.token ∧ auth.additionalScopes = cfg.additionalScopes :=
  (resolveToken_ensures h).bind fun _ ht => .pure ⟨ht, rfl⟩

end Auth

end FrpXtcp.Config.Startup

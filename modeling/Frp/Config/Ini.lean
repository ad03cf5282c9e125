import Frp.Config.Types

/-! The client side of `models/config/proxy.go`: `UnmarshalFromIni` and `CheckForCli` of every
proxy configuration, and `NewProxyConfFromIni`. -/
namespace Frp.Config
open Frp.Go

abbrev Section := GoMap String

/-- An optional integer field, read with `strconv.Atoi`: `none` when the key is absent. -/
def atoiField (name key : String) (sec : Section) : Except String (Option Int) :=
  match sec.lookup key with
  | none => .ok none
  | some s =>
    match parseInt s with
    | some v => .ok (some v)
    | none => .error ("Parse conf error: proxy [" ++ name ++ "] " ++ key ++ " error")

/-- The loop `for k, v := range section { if strings.HasPrefix(k, pre) { m[key k] = v } }`
into a fresh map. -/
def collectPrefixed (sec : Section) (pre : String) (key : String → String) : GoMap String :=
  sec.entries.foldl (fun m e => if hasPrefix e.1 pre then m.insert (key e.1) e.2 else m) ∅

def LocalSvrConf.unmarshalFromIni (cfg : LocalSvrConf) (name : String) (sec : Section) :
    Except String LocalSvrConf :=
  let cfg := { cfg with plugin := sec.get "plugin", pluginParams := ∅ }
  if cfg.plugin ≠ "" then .ok { cfg with pluginParams := collectPrefixed sec "plugin_" id }
  else
    let localIp := if sec.get "local_ip" = "" then "127.0.0.1" else sec.get "local_ip"
    match sec.lookup "local_port" with
    | some s =>
      match parseInt s with
      | some p => .ok { cfg with localIp := localIp, localPort := p }
      | none => .error ("Parse conf error: proxy [" ++ name ++ "] local_port error")
    | none => .error ("Parse conf error: proxy [" ++ name ++ "] local_port not found")

def HealthCheckConf.unmarshalFromIni (cfg : HealthCheckConf) (name : String) (sec : Section) :
    Except String HealthCheckConf := do
  let timeout ← atoiField name "health_check_timeout_s" sec
  let maxFailed ← atoiField name "health_check_max_failed" sec
  let interval ← atoiField name "health_check_interval_s" sec
  return { cfg with
    healthCheckType := sec.get "health_check_type",
    healthCheckUrl := sec.get "health_check_url",
    healthCheckTimeoutS := timeout.getD cfg.healthCheckTimeoutS,
    healthCheckMaxFailed := maxFailed.getD cfg.healthCheckMaxFailed,
    healthCheckIntervalS := interval.getD cfg.healthCheckIntervalS }

/-- The health-check target derived from the local service, for a configuration without a
plugin: `local_ip:local_port` for `tcp`, and the URL made absolute for `http`. -/
def BaseProxyConf.deriveHealthCheck (cfg : BaseProxyConf) : BaseProxyConf :=
  let cfg := if cfg.healthCheckType = "tcp" ∧ cfg.plugin = "" then
    { cfg with healthCheckAddr := cfg.localIp ++ ":" ++ toString cfg.localPort } else cfg
  if cfg.healthCheckType = "http" ∧ cfg.plugin = "" ∧ cfg.healthCheckUrl ≠ "" then
    { cfg with healthCheckUrl := "http://" ++ cfg.localIp ++ ":" ++ toString cfg.localPort ++
        (if hasPrefix cfg.healthCheckUrl "/" then "" else "/") ++ cfg.healthCheckUrl }
  else cfg

def BaseProxyConf.unmarshalFromIni (cfg : BaseProxyConf) (pre name : String) (sec : Section) :
    Except String BaseProxyConf := do
  let cfg := { cfg with
    proxyName := pre ++ name,
    proxyType := sec.get "type",
    useEncryption := if sec.lookup "use_encryption" = some "true" then true
      else cfg.useEncryption,
    useCompression := if sec.lookup "use_compression" = some "true" then true
      else cfg.useCompression,
    group := sec.get "group",
    groupKey := sec.get "group_key",
    proxyProtocolVersion := sec.get "proxy_protocol_version" }
  let localSvr ← cfg.toLocalSvrConf.unmarshalFromIni name sec
  let healthCheck ← cfg.toHealthCheckConf.unmarshalFromIni name sec
  return { cfg with toLocalSvrConf := localSvr, toHealthCheckConf := healthCheck }.deriveHealthCheck

def BindInfoConf.unmarshalFromIni (cfg : BindInfoConf) (name : String) (sec : Section) :
    Except String BindInfoConf :=
  match sec.lookup "remote_port" with
  | some s =>
    match parseInt s with
    | some v => .ok { cfg with remotePort := v }
    | none => .error ("Parse conf error: proxy [" ++ name ++ "] remote_port error")
  | none => .error ("Parse conf error: proxy [" ++ name ++ "] remote_port not found")

def DomainConf.unmarshalFromIni (cfg : DomainConf) (sec : Section) : DomainConf :=
  { cfg with
    customDomains := match sec.lookup "custom_domains" with
      | some s => (split s ',').map fun domain => toLower (trimSpace domain)
      | none => cfg.customDomains,
    subDomain := (sec.lookup "subdomain").getD cfg.subDomain }

/-- The body `TcpProxyConf.UnmarshalFromIni` and `UdpProxyConf.UnmarshalFromIni` share. -/
def unmarshalBindFromIni (base : BaseProxyConf) (bind : BindInfoConf) (pre name : String)
    (sec : Section) : Except String (BaseProxyConf × BindInfoConf) := do
  let base ← base.unmarshalFromIni pre name sec
  let bind ← bind.unmarshalFromIni name sec
  return (base, bind)

def TcpProxyConf.unmarshalFromIni (cfg : TcpProxyConf) (pre name : String) (sec : Section) :
    Except String TcpProxyConf := do
  let (base, bind) ← unmarshalBindFromIni cfg.toBaseProxyConf cfg.toBindInfoConf pre name sec
  return { toBaseProxyConf := base, toBindInfoConf := bind }

def UdpProxyConf.unmarshalFromIni (cfg : UdpProxyConf) (pre name : String) (sec : Section) :
    Except String UdpProxyConf := do
  let (base, bind) ← unmarshalBindFromIni cfg.toBaseProxyConf cfg.toBindInfoConf pre name sec
  return { toBaseProxyConf := base, toBindInfoConf := bind }

def HttpProxyConf.unmarshalFromIni (cfg : HttpProxyConf) (pre name : String)
    (sec : Section) : Except String HttpProxyConf := do
  let base ← cfg.toBaseProxyConf.unmarshalFromIni pre name sec
  return { cfg with
    toBaseProxyConf := base,
    toDomainConf := cfg.toDomainConf.unmarshalFromIni sec,
    locations := match sec.lookup "locations" with
      | some s => split s ','
      | none => [""],
    hostHeaderRewrite := sec.get "host_header_rewrite",
    httpUser := sec.get "http_user",
    httpPwd := sec.get "http_pwd",
    headers := collectPrefixed sec "header_" fun k => trimPrefix k "header_" }

def HttpsProxyConf.unmarshalFromIni (cfg : HttpsProxyConf) (pre name : String)
    (sec : Section) : Except String HttpsProxyConf := do
  let base ← cfg.toBaseProxyConf.unmarshalFromIni pre name sec
  return { toBaseProxyConf := base, toDomainConf := cfg.toDomainConf.unmarshalFromIni sec }

/-- The body `StcpProxyConf.UnmarshalFromIni` and `XtcpProxyConf.UnmarshalFromIni` share: the
base configuration, then `role`, which must be `server`, and `sk`, then the local service a
second time. Returns the base, `role` and `sk`. -/
def unmarshalSecretFromIni (base : BaseProxyConf) (pre name : String) (sec : Section) :
    Except String (BaseProxyConf × String × String) := do
  let base ← base.unmarshalFromIni pre name sec
  let role := sec.get "role"
  if role ≠ "server" then
    throw ("Parse conf error: proxy [" ++ name ++ "] incorrect role [" ++ role ++ "]")
  else
    let localSvr ← base.toLocalSvrConf.unmarshalFromIni name sec
    return ({ base with toLocalSvrConf := localSvr }, role, sec.get "sk")

def StcpProxyConf.unmarshalFromIni (cfg : StcpProxyConf) (pre name : String)
    (sec : Section) : Except String StcpProxyConf := do
  let (base, role, sk) ← unmarshalSecretFromIni cfg.toBaseProxyConf pre name sec
  return { toBaseProxyConf := base, role := role, sk := sk }

def XtcpProxyConf.unmarshalFromIni (cfg : XtcpProxyConf) (pre name : String)
    (sec : Section) : Except String XtcpProxyConf := do
  let (base, role, sk) ← unmarshalSecretFromIni cfg.toBaseProxyConf pre name sec
  return { toBaseProxyConf := base, role := role, sk := sk }

def ProxyConf.unmarshalFromIni (pre name : String) (sec : Section) :
    ProxyConf → Except String ProxyConf
  | .tcp c => .tcp <$> c.unmarshalFromIni pre name sec
  | .udp c => .udp <$> c.unmarshalFromIni pre name sec
  | .http c => .http <$> c.unmarshalFromIni pre name sec
  | .https c => .https <$> c.unmarshalFromIni pre name sec
  | .stcp c => .stcp <$> c.unmarshalFromIni pre name sec
  | .xtcp c => .xtcp <$> c.unmarshalFromIni pre name sec

/-! ### `CheckForCli` -/

def LocalSvrConf.checkForCli (cfg : LocalSvrConf) : Except String Unit :=
  if cfg.plugin = "" then
    if cfg.localIp = "" then throw "local ip or plugin is required"
    else if cfg.localPort ≤ 0 then throw "error local_port"
    else pure ()
  else pure ()

def HealthCheckConf.checkForCli (cfg : HealthCheckConf) : Except String Unit :=
  if cfg.healthCheckType ≠ "" ∧ cfg.healthCheckType ≠ "tcp" ∧
      cfg.healthCheckType ≠ "http" then
    throw "unsupport health check type"
  else if cfg.healthCheckType = "http" ∧ cfg.healthCheckUrl = "" then
    throw "health_check_url is required for health check type 'http'"
  else pure ()

def BaseProxyConf.checkForCli (cfg : BaseProxyConf) : Except String Unit :=
  if cfg.proxyProtocolVersion ≠ "" ∧ cfg.proxyProtocolVersion ≠ "v1" ∧
      cfg.proxyProtocolVersion ≠ "v2" then
    throw ("no support proxy protocol version: " ++ cfg.proxyProtocolVersion)
  else do
    cfg.toLocalSvrConf.checkForCli
    cfg.toHealthCheckConf.checkForCli

def DomainConf.check (cfg : DomainConf) : Except String Unit :=
  if cfg.customDomains.length = 0 ∧ cfg.subDomain = "" then
    throw "custom_domains and subdomain should set at least one of them"
  else pure ()

def DomainConf.checkForCli (cfg : DomainConf) : Except String Unit := cfg.check

/-- The check of `StcpProxyConf.CheckForCli` and `XtcpProxyConf.CheckForCli`. -/
def checkSecretForCli (base : BaseProxyConf) (role : String) : Except String Unit := do
  base.checkForCli
  if role ≠ "server" then throw "role should be 'server'" else pure ()

def TcpProxyConf.checkForCli (cfg : TcpProxyConf) : Except String Unit :=
  cfg.toBaseProxyConf.checkForCli

def UdpProxyConf.checkForCli (cfg : UdpProxyConf) : Except String Unit :=
  cfg.toBaseProxyConf.checkForCli

def HttpProxyConf.checkForCli (cfg : HttpProxyConf) : Except String Unit := do
  cfg.toBaseProxyConf.checkForCli
  cfg.toDomainConf.checkForCli

def HttpsProxyConf.checkForCli (cfg : HttpsProxyConf) : Except String Unit := do
  cfg.toBaseProxyConf.checkForCli
  cfg.toDomainConf.checkForCli

def StcpProxyConf.checkForCli (cfg : StcpProxyConf) : Except String Unit :=
  checkSecretForCli cfg.toBaseProxyConf cfg.role

def XtcpProxyConf.checkForCli (cfg : XtcpProxyConf) : Except String Unit :=
  checkSecretForCli cfg.toBaseProxyConf cfg.role

def ProxyConf.checkForCli : ProxyConf → Except String Unit
  | .tcp c => c.checkForCli
  | .udp c => c.checkForCli
  | .http c => c.checkForCli
  | .https c => c.checkForCli
  | .stcp c => c.checkForCli
  | .xtcp c => c.checkForCli

/-- `NewProxyConfFromIni`. A section without `type` is a `tcp` one, and the code writes that
type back into the section before unmarshalling it. -/
def newProxyConfFromIni (pre name : String) (sec : Section) : Except String ProxyConf := do
  let (proxyType, sec) := if sec.get "type" = "" then
      (tcpProxy, sec.insert "type" tcpProxy) else (sec.get "type", sec)
  match newConfByType proxyType with
  | none => throw ("proxy [" ++ name ++ "] type [" ++ proxyType ++ "] error")
  | some cfg =>
    let cfg ← cfg.unmarshalFromIni pre name sec
    cfg.checkForCli
    return cfg

theorem BaseProxyConf.deriveHealthCheck_names (cfg : BaseProxyConf) :
    cfg.deriveHealthCheck.proxyName = cfg.proxyName ∧
      cfg.deriveHealthCheck.proxyType = cfg.proxyType := by
  unfold BaseProxyConf.deriveHealthCheck; dsimp only; split_ifs <;> exact ⟨rfl, rfl⟩

theorem BaseProxyConf.names_of_unmarshalFromIni {cfg c : BaseProxyConf} {pre name : String}
    {sec : Section} (h : cfg.unmarshalFromIni pre name sec = .ok c) :
    c.proxyName = pre ++ name ∧ c.proxyType = sec.get "type" := by
  simp only [BaseProxyConf.unmarshalFromIni, except_bind_eq_ok] at h
  obtain ⟨l, -, hc, -, h⟩ := h
  cases h
  exact BaseProxyConf.deriveHealthCheck_names _

theorem unmarshalBindFromIni_names {base : BaseProxyConf} {bind : BindInfoConf}
    {pre name : String} {sec : Section} {r : BaseProxyConf × BindInfoConf}
    (h : unmarshalBindFromIni base bind pre name sec = .ok r) :
    r.1.proxyName = pre ++ name ∧ r.1.proxyType = sec.get "type" := by
  simp only [unmarshalBindFromIni, except_bind_eq_ok, except_pure_eq_ok] at h
  obtain ⟨b, hb, -, -, rfl⟩ := h
  exact BaseProxyConf.names_of_unmarshalFromIni hb

theorem unmarshalSecretFromIni_names {base : BaseProxyConf} {pre name : String}
    {sec : Section} {r : BaseProxyConf × String × String}
    (h : unmarshalSecretFromIni base pre name sec = .ok r) :
    r.1.proxyName = pre ++ name ∧ r.1.proxyType = sec.get "type" := by
  simp only [unmarshalSecretFromIni, except_bind_eq_ok] at h
  obtain ⟨b, hb, h⟩ := h
  split_ifs at h
  simp only [except_bind_eq_ok, except_pure_eq_ok] at h
  obtain ⟨-, -, rfl⟩ := h
  exact BaseProxyConf.names_of_unmarshalFromIni (c := b) hb

theorem ProxyConf.names_of_unmarshalFromIni {c c' : ProxyConf} {pre name : String}
    {sec : Section} (h : c.unmarshalFromIni pre name sec = .ok c') :
    c'.getBaseInfo.proxyName = pre ++ name ∧ c'.getBaseInfo.proxyType = sec.get "type" := by
  cases c <;> simp only [ProxyConf.unmarshalFromIni, except_map_eq_ok] at h <;>
    obtain ⟨c, hc, rfl⟩ := h
  all_goals
    simp only [TcpProxyConf.unmarshalFromIni, UdpProxyConf.unmarshalFromIni,
      HttpProxyConf.unmarshalFromIni, HttpsProxyConf.unmarshalFromIni,
      StcpProxyConf.unmarshalFromIni, XtcpProxyConf.unmarshalFromIni, except_bind_eq_ok,
      except_pure_eq_ok] at hc
    obtain ⟨a, ha, rfl⟩ := hc
    first
      | exact unmarshalBindFromIni_names ha
      | exact BaseProxyConf.names_of_unmarshalFromIni ha
      | exact unmarshalSecretFromIni_names ha

theorem newProxyConfFromIni_eq_ok {pre name : String} {sec : Section} {cfg : ProxyConf}
    (h : newProxyConfFromIni pre name sec = .ok cfg) :
    ∃ (t : String) (sec' : Section) (c : ProxyConf), sec'.get "type" = t ∧ newConfByType t = some c ∧
      c.unmarshalFromIni pre name sec' = .ok cfg := by
  simp only [newProxyConfFromIni] at h
  generalize hp : (if sec.get "type" = "" then (tcpProxy, sec.insert "type" tcpProxy)
    else (sec.get "type", sec)) = p at h
  obtain ⟨t, sec'⟩ := p
  have ht : GoMap.get sec' "type" = t := by
    split at hp <;> cases hp
    · simp [GoMap.get]
    · rfl
  dsimp only at h
  split at h
  · exact absurd h except_throw_ne_ok
  · next c hc =>
    simp only [except_bind_eq_ok, except_pure_eq_ok] at h
    obtain ⟨c', hc', -, -, rfl⟩ := h
    exact ⟨t, sec', c, ht, hc, hc'⟩

theorem newProxyConfFromIni_proxyName {pre name : String} {sec : Section} {cfg : ProxyConf}
    (h : newProxyConfFromIni pre name sec = .ok cfg) : cfg.getBaseInfo.proxyName = pre ++ name := by
  obtain ⟨_, _, _, -, -, hc⟩ := newProxyConfFromIni_eq_ok h
  exact (ProxyConf.names_of_unmarshalFromIni hc).1

def webSection (customDomains : String) : Section :=
  (((∅ : Section).insert "type" "http").insert "local_port" "80").insert "custom_domains"
    customDomains

end Frp.Config

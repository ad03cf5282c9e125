import Frp.Client.WorkConn
import Frp.Client.Cmd
import Frp.Config.Ini

/-! The client's proxies (`client/proxy`): `NewProxy`, `Run`, `Close` and `InWorkConn`, and
`Control.HandleReqWorkConn`, which opens the work connections they are handed. -/
namespace Frp.Client
open Frp.Go Frp.Config

/-! ### The proxies -/

/-- A proxy of `client/proxy`: its type and configuration and, for the types with a plugin,
whether `Run` created it (`proxyPlugin != nil`). -/
inductive Proxy where
  | tcp (cfg : TcpProxyConf) (proxyPlugin : Bool)
  | udp (cfg : UdpProxyConf)
  | http (cfg : HttpProxyConf) (proxyPlugin : Bool)
  | https (cfg : HttpsProxyConf) (proxyPlugin : Bool)
  | stcp (cfg : StcpProxyConf) (proxyPlugin : Bool)
  | xtcp (cfg : XtcpProxyConf) (proxyPlugin : Bool)
  deriving DecidableEq

def newProxy : ProxyConf → Proxy
  | .tcp cfg => .tcp cfg false
  | .udp cfg => .udp cfg
  | .http cfg => .http cfg false
  | .https cfg => .https cfg false
  | .stcp cfg => .stcp cfg false
  | .xtcp cfg => .xtcp cfg false

/-- The calls `Run` makes outside src/, each answering its error: `plugin.Create(name, params)`
and `net.ResolveUDPAddr("udp", addr)`. -/
structure RunEnv where
  createPlugin : String → GoMap String → Option String
  resolveUDPAddr : String → Option String

/-- `Run` of the five types with a plugin: whether the plugin was created, and the error. -/
def runPlugin (env : RunEnv) (cfg : BaseProxyConf) : Bool × Option String :=
  if cfg.plugin ≠ "" then
    match env.createPlugin cfg.plugin cfg.pluginParams with
    | some e => (false, some e)
    | none => (true, none)
  else (false, none)

def Proxy.run (env : RunEnv) : Proxy → Proxy × Option String
  | .tcp cfg _ => let (p, e) := runPlugin env cfg.toBaseProxyConf; (.tcp cfg p, e)
  | .udp cfg => (.udp cfg, env.resolveUDPAddr (sprintfAddr cfg.localIp cfg.localPort))
  | .http cfg _ => let (p, e) := runPlugin env cfg.toBaseProxyConf; (.http cfg p, e)
  | .https cfg _ => let (p, e) := runPlugin env cfg.toBaseProxyConf; (.https cfg p, e)
  | .stcp cfg _ => let (p, e) := runPlugin env cfg.toBaseProxyConf; (.stcp cfg p, e)
  | .xtcp cfg _ => let (p, e) := runPlugin env cfg.toBaseProxyConf; (.xtcp cfg p, e)

def Proxy.closesPlugin : Proxy → Bool
  | .tcp _ p | .http _ p | .https _ p | .stcp _ p | .xtcp _ p => p
  | .udp _ => false

/-- `InWorkConn` of the four types that hand the work connection straight to
`HandleTcpWorkConnection`, with their local service, plugin and base configuration; `none` for
the UDP and XTCP proxies, whose `InWorkConn` first runs the UDP forwarder (`UdpProxy.step`) and
the NAT hole punch (`inWorkConnDetect`). -/
def Proxy.inWorkConn (env : WorkConnEnv) (m : StartWorkConn) : Proxy → Option (List WorkConnAction)
  | .tcp cfg p => some (handleTcpWorkConnection env cfg.toLocalSvrConf p cfg.toBaseProxyConf m)
  | .http cfg p => some (handleTcpWorkConnection env cfg.toLocalSvrConf p cfg.toBaseProxyConf m)
  | .https cfg p => some (handleTcpWorkConnection env cfg.toLocalSvrConf p cfg.toBaseProxyConf m)
  | .stcp cfg p => some (handleTcpWorkConnection env cfg.toLocalSvrConf p cfg.toBaseProxyConf m)
  | .udp _ | .xtcp _ _ => none

/-- A dialer that splits its address with `SplitHostPort` first, as `net.Dial` does, so it never
connects to an address that does not split. -/
def DialSplits (env : WorkConnEnv) : Prop := ∀ a, splitHostPort a = none → env.connectOk a = false

section
variable {renv : RunEnv} {env : WorkConnEnv} {m : StartWorkConn} {conf : ProxyConf}
  {acts : List WorkConnAction}

theorem inWorkConn_run_newProxy (h : ((newProxy conf).run renv).1.inWorkConn env m = some acts) :
    acts = handleTcpWorkConnection env conf.getBaseInfo.toLocalSvrConf
      (runPlugin renv conf.getBaseInfo).1 conf.getBaseInfo m := by
  cases conf <;> simp only [newProxy, Proxy.run, Proxy.inWorkConn, Option.some.injEq,
    reduceCtorEq] at h <;> exact h.symm

theorem runPlugin_of_plugin_empty {cfg : BaseProxyConf} (h : cfg.plugin = "") :
    runPlugin renv cfg = (false, none) := by
  simp [runPlugin, h]

/-- A TCP, HTTP, HTTPS or STCP proxy without a plugin whose `local_ip` holds a colon and is not
bracketed, an IPv6 address among them, never reaches its local service: for every dialer that
splits its address first, every work connection it is handed is closed right after the failed
dial, whatever the server sent. `CheckForCli` only asks for a `local_ip` that is not empty. -/
theorem inWorkConn_ipv6_localIp (hd : DialSplits env) (he : env.encryptionOk = true)
    (hp : conf.getBaseInfo.plugin = "") (hc : ':' ∈ conf.getBaseInfo.localIp.toList)
    (hb : conf.getBaseInfo.localIp.toList.head? ≠ some '[')
    (h : ((newProxy conf).run renv).1.inWorkConn env m = some acts) :
    acts = [.connectLocal (sprintfAddr conf.getBaseInfo.localIp conf.getBaseInfo.localPort),
      .closeWorkConn] := by
  have hs : env.connectOk (conf.getBaseInfo.localIp ++ ":" ++ toString conf.getBaseInfo.localPort) =
      false := hd _ (splitHostPort_sprintfAddr conf.getBaseInfo.localPort hc hb)
  rw [inWorkConn_run_newProxy h, runPlugin_of_plugin_empty hp]
  simp [handleTcpWorkConnection, he, hs, sprintfAddr]

/-- A resolver that splits its address with `SplitHostPort` first, as `net.ResolveUDPAddr` does. -/
def ResolveSplits (env : RunEnv) : Prop :=
  ∀ a, splitHostPort a = none → env.resolveUDPAddr a ≠ none

/-- A UDP proxy whose `local_ip` holds a colon and is not bracketed, an IPv6 address among them,
never starts: for every resolver that splits its address first, `Run` fails on the address
`Sprintf("%s:%d", local_ip, local_port)`. -/
theorem run_udp_ipv6_localIp (hr : ResolveSplits renv) {cfg : UdpProxyConf}
    (hc : ':' ∈ cfg.localIp.toList) (hb : cfg.localIp.toList.head? ≠ some '[') :
    ∃ e, (newProxy (.udp cfg)).run renv = (.udp cfg, some e) := by
  obtain ⟨e, he⟩ := Option.ne_none_iff_exists'.mp
    (hr _ (splitHostPort_sprintfAddr cfg.localPort hc hb))
  exact ⟨e, by simp [newProxy, Proxy.run, he]⟩

def goRunEnv : RunEnv :=
  ⟨fun _ _ => none, fun a => if (splitHostPort a).isSome then none else some ("address " ++ a)⟩

theorem goRunEnv_resolveSplits : ResolveSplits goRunEnv := fun _ h => by
  simp [goRunEnv, h]

theorem run_udp_ipv6_localIp_dns :
    let cfg : UdpProxyConf := { localIp := "::1", localPort := 53, proxyType := "udp" }
    (ResolveSplits goRunEnv ∧ ':' ∈ cfg.localIp.toList ∧ cfg.localIp.toList.head? ≠ some '[') ∧
      ∃ e, (newProxy (.udp cfg)).run goRunEnv = (.udp cfg, some e) :=
  ⟨⟨goRunEnv_resolveSplits, by decide, by decide⟩,
    run_udp_ipv6_localIp goRunEnv_resolveSplits (by decide) (by decide)⟩

def sshSection (localIp : String) : Section :=
  ((((∅ : Section).insert "type" "tcp").insert "local_ip" localIp).insert "local_port" "22").insert
    "remote_port" "6000"

def okRunEnv : RunEnv := ⟨fun _ _ => none, fun _ => none⟩

def goWorkConnEnv : WorkConnEnv := ⟨true, fun a => (splitHostPort a).isSome, fun _ => [1]⟩

theorem goWorkConnEnv_dialSplits : DialSplits goWorkConnEnv := fun _ h => by
  simp [goWorkConnEnv, h]

theorem inWorkConn_ipv6_localIp_ssh :
    let conf : ProxyConf := .tcp {
      localIp := "::1", localPort := 22, proxyName := "ssh", proxyType := "tcp", remotePort := 6000 }
    newProxyConfFromIni "" "ssh" (sshSection "::1") = .ok conf ∧
    (DialSplits goWorkConnEnv ∧ goWorkConnEnv.encryptionOk = true ∧ conf.getBaseInfo.plugin = "" ∧
      ':' ∈ conf.getBaseInfo.localIp.toList ∧ conf.getBaseInfo.localIp.toList.head? ≠ some '[' ∧
      ((newProxy conf).run okRunEnv).1.inWorkConn goWorkConnEnv {} =
        some [.connectLocal "::1:22", .closeWorkConn]) ∧
    [WorkConnAction.connectLocal "::1:22", .closeWorkConn] =
      [.connectLocal (sprintfAddr conf.getBaseInfo.localIp conf.getBaseInfo.localPort), .closeWorkConn] :=
  ⟨rfl, ⟨goWorkConnEnv_dialSplits, rfl, rfl, by decide, by decide, by decide⟩,
    @inWorkConn_ipv6_localIp okRunEnv goWorkConnEnv {} _ _ goWorkConnEnv_dialSplits rfl rfl
      (by decide) (by decide) (by decide)⟩

theorem writeLocal_mem_handleTcpWorkConnection {localInfo : LocalSvrConf} {hasPlugin : Bool}
    {baseInfo : BaseProxyConf} {bytes : List UInt8}
    (hw : .writeLocal bytes ∈ handleTcpWorkConnection env localInfo hasPlugin baseInfo m) :
    ∃ hdr, proxyProtocolHeader baseInfo.proxyProtocolVersion m = some hdr ∧
      bytes = env.writeTo hdr := by
  unfold handleTcpWorkConnection at hw
  cases hh : proxyProtocolHeader baseInfo.proxyProtocolVersion m with
  | none => simp only [hh] at hw; split_ifs at hw <;> simp_all
  | some hdr =>
    simp only [hh] at hw
    refine ⟨hdr, rfl, ?_⟩
    split_ifs at hw <;> simp_all

theorem checkForCli_of_newProxyConfFromIni {pre name : String} {sec : Section}
    (h : newProxyConfFromIni pre name sec = .ok conf) : conf.checkForCli = .ok () := by
  simp only [newProxyConfFromIni] at h
  generalize (if sec.get "type" = "" then (tcpProxy, sec.insert "type" tcpProxy)
    else (sec.get "type", sec)) = p at h
  obtain ⟨t, sec'⟩ := p
  dsimp only at h
  split at h
  · exact absurd h except_throw_ne_ok
  · simp only [except_bind_eq_ok, except_pure_eq_ok] at h
    obtain ⟨_, -, ⟨⟩, hc, rfl⟩ := h
    exact hc

theorem ProxyConf.checkForCli_base (h : conf.checkForCli = .ok ()) :
    conf.getBaseInfo.checkForCli = .ok () := by
  cases conf <;>
    simp only [ProxyConf.checkForCli, ProxyConf.getBaseInfo, TcpProxyConf.checkForCli,
      UdpProxyConf.checkForCli, HttpProxyConf.checkForCli, HttpsProxyConf.checkForCli,
      StcpProxyConf.checkForCli, XtcpProxyConf.checkForCli, checkSecretForCli,
      except_bind_eq_ok] at h ⊢ <;>
    first | exact h | (obtain ⟨⟨⟩, hb, -⟩ := h; exact hb)

theorem proxyProtocolVersion_of_checkForCli {cfg : BaseProxyConf} (h : cfg.checkForCli = .ok ()) :
    cfg.proxyProtocolVersion = "" ∨ cfg.proxyProtocolVersion = "v1" ∨
      cfg.proxyProtocolVersion = "v2" := by
  by_contra hv
  simp only [not_or, ← ne_eq] at hv
  rw [BaseProxyConf.checkForCli, if_pos hv] at h
  exact except_throw_ne_ok h

/-- Every PROXY-protocol header the TCP, HTTP, HTTPS and STCP proxies of an accepted section
write to their local service names version 1 or 2: the header would carry any other
`proxy_protocol_version` as version 0, and `CheckForCli` rejects them all. -/
theorem writeLocal_of_newProxyConfFromIni {pre name : String} {sec : Section} {bytes : List UInt8}
    (h : newProxyConfFromIni pre name sec = .ok conf)
    (ha : ((newProxy conf).run renv).1.inWorkConn env m = some acts) (hw : .writeLocal bytes ∈ acts) :
    ∃ hdr, proxyProtocolHeader conf.getBaseInfo.proxyProtocolVersion m = some hdr ∧
      bytes = env.writeTo hdr ∧ (hdr.version = 1 ∨ hdr.version = 2) := by
  rw [inWorkConn_run_newProxy ha] at hw
  obtain ⟨hdr, hh, rfl⟩ := writeLocal_mem_handleTcpWorkConnection hw
  refine ⟨hdr, hh, rfl, ?_⟩
  obtain ⟨hv, -, -, rfl⟩ := proxyProtocolHeader_eq_some.mp hh
  rcases proxyProtocolVersion_of_checkForCli
    (ProxyConf.checkForCli_base (checkForCli_of_newProxyConfFromIni h)) with h0 | h1 | h2
  · exact absurd h0 hv
  · simp [h1]
  · simp [h2]

theorem writeLocal_of_newProxyConfFromIni_v2 :
    let conf : ProxyConf := .tcp {
      localIp := "127.0.0.1", localPort := 22, proxyName := "ssh", proxyType := "tcp",
      remotePort := 6000, proxyProtocolVersion := "v2" }
    let m : StartWorkConn := { srcAddr := "1.2.3.4", srcPort := 5, dstPort := 6000 }
    (newProxyConfFromIni "" "ssh" ((sshSection "127.0.0.1").insert "proxy_protocol_version" "v2") =
        .ok conf ∧
      ((newProxy conf).run okRunEnv).1.inWorkConn goWorkConnEnv m =
        some [.connectLocal "127.0.0.1:22", .writeLocal [1], .join] ∧
      WorkConnAction.writeLocal [1] ∈ [.connectLocal "127.0.0.1:22", .writeLocal [1], .join]) ∧
    ∃ hdr, proxyProtocolHeader conf.getBaseInfo.proxyProtocolVersion m = some hdr ∧
      [1] = goWorkConnEnv.writeTo hdr ∧ (hdr.version = 1 ∨ hdr.version = 2) :=
  ⟨⟨rfl, by decide, by decide⟩,
    @writeLocal_of_newProxyConfFromIni okRunEnv goWorkConnEnv _ _
      [.connectLocal "127.0.0.1:22", .writeLocal [1], .join] "" "ssh"
      ((sshSection "127.0.0.1").insert "proxy_protocol_version" "v2") _ (by rfl) (by decide)
      (by decide)⟩

end

/-! ### `HandleReqWorkConn` -/

structure ServerConnConf where
  tcpMux : Bool
  serverAddr : String
  serverPort : Int
  protocol : String
  httpProxy : String
  tlsEnable : Bool
  deriving DecidableEq

/-- The calls `HandleReqWorkConn` makes outside src/: `ctl.session.OpenStream()` and
`frpNet.ConnectServerByProxyWithTLS(httpProxy, protocol, addr, tls)`, each answering its error,
`msg.WriteMsg` of the `NewWorkConn` message, and `msg.ReadMsgInto` of the `StartWorkConn` one,
which answers the proxy name and the message, or an error. -/
structure ReqWorkConnEnv where
  openStream : Option String
  connectServerByProxyWithTLS : String → String → String → Bool → Option String
  writeNewWorkConn : Option String
  readStartWorkConn : Except String (String × StartWorkConn)

inductive ReqWorkConnAction where
  | openStream
  | connectServer (addr : String)
  | writeNewWorkConn (runId : String)
  | closeWorkConn
  | handleWorkConn (proxyName : String) (m : StartWorkConn)
  deriving DecidableEq

/-- `connectServer`: the connection it opens, and whether it got one. -/
def connectServer (cfg : ServerConnConf) (env : ReqWorkConnEnv) : ReqWorkConnAction × Bool :=
  if cfg.tcpMux then (.openStream, env.openStream.isNone)
  else
    let addr := sprintfAddr cfg.serverAddr cfg.serverPort
    (.connectServer addr, (env.connectServerByProxyWithTLS cfg.httpProxy cfg.protocol addr
      cfg.tlsEnable).isNone)

/-- `HandleReqWorkConn` of the control with run id `runId`. -/
def handleReqWorkConn (cfg : ServerConnConf) (runId : String) (env : ReqWorkConnEnv) :
    List ReqWorkConnAction :=
  let (conn, ok) := connectServer cfg env
  if !ok then [conn]
  else
    conn :: .writeNewWorkConn runId ::
      if env.writeNewWorkConn.isSome then [.closeWorkConn]
      else match env.readStartWorkConn with
        | .error _ => [.closeWorkConn]
        | .ok (proxyName, m) => [.handleWorkConn proxyName m]

/-- A connection to the server that splits its address with `SplitHostPort` first. -/
def ConnectSplits (env : ReqWorkConnEnv) : Prop :=
  ∀ h p a t, splitHostPort a = none → env.connectServerByProxyWithTLS h p a t ≠ none

section
variable (cfg : ServerConnConf) (runId : String) (env : ReqWorkConnEnv)

theorem handleReqWorkConn_workConn :
    ((connectServer cfg env).2 = false ∧ handleReqWorkConn cfg runId env = [(connectServer cfg env).1]) ∨
    ∃ last, handleReqWorkConn cfg runId env =
        [(connectServer cfg env).1, .writeNewWorkConn runId, last] ∧
      (last = .closeWorkConn ∨ ∃ proxyName m, env.writeNewWorkConn = none ∧
        env.readStartWorkConn = .ok (proxyName, m) ∧ last = .handleWorkConn proxyName m) := by
  unfold handleReqWorkConn
  generalize connectServer cfg env = c
  obtain ⟨conn, ok⟩ := c
  cases ok
  · exact .inl ⟨rfl, rfl⟩
  · refine .inr ?_
    cases hw : env.writeNewWorkConn with
    | some e => exact ⟨_, rfl, .inl rfl⟩
    | none =>
      cases hr : env.readStartWorkConn with
      | error e => exact ⟨_, by simp [hw, hr], .inl rfl⟩
      | ok p => exact ⟨_, by simp [hw, hr], .inr ⟨p.1, p.2, rfl, rfl, rfl⟩⟩

/-- With `tcp_mux` off and a `server_addr` that holds a colon and is not bracketed, an IPv6
address among them, `HandleReqWorkConn` never gets a work connection, for every connection
that splits its address first: the server's request is never answered. -/
theorem handleReqWorkConn_ipv6_serverAddr (hm : cfg.tcpMux = false) (hs : ConnectSplits env)
    (hc : ':' ∈ cfg.serverAddr.toList) (hb : cfg.serverAddr.toList.head? ≠ some '[') :
    handleReqWorkConn cfg runId env = [.connectServer (sprintfAddr cfg.serverAddr cfg.serverPort)] := by
  obtain ⟨e, he⟩ := Option.ne_none_iff_exists'.mp
    (hs cfg.httpProxy cfg.protocol _ cfg.tlsEnable (splitHostPort_sprintfAddr cfg.serverPort hc hb))
  simp [handleReqWorkConn, connectServer, hm, he]

def goReqWorkConnEnv : ReqWorkConnEnv :=
  ⟨none, fun _ _ a _ => if splitHostPort a = none then some "too many colons in address" else none,
    none, .error "EOF"⟩

theorem goReqWorkConnEnv_connectSplits : ConnectSplits goReqWorkConnEnv := fun _ _ _ _ h => by
  simp [goReqWorkConnEnv, h]

theorem handleReqWorkConn_ipv6_serverAddr_loopback :
    let cfg : ServerConnConf := ⟨false, "::1", 7000, "tcp", "", false⟩
    (cfg.tcpMux = false ∧ ConnectSplits goReqWorkConnEnv ∧ ':' ∈ cfg.serverAddr.toList ∧
      cfg.serverAddr.toList.head? ≠ some '[') ∧
    handleReqWorkConn cfg "r1" goReqWorkConnEnv =
      [.connectServer (sprintfAddr cfg.serverAddr cfg.serverPort)] :=
  ⟨⟨rfl, goReqWorkConnEnv_connectSplits, by decide, by decide⟩,
    handleReqWorkConn_ipv6_serverAddr _ _ _ rfl goReqWorkConnEnv_connectSplits (by decide) (by decide)⟩

end

end Frp.Client

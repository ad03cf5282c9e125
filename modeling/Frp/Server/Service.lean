import Frp.Client.Cmd

/-! The server's `NewService` and `Service.Run`, and its `ProxyManager`. -/
namespace Frp.Server
open Frp.Go Frp.Client

structure ServerCommonConf where
  bindAddr : String
  bindPort : Int
  bindUdpPort : Int
  kcpBindPort : Int
  proxyBindAddr : String
  vhostHttpPort : Int
  vhostHttpsPort : Int
  dashboardAddr : String
  dashboardPort : Int
  assetsDir : String
  deriving DecidableEq

inductive MuxListener where
  | default
  | websocket
  | http
  | https
  | tls
  deriving DecidableEq

/-- A listener of the service: one of the muxer's, or one of its own. -/
inductive Listener where
  | mux (l : MuxListener)
  | tcp (addr : String)
  | kcp (addr : String) (port : Int)
  deriving DecidableEq

/-- The calls `NewService` makes outside src/, each answering its error, `none` on success.
`listen` is also told the addresses the service already listens on. -/
structure ServiceEnv where
  loadAssets : String → Option String
  listen : List String → String → Option String
  listenKcp : String → Int → Option String
  newHttpsMuxer : Option String
  newNatHoleController : String → Option String
  runDashboardServer : String → Int → Option String

/-- What `NewService` builds: the listeners, the address of the NAT-hole controller, and whether
the stats collector records. -/
structure Service where
  listener : Listener
  kcpListener : Option Listener
  websocketListener : Listener
  tlsListener : Listener
  httpListener : Option Listener
  httpsListener : Option Listener
  natHoleController : Option String
  statsEnable : Bool
  deriving DecidableEq

/-- `NewService` on the configuration `cfg`. The muxer's listeners, the stats collector and the
TLS configuration cannot fail; the calls that can are made in the source's order. -/
def newService (cfg : ServerCommonConf) (env : ServiceEnv) : Except String Service := do
  orFail (env.loadAssets cfg.assetsDir) "Load assets error: " ()
  let httpMuxOn := cfg.bindAddr = cfg.proxyBindAddr ∧ cfg.bindPort = cfg.vhostHttpPort
  let httpsMuxOn := cfg.bindAddr = cfg.proxyBindAddr ∧ cfg.bindPort = cfg.vhostHttpsPort
  let bindAddr := sprintfAddr cfg.bindAddr cfg.bindPort
  orFail (env.listen [] bindAddr) "Create server listener error, " ()
  let kcpListener ← (if cfg.kcpBindPort > 0 then
      orFail (env.listenKcp cfg.bindAddr cfg.kcpBindPort)
        ("Listen on kcp address udp [" ++ sprintfAddr cfg.bindAddr cfg.kcpBindPort ++ "] error: ")
        (some (Listener.kcp cfg.bindAddr cfg.kcpBindPort))
    else pure none)
  let httpAddr := sprintfAddr cfg.proxyBindAddr cfg.vhostHttpPort
  let (httpListener, bound) ← (if cfg.vhostHttpPort > 0 then
      if httpMuxOn then pure (some (Listener.mux .http), [bindAddr])
      else
        orFail (env.listen [bindAddr] httpAddr) "Create vhost http listener error, "
          (some (Listener.tcp httpAddr), [bindAddr, httpAddr])
    else pure (none, [bindAddr]))
  let httpsAddr := sprintfAddr cfg.proxyBindAddr cfg.vhostHttpsPort
  let httpsListener ← (if cfg.vhostHttpsPort > 0 then do
      let l ← (if httpsMuxOn then pure (Listener.mux .https)
        else orFail (env.listen bound httpsAddr) "Create server listener error, " (Listener.tcp httpsAddr))
      orFail env.newHttpsMuxer "Create vhost httpsMuxer error, " (some l)
    else pure none)
  let natHoleAddr := sprintfAddr cfg.bindAddr cfg.bindUdpPort
  let natHoleController ← (if cfg.bindUdpPort > 0 then
      orFail (env.newNatHoleController natHoleAddr) "Create nat hole controller error, "
        (some natHoleAddr)
    else pure none)
  let statsEnable ← (if cfg.dashboardPort > 0 then
      orFail (env.runDashboardServer cfg.dashboardAddr cfg.dashboardPort)
        "Create dashboard web server error, " true
    else pure false)
  pure { listener := .mux .default, kcpListener, websocketListener := .mux .websocket,
         tlsListener := .mux .tls, httpListener, httpsListener, natHoleController, statsEnable }

/-- The listeners `Run` hands to `HandleListener`, in the order it starts them. -/
def Service.run (cfg : ServerCommonConf) (svr : Service) : List Listener :=
  (if cfg.kcpBindPort > 0 then svr.kcpListener.toList else []) ++
    [svr.websocketListener, svr.tlsListener, svr.listener]

/-- Where the virtual hosts on `port` are served: through the muxer's listener `l` when `port` is
the bind port on the bind address (`httpMuxOn`, `httpsMuxOn`), else on a listener of their own
at `proxy_bind_addr:port`; nowhere when the port is not set. -/
def vhostListener (cfg : ServerCommonConf) (port : Int) (l : MuxListener) : Option Listener :=
  if port > 0 then
    some (if cfg.bindAddr = cfg.proxyBindAddr ∧ cfg.bindPort = port then .mux l
      else .tcp (sprintfAddr cfg.proxyBindAddr port))
  else none

/-- `net.Listen` splits its address with `SplitHostPort` first, so it fails on an address that
does not split. -/
def ListenSplits (env : ServiceEnv) : Prop :=
  ∀ bound a, splitHostPort a = none → env.listen bound a ≠ none

/-- `net.Listen` fails on an address the process already listens on. -/
def ListenOnce (env : ServiceEnv) : Prop := ∀ bound a, a ∈ bound → env.listen bound a ≠ none

theorem ite_orFail_ok {α : Type} {c : Prop} [Decidable c] {err : Option String} {pre : String}
    {a b v : α} (h : (if c then orFail err pre a else pure b : Except String α) = .ok v) :
    v = if c then a else b := by
  split_ifs at h ⊢ <;> simp_all

section
variable {cfg : ServerCommonConf} {env : ServiceEnv} {svr : Service}

theorem newService_eq_ok (h : newService cfg env = .ok svr) :
    svr = { listener := .mux .default,
            kcpListener := if cfg.kcpBindPort > 0 then some (.kcp cfg.bindAddr cfg.kcpBindPort)
              else none,
            websocketListener := .mux .websocket, tlsListener := .mux .tls,
            httpListener := vhostListener cfg cfg.vhostHttpPort .http,
            httpsListener := vhostListener cfg cfg.vhostHttpsPort .https,
            natHoleController := if cfg.bindUdpPort > 0 then
              some (sprintfAddr cfg.bindAddr cfg.bindUdpPort) else none,
            statsEnable := decide (cfg.dashboardPort > 0) } := by
  simp only [newService, except_bind_eq_ok, except_pure_eq_ok] at h
  obtain ⟨-, -, -, -, k, hk, ⟨hl, b⟩, hh, s, hs, n, hn, d, hd, rfl⟩ := h
  have hhttp : hl = vhostListener cfg cfg.vhostHttpPort .http := by
    unfold vhostListener
    split_ifs at hh ⊢ <;> simp_all only [except_pure_eq_ok, orFail_eq_ok, Prod.mk.injEq]
  have hhttps : s = vhostListener cfg cfg.vhostHttpsPort .https := by
    unfold vhostListener
    split_ifs at hs ⊢
    all_goals simp only [except_bind_eq_ok, except_pure_eq_ok, orFail_eq_ok] at hs
    · obtain ⟨_, rfl, -, rfl⟩ := hs; rfl
    · obtain ⟨_, ⟨-, rfl⟩, -, rfl⟩ := hs; rfl
    · exact hs.symm
  rw [ite_orFail_ok hk, ite_orFail_ok hn, ite_orFail_ok hd, hhttp, hhttps]
  congr 1

theorem run_newService (h : newService cfg env = .ok svr) :
    svr.run cfg = (if cfg.kcpBindPort > 0 then [.kcp cfg.bindAddr cfg.kcpBindPort] else []) ++
      [.mux .websocket, .mux .tls, .mux .default] ∧
    svr.httpListener = vhostListener cfg cfg.vhostHttpPort .http ∧
    svr.httpsListener = vhostListener cfg cfg.vhostHttpsPort .https ∧
    svr.statsEnable = decide (cfg.dashboardPort > 0) := by
  obtain rfl := newService_eq_ok h
  refine ⟨?_, rfl, rfl, rfl⟩
  unfold Service.run
  split_ifs <;> rfl

def goServiceEnv : ServiceEnv where
  loadAssets _ := none
  listen bound a :=
    if splitHostPort a = none then some ("address " ++ a ++ ": too many colons in address")
    else if a ∈ bound then some ("listen tcp " ++ a ++ ": bind: address already in use")
    else none
  listenKcp _ _ := none
  newHttpsMuxer := none
  newNatHoleController _ := none
  runDashboardServer _ _ := none

theorem goServiceEnv_listenSplits : ListenSplits goServiceEnv := fun _ _ h => by
  simp [goServiceEnv, h]

/-- With a bind address that holds a colon and is not bracketed, an IPv6 address among them, the
server never starts: for every environment in which `net.Listen` splits its address, `NewService`
fails at its first listener, whatever the rest of the configuration. -/
theorem newService_ipv6_bindAddr (hs : ListenSplits env) (ha : env.loadAssets cfg.assetsDir = none)
    (hc : ':' ∈ cfg.bindAddr.toList) (hb : cfg.bindAddr.toList.head? ≠ some '[') :
    ∃ e, newService cfg env = .error ("Create server listener error, " ++ e) := by
  obtain ⟨e, he⟩ := Option.ne_none_iff_exists'.mp
    (hs [] _ (splitHostPort_sprintfAddr cfg.bindPort hc hb))
  exact ⟨e, by simp [newService, ha, he, bind, Except.bind]⟩

theorem newService_ipv6_bindAddr_unspecified :
    let cfg : ServerCommonConf := ⟨"::", 7000, 0, 0, "::", 80, 443, "", 0, ""⟩
    (ListenSplits goServiceEnv ∧ goServiceEnv.loadAssets cfg.assetsDir = none ∧
      ':' ∈ cfg.bindAddr.toList ∧ cfg.bindAddr.toList.head? ≠ some '[') ∧
    ∃ e, newService cfg goServiceEnv = .error ("Create server listener error, " ++ e) :=
  ⟨⟨goServiceEnv_listenSplits, rfl, by decide, by decide⟩,
    newService_ipv6_bindAddr goServiceEnv_listenSplits rfl (by decide) (by decide)⟩

theorem newService_same_vhost_ports (ho : ListenOnce env)
    (hp : cfg.vhostHttpsPort = cfg.vhostHttpPort) (h0 : cfg.vhostHttpPort > 0)
    (hm : ¬(cfg.bindAddr = cfg.proxyBindAddr ∧ cfg.bindPort = cfg.vhostHttpPort))
    (ha : env.loadAssets cfg.assetsDir = none)
    (hl : env.listen [] (sprintfAddr cfg.bindAddr cfg.bindPort) = none)
    (hk : cfg.kcpBindPort > 0 → env.listenKcp cfg.bindAddr cfg.kcpBindPort = none)
    (hh : env.listen [sprintfAddr cfg.bindAddr cfg.bindPort]
      (sprintfAddr cfg.proxyBindAddr cfg.vhostHttpPort) = none) :
    ∃ e, newService cfg env = .error ("Create server listener error, " ++ e) := by
  have hb : sprintfAddr cfg.proxyBindAddr cfg.vhostHttpPort ∈
      [sprintfAddr cfg.bindAddr cfg.bindPort, sprintfAddr cfg.proxyBindAddr cfg.vhostHttpPort] := by
    simp
  obtain ⟨e, he⟩ := Option.ne_none_iff_exists'.mp (ho _ _ hb)
  obtain ⟨k, hk'⟩ : ∃ k, (if cfg.kcpBindPort > 0 then
      orFail (env.listenKcp cfg.bindAddr cfg.kcpBindPort)
        ("Listen on kcp address udp [" ++ sprintfAddr cfg.bindAddr cfg.kcpBindPort ++ "] error: ")
        (some (Listener.kcp cfg.bindAddr cfg.kcpBindPort)) else .ok none) = Except.ok k := by
    split_ifs with h
    exacts [⟨_, by rw [hk h]; rfl⟩, ⟨_, rfl⟩]
  refine ⟨e, ?_⟩
  simp only [newService, ha, hl, hk', orFail_none, hp, if_pos h0, if_neg hm, hh, he, orFail_some,
    bind, Except.bind, pure, Except.pure]

end

/-! ### The proxy manager -/

structure ProxyManager (P : Type) where
  pxys : GoMap P

def newProxyManager {P : Type} : ProxyManager P := ⟨∅⟩

/-- `ProxyManager.Add`: the manager after the call, and its error. -/
def ProxyManager.add {P : Type} (pm : ProxyManager P) (name : String) (pxy : P) :
    ProxyManager P × Option String :=
  match pm.pxys.lookup name with
  | some _ => (pm, some ("proxy name [" ++ name ++ "] is already in use"))
  | none => (⟨pm.pxys.insert name pxy⟩, none)

def ProxyManager.del {P : Type} (pm : ProxyManager P) (name : String) : ProxyManager P :=
  ⟨pm.pxys.erase name⟩

def ProxyManager.getByName {P : Type} (pm : ProxyManager P) (name : String) : Option P :=
  pm.pxys.lookup name

/-- A call that changes the manager. Each holds `mu`, so the calls of any goroutines take effect
one after another, as a sequence of them. -/
inductive PmCall (P : Type) where
  | add (name : String) (pxy : P)
  | del (name : String)

def ProxyManager.call {P : Type} (pm : ProxyManager P) : PmCall P → ProxyManager P
  | .add name pxy => (pm.add name pxy).1
  | .del name => pm.del name

def ProxyManager.run {P : Type} (pm : ProxyManager P) (calls : List (PmCall P)) :
    ProxyManager P :=
  calls.foldl ProxyManager.call pm

/-- What the manager is for: a partial map from names to proxies, in which adding under a name
that is taken changes nothing. -/
def registryCall {P : Type} (r : String → Option P) : PmCall P → String → Option P
  | .add name pxy => if (r name).isNone then Function.update r name (some pxy) else r
  | .del name => Function.update r name none

section
variable {P : Type} (pm : ProxyManager P)

theorem ProxyManager.add_eq (name : String) (pxy : P) :
    pm.add name pxy = if (pm.getByName name).isNone then (⟨pm.pxys.insert name pxy⟩, none)
      else (pm, some ("proxy name [" ++ name ++ "] is already in use")) := by
  unfold add getByName
  split <;> simp_all

theorem ProxyManager.getByName_call (c : PmCall P) :
    (pm.call c).getByName = registryCall pm.getByName c := by
  funext n
  cases c with
  | add name pxy =>
    simp only [call, add_eq, registryCall]
    split_ifs with h
    · by_cases hn : n = name
      · subst hn; simp [getByName]
      · simp [getByName, hn, AList.lookup_insert_ne hn]
    · rfl
  | del name =>
    by_cases hn : n = name
    · subst hn; simp [call, del, getByName, registryCall]
    · simp [call, del, getByName, registryCall, hn, AList.lookup_erase_ne hn]

theorem ProxyManager.getByName_run (calls : List (PmCall P)) :
    (pm.run calls).getByName = calls.foldl registryCall pm.getByName := by
  induction calls generalizing pm with
  | nil => rfl
  | cons c cs ih => exact (ih (pm.call c)).trans (by rw [getByName_call]; rfl)

end

/-- Whatever the goroutines calling it, the proxy manager is the map of the names added and not
deleted since, with the proxy of the `Add` that found the name free: after every sequence of
calls from `NewProxyManager`, `GetByName` is that map; a further `Add` fails with
`proxy name [name] is already in use` exactly when the name is taken, and then leaves the
manager as it was. -/
theorem proxyManager_refines {P : Type} (calls : List (PmCall P)) (name : String) (pxy : P) :
    (newProxyManager.run calls).getByName = calls.foldl registryCall (fun _ => none) ∧
    ((newProxyManager.run calls).add name pxy).2 =
      (if ((newProxyManager.run calls).getByName name).isNone then none
        else some ("proxy name [" ++ name ++ "] is already in use")) ∧
    (((newProxyManager.run calls).add name pxy).2 ≠ none →
      ((newProxyManager.run calls).add name pxy).1 = newProxyManager.run calls) := by
  refine ⟨ProxyManager.getByName_run _ _, ?_, ?_⟩ <;> rw [ProxyManager.add_eq] <;> split_ifs <;>
    simp_all

end Frp.Server

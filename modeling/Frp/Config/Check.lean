import Frp.Config.Ini

/-! The server side of `models/config/proxy.go`: `CheckForSvr`, `NewProxyConfFromMsg`, and the
path of a proxy from the client's INI section to the server. -/
namespace Frp.Config
open Frp.Go

/-- The server's settings the checks read: package variables set from the server's
configuration (outside src/). -/
structure SvrCheckEnv where
  subDomainHost : String
  vhostHttpPort : Int
  vhostHttpsPort : Int

/-- The test of the loop of `DomainConf.checkForSvr`: `subDomainHost` is set, `domain` has more
labels, and contains it. -/
def domainBelongs (subDomainHost domain : String) : Bool :=
  subDomainHost ≠ "" && (split subDomainHost '.').length < (split domain '.').length &&
    contains domain subDomainHost

def DomainConf.checkForSvr (subDomainHost : String) (cfg : DomainConf) : Except String Unit := do
  cfg.check
  cfg.customDomains.forM fun domain =>
    if domainBelongs subDomainHost domain then
      throw ("custom domain [" ++ domain ++ "] should not belong to subdomain_host [" ++
        subDomainHost ++ "]")
    else pure ()
  if cfg.subDomain ≠ "" then
    if subDomainHost = "" then
      throw "subdomain is not supported because this feature is not enabled in remote frps"
    else if contains cfg.subDomain "." ∨ contains cfg.subDomain "*" then
      throw "'.' and '*' is not supported in subdomain"
    else pure ()
  else pure ()

/-- The body `HttpProxyConf.CheckForSvr` and `HttpsProxyConf.CheckForSvr` share, on the port
each requires and the type named in its error. -/
def checkVhostForSvr (typ : String) (vhostPort : Int) (subDomainHost : String)
    (base : BaseProxyConf) (domain : DomainConf) : Except String Unit :=
  if vhostPort = 0 then
    throw ("type [" ++ typ ++ "] not support when vhost_" ++ typ ++ "_port is not set")
  else
    match domain.checkForSvr subDomainHost with
    | .error err => throw ("proxy [" ++ base.proxyName ++ "] domain conf check error: " ++ err)
    | .ok () => pure ()

def HttpProxyConf.checkForSvr (env : SvrCheckEnv) (cfg : HttpProxyConf) : Except String Unit :=
  checkVhostForSvr "http" env.vhostHttpPort env.subDomainHost cfg.toBaseProxyConf
    cfg.toDomainConf

def HttpsProxyConf.checkForSvr (env : SvrCheckEnv) (cfg : HttpsProxyConf) :
    Except String Unit :=
  checkVhostForSvr "https" env.vhostHttpsPort env.subDomainHost cfg.toBaseProxyConf
    cfg.toDomainConf

def ProxyConf.checkForSvr (env : SvrCheckEnv) : ProxyConf → Except String Unit
  | .http c => c.checkForSvr env
  | .https c => c.checkForSvr env
  | _ => pure ()

/-- `NewProxyConfFromMsg`: a message without a type is a `tcp` one. -/
def newProxyConfFromMsg (env : SvrCheckEnv) (pMsg : NewProxy) : Except String ProxyConf := do
  let pMsg := if pMsg.proxyType = "" then { pMsg with proxyType := tcpProxy } else pMsg
  match newConfByType pMsg.proxyType with
  | none => throw ("proxy [" ++ pMsg.proxyName ++ "] type [" ++ pMsg.proxyType ++ "] error")
  | some cfg =>
    let cfg := cfg.unmarshalFromMsg pMsg
    cfg.checkForSvr env
    return cfg

/-- The configuration `NewProxyConfFromMsg` returns beside its error: `nil` for an unknown type,
otherwise the zero configuration of the type with the message unmarshalled into it, whatever
`CheckForSvr` answers. -/
def newProxyConfFromMsgConf (pMsg : NewProxy) : Option ProxyConf :=
  let pMsg := if pMsg.proxyType = "" then { pMsg with proxyType := tcpProxy } else pMsg
  (newConfByType pMsg.proxyType).map (·.unmarshalFromMsg pMsg)

theorem newProxyConfFromMsg_eq_ok {env : SvrCheckEnv} {pMsg : NewProxy} {cfg : ProxyConf} :
    newProxyConfFromMsg env pMsg = .ok cfg ↔
      newProxyConfFromMsgConf pMsg = some cfg ∧ cfg.checkForSvr env = .ok () := by
  simp only [newProxyConfFromMsg, newProxyConfFromMsgConf]
  generalize (if pMsg.proxyType = "" then { pMsg with proxyType := tcpProxy } else pMsg) = q
  cases newConfByType q.proxyType with
  | none => simp
  | some c =>
    simp only [Option.map_some', Option.some.injEq, except_bind_eq_ok, except_pure_eq_ok]
    exact ⟨fun ⟨(), h, e⟩ => ⟨e, e ▸ h⟩, fun ⟨e, h⟩ => ⟨(), e ▸ h, e⟩⟩

/-! What the domain check accepts. -/

theorem forM_eq_ok {X : Type} (f : X → Except String Unit) :
    ∀ l : List X, l.forM f = .ok () ↔ ∀ x ∈ l, f x = .ok ()
  | [] => by simp [pure, Except.pure]
  | x :: l => by
    show (f x >>= fun _ => l.forM f) = .ok () ↔ _
    rw [except_bind_eq_ok, List.forall_mem_cons, ← forM_eq_ok f l]
    exact ⟨fun ⟨(), h⟩ => h, fun h => ⟨(), h⟩⟩

theorem DomainConf.check_eq_ok {cfg : DomainConf} :
    cfg.check = .ok () ↔ cfg.customDomains ≠ [] ∨ cfg.subDomain ≠ "" := by
  simp only [check, except_ite_throw_eq_ok, and_true, not_and_or, ne_eq, List.length_eq_zero]

theorem DomainConf.checkForSvr_eq_ok {subDomainHost : String} {cfg : DomainConf} :
    cfg.checkForSvr subDomainHost = .ok () ↔ cfg.check = .ok () ∧
      (∀ d ∈ cfg.customDomains, domainBelongs subDomainHost d = false) ∧
      (cfg.subDomain ≠ "" → subDomainHost ≠ "" ∧ contains cfg.subDomain "." = false ∧
        contains cfg.subDomain "*" = false) := by
  simp only [checkForSvr, except_bind_eq_ok]
  constructor
  · rintro ⟨⟨⟩, hc, ⟨⟩, hd, hs⟩
    rw [forM_eq_ok] at hd
    simp only [except_ite_throw_eq_ok, and_true, Bool.not_eq_true] at hd
    exact ⟨hc, hd, by split_ifs at hs <;> simp_all⟩
  · rintro ⟨hc, hd, hs⟩
    exact ⟨(), hc, (), (forM_eq_ok _ _).mpr fun d h => by simp [hd d h],
      by split_ifs <;> simp_all⟩

/-- A proper subdomain of `subDomainHost`: `domain` ends with `"." + subDomainHost`, DNS names
compared without case (`toLower`, on ASCII letters). -/
def properSubdomain (subDomainHost domain : String) : Bool :=
  decide (("." ++ toLower subDomainHost).toList <:+ (toLower domain).toList)

theorem domainBelongs_of_suffix {subDomainHost domain : String} (hh : subDomainHost ≠ "")
    (hs : ("." ++ subDomainHost).toList <:+ domain.toList) :
    domainBelongs subDomainHost domain = true := by
  obtain ⟨x, hx⟩ := hs
  have hd : domain.toList = x ++ '.' :: subDomainHost.toList := by
    rw [← hx]; rfl
  have hinf : subDomainHost.toList <:+: domain.toList :=
    ⟨x ++ ['.'], [], by rw [hd]; simp⟩
  simp only [domainBelongs, length_split, hd, List.count_append, List.count_cons_self,
    contains_of_infix hinf, Bool.and_true, Bool.and_eq_true, decide_eq_true_eq]
  exact ⟨hh, by omega⟩

theorem DomainConf.checkForSvr_rejects_suffix {subDomainHost d : String} {cfg : DomainConf}
    (hh : subDomainHost ≠ "") (hd : d ∈ cfg.customDomains)
    (hs : ("." ++ subDomainHost).toList <:+ d.toList) :
    cfg.checkForSvr subDomainHost ≠ .ok () := fun h => by
  have := (checkForSvr_eq_ok.mp h).2.1 d hd
  rw [domainBelongs_of_suffix hh hs] at this
  cases this

/-- Under `subDomainHost = frps.com` the server rejects `a.frps.com.cn`, which is not under it,
and accepts `X.FRPS.COM`, which is. -/
theorem checkForSvr_misjudges_domains :
    let env : SvrCheckEnv :=
      { subDomainHost := "frps.com", vhostHttpPort := 80, vhostHttpsPort := 443 }
    newProxyConfFromMsg env
        { proxyName := "web", proxyType := "http", customDomains := ["a.frps.com.cn"] } =
      .error ("proxy [web] domain conf check error: custom domain [a.frps.com.cn] " ++
        "should not belong to subdomain_host [frps.com]") ∧
    properSubdomain "frps.com" "a.frps.com.cn" = false ∧
    (newProxyConfFromMsg env
        { proxyName := "web", proxyType := "http", customDomains := ["X.FRPS.COM"] }
      ).toOption.isSome ∧
    properSubdomain "frps.com" "X.FRPS.COM" = true :=
  ⟨rfl, by decide, rfl, by decide⟩

/-! The `NewProxy` round trip: the client marshals its configuration into a fresh message and
the server rebuilds it with `NewProxyConfFromMsg`. -/

def ProxyConf.typeName : ProxyConf → String
  | .tcp _ => tcpProxy
  | .udp _ => udpProxy
  | .http _ => httpProxy
  | .https _ => httpsProxy
  | .stcp _ => stcpProxy
  | .xtcp _ => xtcpProxy

/-- What a `BaseProxyConf` keeps through a message: the six fields `MarshalToMsg` writes, the
others at their zero values. -/
def BaseProxyConf.msgFields (cfg : BaseProxyConf) : BaseProxyConf :=
  { proxyName := cfg.proxyName, proxyType := cfg.proxyType, useEncryption := cfg.useEncryption,
    useCompression := cfg.useCompression, group := cfg.group, groupKey := cfg.groupKey }

/-- What a configuration keeps through a message: the fields its `MarshalToMsg` writes (the
`BaseProxyConf` ones, `RemotePort`, the domains, the HTTP routing fields, `Sk`), every other
field (local service, health check, `ProxyProtocolVersion`, `Role`) at its zero value. -/
def ProxyConf.msgFields : ProxyConf → ProxyConf
  | .tcp c =>
    .tcp { toBaseProxyConf := c.toBaseProxyConf.msgFields, toBindInfoConf := c.toBindInfoConf }
  | .udp c =>
    .udp { toBaseProxyConf := c.toBaseProxyConf.msgFields, toBindInfoConf := c.toBindInfoConf }
  | .http c => .http { c with toBaseProxyConf := c.toBaseProxyConf.msgFields }
  | .https c => .https { c with toBaseProxyConf := c.toBaseProxyConf.msgFields }
  | .stcp c => .stcp { toBaseProxyConf := c.toBaseProxyConf.msgFields, sk := c.sk }
  | .xtcp c => .xtcp { toBaseProxyConf := c.toBaseProxyConf.msgFields, sk := c.sk }

@[simp] theorem ProxyConf.marshalToMsg_proxyType (m : NewProxy) (cfg : ProxyConf) :
    (cfg.marshalToMsg m).proxyType = cfg.getBaseInfo.proxyType := by
  cases cfg <;> rfl

@[simp] theorem ProxyConf.typeName_ne_empty (cfg : ProxyConf) : cfg.typeName ≠ "" := by
  cases cfg <;> simp [typeName, tcpProxy, udpProxy, httpProxy, httpsProxy, stcpProxy, xtcpProxy]

theorem newProxyConfFromMsgConf_of_ne {pMsg : NewProxy} (h : pMsg.proxyType ≠ "") :
    newProxyConfFromMsgConf pMsg =
      (newConfByType pMsg.proxyType).map (·.unmarshalFromMsg pMsg) := by
  simp [newProxyConfFromMsgConf, h]

/-- The server rebuilds from a client's message the configuration of the same kind with every
field the message carries, and marshalling it again gives the same message. -/
theorem newProxyConfFromMsgConf_marshalToMsg (cfg : ProxyConf)
    (h : cfg.getBaseInfo.proxyType = cfg.typeName) :
    newProxyConfFromMsgConf (cfg.marshalToMsg {}) = some cfg.msgFields ∧
      cfg.msgFields.typeName = cfg.typeName ∧
      cfg.msgFields.marshalToMsg {} = cfg.marshalToMsg {} := by
  rw [newProxyConfFromMsgConf_of_ne (by simp [h]), ProxyConf.marshalToMsg_proxyType, h]
  cases cfg <;> exact ⟨rfl, rfl, rfl⟩

theorem newProxyConfFromMsgConf_marshalToMsg_web :
    let cfg : ProxyConf := .http {
      proxyName := "web", proxyType := "http", localPort := 80, customDomains := ["a.com"],
      locations := ["/"] }
    cfg.getBaseInfo.proxyType = cfg.typeName ∧
      newProxyConfFromMsgConf (cfg.marshalToMsg {}) = some cfg.msgFields ∧
      cfg.msgFields.typeName = cfg.typeName ∧
      cfg.msgFields.marshalToMsg {} = cfg.marshalToMsg {} :=
  ⟨rfl, newProxyConfFromMsgConf_marshalToMsg _ rfl⟩

/-! The whole path of a proxy from the client's INI file to the server. -/

theorem ProxyConf.typeName_of_unmarshalFromIni {c c' : ProxyConf} {pre name : String}
    {sec : Section} (h : c.unmarshalFromIni pre name sec = .ok c') : c'.typeName = c.typeName := by
  cases c <;> simp only [ProxyConf.unmarshalFromIni, except_map_eq_ok] at h <;>
    obtain ⟨_, -, rfl⟩ := h <;> rfl

theorem typeName_of_newConfByType {t : String} {c : ProxyConf} (h : newConfByType t = some c) :
    c.typeName = t := by
  unfold newConfByType at h
  split_ifs at h with h1 h2 h3 h4 h5 h6 <;> cases h
  exacts [h1.symm, h2.symm, h3.symm, h4.symm, h5.symm, h6.symm]

theorem newProxyConfFromIni_typeName {pre name : String} {sec : Section} {cfg : ProxyConf}
    (h : newProxyConfFromIni pre name sec = .ok cfg) :
    cfg.getBaseInfo.proxyType = cfg.typeName := by
  obtain ⟨t, sec', c, ht, hc, hu⟩ := newProxyConfFromIni_eq_ok h
  rw [(ProxyConf.names_of_unmarshalFromIni hu).2, ht, ProxyConf.typeName_of_unmarshalFromIni hu,
    typeName_of_newConfByType hc]

/-- Every proxy the client loads from an INI section reaches the server whole: the server
rebuilds the configuration of the same kind with every field `NewProxy` carries, and accepts it
exactly when `CheckForSvr` accepts those fields. -/
theorem newProxyConfFromMsg_of_ini (env : SvrCheckEnv) {pre name : String} {sec : Section}
    {cfg c : ProxyConf} (h : newProxyConfFromIni pre name sec = .ok cfg) :
    newProxyConfFromMsg env (cfg.marshalToMsg {}) = .ok c ↔
      c = cfg.msgFields ∧ cfg.msgFields.checkForSvr env = .ok () := by
  have ht := newProxyConfFromIni_typeName h
  have hm : newProxyConfFromMsgConf (cfg.marshalToMsg {}) = some cfg.msgFields := by
    rw [newProxyConfFromMsgConf_of_ne (by simp [ht]), ProxyConf.marshalToMsg_proxyType, ht]
    cases cfg <;> rfl
  rw [newProxyConfFromMsg_eq_ok, hm, Option.some.injEq]
  constructor <;> rintro ⟨rfl, hc⟩ <;> exact ⟨rfl, hc⟩

theorem newProxyConfFromMsg_of_ini_web :
    let env : SvrCheckEnv :=
      { subDomainHost := "frps.com", vhostHttpPort := 80, vhostHttpsPort := 443 }
    let cfg : ProxyConf := .http {
      proxyName := "web", proxyType := "http", localIp := "127.0.0.1", localPort := 80,
      customDomains := ["a.com"], locations := [""] }
    newProxyConfFromIni "" "web" (webSection "a.com") = .ok cfg ∧
      (newProxyConfFromMsg env (cfg.marshalToMsg {}) = .ok cfg.msgFields ↔
        cfg.msgFields = cfg.msgFields ∧ cfg.msgFields.checkForSvr env = .ok ()) :=
  ⟨rfl, @newProxyConfFromMsg_of_ini _ "" "web" (webSection "a.com") _ _ rfl⟩

end Frp.Config

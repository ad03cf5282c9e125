import Frp.Go.Basic

/-! The proxy configurations of `models/config/proxy.go` and the `msg.NewProxy` message. Embedded
structs are `extends`, and every field defaults to its Go zero value. -/
namespace Frp.Config
open Frp.Go

def tcpProxy : String := "tcp"
def udpProxy : String := "udp"
def httpProxy : String := "http"
def httpsProxy : String := "https"
def stcpProxy : String := "stcp"
def xtcpProxy : String := "xtcp"

structure LocalSvrConf where
  localIp : String := ""
  localPort : Int := 0
  plugin : String := ""
  pluginParams : GoMap String := ∅
  deriving DecidableEq

structure HealthCheckConf where
  healthCheckType : String := ""
  healthCheckTimeoutS : Int := 0
  healthCheckMaxFailed : Int := 0
  healthCheckIntervalS : Int := 0
  healthCheckUrl : String := ""
  healthCheckAddr : String := ""
  deriving DecidableEq

structure BaseProxyConf extends LocalSvrConf, HealthCheckConf where
  proxyName : String := ""
  proxyType : String := ""
  useEncryption : Bool := false
  useCompression : Bool := false
  group : String := ""
  groupKey : String := ""
  proxyProtocolVersion : String := ""
  deriving DecidableEq

structure BindInfoConf where
  remotePort : Int := 0
  deriving DecidableEq

structure DomainConf where
  customDomains : List String := []
  subDomain : String := ""
  deriving DecidableEq

structure TcpProxyConf extends BaseProxyConf, BindInfoConf
  deriving DecidableEq

structure UdpProxyConf extends BaseProxyConf, BindInfoConf
  deriving DecidableEq

structure HttpProxyConf extends BaseProxyConf, DomainConf where
  locations : List String := []
  httpUser : String := ""
  httpPwd : String := ""
  hostHeaderRewrite : String := ""
  headers : GoMap String := ∅
  deriving DecidableEq

structure HttpsProxyConf extends BaseProxyConf, DomainConf
  deriving DecidableEq

structure StcpProxyConf extends BaseProxyConf where
  role : String := ""
  sk : String := ""
  deriving DecidableEq

structure XtcpProxyConf extends BaseProxyConf where
  role : String := ""
  sk : String := ""
  deriving DecidableEq

/-- A `ProxyConf` interface value: which of the six types it holds, and that value. -/
inductive ProxyConf where
  | tcp (cfg : TcpProxyConf)
  | udp (cfg : UdpProxyConf)
  | http (cfg : HttpProxyConf)
  | https (cfg : HttpsProxyConf)
  | stcp (cfg : StcpProxyConf)
  | xtcp (cfg : XtcpProxyConf)
  deriving DecidableEq

def ProxyConf.getBaseInfo : ProxyConf → BaseProxyConf
  | .tcp c => c.toBaseProxyConf
  | .udp c => c.toBaseProxyConf
  | .http c => c.toBaseProxyConf
  | .https c => c.toBaseProxyConf
  | .stcp c => c.toBaseProxyConf
  | .xtcp c => c.toBaseProxyConf

/-- `NewConfByType`: the zero configuration of a type, `nil` for an unknown type name. -/
def newConfByType (proxyType : String) : Option ProxyConf :=
  if proxyType = tcpProxy then some (.tcp {})
  else if proxyType = udpProxy then some (.udp {})
  else if proxyType = httpProxy then some (.http {})
  else if proxyType = httpsProxy then some (.https {})
  else if proxyType = stcpProxy then some (.stcp {})
  else if proxyType = xtcpProxy then some (.xtcp {})
  else none

/-- `msg.NewProxy`, with the fields the configurations write and read. -/
structure NewProxy where
  proxyName : String := ""
  proxyType : String := ""
  useEncryption : Bool := false
  useCompression : Bool := false
  group : String := ""
  groupKey : String := ""
  remotePort : Int := 0
  customDomains : List String := []
  subDomain : String := ""
  locations : List String := []
  httpUser : String := ""
  httpPwd : String := ""
  hostHeaderRewrite : String := ""
  headers : GoMap String := ∅
  sk : String := ""
  deriving DecidableEq

def BaseProxyConf.unmarshalFromMsg (cfg : BaseProxyConf) (m : NewProxy) : BaseProxyConf :=
  { cfg with proxyName := m.proxyName, proxyType := m.proxyType,
             useEncryption := m.useEncryption, useCompression := m.useCompression,
             group := m.group, groupKey := m.groupKey }

def BaseProxyConf.marshalToMsg (cfg : BaseProxyConf) (m : NewProxy) : NewProxy :=
  { m with proxyName := cfg.proxyName, proxyType := cfg.proxyType,
           useEncryption := cfg.useEncryption, useCompression := cfg.useCompression,
           group := cfg.group, groupKey := cfg.groupKey }

def BindInfoConf.unmarshalFromMsg (cfg : BindInfoConf) (m : NewProxy) : BindInfoConf :=
  { cfg with remotePort := m.remotePort }

def BindInfoConf.marshalToMsg (cfg : BindInfoConf) (m : NewProxy) : NewProxy :=
  { m with remotePort := cfg.remotePort }

def DomainConf.unmarshalFromMsg (cfg : DomainConf) (m : NewProxy) : DomainConf :=
  { cfg with customDomains := m.customDomains, subDomain := m.subDomain }

def DomainConf.marshalToMsg (cfg : DomainConf) (m : NewProxy) : NewProxy :=
  { m with customDomains := cfg.customDomains, subDomain := cfg.subDomain }

def TcpProxyConf.unmarshalFromMsg (cfg : TcpProxyConf) (m : NewProxy) : TcpProxyConf :=
  { toBaseProxyConf := cfg.toBaseProxyConf.unmarshalFromMsg m,
    toBindInfoConf := cfg.toBindInfoConf.unmarshalFromMsg m }

def TcpProxyConf.marshalToMsg (cfg : TcpProxyConf) (m : NewProxy) : NewProxy :=
  cfg.toBindInfoConf.marshalToMsg (cfg.toBaseProxyConf.marshalToMsg m)

def UdpProxyConf.unmarshalFromMsg (cfg : UdpProxyConf) (m : NewProxy) : UdpProxyConf :=
  { toBaseProxyConf := cfg.toBaseProxyConf.unmarshalFromMsg m,
    toBindInfoConf := cfg.toBindInfoConf.unmarshalFromMsg m }

def UdpProxyConf.marshalToMsg (cfg : UdpProxyConf) (m : NewProxy) : NewProxy :=
  cfg.toBindInfoConf.marshalToMsg (cfg.toBaseProxyConf.marshalToMsg m)

def HttpProxyConf.unmarshalFromMsg (cfg : HttpProxyConf) (m : NewProxy) : HttpProxyConf :=
  { cfg with toBaseProxyConf := cfg.toBaseProxyConf.unmarshalFromMsg m,
             toDomainConf := cfg.toDomainConf.unmarshalFromMsg m,
             locations := m.locations, hostHeaderRewrite := m.hostHeaderRewrite,
             httpUser := m.httpUser, httpPwd := m.httpPwd, headers := m.headers }

def HttpProxyConf.marshalToMsg (cfg : HttpProxyConf) (m : NewProxy) : NewProxy :=
  { cfg.toDomainConf.marshalToMsg (cfg.toBaseProxyConf.marshalToMsg m) with
    locations := cfg.locations, hostHeaderRewrite := cfg.hostHeaderRewrite,
    httpUser := cfg.httpUser, httpPwd := cfg.httpPwd, headers := cfg.headers }

def HttpsProxyConf.unmarshalFromMsg (cfg : HttpsProxyConf) (m : NewProxy) : HttpsProxyConf :=
  { toBaseProxyConf := cfg.toBaseProxyConf.unmarshalFromMsg m,
    toDomainConf := cfg.toDomainConf.unmarshalFromMsg m }

def HttpsProxyConf.marshalToMsg (cfg : HttpsProxyConf) (m : NewProxy) : NewProxy :=
  cfg.toDomainConf.marshalToMsg (cfg.toBaseProxyConf.marshalToMsg m)

def StcpProxyConf.unmarshalFromMsg (cfg : StcpProxyConf) (m : NewProxy) : StcpProxyConf :=
  { cfg with toBaseProxyConf := cfg.toBaseProxyConf.unmarshalFromMsg m, sk := m.sk }

def StcpProxyConf.marshalToMsg (cfg : StcpProxyConf) (m : NewProxy) : NewProxy :=
  { cfg.toBaseProxyConf.marshalToMsg m with sk := cfg.sk }

def XtcpProxyConf.unmarshalFromMsg (cfg : XtcpProxyConf) (m : NewProxy) : XtcpProxyConf :=
  { cfg with toBaseProxyConf := cfg.toBaseProxyConf.unmarshalFromMsg m, sk := m.sk }

def XtcpProxyConf.marshalToMsg (cfg : XtcpProxyConf) (m : NewProxy) : NewProxy :=
  { cfg.toBaseProxyConf.marshalToMsg m with sk := cfg.sk }

def ProxyConf.unmarshalFromMsg (m : NewProxy) : ProxyConf → ProxyConf
  | .tcp c => .tcp (c.unmarshalFromMsg m)
  | .udp c => .udp (c.unmarshalFromMsg m)
  | .http c => .http (c.unmarshalFromMsg m)
  | .https c => .https (c.unmarshalFromMsg m)
  | .stcp c => .stcp (c.unmarshalFromMsg m)
  | .xtcp c => .xtcp (c.unmarshalFromMsg m)

def ProxyConf.marshalToMsg (m : NewProxy) : ProxyConf → NewProxy
  | .tcp c => c.marshalToMsg m
  | .udp c => c.marshalToMsg m
  | .http c => c.marshalToMsg m
  | .https c => c.marshalToMsg m
  | .stcp c => c.marshalToMsg m
  | .xtcp c => c.marshalToMsg m

end Frp.Config

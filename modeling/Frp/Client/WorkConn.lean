import Frp.Config.Types
import Frp.Go.Net

/-! `HandleTcpWorkConnection` of `client/proxy`, and the PROXY-protocol header it writes to the
local service. -/
namespace Frp.Client
open Frp.Go Frp.Config

/-- `msg.StartWorkConn`, with the fields `HandleTcpWorkConnection` reads; the server fills the
ports with `uint16` conversions. -/
structure StartWorkConn where
  srcAddr : String := ""
  srcPort : UInt16 := 0
  dstAddr : String := ""
  dstPort : UInt16 := 0
  deriving DecidableEq

inductive ProtocolVersionAndCommand where
  | LOCAL | PROXY
  deriving DecidableEq

inductive AddressFamilyAndProtocol where
  | TCPv4 | TCPv6
  deriving DecidableEq

structure Header where
  version : UInt8
  command : ProtocolVersionAndCommand
  transportProtocol : AddressFamilyAndProtocol
  sourceAddress : IP
  destinationAddress : IP
  sourcePort : UInt16
  destinationPort : UInt16
  deriving DecidableEq

/-- The PROXY-protocol block of `HandleTcpWorkConnection`: the header it builds for the user
connection `m` describes, `none` when it builds none. -/
def proxyProtocolHeader (proxyProtocolVersion : String) (m : StartWorkConn) : Option Header :=
  if proxyProtocolVersion ≠ "" ∧ m.srcAddr ≠ "" ∧ m.srcPort ≠ 0 then
    let dstAddr := if m.dstAddr = "" then "127.0.0.1" else m.dstAddr
    let sourceAddress := parseIP m.srcAddr
    some {
      command := .PROXY
      sourceAddress
      sourcePort := m.srcPort
      destinationAddress := parseIP dstAddr
      destinationPort := m.dstPort
      transportProtocol := if sourceAddress.to16 = [] then .TCPv4 else .TCPv6
      version :=
        if proxyProtocolVersion = "v1" then 1 else if proxyProtocolVersion = "v2" then 2 else 0 }
  else none

inductive WorkConnAction where
  | closeWorkConn
  | pluginHandle (extraInfo : List UInt8)
  | connectLocal (addr : String)
  | writeLocal (data : List UInt8)
  | join
  deriving DecidableEq

/-- The calls `HandleTcpWorkConnection` makes outside src/: whether `frpIo.WithEncryption`
succeeds, whether the local service at an address accepts a connection, and go-proxyproto's
`Header.WriteTo`. -/
structure WorkConnEnv where
  encryptionOk : Bool
  connectOk : String → Bool
  writeTo : Header → List UInt8

/-- `HandleTcpWorkConnection`; `hasPlugin` is `proxyPlugin != nil`. -/
def handleTcpWorkConnection (env : WorkConnEnv) (localInfo : LocalSvrConf) (hasPlugin : Bool)
    (baseInfo : BaseProxyConf) (m : StartWorkConn) : List WorkConnAction :=
  if baseInfo.useEncryption ∧ !env.encryptionOk then [.closeWorkConn]
  else
    let extraInfo := match proxyProtocolHeader baseInfo.proxyProtocolVersion m with
      | some h => env.writeTo h
      | none => []
    if hasPlugin then [.pluginHandle extraInfo]
    else
      let addr := localInfo.localIp ++ ":" ++ toString localInfo.localPort
      if !env.connectOk addr then [.connectLocal addr, .closeWorkConn]
      else
        .connectLocal addr ::
          ((if extraInfo.length > 0 then [.writeLocal extraInfo] else []) ++ [.join])

section
variable {v : String} {m : StartWorkConn} {hdr : Header}

theorem proxyProtocolHeader_eq_some :
    proxyProtocolHeader v m = some hdr ↔
      v ≠ "" ∧ m.srcAddr ≠ "" ∧ m.srcPort ≠ 0 ∧
      hdr = { command := .PROXY, sourceAddress := parseIP m.srcAddr, sourcePort := m.srcPort,
              destinationAddress := parseIP (if m.dstAddr = "" then "127.0.0.1" else m.dstAddr),
              destinationPort := m.dstPort,
              transportProtocol := if (parseIP m.srcAddr).to16 = [] then .TCPv4 else .TCPv6,
              version := if v = "v1" then 1 else if v = "v2" then 2 else 0 } := by
  unfold proxyProtocolHeader
  by_cases h : v ≠ "" ∧ m.srcAddr ≠ "" ∧ m.srcPort ≠ 0
  · rw [if_pos h]
    exact ⟨fun e => ⟨h.1, h.2.1, h.2.2, (Option.some.inj e).symm⟩, fun ⟨_, _, _, e⟩ => e ▸ rfl⟩
  · rw [if_neg h]
    exact ⟨nofun, fun ⟨a, b, c, _⟩ => absurd ⟨a, b, c⟩ h⟩

theorem proxyProtocolHeader_transportProtocol (h : proxyProtocolHeader v m = some hdr) :
    hdr.transportProtocol = if parseIP m.srcAddr = [] then .TCPv4 else .TCPv6 := by
  obtain ⟨-, -, -, rfl⟩ := proxyProtocolHeader_eq_some.mp h
  by_cases hp : parseIP m.srcAddr = []
  · simp [hp, IP.to16]
  · simp [hp, IP.to16_parseIP hp]

theorem proxyProtocolHeader_ipv4_source (h : proxyProtocolHeader v m = some hdr)
    (h4 : (parseIP m.srcAddr).to4 ≠ []) : hdr.transportProtocol = .TCPv6 := by
  have hp : parseIP m.srcAddr ≠ [] := fun e => h4 (by rw [e]; rfl)
  simp [proxyProtocolHeader_transportProtocol h, hp]

theorem proxyProtocolHeader_default_destination (h : proxyProtocolHeader v m = some hdr)
    (hd : m.dstAddr = "") : hdr.destinationAddress.to4 = [127, 0, 0, 1] := by
  obtain ⟨-, -, -, rfl⟩ := proxyProtocolHeader_eq_some.mp h
  simp only [hd, if_true]
  decide

end

/-- The source `1.2.3.4`, an IPv4 address by `To4`, is announced as TCPv6; the IPv6 source `::1`
with no destination gets the IPv4 destination `127.0.0.1`. -/
theorem proxyProtocolHeader_mislabels_family :
    (parseIP "1.2.3.4").to4 = [1, 2, 3, 4] ∧
    (proxyProtocolHeader "v1" { srcAddr := "1.2.3.4", srcPort := 1, dstPort := 80 }).map
      (·.transportProtocol) = some .TCPv6 ∧
    (parseIP "::1").to4 = [] ∧
    (proxyProtocolHeader "v2" { srcAddr := "::1", srcPort := 1, dstPort := 80 }).map
      (fun h => (h.transportProtocol, h.destinationAddress.to4)) = some (.TCPv6, [127, 0, 0, 1]) := by
  decide

theorem handleTcpWorkConnection_writes_header_first {env : WorkConnEnv}
    {localInfo : LocalSvrConf} {hasPlugin : Bool} {baseInfo : BaseProxyConf} {m : StartWorkConn} {hdr : Header}
    (hh : proxyProtocolHeader baseInfo.proxyProtocolVersion m = some hdr)
    (hw : env.writeTo hdr ≠ [])
    (hj : .join ∈ handleTcpWorkConnection env localInfo hasPlugin baseInfo m) :
    handleTcpWorkConnection env localInfo hasPlugin baseInfo m =
      [.connectLocal (localInfo.localIp ++ ":" ++ toString localInfo.localPort),
        .writeLocal (env.writeTo hdr), .join] := by
  have hl : (env.writeTo hdr).length > 0 := List.length_pos.mpr hw
  unfold handleTcpWorkConnection at hj ⊢
  simp only [hh] at hj ⊢
  split_ifs at hj ⊢ <;> simp_all

end Frp.Client

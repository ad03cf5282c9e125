import Frp.Go.RoundTrip
import Frp.Client.WorkConn
import Frp.Client.Xtcp

/-! The addresses `GetWorkConnFromPool` writes into `StartWorkConn`, and the PROXY-protocol
header the client builds from them. -/
namespace Frp.Server
open Frp.Go Frp.Client

/-- `uint16(n)`: the low 16 bits of an `int`. -/
def uint16 (n : Int) : UInt16 := .ofNat (n % 65536).toNat

/-- The `if src != nil` block of `GetWorkConnFromPool`, on `src.String()` (`none` is a nil
`net.Addr`): the host and the port `SplitHostPort` and `Atoi` make of it, their errors dropped,
so a failed split leaves `""` and port 0. -/
def addrFields : Option String → String × Int
  | none => ("", 0)
  | some s =>
    let (host, portStr) := (splitHostPort s).getD ("", "")
    (host, (atoi portStr).1)

/-- The `StartWorkConn` that `GetWorkConnFromPool(src, dst)` writes (its `ProxyName`, which only
the client's proxy manager reads, is left out). -/
def startWorkConn (src dst : Option String) : StartWorkConn :=
  let (srcAddr, srcPort) := addrFields src
  let (dstAddr, dstPort) := addrFields dst
  { srcAddr, srcPort := uint16 srcPort, dstAddr, dstPort := uint16 dstPort }

/-- `HandleUserTcpConnection` passes the user connection's remote and local addresses. -/
def tcpStartWorkConn (remoteAddr localAddr : TCPAddr) : StartWorkConn :=
  startWorkConn (some remoteAddr.string) (some localAddr.string)

/-- `HttpProxy.GetRealConn(remoteAddr)` passes the address `ResolveTCPAddr` made of the request's
remote address, and nil. When resolving fails `rAddr` is a nil `*TCPAddr`, which is a non-nil
`net.Addr` whose `String()` is `<nil>`. -/
def httpStartWorkConn (rAddr : Option TCPAddr) : StartWorkConn :=
  startWorkConn (some ((rAddr.map TCPAddr.string).getD "<nil>")) none

/-- A TCP address of a connection: an IPv4 or IPv6 address without a zone, with a port from
`lo` to 65535. -/
def Endpoint (a : TCPAddr) (lo : Int) : Prop :=
  (a.ip.length = 4 ∨ a.ip.length = 16) ∧ a.zone = "" ∧ lo ≤ a.port ∧ a.port < 65536

instance (a : TCPAddr) (lo : Int) : Decidable (Endpoint a lo) := by
  unfold Endpoint; infer_instance

theorem uint16_of_lt {n : Int} (h0 : 0 ≤ n) (h : n < 65536) : uint16 n = .ofNat n.toNat := by
  rw [uint16, Int.emod_eq_of_lt h0 h]

theorem splitHostPort_joinHostPort {host port : String}
    (hh : ∀ c ∈ host.toList, c ≠ '[' ∧ c ≠ ']')
    (hp : ∀ c ∈ port.toList, c ≠ ':' ∧ c ≠ '[' ∧ c ≠ ']') :
    splitHostPort (joinHostPort host port) = some (host, port) := by
  unfold joinHostPort
  split
  · next hc =>
    obtain ⟨h⟩ := host
    obtain ⟨p⟩ := port
    simp only [String.toList] at hh hp hc
    have hs : ("[" ++ String.mk h ++ "]:" ++ String.mk p).toList = '[' :: (h ++ ']' :: ':' :: p) := by
      simp [String.toList]
    have hnh : '[' ∉ h ∧ ']' ∉ h := ⟨fun hc => (hh _ hc).1 rfl, fun hc => (hh _ hc).2 rfl⟩
    have hnp : ':' ∉ p ∧ '[' ∉ p ∧ ']' ∉ p :=
      ⟨fun hc => (hp _ hc).1 rfl, fun hc => (hp _ hc).2.1 rfl, fun hc => (hp _ hc).2.2 rfl⟩
    have hidx : ('[' :: (h ++ ']' :: ':' :: p)).reverse.indexOf ':' = p.length := by
      rw [show ('[' :: (h ++ ']' :: ':' :: p)).reverse = p.reverse ++ ':' :: (']' :: h.reverse ++ ['['])
        by simp, List.indexOf_append_of_not_mem (by simpa using hnp.1)]
      simp [List.indexOf_cons_self]
    have he : ('[' :: (h ++ ']' :: ':' :: p)).indexOf ']' = h.length + 1 := by
      rw [List.indexOf_cons_ne _ (by decide), List.indexOf_append_of_not_mem hnh.2,
        List.indexOf_cons_self]
    have hlen : ('[' :: (h ++ ']' :: ':' :: p)).length - 1 - p.length = h.length + 2 := by
      simp; omega
    have hd : ('[' :: (h ++ ']' :: ':' :: p)).drop (h.length + 1 + 1) = ':' :: p := by simp
    simp only [splitHostPort, hs, he, hidx, hlen, hd, List.head?_cons, ↓reduceIte]
    rw [if_neg (by simp), if_neg (by simp), if_neg (by simp [hnh, hnp])]
    simp
  · next hc =>
    exact (splitHostPort_host_port (fun c hc' => ⟨fun h => hc (h ▸ hc'), hh c hc'⟩) hp).2

theorem addrFields_of_endpoint {a : TCPAddr} {lo : Int} (h : Endpoint a lo) (hlo : 0 ≤ lo) :
    addrFields (some a.string) = (a.ip.string, a.port) := by
  obtain ⟨hl, hz, hlo', hu⟩ := h
  have hd : ∀ c ∈ (uitoa a.port.toNat).toList, c ≠ ':' ∧ c ≠ '[' ∧ c ≠ ']' := fun c hc => by
    have := not_sep_of_mem_toDigits hc
    exact ⟨this.2.1, this.2.2.1, this.2.2.2.1⟩
  rw [addrFields, TCPAddr.string_of_zone_empty (by omega) hz (by omega),
    splitHostPort_joinHostPort (IP.string_ne_empty_not_bracket hl).2 hd]
  simp only [Option.getD_some, atoi_uitoa (by omega : a.port.toNat < 2 ^ 63), Prod.mk.injEq, true_and]
  omega

theorem tcpStartWorkConn_of_endpoint {r l : TCPAddr} (hr : Endpoint r 0) (hl : Endpoint l 0) :
    tcpStartWorkConn r l = {
      srcAddr := r.ip.string, srcPort := .ofNat r.port.toNat,
      dstAddr := l.ip.string, dstPort := .ofNat l.port.toNat } := by
  rw [tcpStartWorkConn, startWorkConn, addrFields_of_endpoint hr le_rfl,
    addrFields_of_endpoint hl le_rfl]
  dsimp only
  rw [uint16_of_lt hr.2.2.1 hr.2.2.2, uint16_of_lt hl.2.2.1 hl.2.2.2]

theorem ofNat_port_ne_zero {port : Int} (h1 : 1 ≤ port) (h2 : port < 65536) :
    UInt16.ofNat port.toNat ≠ 0 := by
  intro h0
  have h' := congrArg UInt16.toNat h0
  rw [UInt16.toNat_ofNat_of_lt (by simp only [UInt16.size]; omega)] at h'
  exact absurd h' (by simp only [UInt16.toNat_zero]; omega)

theorem parseIP_endpoint {a : TCPAddr} {lo : Int} (h : Endpoint a lo) :
    parseIP a.ip.string = a.ip.to16 ∧ a.ip.to16.to16 ≠ [] := by
  have hl : a.ip.to16.length = 16 := by
    rcases h.1 with h' | h' <;> simp [IP.to16, h', v4InV6Prefix]
  refine ⟨parseIP_string h.1, ?_⟩
  rw [IP.to16, if_neg (by omega), if_pos hl]
  exact List.ne_nil_of_length_pos (by omega)

/-- For every user connection to the server, both of them IPv4 or IPv6 addresses without a zone
and the user's port not 0, with a PROXY-protocol version set, the client writes its local
service a header that names the user's address and port and the server's, both addresses in the
16-byte form, under the TCPv6 family. -/
theorem proxyProtocolHeader_tcpStartWorkConn {v : String} {r l : TCPAddr} (hv : v ≠ "")
    (hr : Endpoint r 1) (hl : Endpoint l 0) :
    proxyProtocolHeader v (tcpStartWorkConn r l) = some {
        command := .PROXY, transportProtocol := .TCPv6,
        sourceAddress := r.ip.to16, sourcePort := .ofNat r.port.toNat,
        destinationAddress := l.ip.to16, destinationPort := .ofNat l.port.toNat,
        version := if v = "v1" then 1 else if v = "v2" then 2 else 0 } := by
  have hr0 : Endpoint r 0 := ⟨hr.1, hr.2.1, by have := hr.2.2.1; omega, hr.2.2.2⟩
  rw [tcpStartWorkConn_of_endpoint hr0 hl]
  refine proxyProtocolHeader_eq_some.mpr
    ⟨hv, (IP.string_ne_empty_not_bracket hr.1).1, ofNat_port_ne_zero hr.2.2.1 hr.2.2.2, ?_⟩
  simp only [(IP.string_ne_empty_not_bracket hl.1).1, ↓reduceIte, (parseIP_endpoint hr).1,
    (parseIP_endpoint hl).1, (parseIP_endpoint hr).2]

theorem proxyProtocolHeader_tcpStartWorkConn_at :
    let r : TCPAddr := ⟨[0x20, 1, 0x0d, 0xb8, 0, 0, 0, 0, 0, 0, 0, 0, 0, 0, 0, 1], 5, ""⟩
    let l : TCPAddr := ⟨[10, 0, 0, 1], 80, ""⟩
    ("v2" ≠ "" ∧ Endpoint r 1 ∧ Endpoint l 0) ∧
    proxyProtocolHeader "v2" (tcpStartWorkConn r l) = some {
        command := .PROXY, transportProtocol := .TCPv6,
        sourceAddress := r.ip.to16, sourcePort := .ofNat r.port.toNat,
        destinationAddress := l.ip.to16, destinationPort := .ofNat l.port.toNat,
        version := if "v2" = "v1" then 1 else if "v2" = "v2" then 2 else 0 } :=
  ⟨⟨by decide, by decide, by decide⟩,
    proxyProtocolHeader_tcpStartWorkConn (by decide) (by decide) (by decide)⟩

/-- A TCP address of a connection with a zone, such as a link-local IPv6 address and its
interface, with a port from `lo` to 65535. -/
def ZonedEndpoint (a : TCPAddr) (lo : Int) : Prop :=
  (a.ip.length = 4 ∨ a.ip.length = 16) ∧ a.zone ≠ "" ∧ (∀ c ∈ a.zone.toList, c ≠ '[' ∧ c ≠ ']') ∧
    lo ≤ a.port ∧ a.port < 65536

instance (a : TCPAddr) (lo : Int) : Decidable (ZonedEndpoint a lo) := by
  unfold ZonedEndpoint; infer_instance

theorem zoned_toList (host zone : String) :
    (host ++ "%" ++ zone).toList = host.toList ++ '%' :: zone.toList := by
  simp [String.toList]

theorem addrFields_of_zoned {a : TCPAddr} (h : ZonedEndpoint a 1) :
    addrFields (some a.string) = (a.ip.string ++ "%" ++ a.zone, a.port) ∧
      parseIP (a.ip.string ++ "%" ++ a.zone) = [] := by
  obtain ⟨hl, hz, hzb, hlo, hu⟩ := h
  have hd : ∀ c ∈ (uitoa a.port.toNat).toList, c ≠ ':' ∧ c ≠ '[' ∧ c ≠ ']' := fun c hc => by
    have := not_sep_of_mem_toDigits hc
    exact ⟨this.2.1, this.2.2.1, this.2.2.2.1⟩
  have hh : ∀ c ∈ (a.ip.string ++ "%" ++ a.zone).toList, c ≠ '[' ∧ c ≠ ']' := fun c hc => by
    rw [zoned_toList] at hc
    simp only [List.mem_append, List.mem_cons] at hc
    rcases hc with hc | rfl | hc
    · exact (IP.string_ne_empty_not_bracket hl).2 c hc
    · decide
    · exact hzb c hc
  refine ⟨?_, ?_⟩
  · rw [addrFields, TCPAddr.string_of_zone (by omega) hz (by omega), splitHostPort_joinHostPort hh hd]
    simp only [Option.getD_some, atoi_uitoa (by omega : a.port.toNat < 2 ^ 63), Prod.mk.injEq,
      true_and]
    omega
  · by_contra hne
    have := parseIP_allowed hne '%' (by simp [zoned_toList])
    exact absurd this (by decide)

/-- For every user connection from an IPv4 or IPv6 address with a zone (a link-local IPv6
address and its interface) and a port that is not 0, to any address of the server, with a
PROXY-protocol version set, the client still writes a header, but it names no source address
and announces the TCPv4 family: the zone the server leaves in the host makes `ParseIP` fail. -/
theorem proxyProtocolHeader_tcpStartWorkConn_zoned {v : String} {r : TCPAddr} (hv : v ≠ "")
    (hr : ZonedEndpoint r 1) (l : TCPAddr) :
    ∃ hdr, proxyProtocolHeader v (tcpStartWorkConn r l) = some hdr ∧ hdr.sourceAddress = [] ∧
      hdr.sourcePort = .ofNat r.port.toNat ∧ hdr.transportProtocol = .TCPv4 := by
  obtain ⟨hf, hp⟩ := addrFields_of_zoned hr
  have hm : (tcpStartWorkConn r l).srcAddr = r.ip.string ++ "%" ++ r.zone ∧
      (tcpStartWorkConn r l).srcPort = .ofNat r.port.toNat := by
    rw [tcpStartWorkConn, startWorkConn, hf]
    exact ⟨rfl, uint16_of_lt (by have := hr.2.2.2.1; omega) hr.2.2.2.2⟩
  have hs : r.ip.string ++ "%" ++ r.zone ≠ "" := fun he => by
    have := congrArg String.toList he
    simp [zoned_toList] at this
  obtain ⟨hdr, hh⟩ : ∃ hdr, proxyProtocolHeader v (tcpStartWorkConn r l) = some hdr := by
    rw [proxyProtocolHeader, if_pos ⟨hv, hm.1 ▸ hs, hm.2 ▸ ofNat_port_ne_zero hr.2.2.2.1 hr.2.2.2.2⟩]
    exact ⟨_, rfl⟩
  obtain ⟨-, -, -, rfl⟩ := proxyProtocolHeader_eq_some.mp hh
  exact ⟨_, hh, by simp [hm.1, hp], hm.2, by simp [hm.1, hp, IP.to16]⟩

theorem proxyProtocolHeader_tcpStartWorkConn_zoned_at :
    let r : TCPAddr := ⟨[0xfe, 0x80, 0, 0, 0, 0, 0, 0, 0, 0, 0, 0, 0, 0, 0, 1], 5, "eth0"⟩
    let l : TCPAddr := ⟨[0xfe, 0x80, 0, 0, 0, 0, 0, 0, 0, 0, 0, 0, 0, 0, 0, 2], 80, "eth0"⟩
    ("v2" ≠ "" ∧ ZonedEndpoint r 1) ∧
    ∃ hdr, proxyProtocolHeader "v2" (tcpStartWorkConn r l) = some hdr ∧ hdr.sourceAddress = [] ∧
      hdr.sourcePort = .ofNat r.port.toNat ∧ hdr.transportProtocol = .TCPv4 :=
  ⟨⟨by decide, by decide⟩, proxyProtocolHeader_tcpStartWorkConn_zoned (by decide) (by decide) _⟩

theorem parseIP_default_destination : parseIP "127.0.0.1" = v4InV6Prefix ++ [127, 0, 0, 1] := by
  decide

theorem httpStartWorkConn_destination (v : String) (rAddr : Option TCPAddr) :
    proxyProtocolHeader v (httpStartWorkConn none) = none ∧
    ∀ hdr, proxyProtocolHeader v (httpStartWorkConn rAddr) = some hdr →
      hdr.destinationAddress = v4InV6Prefix ++ [127, 0, 0, 1] ∧ hdr.destinationPort = 0 := by
  have hs : (httpStartWorkConn none).srcAddr = "" := by decide
  refine ⟨by rw [proxyProtocolHeader, if_neg fun h => h.2.1 hs], fun hdr h => ?_⟩
  obtain ⟨-, -, -, rfl⟩ := proxyProtocolHeader_eq_some.mp h
  have hd : (httpStartWorkConn rAddr).dstAddr = "" ∧ (httpStartWorkConn rAddr).dstPort = 0 :=
    ⟨rfl, rfl⟩
  simp only [hd, ↓reduceIte, parseIP_default_destination, and_self]

/-- For a request from an IPv4 or IPv6 address without a zone and with a port that is not 0,
with a PROXY-protocol version set, the client writes its local service a header that names the
user's address and port, in the 16-byte form under the TCPv6 family, and `127.0.0.1` port 0 as
the destination. -/
theorem proxyProtocolHeader_httpStartWorkConn {v : String} {a : TCPAddr} (hv : v ≠ "")
    (ha : Endpoint a 1) :
    proxyProtocolHeader v (httpStartWorkConn (some a)) = some {
        command := .PROXY, transportProtocol := .TCPv6,
        sourceAddress := a.ip.to16, sourcePort := .ofNat a.port.toNat,
        destinationAddress := v4InV6Prefix ++ [127, 0, 0, 1], destinationPort := 0,
        version := if v = "v1" then 1 else if v = "v2" then 2 else 0 } := by
  have ha0 : Endpoint a 0 := ⟨ha.1, ha.2.1, by have := ha.2.2.1; omega, ha.2.2.2⟩
  have hm : httpStartWorkConn (some a) =
      { srcAddr := a.ip.string, srcPort := .ofNat a.port.toNat, dstAddr := "", dstPort := 0 } := by
    rw [httpStartWorkConn, Option.map_some', Option.getD_some, startWorkConn,
      addrFields_of_endpoint ha0 le_rfl]
    dsimp only
    rw [uint16_of_lt ha0.2.2.1 ha0.2.2.2]
    rfl
  rw [hm]
  refine proxyProtocolHeader_eq_some.mpr
    ⟨hv, (IP.string_ne_empty_not_bracket ha.1).1, ofNat_port_ne_zero ha.2.2.1 ha.2.2.2, ?_⟩
  simp only [↓reduceIte, parseIP_default_destination, (parseIP_endpoint ha).1,
    (parseIP_endpoint ha).2]

theorem proxyProtocolHeader_httpStartWorkConn_at :
    let a : TCPAddr := ⟨[192, 168, 0, 2], 5, ""⟩
    ("v1" ≠ "" ∧ Endpoint a 1) ∧
    proxyProtocolHeader "v1" (httpStartWorkConn (some a)) = some {
        command := .PROXY, transportProtocol := .TCPv6,
        sourceAddress := a.ip.to16, sourcePort := .ofNat a.port.toNat,
        destinationAddress := v4InV6Prefix ++ [127, 0, 0, 1], destinationPort := 0,
        version := if "v1" = "v1" then 1 else if "v1" = "v2" then 2 else 0 } :=
  ⟨⟨by decide, by decide⟩, proxyProtocolHeader_httpStartWorkConn (by decide) (by decide)⟩

end Frp.Server

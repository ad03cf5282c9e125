import Frp.Go.Basic

/-! The hole-punching step of `XtcpProxy.InWorkConn`: from the server's `NatHoleResp` to the
detect message sent to the visitor. -/
namespace Frp.Client
open Frp.Go

structure NatHoleResp where
  sid : String := ""
  visitorAddr : String := ""
  error : String := ""
  deriving DecidableEq

/-- How the step ends: it logs the response's error and returns, panics, logs a bad port and
returns, or calls `sendDetectMsg(addr, port, laddr, []byte(sid))`. -/
inductive DetectOutcome where
  | respError
  | panicked (err : String)
  | badPort
  | sent (addr : String) (port : Int) (content : String)
  deriving DecidableEq

/-- `XtcpProxy.InWorkConn` from the check of `natHoleRespMsg.Error` to `sendDetectMsg`. When
`strings.Split(VisitorAddr, ":")` has at most one element the code logs an error and goes on,
and `array[1]` panics. -/
def inWorkConnDetect (resp : NatHoleResp) : DetectOutcome :=
  if resp.error ≠ "" then .respError
  else
    let array := split resp.visitorAddr ':'
    match array with
    | a0 :: a1 :: _ =>
      match parseInt a1 with
      | some port => .sent a0 port resp.sid
      | none => .badPort
    | _ => .panicked ("runtime error: index out of range [1] with length " ++
        toString array.length)

/-- Go's `net.SplitHostPort` (outside src/): the port follows the last `:`; a host in
brackets ends at the first `]`, which must stand just before that `:`; otherwise the host has
no `:`; and no stray bracket may remain. -/
def splitHostPort (hostport : String) : Option (String × String) :=
  let s := hostport.toList
  if ':' ∉ s then none
  else
    let i := s.length - 1 - s.reverse.indexOf ':'
    if s.head? = some '[' then
      let e := s.indexOf ']'
      if e = s.length ∨ e + 1 = s.length ∨ e + 1 ≠ i then none
      else if '[' ∈ s.drop 1 ∨ ']' ∈ s.drop (e + 1) then none
      else some (String.mk ((s.drop 1).take (e - 1)), String.mk (s.drop (i + 1)))
    else
      let host := s.take i
      if ':' ∈ host then none
      else if '[' ∈ s ∨ ']' ∈ s then none
      else some (String.mk host, String.mk (s.drop (i + 1)))

theorem inWorkConnDetect_of_colon {resp : NatHoleResp} (he : resp.error = "")
    (hc : ':' ∈ resp.visitorAddr.toList) :
    ∃ host portStr rest, split resp.visitorAddr ':' = host :: portStr :: rest ∧
      inWorkConnDetect resp =
        ((parseInt portStr).map fun port => .sent host port resp.sid).getD .badPort := by
  have hlen := length_split resp.visitorAddr ':'
  have hpos := List.count_pos_iff.mpr hc
  match hs : split resp.visitorAddr ':' with
  | [] | [_] => simp only [hs, List.length_nil, List.length_singleton] at hlen; omega
  | host :: portStr :: rest =>
    refine ⟨host, portStr, rest, rfl, ?_⟩
    simp only [inWorkConnDetect, he, ne_eq, not_true_eq_false, if_false, hs]
    cases parseInt portStr <;> rfl

theorem splitHostPort_host_port {host port : String}
    (hh : ∀ c ∈ host.toList, c ≠ ':' ∧ c ≠ '[' ∧ c ≠ ']')
    (hp : ∀ c ∈ port.toList, c ≠ ':' ∧ c ≠ '[' ∧ c ≠ ']') :
    split (host ++ ":" ++ port) ':' = [host, port] ∧
      splitHostPort (host ++ ":" ++ port) = some (host, port) := by
  obtain ⟨h⟩ := host
  obtain ⟨p⟩ := port
  simp only [String.toList] at hh hp
  have hs : (String.mk h ++ ":" ++ String.mk p).toList = h ++ ':' :: p := by
    simp [String.toList]
  have hnh : ':' ∉ h ∧ '[' ∉ h ∧ ']' ∉ h :=
    ⟨fun hc => (hh _ hc).1 rfl, fun hc => (hh _ hc).2.1 rfl, fun hc => (hh _ hc).2.2 rfl⟩
  have hnp : ':' ∉ p ∧ '[' ∉ p ∧ ']' ∉ p :=
    ⟨fun hc => (hp _ hc).1 rfl, fun hc => (hp _ hc).2.1 rfl, fun hc => (hp _ hc).2.2 rfl⟩
  constructor
  · have hj : join [String.mk h, String.mk p] ':' = String.mk h ++ ":" ++ String.mk p := by
      apply String.ext; simp [join, String.toList, List.intercalate]
    rw [← hj, split_join (by simpa [String.toList] using ⟨hnh.1, hnp.1⟩) (by simp)]
  · simp only [splitHostPort, hs]
    have hidx : (h ++ ':' :: p).reverse.indexOf ':' = p.length := by
      rw [List.reverse_append, List.reverse_cons, List.append_assoc,
        List.indexOf_append_of_not_mem (by simpa using hnp.1)]
      simp [List.indexOf_cons_self]
    have hhead : (h ++ ':' :: p).head? ≠ some '[' := by
      cases h with
      | nil => simp
      | cons c _ => simpa using (hh c (by simp)).2.1
    have hlen : (h ++ ':' :: p).length - 1 - p.length = h.length := by simp
    rw [if_neg (by simp), hidx, hlen, if_neg hhead, List.take_left]
    simp [hnh, hnp]

/-- What the step does with every `VisitorAddr` holding a `:`: it splits at the colons and sends
to the first field at the second's value, or returns without sending; for `host:port` with one
`:` and no brackets that is the pair `net.SplitHostPort` extracts. -/
theorem inWorkConnDetect_splits_first_colon {resp : NatHoleResp} (he : resp.error = "")
    (hc : ':' ∈ resp.visitorAddr.toList) :
    (∃ host portStr rest, split resp.visitorAddr ':' = host :: portStr :: rest ∧
      inWorkConnDetect resp =
        ((parseInt portStr).map fun port => .sent host port resp.sid).getD .badPort) ∧
    ∀ host port : String, (∀ c ∈ host.toList, c ≠ ':' ∧ c ≠ '[' ∧ c ≠ ']') →
      (∀ c ∈ port.toList, c ≠ ':' ∧ c ≠ '[' ∧ c ≠ ']') →
        resp.visitorAddr = host ++ ":" ++ port →
        splitHostPort resp.visitorAddr = some (host, port) ∧
          inWorkConnDetect resp =
            ((parseInt port).map fun n => .sent host n resp.sid).getD .badPort := by
  obtain ⟨a, b, rest, hs, hd⟩ := inWorkConnDetect_of_colon he hc
  refine ⟨⟨a, b, rest, hs, hd⟩, fun host port hh hp hv => ?_⟩
  obtain ⟨hsplit, hhp⟩ := splitHostPort_host_port hh hp
  rw [hv, hsplit] at hs
  cases hs
  exact ⟨hv ▸ hhp, hd⟩

theorem inWorkConnDetect_splits_first_colon_at :
    let resp : NatHoleResp := { sid := "s", visitorAddr := "1.2.3.4:5000" }
    (resp.error = "" ∧ ':' ∈ resp.visitorAddr.toList) ∧
    (∃ host portStr rest, split resp.visitorAddr ':' = host :: portStr :: rest ∧
      inWorkConnDetect resp =
        ((parseInt portStr).map fun port => .sent host port resp.sid).getD .badPort) ∧
    ∀ host port : String, (∀ c ∈ host.toList, c ≠ ':' ∧ c ≠ '[' ∧ c ≠ ']') →
      (∀ c ∈ port.toList, c ≠ ':' ∧ c ≠ '[' ∧ c ≠ ']') →
        resp.visitorAddr = host ++ ":" ++ port →
        splitHostPort resp.visitorAddr = some (host, port) ∧
          inWorkConnDetect resp =
            ((parseInt port).map fun n => .sent host n resp.sid).getD .badPort :=
  ⟨⟨rfl, by decide⟩, inWorkConnDetect_splits_first_colon rfl (by decide)⟩

/-- `1.2.3.4:80:90` is detected at `1.2.3.4:80` though `net.SplitHostPort` rejects it,
`[::1]:80` is not detected though it splits as `(::1, 80)`, and `1.2.3.4` panics on `array[1]`. -/
theorem inWorkConnDetect_misreads_addrs :
    inWorkConnDetect { sid := "s", visitorAddr := "1.2.3.4:80:90" } = .sent "1.2.3.4" 80 "s" ∧
      splitHostPort "1.2.3.4:80:90" = none ∧
    inWorkConnDetect { sid := "s", visitorAddr := "[::1]:80" } = .badPort ∧
      splitHostPort "[::1]:80" = some ("::1", "80") ∧
    inWorkConnDetect { sid := "s", visitorAddr := "1.2.3.4" } =
      .panicked "runtime error: index out of range [1] with length 1" := by
  decide

end Frp.Client

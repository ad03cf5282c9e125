import Frp.Go.Addr
import Frp.Client.Xtcp

/-! frpc's command line (`cmd/frpc/sub`): `parseClientCommonCfgFromCmd`, and the resolver
`startService` installs for `dns_server`. -/
namespace Frp.Client
open Frp.Go

structure CmdFlags where
  serverAddr : String
  user : String
  protocol : String
  token : String
  logLevel : String
  logFile : String
  logMaxDays : Int
  deriving DecidableEq

structure ClientCommonConf where
  serverAddr : String
  serverPort : Int
  user : String
  protocol : String
  token : String
  logLevel : String
  logFile : String
  logWay : String
  logMaxDays : Int
  deriving DecidableEq

/-- `parseClientCommonCfgFromCmd` on the global configuration `cfg`: the configuration it leaves
and its error. `ServerAddr` and `ServerPort` are written before `Atoi`'s error is looked at. -/
def parseClientCommonCfgFromCmd (f : CmdFlags) (cfg : ClientCommonConf) :
    ClientCommonConf × Option String :=
  match split f.serverAddr ':' with
  | s0 :: s1 :: _ =>
    let cfg := if s0 ≠ "" then { cfg with serverAddr := s0 } else cfg
    let (port, err) := atoi s1
    let cfg := { cfg with serverPort := port }
    if err.isSome then (cfg, some "invalid server_addr")
    else
      ({ cfg with
          user := f.user, protocol := f.protocol, token := f.token, logLevel := f.logLevel,
          logFile := f.logFile, logMaxDays := f.logMaxDays,
          logWay := if f.logFile = "console" then "console" else "file" }, none)
  | _ => (cfg, some "invalid server_addr")

/-- The address the resolver `startService` installs dials for the setting `dns_server`:
`:53` is added unless it holds a `:`. -/
def dnsDialAddr (dnsServer : String) : String :=
  if contains dnsServer ":" then dnsServer else dnsServer ++ ":53"

/-- The resolver block of `startService`: with `dns_server` set the new resolver dials
`dnsDialAddr`; with it empty Go's default resolver is kept (`none`). -/
def startServiceResolver (dnsServer : String) : Option String :=
  if dnsServer ≠ "" then some (dnsDialAddr dnsServer) else none

theorem startServiceResolver_of_ne {dnsServer : String} (h : dnsServer ≠ "") :
    startServiceResolver dnsServer = some (dnsDialAddr dnsServer) := if_pos h

example : startServiceResolver "" = none := rfl

theorem not_mem_of_mem_split {s x : String} {sep : Char} (h : x ∈ split s sep) :
    sep ∉ x.toList := by
  obtain ⟨l, hl, rfl⟩ := List.mem_map.mp h
  suffices ∀ xs : List Char, ∀ l ∈ xs.splitOn sep, sep ∉ l from this _ l hl
  intro xs
  induction xs with
  | nil => simp [List.splitOn_nil]
  | cons c xs ih =>
    intro l hl
    simp only [List.splitOn, List.splitOnP_cons] at hl ih
    split at hl
    · rcases List.mem_cons.mp hl with rfl | hl
      · simp
      · exact ih l hl
    · next hc =>
      obtain ⟨y, ys, hy⟩ := List.exists_cons_of_ne_nil (List.splitOnP_ne_nil (· == sep) xs)
      rw [hy] at hl ih
      rcases List.mem_cons.mp hl with rfl | hl
      · simp only [List.mem_cons, not_or]
        exact ⟨fun he => hc (by simp [he]), ih y (List.mem_cons_self _ _)⟩
      · exact ih l (List.mem_cons_of_mem _ hl)

theorem exists_first_mem {a : Char} : ∀ {r : List Char}, a ∈ r →
    ∃ p q, r = p ++ a :: q ∧ a ∉ p ∧ r.indexOf a = p.length
  | c :: r, h => by
    by_cases hc : c = a
    · subst hc; exact ⟨[], r, rfl, by simp, List.indexOf_cons_self _ _⟩
    · obtain ⟨p, q, rfl, hp, hi⟩ := exists_first_mem ((List.mem_cons.mp h).resolve_left (Ne.symm hc))
      refine ⟨c :: p, q, rfl, by simp [hp, Ne.symm hc], ?_⟩
      rw [List.indexOf_cons_ne _ hc, hi, List.length_cons]

theorem splitHostPort_of_colons {s : String} (h2 : 2 ≤ s.toList.count ':')
    (hb : s.toList.head? ≠ some '[') : splitHostPort s = none := by
  have hmem : ':' ∈ s.toList := List.count_pos_iff.mp (by omega)
  obtain ⟨p, q, hr, hp, hi⟩ := exists_first_mem (List.mem_reverse.mpr hmem)
  have hs : s.toList = q.reverse ++ ':' :: p.reverse := by
    rw [← List.reverse_reverse s.toList, hr]; simp
  have hq : ':' ∈ q.reverse := by
    have := congrArg (List.count ':') hs
    rw [List.count_append, List.count_cons_self,
      List.count_eq_zero_of_not_mem (l := p.reverse) (by simpa using hp)] at this
    exact List.count_pos_iff.mp (by omega)
  have htake : s.toList.take (s.toList.length - 1 - s.toList.reverse.indexOf ':') = q.reverse := by
    rw [hi, hs, List.take_left']; simp
  simp only [splitHostPort, hmem, not_true_eq_false, ↓reduceIte, hb, htake, hq]

theorem splitHostPort_sprintfAddr {host : String} (port : Int) (hc : ':' ∈ host.toList)
    (hb : host.toList.head? ≠ some '[') : splitHostPort (sprintfAddr host port) = none := by
  have hs : (sprintfAddr host port).toList = host.toList ++ ':' :: (toString port).toList := by
    simp [sprintfAddr, String.toList]
  apply splitHostPort_of_colons
  · rw [hs, List.count_append, List.count_cons_self]
    have := List.count_pos_iff.mpr hc
    omega
  · rwa [hs, List.head?_append_of_ne_nil _ (List.ne_nil_of_mem hc)]

theorem split_host_port {host port : String} (hh : ':' ∉ host.toList) (hp : ':' ∉ port.toList) :
    split (host ++ ":" ++ port) ':' = [host, port] := by
  have hj : join [host, port] ':' = host ++ ":" ++ port := by
    apply String.ext; simp [join, String.toList, List.intercalate]
  rw [← hj, split_join (fun x hx => by
    simp only [List.mem_cons, List.mem_singleton, List.not_mem_nil, or_false] at hx
    rcases hx with rfl | rfl <;> assumption) (by simp)]

/-- For every host without a colon and every port of `int64` that is not negative, the flag
`server_addr = host:port` sets the server's address (kept when the host is empty) and port, and
every logging flag. -/
theorem parseClientCommonCfgFromCmd_host_port (f : CmdFlags) (cfg : ClientCommonConf)
    {host : String} {port : Nat} (hh : ':' ∉ host.toList) (hp : port < 2 ^ 63)
    (ha : f.serverAddr = host ++ ":" ++ uitoa port) :
    parseClientCommonCfgFromCmd f cfg = ({
      serverAddr := if host = "" then cfg.serverAddr else host, serverPort := port,
      user := f.user, protocol := f.protocol, token := f.token, logLevel := f.logLevel,
      logFile := f.logFile, logMaxDays := f.logMaxDays,
      logWay := if f.logFile = "console" then "console" else "file" }, none) := by
  have hd : ':' ∉ (uitoa port).toList := fun hc => (not_sep_of_mem_toDigits hc).2.1 rfl
  unfold parseClientCommonCfgFromCmd
  rw [ha, split_host_port hh hd]
  dsimp only
  rw [atoi_uitoa hp]
  by_cases h0 : host = "" <;> simp [h0]

theorem parseClientCommonCfgFromCmd_host_port_at :
    let f : CmdFlags := ⟨"frps:7000", "u", "tcp", "t", "info", "console", 3⟩
    let cfg : ClientCommonConf := ⟨"0.0.0.0", 7000, "", "tcp", "", "info", "console", "console", 3⟩
    (':' ∉ "frps".toList ∧ 7000 < 2 ^ 63 ∧ f.serverAddr = "frps" ++ ":" ++ uitoa 7000) ∧
    parseClientCommonCfgFromCmd f cfg = ({
      serverAddr := if "frps" = "" then cfg.serverAddr else "frps", serverPort := (7000 : Nat),
      user := f.user, protocol := f.protocol, token := f.token, logLevel := f.logLevel,
      logFile := f.logFile, logMaxDays := f.logMaxDays,
      logWay := if f.logFile = "console" then "console" else "file" }, none) :=
  ⟨⟨by decide, by decide, by decide⟩,
    parseClientCommonCfgFromCmd_host_port _ _ (by decide) (by decide) (by decide)⟩

/-- Whatever `server_addr` holds, `parseClientCommonCfgFromCmd` leaves the server's address as
it was or sets one with no colon, whether it fails or not: no IPv6 address can be set from the
command line. -/
theorem parseClientCommonCfgFromCmd_serverAddr (f : CmdFlags) (cfg : ClientCommonConf) :
    (parseClientCommonCfgFromCmd f cfg).1.serverAddr = cfg.serverAddr ∨
      ':' ∉ (parseClientCommonCfgFromCmd f cfg).1.serverAddr.toList := by
  unfold parseClientCommonCfgFromCmd
  split
  · next s0 s1 rest hs =>
    have h0 : ':' ∉ s0.toList := not_mem_of_mem_split (hs ▸ List.mem_cons_self _ _)
    by_cases he : s0 = ""
    · simp only [he, ne_eq, not_true_eq_false, ↓reduceIte]; split <;> exact .inl rfl
    · simp only [he, ne_eq, not_false_eq_true, ↓reduceIte]; split <;> exact .inr h0
  · exact .inl rfl

/-- The resolver `startService` installs dials `dns_server` at port 53 when it is a name or an
IPv4 address, with no colon and no bracket; but for every `dns_server` with two colons or more
that is not bracketed, IPv6 addresses among them, the address it dials is the setting itself,
which `SplitHostPort` rejects, so every lookup fails. -/
theorem dnsDialAddr_splitHostPort :
    (∀ s : String, (∀ c ∈ s.toList, c ≠ ':' ∧ c ≠ '[' ∧ c ≠ ']') →
      splitHostPort (dnsDialAddr s) = some (s, "53")) ∧
    (∀ s : String, 2 ≤ s.toList.count ':' → s.toList.head? ≠ some '[' →
      dnsDialAddr s = s ∧ splitHostPort (dnsDialAddr s) = none) := by
  refine ⟨fun s hs => ?_, fun s h2 hb => ?_⟩
  · have hc : contains s ":" = false := by
      simp only [contains, decide_eq_false_iff_not]
      rintro ⟨a, b, hab⟩
      exact (hs ':' (by rw [← hab]; simp)).1 rfl
    rw [dnsDialAddr, hc, if_neg Bool.false_ne_true, show ":53" = ":" ++ "53" from rfl,
      ← String.append_assoc]
    exact (@splitHostPort_host_port s "53" hs (by decide)).2
  · obtain ⟨a, b, hab⟩ := List.append_of_mem (List.count_pos_iff.mp (by omega : 0 < s.toList.count ':'))
    have hc : contains s ":" = true := contains_of_infix ⟨a, b, by rw [hab]; simp [String.toList]⟩
    have hd : dnsDialAddr s = s := by rw [dnsDialAddr, if_pos hc]
    rw [hd]
    exact ⟨rfl, splitHostPort_of_colons h2 hb⟩

theorem dnsDialAddr_splitHostPort_at :
    splitHostPort (dnsDialAddr "8.8.8.8") = some ("8.8.8.8", "53") ∧
      dnsDialAddr "2001:4860::8888" = "2001:4860::8888" ∧
      splitHostPort (dnsDialAddr "2001:4860::8888") = none :=
  ⟨dnsDialAddr_splitHostPort.1 _ (by decide), dnsDialAddr_splitHostPort.2 _ (by decide) (by decide)⟩

end Frp.Client

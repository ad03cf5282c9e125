import Frp.Config.Ini

/-! `Compare` of the six proxy configurations, with which the client's reload tells a changed
proxy from an unchanged one. -/
namespace Frp.Config
open Frp.Go

def LocalSvrConf.compare (cfg cmp : LocalSvrConf) : Bool :=
  if cfg.localIp ≠ cmp.localIp ∨ cfg.localPort ≠ cmp.localPort then false
  else if cfg.plugin ≠ cmp.plugin ∨
      cfg.pluginParams.entries.length ≠ cmp.pluginParams.entries.length then false
  else cfg.pluginParams.entriesIn cmp.pluginParams

def HealthCheckConf.compare (cfg cmp : HealthCheckConf) : Bool :=
  if cfg.healthCheckType ≠ cmp.healthCheckType ∨
      cfg.healthCheckTimeoutS ≠ cmp.healthCheckTimeoutS ∨
      cfg.healthCheckMaxFailed ≠ cmp.healthCheckMaxFailed ∨
      cfg.healthCheckIntervalS ≠ cmp.healthCheckIntervalS ∨
      cfg.healthCheckUrl ≠ cmp.healthCheckUrl then false
  else true

def BaseProxyConf.compare (cfg cmp : BaseProxyConf) : Bool :=
  if cfg.proxyName ≠ cmp.proxyName ∨ cfg.proxyType ≠ cmp.proxyType ∨
      cfg.useEncryption ≠ cmp.useEncryption ∨ cfg.useCompression ≠ cmp.useCompression ∨
      cfg.group ≠ cmp.group ∨ cfg.groupKey ≠ cmp.groupKey ∨
      cfg.proxyProtocolVersion ≠ cmp.proxyProtocolVersion then false
  else if !cfg.toLocalSvrConf.compare cmp.toLocalSvrConf then false
  else if !cfg.toHealthCheckConf.compare cmp.toHealthCheckConf then false
  else true

def BindInfoConf.compare (cfg cmp : BindInfoConf) : Bool :=
  if cfg.remotePort ≠ cmp.remotePort then false else true

def DomainConf.compare (cfg cmp : DomainConf) : Bool :=
  if join cfg.customDomains ' ' ≠ join cmp.customDomains ' ' ∨
      cfg.subDomain ≠ cmp.subDomain then false
  else true

/-- The body `Compare` of TCP and UDP share once the type assertion has succeeded. -/
def compareBindProxy (base base2 : BaseProxyConf) (bind bind2 : BindInfoConf) : Bool :=
  if !base.compare base2 || !bind.compare bind2 then false else true

def TcpProxyConf.compare (cfg : TcpProxyConf) : ProxyConf → Bool
  | .tcp cmpConf => compareBindProxy cfg.toBaseProxyConf cmpConf.toBaseProxyConf
      cfg.toBindInfoConf cmpConf.toBindInfoConf
  | _ => false

def UdpProxyConf.compare (cfg : UdpProxyConf) : ProxyConf → Bool
  | .udp cmpConf => compareBindProxy cfg.toBaseProxyConf cmpConf.toBaseProxyConf
      cfg.toBindInfoConf cmpConf.toBindInfoConf
  | _ => false

def HttpProxyConf.compare (cfg : HttpProxyConf) : ProxyConf → Bool
  | .http cmpConf =>
    if !cfg.toBaseProxyConf.compare cmpConf.toBaseProxyConf ||
        !cfg.toDomainConf.compare cmpConf.toDomainConf ||
        join cfg.locations ' ' ≠ join cmpConf.locations ' ' ||
        cfg.hostHeaderRewrite ≠ cmpConf.hostHeaderRewrite ||
        cfg.httpUser ≠ cmpConf.httpUser || cfg.httpPwd ≠ cmpConf.httpPwd ||
        cfg.headers.entries.length ≠ cmpConf.headers.entries.length then false
    else cfg.headers.entriesIn cmpConf.headers
  | _ => false

def HttpsProxyConf.compare (cfg : HttpsProxyConf) : ProxyConf → Bool
  | .https cmpConf =>
    if !cfg.toBaseProxyConf.compare cmpConf.toBaseProxyConf ||
        !cfg.toDomainConf.compare cmpConf.toDomainConf then false
    else true
  | _ => false

def StcpProxyConf.compare (cfg : StcpProxyConf) : ProxyConf → Bool
  | .stcp cmpConf =>
    if !cfg.toBaseProxyConf.compare cmpConf.toBaseProxyConf ||
        cfg.role ≠ cmpConf.role || cfg.sk ≠ cmpConf.sk then false
    else true
  | _ => false

/-- Compares `LocalSvrConf` a second time, after `BaseProxyConf.compare` has. -/
def XtcpProxyConf.compare (cfg : XtcpProxyConf) : ProxyConf → Bool
  | .xtcp cmpConf =>
    if !cfg.toBaseProxyConf.compare cmpConf.toBaseProxyConf ||
        !cfg.toLocalSvrConf.compare cmpConf.toLocalSvrConf ||
        cfg.role ≠ cmpConf.role || cfg.sk ≠ cmpConf.sk then false
    else true
  | _ => false

def ProxyConf.compare : ProxyConf → ProxyConf → Bool
  | .tcp c => c.compare
  | .udp c => c.compare
  | .http c => c.compare
  | .https c => c.compare
  | .stcp c => c.compare
  | .xtcp c => c.compare

/-! "The same configuration" field by field, and how `Compare` relates to it. -/

def BaseProxyConf.erase (c : BaseProxyConf) : BaseProxyConf :=
  { c with healthCheckAddr := "", pluginParams := ∅ }

def ProxyConf.erase : ProxyConf → ProxyConf
  | .tcp c => .tcp { c with toBaseProxyConf := c.toBaseProxyConf.erase }
  | .udp c => .udp { c with toBaseProxyConf := c.toBaseProxyConf.erase }
  | .http c => .http { c with toBaseProxyConf := c.toBaseProxyConf.erase, headers := ∅ }
  | .https c => .https { c with toBaseProxyConf := c.toBaseProxyConf.erase }
  | .stcp c => .stcp { c with toBaseProxyConf := c.toBaseProxyConf.erase }
  | .xtcp c => .xtcp { c with toBaseProxyConf := c.toBaseProxyConf.erase }

def ProxyConf.headers : ProxyConf → GoMap String
  | .http c => c.headers
  | _ => ∅

/-- The same type and every field equal but `HealthCheckAddr`, maps equal as maps. -/
def ProxyConf.SameConf (a b : ProxyConf) : Prop :=
  a.erase = b.erase ∧
    a.getBaseInfo.pluginParams.entries.Perm b.getBaseInfo.pluginParams.entries ∧
    a.headers.entries.Perm b.headers.entries

instance (a b : ProxyConf) : Decidable (a.SameConf b) := inferInstanceAs (Decidable (_ ∧ _))

/-- `CustomDomains` and `Locations` replaced by their `strings.Join(list, " ")`. -/
def ProxyConf.joinLists : ProxyConf → ProxyConf
  | .http c =>
    .http { c with
      customDomains := [join c.customDomains ' '], locations := [join c.locations ' '] }
  | .https c => .https { c with customDomains := [join c.customDomains ' '] }
  | c => c

@[simp] theorem if_false_eq_true {c : Prop} [Decidable c] {b : Bool} :
    (if c then false else b) = true ↔ ¬c ∧ b = true := by
  split_ifs <;> simp_all

theorem LocalSvrConf.compare_iff {cfg cmp : LocalSvrConf} :
    cfg.compare cmp = true ↔
      { cfg with pluginParams := ∅ } = { cmp with pluginParams := ∅ } ∧
      cfg.pluginParams.entries.Perm cmp.pluginParams.entries := by
  rw [← GoMap.entriesIn_iff_perm]
  cases cfg; cases cmp
  simp only [compare, LocalSvrConf.mk.injEq, if_false_eq_true, not_or, not_not]
  tauto

theorem HealthCheckConf.compare_iff {cfg cmp : HealthCheckConf} :
    cfg.compare cmp = true ↔
      { cfg with healthCheckAddr := "" } = { cmp with healthCheckAddr := "" } := by
  cases cfg; cases cmp
  simp only [compare, HealthCheckConf.mk.injEq, if_false_eq_true, not_or, not_not]
  tauto

theorem BaseProxyConf.compare_iff {cfg cmp : BaseProxyConf} :
    cfg.compare cmp = true ↔ cfg.erase = cmp.erase ∧
      cfg.pluginParams.entries.Perm cmp.pluginParams.entries := by
  obtain ⟨l, h, _⟩ := cfg
  obtain ⟨l', h', _⟩ := cmp
  simp only [compare, erase, BaseProxyConf.mk.injEq, LocalSvrConf.compare_iff,
    HealthCheckConf.compare_iff, if_false_eq_true, not_or, not_not, Bool.not_eq_true',
    Bool.not_eq_false]
  tauto

theorem BindInfoConf.compare_iff {cfg cmp : BindInfoConf} :
    cfg.compare cmp = true ↔ cfg = cmp := by
  cases cfg; cases cmp; simp [compare]

theorem DomainConf.compare_iff {cfg cmp : DomainConf} :
    cfg.compare cmp = true ↔ join cfg.customDomains ' ' = join cmp.customDomains ' ' ∧
      cfg.subDomain = cmp.subDomain := by
  simp only [compare, if_false_eq_true, not_or, not_not, and_true]

theorem BaseProxyConf.compare_localSvrConf {cfg cmp : BaseProxyConf}
    (h : cfg.compare cmp = true) :
    cfg.toLocalSvrConf.compare cmp.toLocalSvrConf = true := by
  obtain ⟨⟨⟩, _⟩ := cfg
  obtain ⟨⟨⟩, _⟩ := cmp
  simp_all [compare_iff, LocalSvrConf.compare_iff, erase]

theorem ProxyConf.compare_iff {a b : ProxyConf} :
    a.compare b = true ↔ a.joinLists.SameConf b.joinLists := by
  cases a <;> cases b <;>
    simp only [ProxyConf.compare, TcpProxyConf.compare, UdpProxyConf.compare,
      HttpProxyConf.compare, HttpsProxyConf.compare, StcpProxyConf.compare, XtcpProxyConf.compare,
      SameConf, joinLists, erase, headers, getBaseInfo, reduceCtorEq, false_and,
      Bool.false_eq_true, ProxyConf.tcp.injEq, ProxyConf.udp.injEq, ProxyConf.http.injEq,
      ProxyConf.https.injEq, ProxyConf.stcp.injEq, ProxyConf.xtcp.injEq]
  all_goals rename_i c d
  case xtcp.xtcp =>
    have := @BaseProxyConf.compare_localSvrConf c.toBaseProxyConf d.toBaseProxyConf
    simp only [XtcpProxyConf.mk.injEq, if_false_eq_true, Bool.or_eq_true, Bool.not_eq_true',
      decide_eq_true_eq, not_or, not_not, Bool.not_eq_false, BaseProxyConf.compare_iff,
      List.Perm.refl, and_true] at this ⊢
    tauto
  all_goals
    simp only [compareBindProxy, TcpProxyConf.mk.injEq, UdpProxyConf.mk.injEq,
      HttpProxyConf.mk.injEq, HttpsProxyConf.mk.injEq, StcpProxyConf.mk.injEq,
      DomainConf.mk.injEq, List.cons.injEq, if_false_eq_true, Bool.or_eq_true, Bool.not_eq_true',
      decide_eq_true_eq, not_or, not_not, Bool.not_eq_false, BaseProxyConf.compare_iff,
      BindInfoConf.compare_iff, DomainConf.compare_iff, List.Perm.refl, and_true,
      ← GoMap.entriesIn_iff_perm]
    tauto

theorem ProxyConf.SameConf.refl (a : ProxyConf) : a.SameConf a :=
  ⟨rfl, .refl _, .refl _⟩

theorem ProxyConf.SameConf.symm {a b : ProxyConf} (h : a.SameConf b) : b.SameConf a :=
  ⟨h.1.symm, h.2.1.symm, h.2.2.symm⟩

theorem ProxyConf.SameConf.trans {a b c : ProxyConf} (h : a.SameConf b) (h2 : b.SameConf c) :
    a.SameConf c :=
  ⟨h.1.trans h2.1, h.2.1.trans h2.2.1, h.2.2.trans h2.2.2⟩

/-- `Compare` is an equivalence: reflexive, symmetric and transitive. -/
theorem ProxyConf.compare_equivalence : Equivalence fun a b : ProxyConf => a.compare b = true where
  refl _ := compare_iff.mpr (.refl _)
  symm h := compare_iff.mpr (compare_iff.mp h).symm
  trans h h2 := compare_iff.mpr ((compare_iff.mp h).trans (compare_iff.mp h2))

theorem ProxyConf.erase_joinLists (a : ProxyConf) : a.joinLists.erase = a.erase.joinLists := by
  cases a <;> rfl

@[simp] theorem ProxyConf.getBaseInfo_joinLists (a : ProxyConf) :
    a.joinLists.getBaseInfo = a.getBaseInfo := by
  cases a <;> rfl

@[simp] theorem ProxyConf.headers_joinLists (a : ProxyConf) : a.joinLists.headers = a.headers := by
  cases a <;> rfl

theorem ProxyConf.sameConf_joinLists {a b : ProxyConf} (h : a.SameConf b) :
    a.joinLists.SameConf b.joinLists := by
  refine ⟨?_, ?_, ?_⟩
  · rw [erase_joinLists, erase_joinLists, h.1]
  · simpa only [getBaseInfo_joinLists] using h.2.1
  · simpa only [headers_joinLists] using h.2.2

theorem ProxyConf.compare_of_sameConf {a b : ProxyConf} (h : a.SameConf b) : a.compare b = true :=
  compare_iff.mpr (sameConf_joinLists h)

/-- `strings.Join(list, " ")` determines the list: no element holds a space, and the list is not
`[""]`, which joins as `[]` does. -/
def joinSafe (l : List String) : Prop := l ≠ [""] ∧ ∀ s ∈ l, ' ' ∉ s.toList

def ProxyConf.JoinSafe : ProxyConf → Prop
  | .http c => joinSafe c.customDomains ∧ joinSafe c.locations
  | .https c => joinSafe c.customDomains
  | _ => True

theorem joinSafe_inj {xs ys : List String} (hx : joinSafe xs) (hy : joinSafe ys)
    (h : join xs ' ' = join ys ' ') : xs = ys :=
  join_inj hx.1 hx.2 hy.1 hy.2 h

theorem ProxyConf.JoinSafe.erase {a : ProxyConf} (h : a.JoinSafe) : a.erase.JoinSafe := by
  cases a <;> exact h

theorem ProxyConf.joinLists_inj {a b : ProxyConf} (ha : a.JoinSafe) (hb : b.JoinSafe)
    (h : a.joinLists = b.joinLists) : a = b := by
  cases a <;> cases b <;> simp only [joinLists, reduceCtorEq] at h <;> try exact h
  case http.http c d =>
    obtain ⟨_, ⟨cd, _⟩, loc, _⟩ := c
    obtain ⟨_, ⟨cd2, _⟩, loc2, _⟩ := d
    simp only [http.injEq, HttpProxyConf.mk.injEq, DomainConf.mk.injEq, List.cons.injEq,
      and_true] at h
    obtain ⟨rfl, ⟨hcd, rfl⟩, hloc, rfl, rfl, rfl, rfl⟩ := h
    rw [show cd = cd2 from joinSafe_inj ha.1 hb.1 hcd,
      show loc = loc2 from joinSafe_inj ha.2 hb.2 hloc]
  case https.https c d =>
    obtain ⟨_, ⟨cd, _⟩⟩ := c
    obtain ⟨_, ⟨cd2, _⟩⟩ := d
    simp only [https.injEq, HttpsProxyConf.mk.injEq, DomainConf.mk.injEq, List.cons.injEq,
      and_true] at h
    obtain ⟨rfl, hcd, rfl⟩ := h
    rw [show cd = cd2 from joinSafe_inj ha hb hcd]

theorem ProxyConf.sameConf_of_compare {a b : ProxyConf} (ha : a.JoinSafe) (hb : b.JoinSafe)
    (h : a.compare b = true) : a.SameConf b := by
  obtain ⟨he, hp, hh⟩ := compare_iff.mp h
  refine ⟨joinLists_inj ha.erase hb.erase ?_, ?_, ?_⟩
  · rw [← erase_joinLists, ← erase_joinLists, he]
  · simpa only [getBaseInfo_joinLists] using hp
  · simpa only [headers_joinLists] using hh

/-! The reload that `Compare` serves. -/

def changedNames (m other : GoMap ProxyConf) (same : ProxyConf → ProxyConf → Bool) :
    List String :=
  m.entries.filterMap fun e =>
    match other.lookup e.1 with
    | some cfg => if same e.2 cfg then none else some e.1
    | none => some e.1

/-- Modelled from the spec ("diff new vs. current proxy configs and send `NewProxy`/`CloseProxy`
as appropriate — a proxy with the same name but changed attributes is closed then re-added";
`ProxyManager.Reload` is outside src/): the names to close and the names to add. -/
def reloadDiff (current new : GoMap ProxyConf) : List String × List String :=
  (changedNames current new fun old cfg => old.compare cfg,
    changedNames new current fun cfg old => old.compare cfg)

theorem mem_changedNames {m other : GoMap ProxyConf} {same : ProxyConf → ProxyConf → Bool}
    {k : String} {a b : ProxyConf} (ha : m.lookup k = some a) (hb : other.lookup k = some b) :
    k ∈ changedNames m other same ↔ same a b = false := by
  simp only [changedNames, List.mem_filterMap]
  constructor
  · rintro ⟨⟨k', v⟩, he, hf⟩
    cases hl : other.lookup k' with
    | none =>
      simp only [hl, Option.some.injEq] at hf
      subst hf
      simp [hb] at hl
    | some cfg =>
      simp only [hl] at hf
      split at hf
      · cases hf
      · cases hf
        rw [AList.mem_lookup_iff.mpr he, Option.some.injEq] at ha
        rw [hl, Option.some.injEq] at hb
        subst ha hb
        simpa using ‹¬same v cfg = true›
  · intro hf
    refine ⟨⟨k, a⟩, AList.mem_lookup_iff.mp ha, ?_⟩
    simp [hb, hf]

theorem reloadDiff_changed_iff {current new : GoMap ProxyConf} {k : String} {a b : ProxyConf}
    (ha : current.lookup k = some a) (hb : new.lookup k = some b) :
    (k ∈ (reloadDiff current new).1 ↔ a.compare b = false) ∧
      (k ∈ (reloadDiff current new).2 ↔ a.compare b = false) :=
  ⟨mem_changedNames ha hb, @mem_changedNames _ _ (fun cfg old => old.compare cfg) _ _ _ hb ha⟩

/-- Changing `custom_domains = a.com b.com` to `custom_domains = a.com,b.com` changes the
configuration, but `Compare` joins both lists to `"a.com b.com"` and the reload keeps the proxy. -/
theorem reload_keeps_changed_domains :
    let spaced : ProxyConf := .http {
      proxyName := "web", proxyType := "http", localIp := "127.0.0.1", localPort := 80,
      customDomains := ["a.com b.com"], locations := [""] }
    let listed : ProxyConf := .http {
      proxyName := "web", proxyType := "http", localIp := "127.0.0.1", localPort := 80,
      customDomains := ["a.com", "b.com"], locations := [""] }
    (newProxyConfFromIni "" "web" (webSection "a.com b.com")).toOption = some spaced ∧
    (newProxyConfFromIni "" "web" (webSection "a.com,b.com")).toOption = some listed ∧
    spaced.compare listed = true ∧ ¬spaced.SameConf listed ∧
    reloadDiff ((∅ : GoMap ProxyConf).insert "web" spaced)
      ((∅ : GoMap ProxyConf).insert "web" listed) = ([], []) := by
  intro spaced listed
  exact ⟨rfl, rfl, by decide, fun h => by simpa [ProxyConf.erase] using h.1, by decide⟩

end Frp.Config

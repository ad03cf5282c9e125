import Frp.Config.Ini
import Mathlib.Data.Finmap
import Mathlib.Data.List.Perm.Basic

/-! `ParseRangeSection` and `LoadAllConfFromIni`, from the map of sections `ini.Load` returns, whose
entries a `GoMap` lists in the order a `range` visits them. -/
namespace Frp.Config
open Frp.Go

section Load
variable {V : Type} (parseRangeNumbers : String → Except String (List Int))
  (newVisitorConfFromIni : String → String → Section → Except String V)

/-- `copySection`: a fresh map with the same entries (the model's maps are values). -/
def copySection (sec : Section) : Section := sec

/-- `ParseRangeSection`: the sections `name_i` with `local_port` and `remote_port` set to the
`i`-th numbers of the two ranges, in the order its result's `range` visits them. -/
def parseRangeSection (name : String) (sec : Section) :
    Except String (List (String × Section)) := do
  let localPorts ← match parseRangeNumbers (sec.get "local_port") with
    | .ok ps => pure ps
    | .error e =>
      throw ("Parse conf error: range section [" ++ name ++ "] local_port invalid, " ++ e)
  let remotePorts ← match parseRangeNumbers (sec.get "remote_port") with
    | .ok ps => pure ps
    | .error e =>
      throw ("Parse conf error: range section [" ++ name ++ "] remote_port invalid, " ++ e)
  if localPorts.length ≠ remotePorts.length then
    throw ("Parse conf error: range section [" ++ name ++
      "] local ports number should be same with remote ports number")
  else if localPorts.length = 0 then
    throw ("Parse conf error: range section [" ++ name ++
      "] local_port and remote_port is necessary")
  else
    return (localPorts.zip remotePorts).enum.map fun (i, localPort, remotePort) =>
      (name ++ "_" ++ toString i,
        ((copySection sec).insert "local_port" (toString localPort)).insert
          "remote_port" (toString remotePort))

/-- What the outer loop of `LoadAllConfFromIni` makes of one section: nothing for `common` or
a section not started, the expansions of a `range:` section, or the section itself. -/
def subSectionsOf (startAll : Bool) (startProxy : List String) (name : String) (sec : Section) :
    Except String (List (String × Section)) :=
  if name = "common" ∨ (!startAll ∧ name ∉ startProxy) then pure []
  else if hasPrefix name "range:" then
    parseRangeSection parseRangeNumbers (trimSpace (trimPrefix name "range:")) sec
  else pure [(name, sec)]

/-- What the inner loop makes of one expansion: a proxy for role `server`, the default, and a
visitor for role `visitor`. `pre` is the prefix with its dot. -/
def subSectionConf (pre : String) (sub : String × Section) : Except String (ProxyConf ⊕ V) :=
  let sec : Section := if GoMap.get sub.2 "role" = "" then sub.2.insert "role" "server" else sub.2
  let role := sec.get "role"
  if role = "server" then .inl <$> newProxyConfFromIni pre sub.1 sec
  else if role = "visitor" then .inr <$> newVisitorConfFromIni pre sub.1 sec
  else throw "role should be 'server' or 'visitor'"

def storeConf (key : String) (acc : GoMap ProxyConf × GoMap V) :
    ProxyConf ⊕ V → GoMap ProxyConf × GoMap V
  | .inl cfg => (acc.1.insert key cfg, acc.2)
  | .inr cfg => (acc.1, acc.2.insert key cfg)

def dotPrefix (pre : String) : String := if pre ≠ "" then pre ++ "." else pre

/-- `LoadAllConfFromIni`, from the parsed file `conf`; `startProxy` is the set of section names
to start, all of them when it is empty. Returns the proxy and visitor configurations. -/
def loadAllConfFromIni (pre : String) (conf : GoMap Section) (startProxy : List String) :
    Except String (GoMap ProxyConf × GoMap V) :=
  let pre := dotPrefix pre
  let startAll := startProxy.length = 0
  conf.entries.foldlM (fun acc entry => do
    let subs ← subSectionsOf parseRangeNumbers startAll startProxy entry.1 entry.2
    subs.foldlM (fun acc sub =>
      storeConf (pre ++ sub.1) acc <$> subSectionConf newVisitorConfFromIni pre sub) acc) (∅, ∅)

def expansions (conf : GoMap Section) (startProxy : List String) :
    Except String (List (String × Section)) :=
  List.flatten <$> conf.entries.mapM fun entry =>
    subSectionsOf parseRangeNumbers (startProxy.length = 0) startProxy entry.1 entry.2

/-- What a section expands to, in the words of the spec: nothing for `common` or a section not
started, the sections `N_0 … N_{n-1}` of a section `range:N`, with `local_port` and `remote_port`
set to the `i`-th numbers of their ranges, and any other section itself. -/
def ExpandsTo (startProxy : List String) (name : String) (sec : Section)
    (subs : List (String × Section)) : Prop :=
  if name = "common" ∨ (startProxy ≠ [] ∧ name ∉ startProxy) then subs = []
  else if hasPrefix name "range:" then
    ∃ lps rps : List Int, parseRangeNumbers (sec.get "local_port") = .ok lps ∧
      parseRangeNumbers (sec.get "remote_port") = .ok rps ∧ lps.length = rps.length ∧
      0 < lps.length ∧
      subs = (List.range lps.length).map fun i =>
        (trimSpace (trimPrefix name "range:") ++ "_" ++ toString i,
          (sec.insert "local_port" (toString (lps.getD i 0))).insert "remote_port"
            (toString (rps.getD i 0)))
  else subs = [(name, sec)]

def storeAll (pre : String) (ps : List ((String × Section) × (ProxyConf ⊕ V)))
    (acc : GoMap ProxyConf × GoMap V) : GoMap ProxyConf × GoMap V :=
  ps.foldl (fun acc p => storeConf (pre ++ p.1.1) acc p.2) acc

theorem loadAllConfFromIni_eq_ok {pre : String} {conf : GoMap Section} {startProxy : List String}
    {r : GoMap ProxyConf × GoMap V} :
    loadAllConfFromIni parseRangeNumbers newVisitorConfFromIni pre conf startProxy = .ok r ↔
      ∃ exps, expansions parseRangeNumbers conf startProxy = .ok exps ∧
        ∃ ps : List ((String × Section) × (ProxyConf ⊕ V)),
          List.Forall₂ (fun x p => p.1 = x ∧
            subSectionConf newVisitorConfFromIni (dotPrefix pre) x = .ok p.2) exps ps ∧
          r = storeAll (dotPrefix pre) ps (∅, ∅) := by
  simp only [loadAllConfFromIni, expansions, storeAll, foldlM_bind_eq_ok, foldlM_flatten,
    foldlM_map_eq_ok, except_map_eq_ok, mapM_eq_ok]
  constructor
  · rintro ⟨subss, hsubs, ps, hps, rfl⟩
    exact ⟨_, ⟨subss, hsubs, rfl⟩, ps, hps, rfl⟩
  · rintro ⟨_, ⟨subss, hsubs, rfl⟩, ps, hps, rfl⟩
    exact ⟨subss, hsubs, ps, hps, rfl⟩

end Load

section Store
variable {V : Type}

theorem storeAll_cons (pre : String) (p : (String × Section) × (ProxyConf ⊕ V))
    (ps : List ((String × Section) × (ProxyConf ⊕ V))) (acc : GoMap ProxyConf × GoMap V) :
    storeAll pre (p :: ps) acc = storeAll pre ps (storeConf (pre ++ p.1.1) acc p.2) := rfl

theorem mem_storeConf {key k : String} {acc : GoMap ProxyConf × GoMap V} {r : ProxyConf ⊕ V} :
    (k ∈ (storeConf key acc r).1 ∨ k ∈ (storeConf key acc r).2) ↔
      k = key ∨ k ∈ acc.1 ∨ k ∈ acc.2 := by
  cases r <;> simp only [storeConf, AList.mem_insert] <;> tauto

theorem mem_storeAll {pre k : String} :
    ∀ (ps : List ((String × Section) × (ProxyConf ⊕ V))) (acc : GoMap ProxyConf × GoMap V),
      (k ∈ (storeAll pre ps acc).1 ∨ k ∈ (storeAll pre ps acc).2) ↔
        (k ∈ acc.1 ∨ k ∈ acc.2) ∨ ∃ p ∈ ps, k = pre ++ p.1.1
  | [], acc => by simp only [List.not_mem_nil, false_and, exists_false, or_false]; rfl
  | p :: ps, acc => by
    rw [storeAll_cons, mem_storeAll ps, mem_storeConf]
    simp only [List.mem_cons, exists_eq_or_imp, or_assoc, or_left_comm]

theorem lookup_storeAll_of_not_mem {pre key : String} :
    ∀ (ps : List ((String × Section) × (ProxyConf ⊕ V))) (acc : GoMap ProxyConf × GoMap V),
      key ∉ ps.map (fun p => pre ++ p.1.1) →
        (storeAll pre ps acc).1.lookup key = acc.1.lookup key ∧
          (storeAll pre ps acc).2.lookup key = acc.2.lookup key
  | [], _, _ => ⟨rfl, rfl⟩
  | p :: ps, acc, h => by
    simp only [List.map_cons, List.mem_cons, not_or] at h
    rw [storeAll_cons, (lookup_storeAll_of_not_mem ps _ h.2).1,
      (lookup_storeAll_of_not_mem ps _ h.2).2]
    cases p.2 <;> simp [storeConf, AList.lookup_insert_ne h.1]

def Stored (acc : GoMap ProxyConf × GoMap V) (key : String) : ProxyConf ⊕ V → Prop
  | .inl c => acc.1.lookup key = some c
  | .inr v => acc.2.lookup key = some v

theorem stored_storeAll {pre : String} :
    ∀ (ps : List ((String × Section) × (ProxyConf ⊕ V))) (acc : GoMap ProxyConf × GoMap V),
      (ps.map fun p => pre ++ p.1.1).Nodup →
        ∀ p ∈ ps, Stored (storeAll pre ps acc) (pre ++ p.1.1) p.2
  | [], _, _, _, hp => absurd hp (List.not_mem_nil _)
  | q :: ps, acc, hn, p, hp => by
    rw [List.map_cons, List.nodup_cons] at hn
    rw [storeAll_cons]
    rcases List.mem_cons.mp hp with rfl | hp
    · have h := lookup_storeAll_of_not_mem ps (storeConf (pre ++ p.1.1) acc p.2) hn.1
      cases hr : p.2 <;> simp only [Stored, storeConf, hr, AList.lookup_insert] at h ⊢
      exacts [h.1, h.2]
    · exact stored_storeAll ps _ hn.2 p hp

theorem named_storeAll {pre : String} :
    ∀ (ps : List ((String × Section) × (ProxyConf ⊕ V))) (acc : GoMap ProxyConf × GoMap V),
      (∀ k c, acc.1.lookup k = some c → c.getBaseInfo.proxyName = k) →
      (∀ p ∈ ps, ∀ c, p.2 = .inl c → c.getBaseInfo.proxyName = pre ++ p.1.1) →
        ∀ k c, (storeAll pre ps acc).1.lookup k = some c → c.getBaseInfo.proxyName = k
  | [], _, hacc, _ => hacc
  | p :: ps, acc, hacc, hps => by
    rw [storeAll_cons]
    refine named_storeAll ps _ (fun k c hk => ?_) fun q hq => hps q (List.mem_cons_of_mem _ hq)
    cases hr : p.2 with
    | inl c' =>
      simp only [storeConf, hr] at hk
      by_cases hkey : k = pre ++ p.1.1
      · subst hkey
        rw [AList.lookup_insert, Option.some.injEq] at hk
        exact hps p (List.mem_cons_self _ _) c (hk ▸ hr)
      · exact hacc k c (by rwa [AList.lookup_insert_ne hkey] at hk)
    | inr v => simp only [storeConf, hr] at hk; exact hacc k c hk

def toFinmaps (acc : GoMap ProxyConf × GoMap V) :
    Finmap (fun _ : String => ProxyConf) × Finmap (fun _ : String => V) :=
  (acc.1.toFinmap, acc.2.toFinmap)

theorem toFinmaps_storeConf {key : String} {a b : GoMap ProxyConf × GoMap V}
    (h : toFinmaps a = toFinmaps b) (r : ProxyConf ⊕ V) :
    toFinmaps (storeConf key a r) = toFinmaps (storeConf key b r) := by
  simp only [toFinmaps, Prod.mk.injEq] at h ⊢
  cases r <;> simp [storeConf, ← Finmap.insert_toFinmap, h.1, h.2]

theorem toFinmaps_storeAll {pre : String} :
    ∀ (ps : List ((String × Section) × (ProxyConf ⊕ V))) {a b : GoMap ProxyConf × GoMap V},
      toFinmaps a = toFinmaps b → toFinmaps (storeAll pre ps a) = toFinmaps (storeAll pre ps b)
  | [], _, _, h => h
  | _ :: ps, _, _, h => toFinmaps_storeAll ps (toFinmaps_storeConf h _)

theorem toFinmaps_storeConf_comm {k k' : String} (h : k ≠ k') (acc : GoMap ProxyConf × GoMap V)
    (r r' : ProxyConf ⊕ V) :
    toFinmaps (storeConf k' (storeConf k acc r) r') =
      toFinmaps (storeConf k (storeConf k' acc r') r) := by
  cases r <;> cases r' <;>
    simp [toFinmaps, storeConf, ← Finmap.insert_toFinmap, Finmap.insert_insert_of_ne _ h]

theorem toFinmaps_storeAll_perm {pre : String}
    {ps ps' : List ((String × Section) × (ProxyConf ⊕ V))}
    (hp : ps.Perm ps') (hn : (ps.map fun p => pre ++ p.1.1).Nodup)
    (acc : GoMap ProxyConf × GoMap V) :
    toFinmaps (storeAll pre ps acc) = toFinmaps (storeAll pre ps' acc) := by
  induction hp generalizing acc with
  | nil => rfl
  | cons p _ ih => exact ih (List.nodup_cons.mp hn).2 _
  | swap p q l =>
    have hne : pre ++ q.1.1 ≠ pre ++ p.1.1 := by
      simp only [List.map_cons, List.nodup_cons, List.mem_cons, not_or] at hn
      exact hn.1.1
    exact toFinmaps_storeAll l (toFinmaps_storeConf_comm hne _ _ _)
  | trans h₁ _ ih₁ ih₂ =>
    exact (ih₁ hn acc).trans (ih₂ ((h₁.map _).nodup_iff.mp hn) acc)

end Store

theorem string_append_left_cancel {p a b : String} (h : p ++ a = p ++ b) : a = b := by
  rw [String.ext_iff] at h ⊢
  simpa using h

theorem map_fst_of_forall₂ {X Y : Type} {R : X → Y → Prop} {l : List X} {ps : List (X × Y)}
    (h : List.Forall₂ (fun x p => p.1 = x ∧ R x p.2) l ps) : ps.map Prod.fst = l := by
  induction h with
  | nil => rfl
  | cons hp _ ih => simp [hp.1, ih]

theorem rel_of_forall₂_of_mem {X Y : Type} {R : X → Y → Prop} {l : List X}
    {ps : List (X × Y)}
    (h : List.Forall₂ (fun x p => p.1 = x ∧ R x p.2) l ps) {p : X × Y} (hp : p ∈ ps) :
    R p.1 p.2 := by
  induction h with
  | nil => cases hp
  | cons hq _ ih =>
    rcases List.mem_cons.mp hp with rfl | hp
    · exact hq.1 ▸ hq.2
    · exact ih hp

theorem map_enum_zip {α β γ : Type} (a : α) (b : β) (f : Nat × α × β → γ) :
    ∀ (l : List α) (l' : List β), l.length = l'.length →
      (l.zip l').enum.map f = (List.range l.length).map fun i => f (i, l.getD i a, l'.getD i b) := by
  intro l l' hl
  apply List.ext_getElem
  · simp [hl]
  · intro i _ h2
    simp only [List.getElem_map, List.getElem_enum, List.getElem_zip, List.getElem_range]
    simp only [List.length_map, List.length_range] at h2
    simp [List.getElem?_eq_getElem h2, List.getElem?_eq_getElem (hl ▸ h2)]

section LoadSpec
variable {V : Type} (parseRangeNumbers : String → Except String (List Int))
  (newVisitorConfFromIni : String → String → Section → Except String V)

theorem subSectionConf_proxyName {pre : String} {sub : String × Section} {c : ProxyConf}
    (h : subSectionConf newVisitorConfFromIni pre sub = .ok (.inl c)) :
    c.getBaseInfo.proxyName = pre ++ sub.1 := by
  simp only [subSectionConf] at h
  split_ifs at h <;>
    simp only [except_map_eq_ok, Sum.inl.injEq, reduceCtorEq, and_false, exists_false,
      except_throw_ne_ok] at h
  all_goals obtain ⟨c', hc', rfl⟩ := h; exact newProxyConfFromIni_proxyName hc'

theorem parseRangeSection_eq_ok {name : String} {sec : Section} {subs : List (String × Section)} :
    parseRangeSection parseRangeNumbers name sec = .ok subs ↔
      ∃ lps rps : List Int, parseRangeNumbers (sec.get "local_port") = .ok lps ∧
        parseRangeNumbers (sec.get "remote_port") = .ok rps ∧ lps.length = rps.length ∧
        0 < lps.length ∧
        subs = (List.range lps.length).map fun i =>
          (name ++ "_" ++ toString i,
            (sec.insert "local_port" (toString (lps.getD i 0))).insert "remote_port"
              (toString (rps.getD i 0))) := by
  unfold parseRangeSection
  rcases hl : parseRangeNumbers (sec.get "local_port") with e | lps
  · simp [hl, bind, Except.bind, throw, throwThe, MonadExceptOf.throw]
  rcases hr : parseRangeNumbers (sec.get "remote_port") with e | rps
  · simp [hl, hr, bind, Except.bind, pure, Except.pure, throw, throwThe, MonadExceptOf.throw]
  simp only [hl, hr, bind, Except.bind, pure, Except.pure, Except.ok.injEq, exists_eq_left',
    true_and]
  by_cases hlen : lps.length = rps.length
  · rcases eq_or_ne lps [] with rfl | h0
    · obtain rfl : rps = [] := List.length_eq_zero.mp hlen.symm
      simp [throw, throwThe, MonadExceptOf.throw]
    · have hr0 : rps ≠ [] := fun h => h0 (List.length_eq_zero.mp (by simp [hlen, h]))
      rw [map_enum_zip 0 0 _ lps rps hlen]
      simp [hlen, h0, hr0, List.length_pos, copySection, eq_comm]
  · simp [hlen, throw, throwThe, MonadExceptOf.throw]

theorem subSectionsOf_eq_ok {startProxy : List String} {name : String} {sec : Section}
    {subs : List (String × Section)} :
    subSectionsOf parseRangeNumbers (startProxy.length = 0) startProxy name sec = .ok subs ↔
      ExpandsTo parseRangeNumbers startProxy name sec subs := by
  unfold subSectionsOf ExpandsTo
  have hs : ((!decide (startProxy.length = 0)) = true ∧ name ∉ startProxy) ↔
      (startProxy ≠ [] ∧ name ∉ startProxy) := by simp
  simp only [hs]
  split_ifs
  · exact except_pure_eq_ok.trans eq_comm
  · exact parseRangeSection_eq_ok parseRangeNumbers
  · exact except_pure_eq_ok.trans eq_comm

theorem expansions_eq_ok {conf : GoMap Section} {startProxy : List String}
    {exps : List (String × Section)} :
    expansions parseRangeNumbers conf startProxy = .ok exps ↔
      ∃ subss, List.Forall₂ (fun e subs => ExpandsTo parseRangeNumbers startProxy e.1 e.2 subs)
        conf.entries subss ∧ exps = subss.flatten := by
  simp only [expansions, except_map_eq_ok, mapM_eq_ok, subSectionsOf_eq_ok]
  exact exists_congr fun _ => and_congr_right fun _ => eq_comm

theorem expansions_perm {conf conf' : GoMap Section} {startProxy : List String}
    {exps : List (String × Section)} (hp : conf'.entries.Perm conf.entries)
    (h : expansions parseRangeNumbers conf startProxy = .ok exps) :
    ∃ exps', expansions parseRangeNumbers conf' startProxy = .ok exps' ∧ exps'.Perm exps := by
  simp only [expansions, except_map_eq_ok, mapM_eq_ok] at h ⊢
  obtain ⟨subss, hsubss, rfl⟩ := h
  obtain ⟨subss', hsubss', hperm⟩ := List.perm_comp_forall₂ hp hsubss
  exact ⟨_, ⟨subss', hsubss', rfl⟩, hperm.flatten⟩

/-- What `LoadAllConfFromIni` returns when it succeeds. The expansions are those the spec names,
entry by entry of the file in the loop's order. The keys of the two maps are exactly
`prefix + subName` for the expansions `subName`, and every proxy configuration is named by its
key. When the expansions' names are distinct, each expansion's configuration is the one at its
key, and the same file visited in any other order gives the same maps. -/
theorem loadAllConfFromIni_expansions {pre : String} {conf : GoMap Section}
    {startProxy : List String} {pcs : GoMap ProxyConf} {vcs : GoMap V}
    (h : loadAllConfFromIni parseRangeNumbers newVisitorConfFromIni pre conf startProxy =
      .ok (pcs, vcs)) :
    ∃ exps, (∃ subss, List.Forall₂ (fun e subs => ExpandsTo parseRangeNumbers startProxy e.1 e.2 subs)
        conf.entries subss ∧ exps = subss.flatten) ∧
      (∀ k, k ∈ pcs ∨ k ∈ vcs ↔ ∃ e ∈ exps, k = dotPrefix pre ++ e.1) ∧
      (∀ k c, pcs.lookup k = some c → c.getBaseInfo.proxyName = k) ∧
      ((exps.map Prod.fst).Nodup →
        (∀ e ∈ exps, ∃ r, subSectionConf newVisitorConfFromIni (dotPrefix pre) e = .ok r ∧
          Stored (pcs, vcs) (dotPrefix pre ++ e.1) r) ∧
        ∀ conf' : GoMap Section, conf'.entries.Perm conf.entries →
          ∃ pcs' vcs', loadAllConfFromIni parseRangeNumbers newVisitorConfFromIni pre conf'
              startProxy = .ok (pcs', vcs') ∧
            pcs'.entries.Perm pcs.entries ∧ vcs'.entries.Perm vcs.entries) := by
  obtain ⟨exps, hexps, ps, hps, hr⟩ := (loadAllConfFromIni_eq_ok parseRangeNumbers _).mp h
  obtain ⟨rfl, rfl⟩ : pcs = (storeAll (dotPrefix pre) ps (∅, ∅)).1 ∧
      vcs = (storeAll (dotPrefix pre) ps (∅, ∅)).2 :=
    ⟨congrArg Prod.fst hr, congrArg Prod.snd hr⟩
  let R x r := subSectionConf newVisitorConfFromIni (dotPrefix pre) x = .ok r
  have hfst := map_fst_of_forall₂ (R := R) hps
  have hkeys : ∀ k,
      (∃ p ∈ ps, k = dotPrefix pre ++ p.1.1) ↔ ∃ e ∈ exps, k = dotPrefix pre ++ e.1 :=
    fun k => by rw [← hfst]; simp only [List.mem_map, exists_exists_and_eq_and]
  refine ⟨exps, (expansions_eq_ok parseRangeNumbers).mp hexps, fun k => ?_, ?_, fun hnd => ?_⟩
  · rw [← hkeys, mem_storeAll]
    simp only [AList.not_mem_empty, or_self, false_or]
  · exact named_storeAll ps _ (fun k c hk => by simp at hk) fun p hp c hc =>
      subSectionConf_proxyName _ (hc ▸ rel_of_forall₂_of_mem (R := R) hps hp)
  have hn : (ps.map fun p => dotPrefix pre ++ p.1.1).Nodup := by
    have : (ps.map fun p => dotPrefix pre ++ p.1.1) =
        (exps.map Prod.fst).map (dotPrefix pre ++ ·) := by
      rw [← hfst]; simp [Function.comp_def]
    rw [this]
    exact hnd.map fun _ _ => string_append_left_cancel
  refine ⟨fun e he => ?_, fun conf' hp => ?_⟩
  · rw [← hfst] at he
    obtain ⟨p, hp, rfl⟩ := List.mem_map.mp he
    exact ⟨p.2, rel_of_forall₂_of_mem (R := R) hps hp, stored_storeAll ps _ hn p hp⟩
  · obtain ⟨exps', hexps', hperm⟩ := expansions_perm parseRangeNumbers hp hexps
    obtain ⟨ps', hps', hpp⟩ := List.perm_comp_forall₂ hperm hps
    refine ⟨(storeAll _ ps' (∅, ∅)).1, (storeAll _ ps' (∅, ∅)).2,
      (loadAllConfFromIni_eq_ok parseRangeNumbers _).mpr ⟨exps', hexps', ps', hps', rfl⟩, ?_⟩
    have := toFinmaps_storeAll_perm hpp ((hpp.map _).nodup_iff.mpr hn) (∅, ∅)
    simpa only [toFinmaps, Prod.mk.injEq, AList.toFinmap_eq] using this

end LoadSpec

/-- Modelled from the spec ("`local_port=7000-7002,8000`"; `util.ParseRangeNumbers` is outside
src/): a comma-separated list of numbers and `low-high` ranges, each range in increasing
order. -/
def parseRangeNumbers (rangeStr : String) : Except String (List Int) :=
  (split (trimSpace rangeStr) ',').foldlM (fun acc item =>
    match split item '-' with
    | [n] =>
      match parseInt (trimSpace n) with
      | some v => pure (acc ++ [v])
      | none => throw "range number is invalid"
    | [lo, hi] =>
      match parseInt (trimSpace lo), parseInt (trimSpace hi) with
      | some a, some b =>
        if b < a then throw "range number is invalid"
        else pure (acc ++ (List.range (b - a + 1).toNat).map fun i => a + i)
      | _, _ => throw "range number is invalid"
    | _ => throw "range number is invalid") []

example : parseRangeNumbers "7000-7002,8000" = .ok [7000, 7001, 7002, 8000] := rfl

def webFile : GoMap Section :=
  let web : Section :=
    ((∅ : Section).insert "local_port" "80-81").insert "remote_port" "90-91"
  let ssh : Section := ((∅ : Section).insert "local_port" "22").insert "remote_port" "60"
  ((∅ : GoMap Section).insert "ssh" ssh).insert "range:web" web

theorem loadAllConfFromIni_expansions_webFile :
    let nv : String → String → Section → Except String Unit := fun _ _ _ => .ok ()
    let r := (loadAllConfFromIni parseRangeNumbers nv "" webFile []).toOption.getD (∅, ∅)
    loadAllConfFromIni parseRangeNumbers nv "" webFile [] = .ok (r.1, r.2) ∧
    ∃ exps, (∃ subss, List.Forall₂ (fun e subs => ExpandsTo parseRangeNumbers [] e.1 e.2 subs)
        webFile.entries subss ∧ exps = subss.flatten) ∧
      (∀ k, k ∈ r.1 ∨ k ∈ r.2 ↔ ∃ e ∈ exps, k = dotPrefix "" ++ e.1) ∧
      (∀ k c, r.1.lookup k = some c → c.getBaseInfo.proxyName = k) ∧
      ((exps.map Prod.fst).Nodup →
        (∀ e ∈ exps, ∃ s, subSectionConf nv (dotPrefix "") e = .ok s ∧
          Stored (r.1, r.2) (dotPrefix "" ++ e.1) s) ∧
        ∀ conf' : GoMap Section, conf'.entries.Perm webFile.entries →
          ∃ pcs' vcs', loadAllConfFromIni parseRangeNumbers nv "" conf' [] = .ok (pcs', vcs') ∧
            pcs'.entries.Perm r.1.entries ∧ vcs'.entries.Perm r.2.entries) :=
  ⟨rfl, loadAllConfFromIni_expansions parseRangeNumbers _ rfl⟩

example : ((loadAllConfFromIni parseRangeNumbers (fun _ _ _ => (.ok () : Except String Unit)) ""
    webFile []).toOption.map fun r => r.1.keys) = some ["ssh", "web_1", "web_0"] := by decide

def rangeClashFile (first : Bool) : GoMap Section :=
  let rangeA : Section := ((∅ : Section).insert "local_port" "1").insert "remote_port" "1"
  let a0 : Section := ((∅ : Section).insert "local_port" "2").insert "remote_port" "2"
  if first then ((∅ : GoMap Section).insert "a_0" a0).insert "range:a" rangeA
  else ((∅ : GoMap Section).insert "range:a" rangeA).insert "a_0" a0

/-- The expansion `a_0` of `[range:a]` and the section `[a_0]` land on one key, and which one
is kept depends on the order the file is visited in. -/
theorem loadAllConfFromIni_order_dependent :
    (rangeClashFile true).entries.Perm (rangeClashFile false).entries ∧
    ((loadAllConfFromIni parseRangeNumbers (fun _ _ _ => (.ok () : Except String Unit)) ""
        (rangeClashFile true) []).toOption.bind fun r =>
      (r.1.lookup "a_0").map fun c => c.getBaseInfo.localPort) = some 2 ∧
    ((loadAllConfFromIni parseRangeNumbers (fun _ _ _ => (.ok () : Except String Unit)) ""
        (rangeClashFile false) []).toOption.bind fun r =>
      (r.1.lookup "a_0").map fun c => c.getBaseInfo.localPort) = some 1 :=
  ⟨List.Perm.swap _ _ _, by decide, by decide⟩

end Frp.Config

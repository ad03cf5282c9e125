import Frp.Config.Types
import Frp.Go.Basic

/-! `HttpProxy.Run` and `HttpProxy.Close` of `server/proxy` over the route table, for proxies
without a group, along every history of calls. -/
namespace Frp.Server
open Frp.Config Frp.Go

structure RouteKey where
  domain : String
  location : String
  deriving DecidableEq

/-- Modelled from the spec ("Vhost route. Key `(domain, location)`"; `utils/vhost` is outside
src/): the reverse proxy's route table maps a key to the proxy owning it. -/
def Routes := RouteKey → Option Nat

/-- `HttpReverseProxy.Register`: fails on an occupied key. Modelled from the spec. -/
def Routes.register (r : Routes) (k : RouteKey) (p : Nat) : Option Routes :=
  if r k = none then some fun k' => if k' = k then some p else r k' else none

/-- `HttpReverseProxy.UnRegister`: deletes the key, whoever owns it. Modelled from the spec. -/
def Routes.unRegister (r : Routes) (k : RouteKey) : Routes :=
  fun k' => if k' = k then none else r k'

/-- What `Run` reads of the server's configuration, and `util.CanonicalAddr` (outside src/). -/
structure HttpEnv where
  subDomainHost : String
  vhostHttpPort : Int
  canonicalAddr : String → Int → String

/-- The keys `Run` registers, in its order: each non-empty custom domain with every location,
then `SubDomain + "." + SubDomainHost` with every location when `SubDomain` is set; no
locations stand for the one location `""`. -/
def routeKeys (env : HttpEnv) (cfg : HttpProxyConf) : List RouteKey :=
  let locations := if cfg.locations = [] then [""] else cfg.locations
  (cfg.customDomains.filter (· ≠ "")).flatMap (fun d => locations.map (RouteKey.mk d)) ++
    if cfg.subDomain ≠ "" then
      locations.map (RouteKey.mk (cfg.subDomain ++ "." ++ env.subDomainHost))
    else []

/-- Where a proxy is in the server's use of it; ghost state, not in the code. `live`: its last
`Run` succeeded and it has not been closed since. -/
inductive Life where
  | fresh | live | closed
  deriving DecidableEq

structure HttpProxies where
  routes : Routes
  closeFuncs : Nat → List RouteKey
  life : Nat → Life

def HttpProxies.init : HttpProxies := ⟨fun _ => none, fun _ => [], fun _ => .fresh⟩

/-- `HttpProxy.Close`: `BaseProxy.Close` closes the proxy's listeners (an HTTP proxy has none),
then each close function runs `UnRegister`. `closeFuncs` is kept. -/
def HttpProxies.close (s : HttpProxies) (p : Nat) : HttpProxies :=
  { s with routes := (s.closeFuncs p).foldl Routes.unRegister s.routes,
           life := Function.update s.life p .closed }

/-- The registration loop of `Run` from key list `ks`: registers each key, appending its
`UnRegister` to `closeFuncs` and its address to `addrs`; returns at the first conflict. -/
def registerLoop (env : HttpEnv) (p : Nat) :
    List RouteKey → Routes → List RouteKey → List String →
      Routes × List RouteKey × List String × Bool
  | [], r, fs, addrs => (r, fs, addrs, true)
  | k :: ks, r, fs, addrs =>
    match r.register k p with
    | some r' =>
      registerLoop env p ks r' (fs ++ [k]) (addrs ++ [env.canonicalAddr k.domain env.vhostHttpPort])
    | none => (r, fs, addrs, false)

/-- `HttpProxy.Run` of proxy `p` without a group (the group branch registers with
`HTTPGroupCtl`, outside src/). On an error the deferred `pxy.Close()` runs every close
function the proxy has, from this run and earlier ones. Returns the new state, `remoteAddr`,
and whether `err` is nil. -/
def HttpProxies.run (env : HttpEnv) (s : HttpProxies) (p : Nat) (cfg : HttpProxyConf) :
    HttpProxies × String × Bool :=
  match registerLoop env p (routeKeys env cfg) s.routes (s.closeFuncs p) [] with
  | (r, fs, addrs, true) =>
    ({ s with routes := r, closeFuncs := Function.update s.closeFuncs p fs,
              life := Function.update s.life p .live }, join addrs ',', true)
  | (r, fs, _, false) =>
    ({ s with routes := r, closeFuncs := Function.update s.closeFuncs p fs }.close p, "", false)

inductive Call where
  | run (p : Nat)
  | close (p : Nat)
  deriving DecidableEq

def HttpProxies.call (env : HttpEnv) (cfgs : Nat → HttpProxyConf) (s : HttpProxies) :
    Call → HttpProxies
  | .run p => (s.run env p (cfgs p)).1
  | .close p => s.close p

theorem foldl_unRegister (l : List RouteKey) (r : Routes) (k : RouteKey) :
    l.foldl Routes.unRegister r k = if k ∈ l then none else r k := by
  induction l generalizing r with
  | nil => simp
  | cons x l ih =>
    rw [List.foldl_cons, ih]
    by_cases hk : k ∈ l <;> by_cases hx : k = x <;> simp [Routes.unRegister, hk, hx]

@[simp] theorem HttpProxies.close_routes (s : HttpProxies) (p : Nat) (k : RouteKey) :
    (s.close p).routes k = if k ∈ s.closeFuncs p then none else s.routes k :=
  foldl_unRegister _ _ _

@[simp] theorem HttpProxies.close_closeFuncs (s : HttpProxies) (p : Nat) :
    (s.close p).closeFuncs = s.closeFuncs := rfl

@[simp] theorem HttpProxies.close_life (s : HttpProxies) (p : Nat) :
    (s.close p).life = Function.update s.life p .closed := rfl

theorem registerLoop_spec (env : HttpEnv) (p : Nat) (ks : List RouteKey) (r : Routes)
    (fs : List RouteKey) (addrs : List String) :
    ∃ pre, pre <+: ks ∧ (registerLoop env p ks r fs addrs).2.1 = fs ++ pre ∧
      ((registerLoop env p ks r fs addrs).2.2.2 = true ↔ pre = ks) ∧
      (∀ k ∈ pre, r k = none) ∧
      ∀ k, (registerLoop env p ks r fs addrs).1 k = if k ∈ pre then some p else r k := by
  induction ks generalizing r fs addrs with
  | nil => exact ⟨[], by simp [registerLoop]⟩
  | cons k ks ih =>
    by_cases hk : r k = none
    · have hreg : r.register k p = some fun k' => if k' = k then some p else r k' := by
        simp [Routes.register, hk]
      simp only [registerLoop, hreg]
      obtain ⟨pre, h1, h2, h3, h4, h5⟩ := ih (fun k' => if k' = k then some p else r k')
        (fs ++ [k]) (addrs ++ [env.canonicalAddr k.domain env.vhostHttpPort])
      refine ⟨k :: pre, by simpa using h1, by simpa using h2, by simpa using h3, ?_,
        fun k' => ?_⟩
      · intro k' hk'
        simp only [List.mem_cons] at hk'
        rcases hk' with rfl | hk'
        · exact hk
        · have := h4 k' hk'; by_cases e : k' = k <;> simp_all
      · rw [h5]; by_cases e : k' = k <;> simp [e]
    · have hreg : r.register k p = none := by simp [Routes.register, hk]
      simp only [registerLoop, hreg]
      exact ⟨[], by simp, by simp, by simp, by simp, fun _ => by simp⟩

theorem HttpProxies.run_spec (env : HttpEnv) (s : HttpProxies) (p : Nat) (cfg : HttpProxyConf) :
    ∃ pre, pre <+: routeKeys env cfg ∧ (∀ k ∈ pre, s.routes k = none) ∧
      (s.run env p cfg).1.closeFuncs = Function.update s.closeFuncs p (s.closeFuncs p ++ pre) ∧
      (((s.run env p cfg).2.2 = true ∧ pre = routeKeys env cfg ∧
        (s.run env p cfg).1.life = Function.update s.life p .live ∧
        ∀ k, (s.run env p cfg).1.routes k = if k ∈ pre then some p else s.routes k) ∨
       ((s.run env p cfg).2.2 = false ∧
        (s.run env p cfg).1.life = Function.update s.life p .closed ∧
        ∀ k, (s.run env p cfg).1.routes k =
          if k ∈ s.closeFuncs p ++ pre then none else s.routes k)) := by
  obtain ⟨pre, h1, h2, h3, h4, h5⟩ :=
    registerLoop_spec env p (routeKeys env cfg) s.routes (s.closeFuncs p) []
  refine ⟨pre, h1, h4, ?_⟩
  unfold HttpProxies.run
  rcases hres : registerLoop env p (routeKeys env cfg) s.routes (s.closeFuncs p) [] with
    ⟨r, fs, addrs, _ | _⟩ <;> rw [hres] at h2 h3 h5 <;> simp only at h2 h3 h5 <;> subst h2
  · refine ⟨rfl, .inr ⟨rfl, rfl, fun k => ?_⟩⟩
    simp only [close_routes, Function.update_same, h5]
    by_cases hk : k ∈ pre <;> simp [hk]
  · exact ⟨rfl, .inl ⟨rfl, h3.mp trivial, rfl, h5⟩⟩

variable {env : HttpEnv} {cfgs : Nat → HttpProxyConf} {s : HttpProxies}

inductive HttpProxies.Reachable (env : HttpEnv) (cfgs : Nat → HttpProxyConf) :
    HttpProxies → Prop
  | init : HttpProxies.Reachable env cfgs .init
  | step {s : HttpProxies} (c : Call) :
      HttpProxies.Reachable env cfgs s → HttpProxies.Reachable env cfgs (s.call env cfgs c)

/-- What every history keeps: a key's owner is live, has the key among its routes, and has
recorded its `UnRegister`. -/
structure HttpProxies.Owned (env : HttpEnv) (cfgs : Nat → HttpProxyConf) (s : HttpProxies) :
    Prop where
  recorded : ∀ k p, s.routes k = some p → k ∈ s.closeFuncs p
  live : ∀ k p, s.routes k = some p → s.life p = .live
  key : ∀ k p, s.routes k = some p → k ∈ routeKeys env (cfgs p)

theorem HttpProxies.Owned.close (h : s.Owned env cfgs) (q : Nat) : (s.close q).Owned env cfgs := by
  have hk : ∀ k p,
      (s.close q).routes k = some p → k ∉ s.closeFuncs q ∧ s.routes k = some p :=
    fun k p hk => by by_cases hq : k ∈ s.closeFuncs q <;> simp_all
  refine ⟨fun k p hp => h.recorded k p (hk k p hp).2, fun k p hp => ?_,
    fun k p hp => h.key k p (hk k p hp).2⟩
  obtain ⟨h1, h2⟩ := hk k p hp
  have hpq : p ≠ q := by rintro rfl; exact h1 (h.recorded k p h2)
  simpa [Function.update_apply, hpq] using h.live k p h2

theorem HttpProxies.Owned.run (h : s.Owned env cfgs) (q : Nat) :
    (s.run env q (cfgs q)).1.Owned env cfgs := by
  obtain ⟨pre, hpre, -, hfs, ⟨-, hall, hlife, hr⟩ | ⟨-, hlife, hr⟩⟩ :=
    s.run_spec env q (cfgs q)
  · have hk : ∀ k p, (s.run env q (cfgs q)).1.routes k = some p →
        (k ∈ pre ∧ p = q) ∨ s.routes k = some p := fun k p hp => by
      rw [hr] at hp; split at hp <;> simp_all
    refine ⟨fun k p hp => ?_, fun k p hp => ?_, fun k p hp => ?_⟩ <;>
      rcases hk k p hp with ⟨hmem, rfl⟩ | hold
    · simp [hfs, hmem]
    · by_cases hpq : p = q
      · subst hpq; simp [hfs, h.recorded k p hold]
      · simpa [hfs, Function.update_apply, hpq] using h.recorded k p hold
    · simp [hlife]
    · by_cases hpq : p = q
      · subst hpq; simp [hlife]
      · simpa [hlife, Function.update_apply, hpq] using h.live k p hold
    · exact hpre.subset hmem
    · exact h.key k p hold
  · have hk : ∀ k p, (s.run env q (cfgs q)).1.routes k = some p →
        k ∉ s.closeFuncs q ∧ s.routes k = some p := fun k p hp => by
      rw [hr] at hp; split at hp <;> simp_all
    have hpq : ∀ k p, (s.run env q (cfgs q)).1.routes k = some p → p ≠ q := fun k p hp => by
      rintro rfl; exact (hk k p hp).1 (h.recorded k p (hk k p hp).2)
    refine ⟨fun k p hp => ?_, fun k p hp => ?_, fun k p hp => h.key k p (hk k p hp).2⟩
    · simpa [hfs, Function.update_apply, hpq k p hp] using h.recorded k p (hk k p hp).2
    · simpa [hlife, Function.update_apply, hpq k p hp] using h.live k p (hk k p hp).2

/-- The server's use of a proxy: `Run` once, on a new proxy, and `Close` at most once, never after
a failed `Run` (whose deferred `Close` has already run). -/
def Call.Served (s : HttpProxies) : Call → Prop
  | .run p => s.life p = .fresh
  | .close p => s.life p ≠ .closed

inductive HttpProxies.ServedReachable (env : HttpEnv) (cfgs : Nat → HttpProxyConf) :
    HttpProxies → Prop
  | init : HttpProxies.ServedReachable env cfgs .init
  | step {s : HttpProxies} (c : Call) : HttpProxies.ServedReachable env cfgs s → c.Served s →
      HttpProxies.ServedReachable env cfgs (s.call env cfgs c)

/-- What the discipline adds: a new proxy has recorded nothing, and a live one has recorded
exactly its route keys and still holds each of them. -/
structure HttpProxies.ServedInv (env : HttpEnv) (cfgs : Nat → HttpProxyConf) (s : HttpProxies) :
    Prop where
  fresh : ∀ p, s.life p = .fresh → s.closeFuncs p = []
  recorded : ∀ p, s.life p = .live → s.closeFuncs p = routeKeys env (cfgs p)
  held : ∀ p, s.life p = .live → ∀ k ∈ s.closeFuncs p, s.routes k = some p

theorem HttpProxies.run_routes_of_failed (h : s.ServedInv env cfgs) {q : Nat}
    (hq : s.life q = .fresh) (hf : (s.run env q (cfgs q)).2.2 = false) :
    (s.run env q (cfgs q)).1.routes = s.routes := by
  obtain ⟨pre, -, hfree, -, ⟨hok, -⟩ | ⟨-, -, hr⟩⟩ := s.run_spec env q (cfgs q)
  · simp [hok] at hf
  · funext k
    rw [hr, h.fresh q hq, List.nil_append]
    split
    · exact (hfree k ‹_›).symm
    · rfl

theorem HttpProxies.ServedInv.close (h : s.ServedInv env cfgs) {q : Nat}
    (hq : s.life q ≠ .closed) : (s.close q).ServedInv env cfgs := by
  have hne : ∀ p, (s.close q).life p ≠ .closed → p ≠ q := by rintro p hp rfl; simp at hp
  refine ⟨fun p hp => ?_, fun p hp => ?_, fun p hp k hk => ?_⟩
  · have hpq := hne p (by simp [hp])
    simp only [close_life, Function.update_apply, hpq, if_false] at hp
    exact h.fresh p hp
  · have hpq := hne p (by simp [hp])
    simp only [close_life, Function.update_apply, hpq, if_false] at hp
    exact h.recorded p hp
  · have hpq := hne p (by simp [hp])
    simp only [close_life, Function.update_apply, hpq, if_false, close_closeFuncs] at hp hk
    have hkp := h.held p hp k hk
    have hkq : k ∉ s.closeFuncs q := fun hkq => by
      cases hlq : s.life q with
      | fresh => simp [h.fresh q hlq] at hkq
      | live => exact hpq (Option.some.inj ((h.held q hlq k hkq).symm.trans hkp)).symm
      | closed => exact hq hlq
    simp [hkq, hkp]

theorem HttpProxies.ServedInv.run (h : s.ServedInv env cfgs) {q : Nat} (hq : s.life q = .fresh) :
    (s.run env q (cfgs q)).1.ServedInv env cfgs := by
  obtain ⟨pre, -, hfree, hfs, ⟨-, hall, hlife, hr⟩ | ⟨hf, hlife, -⟩⟩ :=
    s.run_spec env q (cfgs q)
  · rw [h.fresh q hq, List.nil_append] at hfs
    refine ⟨fun p hp => ?_, fun p hp => ?_, fun p hp k hk => ?_⟩ <;>
      rw [hlife] at hp <;> by_cases hpq : p = q
    · subst hpq; simp at hp
    · simp only [Function.update_apply, hpq, if_false] at hp
      rw [hfs, Function.update_noteq hpq]; exact h.fresh p hp
    · subst hpq; simp [hfs, hall]
    · simp only [Function.update_apply, hpq, if_false] at hp
      rw [hfs, Function.update_noteq hpq]; exact h.recorded p hp
    · subst hpq; simp_all
    · simp only [Function.update_apply, hpq, if_false] at hp
      simp only [hfs, Function.update_apply, hpq, if_false] at hk
      have hkp := h.held p hp k hk
      have hkpre : k ∉ pre := fun hk' => by simp [hfree k hk'] at hkp
      simp [hr, hkpre, hkp]
  · have hroutes := run_routes_of_failed h hq hf
    have hne : ∀ p, (s.run env q (cfgs q)).1.life p ≠ .closed → p ≠ q := by
      rintro p hp rfl; simp [hlife] at hp
    have hold : ∀ p, (s.run env q (cfgs q)).1.life p ≠ .closed →
        (s.run env q (cfgs q)).1.life p = s.life p ∧
          (s.run env q (cfgs q)).1.closeFuncs p = s.closeFuncs p := fun p hp => by
      have hpq := hne p hp
      simp [hlife, hfs, Function.update_noteq hpq]
    refine ⟨fun p hp => ?_, fun p hp => ?_, fun p hp k hk => ?_⟩ <;>
      obtain ⟨hl, hc⟩ := hold p (by simp [hp]) <;> rw [hl] at hp
    · rw [hc]; exact h.fresh p hp
    · rw [hc]; exact h.recorded p hp
    · rw [hc] at hk; rw [hroutes]; exact h.held p hp k hk

theorem HttpProxies.ServedReachable.inv (h : s.ServedReachable env cfgs) :
    s.ServedInv env cfgs := by
  induction h with
  | init => exact ⟨fun _ _ => rfl, fun _ h => (nomatch h), fun _ h => (nomatch h)⟩
  | step c _ hc ih =>
    cases c with
    | run q => exact ih.run hc
    | close q => exact ih.close hc

/-- In any history a second `Close` of a proxy unregisters its old keys again, whoever owns them
now. -/
theorem httpProxy_second_close_drops_route (env : HttpEnv) :
    let cfgs : Nat → HttpProxyConf := fun _ => { customDomains := ["a.com"] }
    let s := [Call.run 0, .close 0, .run 1].foldl (HttpProxies.call env cfgs) .init
    s.routes ⟨"a.com", ""⟩ = some 1 ∧ (s.close 0).routes ⟨"a.com", ""⟩ = none ∧
      (s.close 0).life 1 = .live :=
  ⟨rfl, rfl, rfl⟩

end Frp.Server

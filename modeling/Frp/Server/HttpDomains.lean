import Frp.Server.HttpProxy
import Frp.Config.Check

/-! What `HttpProxy.Run` registers for a configuration both sides have checked: empty custom
domains pass the checks and register nothing. -/
namespace Frp.Server
open Frp.Config Frp.Go

theorem join_ne_empty {x : String} {xs : List String} {sep : Char} (hx : x ≠ "") :
    join (x :: xs) sep ≠ "" := by
  intro h
  have := congrArg String.toList h
  simp only [join, List.intercalate, String.toList, List.map_cons, List.flatten_eq_nil_iff] at this
  exact hx (String.ext (this _ (by cases xs <;> simp [List.intersperse])))

theorem registerLoop_addrs (env : HttpEnv) (p : Nat) :
    ∀ (ks : List RouteKey) (r : Routes) (fs : List RouteKey) (addrs : List String),
      (registerLoop env p ks r fs addrs).2.2.2 = true →
        (registerLoop env p ks r fs addrs).2.2.1 =
          addrs ++ ks.map fun k => env.canonicalAddr k.domain env.vhostHttpPort
  | [], _, _, _, _ => by simp [registerLoop]
  | k :: ks, r, fs, addrs, h => by
    cases hr : r.register k p with
    | none => simp [registerLoop, hr] at h
    | some r' =>
      simp only [registerLoop, hr] at h ⊢
      rw [registerLoop_addrs env p ks _ _ _ h]
      simp

theorem routeKeys_ne_nil_iff (env : HttpEnv) (cfg : HttpProxyConf) :
    routeKeys env cfg ≠ [] ↔
      (∃ d ∈ cfg.customDomains, d ≠ "") ∨ cfg.subDomain ≠ "" := by
  have hloc : (if cfg.locations = [] then [""] else cfg.locations) ≠ [] := by
    split_ifs <;> simp_all
  simp [routeKeys, List.filter_eq_nil_iff, hloc, imp_iff_not_or]

theorem domain_ne_empty_of_mem_routeKeys {env : HttpEnv} {cfg : HttpProxyConf} {k : RouteKey}
    (hk : k ∈ routeKeys env cfg) : k.domain ≠ "" := by
  simp only [routeKeys, List.mem_append, List.mem_flatMap, List.mem_filter, List.mem_map,
    List.mem_ite_nil_right] at hk
  rcases hk with ⟨d, ⟨-, hd⟩, -, -, rfl⟩ | ⟨-, -, -, rfl⟩
  · simpa using hd
  · intro h
    have := congrArg String.data h
    simp at this

theorem HttpProxies.run_remoteAddr {env : HttpEnv} {s : HttpProxies} {p : Nat}
    {cfg : HttpProxyConf} (hok : (s.run env p cfg).2.2 = true) :
    (s.run env p cfg).2.1 =
      join ((routeKeys env cfg).map fun k => env.canonicalAddr k.domain env.vhostHttpPort) ',' := by
  have h := registerLoop_addrs env p (routeKeys env cfg) s.routes (s.closeFuncs p) []
  unfold HttpProxies.run at hok ⊢
  rcases hres : registerLoop env p (routeKeys env cfg) s.routes (s.closeFuncs p) [] with
    ⟨r, fs, addrs, _ | _⟩ <;> simp only [hres] at h hok ⊢
  · cases hok
  · exact congrArg (join · ',') ((h trivial).trans (List.nil_append _))

theorem HttpProxies.run_registers {env : HttpEnv}
    (hc : ∀ d, d ≠ "" → env.canonicalAddr d env.vhostHttpPort ≠ "")
    {s : HttpProxies} {p : Nat} {cfg : HttpProxyConf}
    (hr : (∃ d ∈ cfg.customDomains, d ≠ "") ∨ cfg.subDomain ≠ "")
    (hok : (s.run env p cfg).2.2 = true) :
    (∃ k ∈ routeKeys env cfg, (s.run env p cfg).1.routes k = some p) ∧
      (s.run env p cfg).2.1 ≠ "" := by
  obtain ⟨k, ks, hks⟩ := List.exists_cons_of_ne_nil ((routeKeys_ne_nil_iff env cfg).mpr hr)
  have hk : k ∈ routeKeys env cfg := hks ▸ List.mem_cons_self k ks
  refine ⟨⟨k, hk, ?_⟩, ?_⟩
  · obtain ⟨pre, -, -, -, ⟨-, rfl, -, hroutes⟩ | ⟨hfail, -⟩⟩ := run_spec env s p cfg
    · simp [hroutes, hk]
    · rw [hok] at hfail; cases hfail
  · rw [run_remoteAddr hok, hks, List.map_cons]
    exact join_ne_empty (hc _ (domain_ne_empty_of_mem_routeKeys hk))

/-- `custom_domains = ,` passes the client's and the server's checks, and `Run` succeeds with
nothing registered and an empty `remoteAddr`. -/
theorem run_registers_nothing_for_empty_domains :
    let svr : SvrCheckEnv := { subDomainHost := "", vhostHttpPort := 80, vhostHttpsPort := 443 }
    let env : HttpEnv := { subDomainHost := "", vhostHttpPort := 80, canonicalAddr := fun d _ => d }
    let cfg : HttpProxyConf := {
      proxyName := "web", proxyType := "http", customDomains := ["", ""], locations := [""] }
    ((newProxyConfFromIni "" "web" (webSection ",")).toOption.bind fun c =>
        (newProxyConfFromMsg svr (ProxyConf.marshalToMsg {} c)).toOption) = some (.http cfg) ∧
    (HttpProxies.init.run env 0 cfg).2 = ("", true) ∧
    ∀ k, (HttpProxies.init.run env 0 cfg).1.routes k = none :=
  ⟨rfl, rfl, fun _ => rfl⟩

end Frp.Server

import Mathlib.Logic.Function.Basic

/-! The critical sections of the client `UdpProxy`: `Close`, and the two halves of `InWorkConn`,
run by any number of calls in any interleaving. -/
namespace Frp.Client

inductive Phase where
  | ready | closedOld | installed
  deriving DecidableEq

/-- The fields the critical sections touch. The triple `(workConn, readCh, sendCh)` installed
by call `t` is made by that call alone and is named by `t`; `current` is the call whose triple
the fields hold (`none`: all three nil). `closes t` counts the runs of `Close` that closed triple
`t` (its `workConn.Close()`, `close(readCh)` and `close(sendCh)`). -/
structure UdpProxy where
  closed : Bool
  current : Option Nat
  closes : Nat → Nat
  phase : Nat → Phase

def UdpProxy.init : UdpProxy := ⟨false, none, fun _ => 0, fun _ => .ready⟩

def UdpProxy.close (s : UdpProxy) : UdpProxy :=
  if s.closed then s
  else match s.current with
    | some t => { s with closed := true, closes := Function.update s.closes t (s.closes t + 1) }
    | none => { s with closed := true }

/-- One critical section. -/
inductive Step where
  | close
  | closeOld (t : Nat)
  | install (t : Nat)
  deriving DecidableEq

def UdpProxy.step (s : UdpProxy) : Step → Option UdpProxy
  | .close => some s.close
  | .closeOld t =>
    if s.phase t = .ready then some { s.close with phase := Function.update s.phase t .closedOld }
    else none
  | .install t =>
    if s.phase t = .closedOld then
      some { s with current := some t, closed := false,
                    phase := Function.update s.phase t .installed }
    else none

inductive Reachable : UdpProxy → Prop
  | init : Reachable UdpProxy.init
  | step {s s' : UdpProxy} {a : Step} : Reachable s → s.step a = some s' → Reachable s'

def UdpProxy.run (s : UdpProxy) : List Step → Option UdpProxy
  | [] => some s
  | a :: as => (s.step a).bind (·.run as)

theorem reachable_run (as : List Step) {s s' : UdpProxy} (hs : Reachable s)
    (h : s.run as = some s') : Reachable s' := by
  induction as generalizing s with
  | nil => cases h; exact hs
  | cons a as ih =>
    simp only [UdpProxy.run] at h
    cases hst : s.step a with
    | none => simp [hst] at h
    | some s₁ => exact ih (hs.step hst) (by simpa [hst] using h)

variable {s s' : UdpProxy} {a : Step}

@[simp] theorem UdpProxy.close_phase (s : UdpProxy) : s.close.phase = s.phase := by
  unfold UdpProxy.close; split; rfl; split <;> rfl

@[simp] theorem UdpProxy.close_current (s : UdpProxy) : s.close.current = s.current := by
  unfold UdpProxy.close; split; rfl; split <;> rfl

@[simp] theorem UdpProxy.close_closed (s : UdpProxy) : s.close.closed = true := by
  unfold UdpProxy.close; split; assumption; split <;> rfl

theorem UdpProxy.close_closes (s : UdpProxy) (t : Nat) :
    s.close.closes t =
      if s.closed = false ∧ s.current = some t then s.closes t + 1 else s.closes t := by
  unfold UdpProxy.close
  split
  · simp_all
  · split
    · rename_i c hc
      by_cases htc : t = c
      · subst htc; simp_all
      · simp_all [Function.update_apply, Ne.symm htc]
    · simp_all

/-- What every reachable state keeps: no triple is closed twice, only installed triples are
closed, and the current triple has been closed exactly when `closed` is set. -/
structure UdpProxy.Inv (s : UdpProxy) : Prop where
  closes_le : ∀ t, s.closes t ≤ 1
  installed_of_closes : ∀ t, 0 < s.closes t → s.phase t = .installed
  installed_of_current : ∀ t, s.current = some t → s.phase t = .installed
  current_closes : ∀ t, s.current = some t → (s.closes t = 1 ↔ s.closed = true)

theorem UdpProxy.Inv.close (h : s.Inv) : s.close.Inv := by
  have h0 : ∀ t, s.closed = false → s.current = some t → s.closes t = 0 := fun t hc ht => by
    have := h.closes_le t; have := h.current_closes t ht; simp_all; omega
  refine ⟨fun t => ?_, fun t ht => ?_, fun t ht => ?_, fun t ht => ?_⟩
  · rw [close_closes]
    split
    · rename_i hc; have := h0 t hc.1 hc.2; omega
    · exact h.closes_le t
  · rw [close_closes] at ht
    rw [close_phase]
    split at ht
    · rename_i hc; exact h.installed_of_current t hc.2
    · exact h.installed_of_closes t ht
  · simpa using h.installed_of_current t (by simpa using ht)
  · rw [close_current] at ht
    rw [close_closes, close_closed]
    cases hc : s.closed
    · simp [ht, h0 t hc ht]
    · simpa [hc] using h.current_closes t ht

theorem UdpProxy.Inv.step (h : s.Inv) (hs : s.step a = some s') : s'.Inv := by
  cases a with
  | close => cases hs; exact h.close
  | closeOld t =>
    simp only [UdpProxy.step] at hs
    split at hs
    · cases hs
      have hc := h.close
      refine ⟨hc.closes_le, fun u hu => ?_, fun u hu => ?_, hc.current_closes⟩
      · have := hc.installed_of_closes u hu
        by_cases hut : u = t <;> simp_all [Function.update_apply]
      · have := hc.installed_of_current u hu
        by_cases hut : u = t <;> simp_all [Function.update_apply]
    · cases hs
  | install t =>
    simp only [UdpProxy.step] at hs
    split at hs
    · cases hs
      have ht0 : s.closes t = 0 := by
        by_contra hne
        have := h.installed_of_closes t (by omega)
        simp_all
      refine ⟨h.closes_le, fun u hu => ?_, fun u hu => ?_, fun u hu => ?_⟩
      · by_cases hut : u = t
        · simp [hut, Function.update_apply]
        · simpa [hut, Function.update_apply] using h.installed_of_closes u hu
      · simp_all [Function.update_apply]
      · simp_all
    · cases hs

theorem Reachable.inv (h : Reachable s) : s.Inv := by
  induction h with
  | init => exact ⟨fun _ => by simp [UdpProxy.init], fun _ h => by simp [UdpProxy.init] at h,
      fun _ h => by simp [UdpProxy.init] at h, fun _ h => by simp [UdpProxy.init] at h⟩
  | step _ hs ih => exact ih.step hs

theorem UdpProxy.step_replaced {t : Nat} (ht : s.phase t = .installed) (hc : s.current ≠ some t)
    (hs : s.step a = some s') :
    s'.phase t = .installed ∧ s'.current ≠ some t ∧ s'.closes t = s.closes t := by
  have hcl : s.close.closes t = s.closes t := by rw [close_closes, if_neg fun hh => hc hh.2]
  cases a with
  | close => cases hs; exact ⟨by simpa using ht, by simpa using hc, hcl⟩
  | closeOld u =>
    simp only [UdpProxy.step] at hs
    split at hs
    · cases hs
      have hut : t ≠ u := by rintro rfl; simp_all
      exact ⟨by simpa [Function.update_apply, hut] using ht, by simpa using hc, hcl⟩
    · cases hs
  | install u =>
    simp only [UdpProxy.step] at hs
    split at hs
    · cases hs
      have hut : t ≠ u := by rintro rfl; simp_all
      exact ⟨by simpa [Function.update_apply, hut] using ht, by simpa using Ne.symm hut, rfl⟩
    · cases hs

theorem UdpProxy.run_replaced (as : List Step) {t : Nat} (ht : s.phase t = .installed)
    (hc : s.current ≠ some t) (h : s.run as = some s') : s'.closes t = s.closes t := by
  induction as generalizing s with
  | nil => cases h; rfl
  | cons a as ih =>
    simp only [UdpProxy.run] at h
    cases hst : s.step a with
    | none => simp [hst] at h
    | some s₁ =>
      obtain ⟨h1, h2, h3⟩ := step_replaced ht hc hst
      exact (ih h1 h2 (by simpa [hst] using h)).trans h3

/-- Two `InWorkConn` calls that both run `Close` before either installs: the first triple is
replaced while still open, and no later critical section closes it. -/
theorem inWorkConn_race_orphans_triple :
    ∃ s, Reachable s ∧ s.current = some 1 ∧ s.phase 0 = .installed ∧
      ∀ as s', s.run as = some s' → s'.closes 0 = 0 :=
  ⟨_, reachable_run [.closeOld 0, .closeOld 1, .install 0, .install 1] .init rfl, rfl, rfl,
    fun as _ h => UdpProxy.run_replaced as (by decide) (by decide) h⟩

/-- The steps of calls that do not overlap: a call runs its `Close` only while no other call
is between its `Close` and its install. -/
def Step.Serial (s : UdpProxy) : Step → Prop
  | .closeOld _ => ∀ u, s.phase u ≠ .closedOld
  | _ => True

inductive SerialReachable : UdpProxy → Prop
  | init : SerialReachable UdpProxy.init
  | step {s s' : UdpProxy} {a : Step} :
      SerialReachable s → a.Serial s → s.step a = some s' → SerialReachable s'

/-- What serialized calls keep on top of `Inv`: the one call between its halves finds `closed`
set, and every replaced triple has been closed. -/
structure UdpProxy.SerialInv (s : UdpProxy) : Prop where
  inv : s.Inv
  closed_of_closedOld : ∀ t, s.phase t = .closedOld → s.closed = true
  closedOld_unique : ∀ t u, s.phase t = .closedOld → s.phase u = .closedOld → t = u
  replaced_closed : ∀ t, s.phase t = .installed → s.current ≠ some t → s.closes t = 1

theorem UdpProxy.SerialInv.close (h : s.SerialInv) : s.close.SerialInv := by
  refine ⟨h.inv.close, fun t _ => s.close_closed,
    fun t u => by simpa using h.closedOld_unique t u, fun t ht hc => ?_⟩
  rw [close_phase] at ht
  rw [close_current] at hc
  rw [close_closes, if_neg fun hh => hc hh.2]
  exact h.replaced_closed t ht hc

theorem UdpProxy.SerialInv.step (h : s.SerialInv) (ha : a.Serial s) (hs : s.step a = some s') :
    s'.SerialInv := by
  cases a with
  | close => cases hs; exact h.close
  | closeOld t =>
    simp only [UdpProxy.step] at hs
    split at hs
    · cases hs
      have hc := h.close
      refine ⟨h.inv.step (a := .closeOld t) (by simp [UdpProxy.step, *]),
        fun _ _ => s.close_closed, fun u v hu hv => ?_, fun u hu hcur => ?_⟩
      · by_cases hut : u = t <;> by_cases hvt : v = t <;>
          simp_all [Function.update_apply, ha u, ha v]
      · have hut : u ≠ t := by rintro rfl; simp_all [Function.update_apply]
        exact hc.replaced_closed u (by simpa [Function.update_apply, hut] using hu) hcur
    · cases hs
  | install t =>
    simp only [UdpProxy.step] at hs
    split at hs
    · rename_i htc
      cases hs
      have hclosed := h.closed_of_closedOld t htc
      refine ⟨h.inv.step (a := .install t) (by simp [UdpProxy.step, htc]), fun u hu => ?_,
        fun u v hu hv => ?_, fun u hu hcur => ?_⟩
      · by_cases hut : u = t <;> simp_all [Function.update_apply]
        exact absurd (h.closedOld_unique u t hu htc) hut
      · by_cases hut : u = t <;> by_cases hvt : v = t <;> simp_all [Function.update_apply]
        exact absurd (h.closedOld_unique u t hu htc) hut
      · have hut : u ≠ t := fun e => hcur (by simp [e])
        have hu' : s.phase u = .installed := by simpa [Function.update_apply, hut] using hu
        rcases hcs : s.current with _ | c
        · exact h.replaced_closed u hu' (by simp [hcs])
        · by_cases huc : u = c
          · subst huc; exact (h.inv.current_closes u hcs).mpr hclosed
          · exact h.replaced_closed u hu' (by simpa [hcs] using Ne.symm huc)
    · cases hs

/-- When `InWorkConn` calls do not overlap, every triple that has been replaced has been
closed exactly once. -/
theorem serial_replaced_closed (h : SerialReachable s) :
    ∀ t, s.phase t = .installed → s.current ≠ some t → s.closes t = 1 := by
  suffices s.SerialInv from this.replaced_closed
  induction h with
  | init => exact ⟨Reachable.init.inv, fun _ h => by simp [UdpProxy.init] at h,
      fun _ _ h => by simp [UdpProxy.init] at h, fun _ h => by simp [UdpProxy.init] at h⟩
  | step _ ha hs ih => exact ih.step ha hs

theorem serial_replaced_closed_two :
    ∃ s, SerialReachable s ∧ s.phase 0 = .installed ∧ s.current = some 1 ∧ s.closes 0 = 1 := by
  have h1 := SerialReachable.step (a := .closeOld 0) .init (fun u => by simp [UdpProxy.init]) rfl
  have h2 := SerialReachable.step (a := .install 0) h1 trivial rfl
  have h3 := SerialReachable.step (a := .closeOld 1) h2 (fun u => by
    by_cases hu : u = 0 <;> simp [hu, Function.update_apply, UdpProxy.init, UdpProxy.close]) rfl
  have h4 := SerialReachable.step (a := .install 1) h3 trivial rfl
  exact ⟨_, h4, rfl, rfl, serial_replaced_closed h4 0 rfl (by decide)⟩

end Frp.Client

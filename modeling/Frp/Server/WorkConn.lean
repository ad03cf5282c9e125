import Frp.Config.Types
import Mathlib.Data.BitVec

/-! The server's user-session path: `GetWorkConnFromPool`, `HandleUserTcpConnection`, and
`HttpProxy.GetRealConn` with the close of what it returns. -/
namespace Frp.Server
open Frp.Config

inductive StatsType where
  | newClient | closeProxy | openConnection | closeConnection | addTrafficIn | addTrafficOut
  deriving DecidableEq

inductive Payload where
  | newClient
  | openConnection (proxyName : String)
  | closeConnection (proxyName : String)
  | addTrafficIn (proxyName : String) (trafficBytes : Int)
  | addTrafficOut (proxyName : String) (trafficBytes : Int)
  deriving DecidableEq

/-- What a session does, in order. Work connection `c` is the `c`-th answer of
`getWorkConnFn` in the session. -/
inductive Event where
  | drawn (c : Nat)
  | startWritten (c : Nat)
  | closed (c : Nat)
  | spliced (c : Nat)              -- frpIo.Join splices c with the user connection
  | handedBack (c : Option Nat)    -- GetRealConn returns a connection over c (none: over nil)
  | nilPanic                       -- a method called on a nil workConn
  | mark (type : StatsType) (payload : Payload)
  deriving DecidableEq

def Event.isDrawn : Event → Bool
  | .drawn _ => true
  | _ => false

def Event.conn? : Event → Option Nat
  | .drawn c | .startWritten c | .closed c | .spliced c => some c
  | .handedBack c => c
  | _ => none

/-- The world's answers during one `GetWorkConnFromPool`: whether the `i`-th call of
`getWorkConnFn` returns a connection (connection `i`) or an error, and whether writing
`StartWorkConn` on connection `i` succeeds. -/
structure PoolEnv where
  getOk : Nat → Bool
  writeOk : Nat → Bool

structure PoolResult where
  workConn : Option Nat
  failed : Bool
  events : List Event

/-- The loop of `GetWorkConnFromPool` from iteration `i` with `n` iterations left; `workConn`
is the named result as the previous iteration left it. The loop's `err :=` declares a new
`err`, so the named one stays nil after every successful `getWorkConnFn` call. -/
def poolLoop (e : PoolEnv) : Nat → Nat → Option Nat → PoolResult
  | _, 0, workConn => ⟨workConn, false, []⟩
  | i, n + 1, _ =>
    if e.getOk i then
      if e.writeOk i then ⟨some i, false, [.drawn i, .startWritten i]⟩
      else
        let r := poolLoop e (i + 1) n (some i)
        { r with events := .drawn i :: .closed i :: r.events }
    else ⟨none, true, []⟩

/-- The iterations of `for i := 0; i < pxy.poolCount+1; i++` on a 64-bit `int`. -/
def poolIterations (poolCount : BitVec 64) : Nat := (poolCount + 1).toInt.toNat

/-- `BaseProxy.GetWorkConnFromPool`. After the loop `err` is the named result, which no failed
write sets, so its `if err != nil` never fires. -/
def getWorkConnFromPool (poolCount : BitVec 64) (e : PoolEnv) : PoolResult :=
  poolLoop e 0 (poolIterations poolCount) none

structure TcpSessionEnv where
  pool : PoolEnv
  encryptionOk : Bool
  inCount : Int
  outCount : Int

/-- `HandleUserTcpConnection` for a proxy whose configuration is `cfg` (its name is the
proxy's name). `defer workConn.Close()` on a nil `workConn` panics. -/
def handleUserTcpConnection (cfg : BaseProxyConf) (poolCount : BitVec 64)
    (e : TcpSessionEnv) : List Event :=
  let r := getWorkConnFromPool poolCount e.pool
  if r.failed then r.events
  else match r.workConn with
    | none => r.events ++ [.nilPanic]
    | some c =>
      if cfg.useEncryption && !e.encryptionOk then r.events ++ [.closed c]
      else r.events ++
        [.mark .openConnection (.openConnection cfg.proxyName), .spliced c,
         .mark .closeConnection (.closeConnection cfg.proxyName),
         .mark .addTrafficIn (.addTrafficIn cfg.proxyName e.inCount),
         .mark .addTrafficOut (.addTrafficOut cfg.proxyName e.outCount), .closed c]

structure RealConn where
  workConn : Option (Option Nat)
  events : List Event

/-- `HttpProxy.GetRealConn`. On a failed encryption setup it returns the error and drops
`tmpConn` unclosed. -/
def getRealConn (cfg : HttpProxyConf) (poolCount : BitVec 64) (e : PoolEnv)
    (encryptionOk : Bool) : RealConn :=
  let r := getWorkConnFromPool poolCount e
  if r.failed then ⟨none, r.events⟩
  else if cfg.useEncryption && !encryptionOk then ⟨none, r.events⟩
  else ⟨some r.workConn, r.events ++
    [.mark .openConnection (.openConnection cfg.proxyName), .handedBack r.workConn]⟩

def updateStatsAfterClosedConn (name : String) (totalRead totalWrite : Int) : List Event :=
  [.mark .closeProxy (.closeConnection name),
   .mark .addTrafficIn (.addTrafficIn name totalWrite),
   .mark .addTrafficOut (.addTrafficOut name totalRead)]

/-- Modelled from the spec ("byte counts are accumulated per direction and reported via
callbacks on close"; `frpNet.WrapStatsConn` is outside src/): closing what `GetRealConn`
returned closes the work connection under it, then reports the totals through the callback. -/
def closeRealConn (name : String) (c : Option Nat) (totalRead totalWrite : Int) : List Event :=
  match c with
  | some c => .closed c :: updateStatsAfterClosedConn name totalRead totalWrite
  | none => [.nilPanic]

structure HttpSessionEnv where
  pool : PoolEnv
  encryptionOk : Bool
  totalRead : Int
  totalWrite : Int

/-- One user connection of an `HttpProxy`: `GetRealConn`, then the close of what it returned. -/
def httpUserConnection (cfg : HttpProxyConf) (poolCount : BitVec 64)
    (e : HttpSessionEnv) : List Event :=
  let r := getRealConn cfg poolCount e.pool e.encryptionOk
  match r.workConn with
  | some c => r.events ++ closeRealConn cfg.proxyName c e.totalRead e.totalWrite
  | none => r.events

variable {e : PoolEnv} {i n : Nat} {w : Option Nat}

theorem poolLoop_conn_ge {ev : Event} {c : Nat} (h : ev ∈ (poolLoop e i n w).events)
    (hc : ev.conn? = some c) : i ≤ c := by
  induction n generalizing i w with
  | zero => simp [poolLoop] at h
  | succ n ih =>
    simp only [poolLoop] at h
    split at h
    · split at h
      · simp only [List.mem_cons, List.mem_singleton, List.not_mem_nil, or_false] at h
        rcases h with rfl | rfl <;> simp_all [Event.conn?]
      · simp only [List.mem_cons] at h
        rcases h with rfl | rfl | h
        · simp_all [Event.conn?]
        · simp_all [Event.conn?]
        · exact Nat.le_of_succ_le (ih h)
    · simp at h

theorem not_mem_poolLoop_of_lt {ev : Event} {c : Nat} (hc : ev.conn? = some c) (hlt : c < i) :
    ev ∉ (poolLoop e i n w).events := fun h => absurd (poolLoop_conn_ge h hc) (by omega)

theorem poolLoop_of_written {c : Nat} (h : .startWritten c ∈ (poolLoop e i n w).events) :
    (poolLoop e i n w).workConn = some c ∧ (poolLoop e i n w).failed = false ∧
      .drawn c ∈ (poolLoop e i n w).events ∧
      ∀ d, .drawn d ∈ (poolLoop e i n w).events →
        (poolLoop e i n w).events.count (.closed d) = if d = c then 0 else 1 := by
  induction n generalizing i w with
  | zero => simp [poolLoop] at h
  | succ n ih =>
    simp only [poolLoop] at h ⊢
    split at h
    · rename_i hget
      simp only [hget, if_true]
      split at h
      · rename_i hwr
        simp only [List.mem_cons, List.mem_singleton, reduceCtorEq, Event.startWritten.injEq,
          false_or, List.not_mem_nil, or_false] at h
        subst h
        simp [hwr]
      · rename_i hwr
        simp only [hwr]
        simp only [List.mem_cons, reduceCtorEq, false_or] at h
        obtain ⟨h1, h2, h3, h4⟩ := ih h
        have hci : i < c := poolLoop_conn_ge h rfl
        refine ⟨h1, h2, by simp [h3], fun d hd => ?_⟩
        have hd : d = i ∨ .drawn d ∈ (poolLoop e (i + 1) n (some i)).events := by simpa using hd
        rcases hd with hd | hd
        · subst hd
          have : Event.closed d ∉ (poolLoop e (d + 1) n (some d)).events :=
            not_mem_poolLoop_of_lt rfl (by omega)
          simp [List.count_cons, List.count_eq_zero_of_not_mem this, show d ≠ c by omega]
        · have hid : i ≠ d := by have := poolLoop_conn_ge hd rfl; omega
          simp [List.count_cons, h4 d hd, hid]
    · simp at h

theorem poolLoop_event {ev : Event} (h : ev ∈ (poolLoop e i n w).events) :
    ∃ c, ev = .drawn c ∨ ev = .startWritten c ∨ ev = .closed c := by
  induction n generalizing i w with
  | zero => simp [poolLoop] at h
  | succ n ih =>
    simp only [poolLoop] at h
    split at h
    · split at h
      · simp only [List.mem_cons, List.mem_singleton, List.not_mem_nil, or_false] at h
        rcases h with rfl | rfl <;> exact ⟨i, by simp⟩
      · simp only [List.mem_cons] at h
        rcases h with rfl | rfl | h
        · exact ⟨i, by simp⟩
        · exact ⟨i, by simp⟩
        · exact ih h
    · simp at h

theorem poolLoop_failed_eq (hget : ∀ j, e.getOk j = true) :
    (poolLoop e i n w).failed = false := by
  induction n generalizing i w with
  | zero => rfl
  | succ n ih => simp only [poolLoop, hget, if_true]; split <;> simp [ih]

theorem poolLoop_of_unwritten (hget : ∀ j, e.getOk j = true) (hwr : ∀ j, e.writeOk j = false) :
    ∃ c, (poolLoop e i (n + 1) w).workConn = some c ∧
      (poolLoop e i (n + 1) w).events.count (.closed c) = 1 := by
  induction n generalizing i w with
  | zero => exact ⟨i, by simp [poolLoop, hget, hwr]⟩
  | succ n ih =>
    obtain ⟨c, h1, h2⟩ := ih (i := i + 1) (w := some i)
    have hmem : Event.closed c ∈ (poolLoop e (i + 1) (n + 1) (some i)).events :=
      List.count_pos_iff.mp (by omega)
    have hic : i ≠ c := by have := poolLoop_conn_ge hmem rfl; omega
    refine ⟨c, by simpa [poolLoop, hget, hwr] using h1, ?_⟩
    rw [poolLoop]
    simpa [hget, hwr, List.count_cons, hic] using h2

theorem poolIterations_eq (p : BitVec 64) :
    (poolIterations p : Int) = if p.toInt < 0 ∨ p.toInt = 2 ^ 63 - 1 then 0 else p.toInt + 1 := by
  have := p.isLt
  have h1 : (1 : BitVec 64).toNat = 1 := rfl
  rw [poolIterations, BitVec.toInt_eq_toNat_cond, BitVec.toInt_eq_toNat_cond, BitVec.toNat_add, h1]
  split <;> split <;> split <;> omega

theorem drawCount_poolLoop : (poolLoop e i n w).events.countP Event.isDrawn ≤ n := by
  induction n generalizing i w with
  | zero => simp [poolLoop]
  | succ n ih =>
    simp only [poolLoop]
    split
    · split
      · simp [Event.isDrawn]
      · simpa [Event.isDrawn] using ih (i := i + 1) (w := some i)
    · simp

theorem drawn_mem_poolLoop {c : Nat} :
    Event.drawn c ∈ (poolLoop e i n w).events ↔
      i ≤ c ∧ c < i + n ∧ e.getOk c = true ∧
        ∀ j, i ≤ j → j < c → e.getOk j = true ∧ e.writeOk j = false := by
  induction n generalizing i w with
  | zero => simp [poolLoop]; omega
  | succ n ih =>
    simp only [poolLoop]
    by_cases hg : e.getOk i = true
    · by_cases hw : e.writeOk i = true
      · simp only [hg, hw, if_true, List.mem_cons, Event.drawn.injEq, reduceCtorEq,
          List.not_mem_nil, or_false]
        constructor
        · rintro rfl; exact ⟨le_rfl, by omega, hg, fun j h1 h2 => by omega⟩
        · rintro ⟨h1, -, -, hj⟩
          by_contra hne
          exact absurd hw (by simp [(hj i le_rfl (by omega)).2])
      · simp only [hg, hw, if_true, Bool.false_eq_true, if_false, List.mem_cons,
          Event.drawn.injEq, reduceCtorEq, false_or, ih]
        constructor
        · rintro (rfl | ⟨h1, h2, h3, hj⟩)
          · exact ⟨le_rfl, by omega, hg, fun j h1 h2 => by omega⟩
          · refine ⟨by omega, by omega, h3, fun j hj1 hj2 => ?_⟩
            rcases eq_or_lt_of_le hj1 with rfl | hj1
            · exact ⟨hg, by simpa using hw⟩
            · exact hj j hj1 hj2
        · rintro ⟨h1, h2, h3, hj⟩
          rcases eq_or_lt_of_le h1 with rfl | h1
          · exact .inl rfl
          · exact .inr ⟨h1, by omega, h3, fun j hj1 hj2 => hj j (by omega) hj2⟩
    · simp only [hg, Bool.false_eq_true, if_false, List.not_mem_nil, false_iff, not_and]
      intro h1 _ h3 hj
      rcases eq_or_lt_of_le h1 with rfl | h1
      · exact hg h3
      · exact hg (hj i le_rfl h1).1

/-- A session draws connection `c` exactly when `c` is below the loop's iteration count, the
`c`-th call of `getWorkConnFn` succeeds, and every earlier call drew a connection whose
`StartWorkConn` write failed. So it draws at most one connection per iteration: `poolCount + 1`,
one at `poolCount = 0`, and none when `poolCount` is negative or `MaxInt64`. -/
theorem drawCount_getWorkConnFromPool (p : BitVec 64) (e : PoolEnv) :
    (∀ c, Event.drawn c ∈ (getWorkConnFromPool p e).events ↔
      c < poolIterations p ∧ e.getOk c = true ∧
        ∀ j < c, e.getOk j = true ∧ e.writeOk j = false) ∧
    (getWorkConnFromPool p e).events.countP Event.isDrawn ≤ poolIterations p ∧
    (poolIterations p : Int) = if p.toInt < 0 ∨ p.toInt = 2 ^ 63 - 1 then 0 else p.toInt + 1 :=
  ⟨fun c => by simp [getWorkConnFromPool, drawn_mem_poolLoop], drawCount_poolLoop,
    poolIterations_eq p⟩

theorem spliced_not_mem_poolLoop (d : Nat) : Event.spliced d ∉ (poolLoop e i n w).events :=
  fun h => by obtain ⟨c, hc | hc | hc⟩ := poolLoop_event h <;> cases hc

variable {cfg : BaseProxyConf} {p : BitVec 64} {te : TcpSessionEnv} {c : Nat}

theorem handleUserTcpConnection_of_written
    (hw : .startWritten c ∈ (getWorkConnFromPool p te.pool).events) :
    (∀ d, .drawn d ∈ handleUserTcpConnection cfg p te →
      (handleUserTcpConnection cfg p te).count (.closed d) = 1) ∧
    ∀ d, .spliced d ∈ handleUserTcpConnection cfg p te → d = c := by
  obtain ⟨h1, h2, -, h4⟩ := poolLoop_of_written hw
  have hs := spliced_not_mem_poolLoop (e := te.pool) (i := 0) (n := poolIterations p) (w := none)
  unfold handleUserTcpConnection
  simp only [getWorkConnFromPool] at h1 h2 h4 ⊢
  simp only [h1, h2, Bool.false_eq_true, if_false]
  have hcnt : ∀ d, Event.drawn d ∈ (poolLoop te.pool 0 (poolIterations p) none).events →
      ((poolLoop te.pool 0 (poolIterations p) none).events ++ [Event.closed c]).count
        (Event.closed d) = 1 := by
    intro d hd
    rcases eq_or_ne d c with rfl | hdc <;> simp [h4 _ hd, *]
  split
  · exact ⟨fun d hd => hcnt d (by simpa using hd), fun d hd => by simp [hs] at hd⟩
  · refine ⟨fun d hd => ?_, fun d hd => by simpa [hs] using hd⟩
    have := hcnt d (by simpa using hd)
    simpa [List.count_cons] using this

theorem handleUserTcpConnection_of_unwritten (hn : 0 < poolIterations p)
    (hget : ∀ j, te.pool.getOk j = true) (hwr : ∀ j, te.pool.writeOk j = false)
    (henc : cfg.useEncryption = true → te.encryptionOk = true) :
    ∃ c, .spliced c ∈ handleUserTcpConnection cfg p te ∧
      (handleUserTcpConnection cfg p te).count (.closed c) = 2 := by
  obtain ⟨n, hn'⟩ : ∃ n, poolIterations p = n + 1 :=
    ⟨_, (Nat.succ_pred_eq_of_pos hn).symm⟩
  obtain ⟨c, h1, h2⟩ := poolLoop_of_unwritten (i := 0) (n := n) (w := none) hget hwr
  have hf := poolLoop_failed_eq (i := 0) (n := n + 1) (w := none) hget
  have he : (cfg.useEncryption && !te.encryptionOk) = false := by
    cases h : cfg.useEncryption <;> simp_all
  refine ⟨c, ?_⟩
  unfold handleUserTcpConnection getWorkConnFromPool
  simp only [hn', h1, hf, he, Bool.false_eq_true, if_false]
  simp [h2]

theorem handleUserTcpConnection_splices_closed_conn :
    handleUserTcpConnection { proxyName := "ssh" } 0 ⟨⟨fun _ => true, fun _ => false⟩, true, 0, 0⟩ =
      [.drawn 0, .closed 0, .mark .openConnection (.openConnection "ssh"), .spliced 0,
       .mark .closeConnection (.closeConnection "ssh"),
       .mark .addTrafficIn (.addTrafficIn "ssh" 0),
       .mark .addTrafficOut (.addTrafficOut "ssh" 0), .closed 0] := by
  decide

variable {hc : HttpProxyConf} {he : HttpSessionEnv}

theorem httpUserConnection_of_written
    (hw : .startWritten c ∈ (getWorkConnFromPool p he.pool).events)
    (henc : hc.useEncryption = true → he.encryptionOk = true) :
    .handedBack (some c) ∈ httpUserConnection hc p he ∧
      ∀ d, .drawn d ∈ httpUserConnection hc p he →
        (httpUserConnection hc p he).count (.closed d) = 1 := by
  obtain ⟨h1, h2, -, h4⟩ := poolLoop_of_written hw
  have he' : (hc.useEncryption && !he.encryptionOk) = false := by
    cases h : hc.useEncryption <;> simp_all
  unfold httpUserConnection getRealConn closeRealConn updateStatsAfterClosedConn
  simp only [getWorkConnFromPool] at h1 h2 h4 ⊢
  simp only [h1, h2, he', Bool.false_eq_true, if_false]
  refine ⟨by simp, fun d hd => ?_⟩
  have hd' : Event.drawn d ∈ (poolLoop he.pool 0 (poolIterations p) none).events := by
    simpa using hd
  rcases eq_or_ne d c with rfl | hdc <;> simp [h4 _ hd', *]

/-- When the encryption layer cannot be set up, `GetRealConn` drops the connection it drew
and wrote `StartWorkConn` to: that connection is never closed. -/
theorem httpUserConnection_leaks
    (hw : .startWritten c ∈ (getWorkConnFromPool p he.pool).events)
    (henc : hc.useEncryption = true) (hfail : he.encryptionOk = false) :
    .drawn c ∈ httpUserConnection hc p he ∧
      (httpUserConnection hc p he).count (.closed c) = 0 := by
  obtain ⟨h1, h2, h3, h4⟩ := poolLoop_of_written hw
  unfold httpUserConnection getRealConn
  simp only [getWorkConnFromPool] at h1 h2 h3 h4 ⊢
  simp only [h2, henc, hfail, Bool.false_eq_true, if_false, Bool.not_false, Bool.and_self, if_true]
  exact ⟨h3, by simpa using h4 c h3⟩

theorem httpUserConnection_leaks_first :
    let hc : HttpProxyConf := { proxyName := "web", useEncryption := true }
    let he : HttpSessionEnv := ⟨⟨fun _ => true, fun _ => true⟩, false, 0, 0⟩
    (Event.startWritten 0 ∈ (getWorkConnFromPool 0 he.pool).events ∧ hc.useEncryption = true ∧
      he.encryptionOk = false) ∧
    Event.drawn 0 ∈ httpUserConnection hc 0 he ∧ (httpUserConnection hc 0 he).count (.closed 0) = 0 :=
  ⟨⟨by decide, rfl, rfl⟩, httpUserConnection_leaks (by decide) rfl rfl⟩

def Event.mark? : Event → Option (StatsType × Payload)
  | .mark t p => some (t, p)
  | _ => none

def marks (evs : List Event) : List (StatsType × Payload) := evs.filterMap Event.mark?

def markCount (t : StatsType) (evs : List Event) : Nat := (marks evs).countP (·.1 = t)

@[simp] theorem marks_append (l l' : List Event) : marks (l ++ l') = marks l ++ marks l' :=
  List.filterMap_append _ _ _

theorem marks_poolLoop : marks (poolLoop e i n w).events = [] := by
  refine List.filterMap_eq_nil_iff.mpr fun ev h => ?_
  obtain ⟨c, rfl | rfl | rfl⟩ := poolLoop_event h <;> rfl

theorem marks_handleUserTcpConnection :
    (marks (handleUserTcpConnection cfg p te) = [] ∧
      ∀ c, .spliced c ∉ handleUserTcpConnection cfg p te) ∨
    (marks (handleUserTcpConnection cfg p te) =
      [(.openConnection, .openConnection cfg.proxyName),
       (.closeConnection, .closeConnection cfg.proxyName),
       (.addTrafficIn, .addTrafficIn cfg.proxyName te.inCount),
       (.addTrafficOut, .addTrafficOut cfg.proxyName te.outCount)] ∧
      ∃ c, .spliced c ∈ handleUserTcpConnection cfg p te) := by
  have hs : ∀ d, Event.spliced d ∉ (getWorkConnFromPool p te.pool).events :=
    spliced_not_mem_poolLoop
  have hm : marks (getWorkConnFromPool p te.pool).events = [] := marks_poolLoop
  simp only [handleUserTcpConnection]
  split_ifs
  · exact .inl ⟨hm, hs⟩
  -- every branch but the splice adds no mark and splices nothing
  all_goals split
  all_goals first
    | exact .inl ⟨by rw [marks_append, hm]; rfl, by simpa using hs⟩
    | exact .inr ⟨by rw [marks_append, hm]; rfl, by simp⟩

theorem marks_getRealConn (cfg : HttpProxyConf) (poolCount : BitVec 64) (pool : PoolEnv)
    (ok : Bool) :
    marks (getRealConn cfg poolCount pool ok).events = [] ∧
      (getRealConn cfg poolCount pool ok).workConn = none ∨
    marks (getRealConn cfg poolCount pool ok).events =
        [(.openConnection, .openConnection cfg.proxyName)] ∧
      (getRealConn cfg poolCount pool ok).workConn.isSome := by
  have hm : marks (getWorkConnFromPool poolCount pool).events = [] := marks_poolLoop
  simp only [getRealConn]
  split_ifs
  · exact .inl ⟨hm, rfl⟩
  · exact .inl ⟨hm, rfl⟩
  · exact .inr ⟨by rw [marks_append, hm]; rfl, rfl⟩

theorem marks_httpUserConnection :
    marks (httpUserConnection hc p he) = [] ∨
    marks (httpUserConnection hc p he) = [(.openConnection, .openConnection hc.proxyName)] ∨
    marks (httpUserConnection hc p he) =
      [(.openConnection, .openConnection hc.proxyName),
       (.closeProxy, .closeConnection hc.proxyName),
       (.addTrafficIn, .addTrafficIn hc.proxyName he.totalWrite),
       (.addTrafficOut, .addTrafficOut hc.proxyName he.totalRead)] := by
  unfold httpUserConnection
  rcases marks_getRealConn hc p he.pool he.encryptionOk with ⟨h1, h2⟩ | ⟨h1, h2⟩
  · simp [h1, h2]
  · obtain ⟨c, hc'⟩ := Option.isSome_iff_exists.mp h2
    simp only [hc', marks_append, h1]
    cases c
    · exact .inr (.inl rfl)
    · exact .inr (.inr rfl)

def tcpRun (cfg : BaseProxyConf) (p : BitVec 64) (sessions : List TcpSessionEnv) : List Event :=
  sessions.flatMap (handleUserTcpConnection cfg p)

def httpRun (hc : HttpProxyConf) (p : BitVec 64) (sessions : List HttpSessionEnv) : List Event :=
  sessions.flatMap (httpUserConnection hc p)

/-- Over every run of a TCP-style proxy, the `CloseConnection` marks match the
`OpenConnection` marks one for one and no `CloseProxy` mark is made. -/
theorem markCount_tcpRun (ss : List TcpSessionEnv) :
    markCount .closeConnection (tcpRun cfg p ss) = markCount .openConnection (tcpRun cfg p ss) ∧
      markCount .closeProxy (tcpRun cfg p ss) = 0 := by
  induction ss with
  | nil => simp [tcpRun, markCount, marks]
  | cons s ss ih =>
    simp only [tcpRun, markCount, List.flatMap_cons, marks_append, List.countP_append] at ih ⊢
    rcases @marks_handleUserTcpConnection cfg p s with ⟨h, -⟩ | ⟨h, -⟩ <;>
      simp [h, ih]

/-- Over every run of an `HttpProxy`, no `CloseConnection` mark is made: each connection's
close is marked `CloseProxy`. -/
theorem markCount_httpRun (ss : List HttpSessionEnv) :
    markCount .closeConnection (httpRun hc p ss) = 0 ∧
      markCount .closeProxy (httpRun hc p ss) ≤ markCount .openConnection (httpRun hc p ss) := by
  induction ss with
  | nil => simp [httpRun, markCount, marks]
  | cons s ss ih =>
    simp only [httpRun, markCount, List.flatMap_cons, marks_append, List.countP_append] at ih ⊢
    rcases @marks_httpUserConnection p hc s with h | h | h <;>
      simp only [h, ih] <;> simp <;> omega

theorem httpUserConnection_marks_closeProxy :
    marks (httpUserConnection { proxyName := "web" } 0 ⟨⟨fun _ => true, fun _ => true⟩, true, 3, 4⟩) =
      [(.openConnection, .openConnection "web"), (.closeProxy, .closeConnection "web"),
       (.addTrafficIn, .addTrafficIn "web" 4), (.addTrafficOut, .addTrafficOut "web" 3)] := by
  decide

end Frp.Server

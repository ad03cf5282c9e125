import Frp.Server.Login
import Mathlib.Logic.Function.Basic

/-! The `dealFn` goroutines of `Service.HandleListener`, which with `TcpMux` share one `err`
across the streams of a session. -/
namespace Frp.Server

structure NewVisitorConn where
  proxyName : String
  signKey : String
  timestamp : Int
  useEncryption : Bool
  useCompression : Bool
  deriving DecidableEq

inductive Message where
  | login (m : Login)
  | newWorkConn (runId : String)
  | newVisitorConn (m : NewVisitorConn)
  | other
  deriving DecidableEq

inductive ConnEvent where
  | closed
  | loginResp (error : String)
  | controlCreated (reg : Registration)
  | workConnRegistered (runId : String)
  | visitorConnResp (proxyName error : String)
  | panicked  -- err.Error() on a nil err: the server process ends
  deriving DecidableEq

/-- The functions `dealFn` reaches outside src/: what those of `RegisterControl` answer on stream
`g` (`login g`, each call with its own `RandId` draw), `ctlManager.GetById`, and
`VisitorManager.NewConn` (its error, `none` for nil). -/
structure ListenerEnv where
  login : Nat → LoginEnv
  conf : SvrLoginConf
  now : Int
  ctlExists : String → Bool
  newVisitorConn : NewVisitorConn → Option String

/-- `Service.RegisterWorkConn`: the connection joins the pool of the control of its run id;
with no such control it is left as it is, neither registered nor closed. -/
def registerWorkConn (env : ListenerEnv) (runId : String) : List ConnEvent :=
  if env.ctlExists runId then [.workConnRegistered runId] else []

/-- Where a `dealFn` goroutine is: before the statement that next touches `err`, with the locals
it needs. -/
inductive Pc where
  | readMsg                                    -- rawMsg, err = msg.ReadMsg(conn)
  | checkRead (rawMsg : Option Message)        -- if err != nil, then the switch
  | registerControl (m : Login)                -- err = svr.RegisterControl(conn, m)
  | checkLogin                                 -- if err != nil
  | loginResp                                  -- LoginResp{Error: err.Error()}
  | registerVisitorConn (m : NewVisitorConn)   -- err = svr.RegisterVisitorConn(conn, m)
  | checkVisitor (m : NewVisitorConn)          -- if err != nil
  | visitorResp (m : NewVisitorConn)           -- NewVisitorConnResp{Error: err.Error()}
  | exit
  deriving DecidableEq

/-- The `dealFn` goroutines of one session: the `err` they share, whether the process has
panicked, each stream's position, and what the server did with each stream (stream, event). -/
structure DealState where
  err : Option String
  crashed : Bool
  pcs : Nat → Pc
  log : List (Nat × ConnEvent)

/-- Before any stream is read: `err` is nil, since the TLS check before the goroutine succeeded. -/
def DealState.init : DealState := ⟨none, false, fun _ => .readMsg, []⟩

def DealState.step (env : ListenerEnv) (reads : Nat → Except String Message) (s : DealState)
    (g : Nat) : DealState :=
  if s.crashed then s
  else
    let next (pc : Pc) (evs : List ConnEvent) : DealState :=
      { s with pcs := Function.update s.pcs g pc, log := s.log ++ evs.map (g, ·) }
    match s.pcs g with
    | .readMsg =>
      match reads g with
      | .error e => { next (.checkRead none) [] with err := some e }
      | .ok m => { next (.checkRead (some m)) [] with err := none }
    | .checkRead rawMsg =>
      if s.err.isSome then next .exit [.closed]
      else
        match rawMsg with
        | some (.login m) => next (.registerControl m) []
        | some (.newWorkConn runId) => next .exit (registerWorkConn env runId)
        | some (.newVisitorConn m) => next (.registerVisitorConn m) []
        | _ => next .exit [.closed]
    | .registerControl m =>
      match registerControl (env.login g) env.conf env.now m with
      | .ok reg => { next .checkLogin [.controlCreated reg] with err := none }
      | .error e => { next .checkLogin [] with err := some e }
    | .checkLogin => if s.err.isSome then next .loginResp [] else next .exit []
    | .loginResp =>
      match s.err with
      | some e => next .exit [.loginResp e, .closed]
      | none => { next .exit [.panicked] with crashed := true }
    | .registerVisitorConn m => { next (.checkVisitor m) [] with err := env.newVisitorConn m }
    | .checkVisitor m =>
      if s.err.isSome then next (.visitorResp m) []
      else next .exit [.visitorConnResp m.proxyName ""]
    | .visitorResp m =>
      match s.err with
      | some e => next .exit [.visitorConnResp m.proxyName e, .closed]
      | none => { next .exit [.panicked] with crashed := true }
    | .exit => s

def DealState.run (env : ListenerEnv) (reads : Nat → Except String Message) :
    List Nat → DealState → DealState
  | [], s => s
  | g :: gs, s => run env reads gs (s.step env reads g)

/-- What `dealFn` does with a connection whose message read returned `read`, when no other
goroutine touches `err`. -/
def dealAlone (env : ListenerEnv) (g : Nat) : Except String Message → List ConnEvent
  | .error _ => [.closed]
  | .ok (.login m) =>
    match registerControl (env.login g) env.conf env.now m with
    | .ok reg => [.controlCreated reg]
    | .error e => [.loginResp e, .closed]
  | .ok (.newWorkConn runId) => registerWorkConn env runId
  | .ok (.newVisitorConn m) =>
    match env.newVisitorConn m with
    | none => [.visitorConnResp m.proxyName ""]
    | some e => [.visitorConnResp m.proxyName e, .closed]
  | .ok .other => [.closed]

section
variable {env : ListenerEnv} {reads : Nat → Except String Message}

theorem DealState.run_append (u v : List Nat) (s : DealState) :
    DealState.run env reads (u ++ v) s = DealState.run env reads v (DealState.run env reads u s) := by
  induction u generalizing s with
  | nil => rfl
  | cons g gs ih => exact ih _

theorem DealState.step_of_exit {s : DealState} {g : Nat} (h : s.pcs g = .exit ∨ s.crashed) :
    s.step env reads g = s := by
  unfold DealState.step
  rcases h with h | h
  · split
    · rfl
    · rw [h]
  · rw [if_pos h]

theorem DealState.run_replicate_of_exit {s : DealState} {g : Nat} (h : s.pcs g = .exit ∨ s.crashed)
    (k : Nat) : DealState.run env reads (List.replicate k g) s = s := by
  induction k with
  | zero => rfl
  | succ k ih => rw [List.replicate_succ, DealState.run, DealState.step_of_exit h, ih]

theorem DealState.run_alone {s : DealState} {g : Nat} (hs : s.crashed = false)
    (hg : s.pcs g = .readMsg) :
    let t := DealState.run env reads (List.replicate 5 g) s
    t.log = s.log ++ (dealAlone env g (reads g)).map (g, ·) ∧ (t.pcs g = .exit ∨ t.crashed) := by
  rcases hr : reads g with e | ((m | runId | m | _))
  · simp [DealState.run, DealState.step, hs, hg, hr, dealAlone]
  · rcases hc : registerControl (env.login g) env.conf env.now m with e | reg <;>
      simp [DealState.run, DealState.step, hs, hg, hr, hc, dealAlone]
  · simp [DealState.run, DealState.step, hs, hg, hr, dealAlone]
  · rcases hv : env.newVisitorConn m with _ | e <;>
      simp [DealState.run, DealState.step, hs, hg, hr, hv, dealAlone]
  · simp [DealState.run, DealState.step, hs, hg, hr, dealAlone]

theorem DealState.run_init_alone (g : Nat) :
    (DealState.init.run env reads (List.replicate 5 g)).log =
      (dealAlone env g (reads g)).map (g, ·) := by
  simpa using (@DealState.run_alone env reads .init g rfl rfl).1

theorem DealState.step_shape (s : DealState) (g : Nat) :
    (s.step env reads g).pcs = Function.update s.pcs g ((s.step env reads g).pcs g) ∧
      ∃ evs : List ConnEvent, (s.step env reads g).log = s.log ++ evs.map (g, ·) := by
  unfold DealState.step
  split
  · exact ⟨(Function.update_eq_self g s.pcs).symm, [], by simp⟩
  repeat' split
  all_goals first
    | exact ⟨(Function.update_eq_self g s.pcs).symm, [], by simp⟩
    | exact ⟨by simp, _, rfl⟩

def eventsOf (log : List (Nat × ConnEvent)) (g : Nat) : List ConnEvent :=
  log.filterMap fun p => if p.1 = g then some p.2 else none

@[simp] theorem eventsOf_append (l l' : List (Nat × ConnEvent)) (g : Nat) :
    eventsOf (l ++ l') g = eventsOf l g ++ eventsOf l' g := List.filterMap_append _ _ _

theorem eventsOf_map (evs : List ConnEvent) (g h : Nat) :
    eventsOf (evs.map (h, ·)) g = if h = g then evs else [] := by
  induction evs with
  | nil => split <;> rfl
  | cons ev evs ih => by_cases hg : h = g <;> simp_all [eventsOf]

theorem DealState.step_frame {s : DealState} {g g' : Nat} (hg : g' ≠ g) :
    (s.step env reads g').pcs g = s.pcs g ∧
      eventsOf (s.step env reads g').log g = eventsOf s.log g := by
  obtain ⟨hp, evs, hl⟩ := @DealState.step_shape env reads s g'
  rw [hp, Function.update_noteq hg.symm, hl, eventsOf_append, eventsOf_map, if_neg hg,
    List.append_nil]
  exact ⟨rfl, rfl⟩

def Accepted (env : ListenerEnv) (g : Nat) (m : Message) : Prop :=
  (∀ lm, m = .login lm → ∃ reg, registerControl (env.login g) env.conf env.now lm = .ok reg) ∧
    ∀ vm, m = .newVisitorConn vm → env.newVisitorConn vm = none

/-- No statement can write an error into `err`: every read returns a message, and every login
and visitor connection is accepted. -/
def NoErrors (env : ListenerEnv) (reads : Nat → Except String Message) : Prop :=
  ∀ g, ∃ m, reads g = .ok m ∧ Accepted env g m

/-- The positions a goroutine can reach when no error is ever written: never a check that found
one, nor a registration that would write one. -/
def Pc.Calm (env : ListenerEnv) (g : Nat) : Pc → Prop
  | .checkRead (some m) => Accepted env g m
  | .checkRead none | .loginResp | .visitorResp _ => False
  | .registerControl m => Accepted env g (.login m)
  | .registerVisitorConn m => Accepted env g (.newVisitorConn m)
  | _ => True

def DealState.Calm (env : ListenerEnv) (s : DealState) : Prop :=
  s.err = none ∧ s.crashed = false ∧ ∀ g, (s.pcs g).Calm env g

theorem DealState.calm_init : DealState.init.Calm env := ⟨rfl, rfl, fun _ => trivial⟩

theorem DealState.step_calm (hn : NoErrors env reads) {s : DealState} (hs : s.Calm env)
    (g : Nat) : (s.step env reads g).Calm env := by
  obtain ⟨he, hc, hp⟩ := hs
  have hpg := hp g
  have hup : ∀ pc, pc.Calm env g → ∀ h, ((Function.update s.pcs g pc) h).Calm env h :=
      fun pc hpc h => by
    by_cases hh : h = g
    · subst hh; rwa [Function.update_same]
    · rw [Function.update_noteq hh]; exact hp h
  unfold DealState.step
  rw [if_neg (by simp [hc])]
  generalize hq : s.pcs g = q at hpg
  cases q with
  | readMsg =>
    obtain ⟨m, hr, ha⟩ := hn g
    simp only [hr]
    exact ⟨rfl, hc, hup _ ha⟩
  | checkRead rawMsg =>
    rcases rawMsg with _ | ((m | runId | m | _))
    · exact hpg.elim
    all_goals simp only [he, Option.isSome_none, Bool.false_eq_true, if_false]
    · exact ⟨rfl, hc, hup _ hpg⟩
    · exact ⟨rfl, hc, hup _ trivial⟩
    · exact ⟨rfl, hc, hup _ hpg⟩
    · exact ⟨rfl, hc, hup _ trivial⟩
  | registerControl m =>
    obtain ⟨reg, hreg⟩ := hpg.1 m rfl
    simp only [hreg]
    exact ⟨rfl, hc, hup _ trivial⟩
  | checkLogin =>
    simp only [he, Option.isSome_none, Bool.false_eq_true, if_false]
    exact ⟨rfl, hc, hup _ trivial⟩
  | loginResp => exact hpg.elim
  | registerVisitorConn m => exact ⟨hpg.2 m rfl, hc, hup _ trivial⟩
  | checkVisitor m =>
    simp only [he, Option.isSome_none, Bool.false_eq_true, if_false]
    exact ⟨rfl, hc, hup _ trivial⟩
  | visitorResp m => exact hpg.elim
  | exit => exact ⟨he, hc, hp⟩

theorem DealState.step_local {s t : DealState} (hs : s.Calm env) (ht : t.Calm env) {g : Nat}
    (hg : s.pcs g = t.pcs g) :
    (s.step env reads g).pcs g = (t.step env reads g).pcs g ∧ ∃ evs : List ConnEvent,
      (s.step env reads g).log = s.log ++ evs.map (g, ·) ∧
        (t.step env reads g).log = t.log ++ evs.map (g, ·) := by
  obtain ⟨hse, hsc, -⟩ := hs
  obtain ⟨hte, htc, -⟩ := ht
  unfold DealState.step
  rw [if_neg (by simp [hsc]), if_neg (by simp [htc]), hg, hse, hte]
  generalize hq : t.pcs g = q at hg
  cases q <;> dsimp only <;>
    (try simp only [Option.isSome_none, Bool.false_eq_true, ↓reduceIte]) <;> (repeat' split) <;>
    first
    | (refine ⟨?_, _, rfl, rfl⟩; simp)
    | (refine ⟨?_, [], ?_, ?_⟩ <;> simp [hg, hq])

theorem DealState.run_calm (hn : NoErrors env reads) :
    ∀ (sched : List Nat) {s : DealState}, s.Calm env → (s.run env reads sched).Calm env
  | [], _, hs => hs
  | g :: gs, _, hs => run_calm hn gs (step_calm hn hs g)

theorem DealState.run_filter (hn : NoErrors env reads) (g : Nat) :
    ∀ (sched : List Nat) {s t : DealState}, s.Calm env → t.Calm env → s.pcs g = t.pcs g →
      eventsOf s.log g = eventsOf t.log g →
      (s.run env reads sched).pcs g = (t.run env reads (sched.filter (· = g))).pcs g ∧
        eventsOf (s.run env reads sched).log g =
          eventsOf (t.run env reads (sched.filter (· = g))).log g
  | [], _, _, _, _, hp, he => ⟨hp, he⟩
  | g' :: gs, s, t, hs, ht, hp, he => by
    by_cases hg : g' = g
    · subst hg
      rw [List.filter_cons_of_pos (by simp)]
      obtain ⟨hp', evs, hs', ht'⟩ := @DealState.step_local env reads _ _ hs ht _ hp
      exact run_filter hn g' gs (step_calm hn hs g') (step_calm hn ht g') hp'
        (by rw [hs', ht', eventsOf_append, eventsOf_append, he])
    · rw [List.filter_cons_of_neg (by simpa using hg)]
      obtain ⟨hp', he'⟩ := @DealState.step_frame env reads s g g' hg
      exact run_filter hn g gs (step_calm hn hs g') ht (hp'.trans hp) (he'.trans he)

def sessionEnv : ListenerEnv where
  login g := { replayEnv with randId := .ok (toString g ++ "f") }
  conf := { token := "secret" }
  now := 5
  ctlExists _ := true
  newVisitorConn _ := some "no visitor listener"

def rejectedLogin : Login := { replayLogin with privilegeKey := "guess" }

/-- When no statement can write an error, the shared `err` is harmless: under every schedule of
the streams of a session `err` stays nil, nothing panics, and every stream whose goroutine took
five steps has had done with it exactly what its own message calls for, as if alone. -/
theorem DealState.run_noErrors (hn : NoErrors env reads) (sched : List Nat) (g : Nat)
    (hk : 5 ≤ sched.count g) :
    (DealState.init.run env reads sched).err = none ∧
      (DealState.init.run env reads sched).crashed = false ∧
      eventsOf (DealState.init.run env reads sched).log g = dealAlone env g (reads g) := by
  obtain ⟨he, hc, -⟩ := DealState.run_calm hn sched DealState.calm_init
  refine ⟨he, hc, ?_⟩
  rw [(DealState.run_filter hn g sched DealState.calm_init DealState.calm_init rfl rfl).2,
    List.filter_eq, ← Nat.add_sub_cancel' hk, List.replicate_add, DealState.run_append]
  obtain ⟨hl, hx⟩ := @DealState.run_alone env reads DealState.init g rfl rfl
  rw [DealState.run_replicate_of_exit hx, hl, eventsOf_append, eventsOf_map, if_pos rfl]
  rfl

theorem run_noErrors_closes_others :
    NoErrors sessionEnv (fun _ => .ok .other) ∧ 5 ≤ [0, 1, 0, 0, 2, 0, 0].count 0 ∧
    ((DealState.init.run sessionEnv (fun _ => .ok .other) [0, 1, 0, 0, 2, 0, 0]).err = none ∧
      (DealState.init.run sessionEnv (fun _ => .ok .other) [0, 1, 0, 0, 2, 0, 0]).crashed = false ∧
      eventsOf (DealState.init.run sessionEnv (fun _ => .ok .other) [0, 1, 0, 0, 2, 0, 0]).log 0 =
        dealAlone sessionEnv 0 (.ok .other)) :=
  have hn : NoErrors sessionEnv (fun _ => .ok .other) :=
    fun _ => ⟨.other, rfl, ⟨fun _ h => Message.noConfusion h, fun _ h => Message.noConfusion h⟩⟩
  ⟨hn, by decide, DealState.run_noErrors hn _ 0 (by decide)⟩

theorem DealState.run_frame_exit {g : Nat} :
    ∀ (w : List Nat) {s : DealState}, s.pcs g = .exit →
      (s.run env reads w).pcs g = .exit ∧ eventsOf (s.run env reads w).log g = eventsOf s.log g
  | [], _, hg => ⟨hg, rfl⟩
  | g' :: w, s, hg => by
    have hstep : (s.step env reads g').pcs g = .exit ∧
        eventsOf (s.step env reads g').log g = eventsOf s.log g := by
      by_cases hg' : g' = g
      · subst hg'; rw [DealState.step_of_exit (.inl hg)]; exact ⟨hg, rfl⟩
      · exact (DealState.step_frame hg').imp (·.trans hg) id
    obtain ⟨hp, he⟩ := run_frame_exit w hstep.1
    exact ⟨hp, he.trans hstep.2⟩

variable {s : DealState} {g h : Nat}

/-- An accepted login can be answered as failed. From every state in which stream `g` is about to
register a login that will be accepted and stream `h` is about to read, when `h`'s read fails
between `g`'s `RegisterControl` and its `err != nil`, the client gets a `LoginResp` carrying
`h`'s read error and its connection is closed, though its control was created. -/
theorem DealState.race_rejects_accepted_login (hgh : g ≠ h) (hs : s.crashed = false) {lm : Login}
    (hg : s.pcs g = .registerControl lm) {reg : Registration}
    (hreg : registerControl (env.login g) env.conf env.now lm = .ok reg) (hh : s.pcs h = .readMsg)
    {e : String} (he : reads h = .error e) (w : List Nat) :
    (s.run env reads ([g, h, g, g] ++ w)).pcs g = .exit ∧
      eventsOf (s.run env reads ([g, h, g, g] ++ w)).log g =
        eventsOf s.log g ++ [.controlCreated reg, .loginResp e, .closed] := by
  have h4 : (s.run env reads [g, h, g, g]).pcs g = .exit ∧
      eventsOf (s.run env reads [g, h, g, g]).log g =
        eventsOf s.log g ++ [.controlCreated reg, .loginResp e, .closed] := by
    simp [DealState.run, DealState.step, hs, hg, hh, he, hreg, hgh, Ne.symm hgh, eventsOf]
  rw [DealState.run_append]
  obtain ⟨hp, hev⟩ := DealState.run_frame_exit w h4.1
  exact ⟨hp, hev.trans h4.2⟩

theorem race_rejects_replayLogin :
    let reads : Nat → Except String Message :=
      fun g => if g = 0 then .ok (.login replayLogin) else .error "EOF"
    let s := DealState.init.run sessionEnv reads [0, 0]
    let reg : Registration := { runId := "home-0f", inLimit := 0, outLimit := 0 }
    (0 ≠ 1 ∧ s.crashed = false ∧ s.pcs 0 = .registerControl replayLogin ∧
      registerControl (sessionEnv.login 0) sessionEnv.conf sessionEnv.now replayLogin = .ok reg ∧
      s.pcs 1 = .readMsg ∧ reads 1 = .error "EOF") ∧
    (s.run sessionEnv reads [0, 1, 0, 0]).pcs 0 = .exit ∧
      eventsOf (s.run sessionEnv reads [0, 1, 0, 0]).log 0 =
        eventsOf s.log 0 ++ [.controlCreated reg, .loginResp "EOF", .closed] :=
  ⟨⟨by decide, rfl, rfl, rfl, rfl, rfl⟩,
    @DealState.race_rejects_accepted_login sessionEnv _ _ 0 1 (by decide) rfl _ rfl _ (by rfl) rfl _
      rfl []⟩

/-- A rejected login can go unanswered. From every state in which stream `g` is about to register
a login that will be rejected and stream `h` is about to read, when `h`'s read of a message falls
between `g`'s `RegisterControl` and its `err != nil`, the check reads nil and `g`'s goroutine
returns without a `LoginResp` and without closing the connection, whatever runs after. -/
theorem DealState.race_drops_rejected_login (hgh : g ≠ h) (hs : s.crashed = false) {lm : Login}
    (hg : s.pcs g = .registerControl lm) {e : String}
    (hrej : registerControl (env.login g) env.conf env.now lm = .error e) (hh : s.pcs h = .readMsg)
    {m' : Message} (hm' : reads h = .ok m') (w : List Nat) :
    (s.run env reads ([g, h, g] ++ w)).pcs g = .exit ∧
      eventsOf (s.run env reads ([g, h, g] ++ w)).log g = eventsOf s.log g := by
  have h3 : (s.run env reads [g, h, g]).pcs g = .exit ∧
      eventsOf (s.run env reads [g, h, g]).log g = eventsOf s.log g := by
    simp [DealState.run, DealState.step, hs, hg, hh, hm', hrej, hgh, Ne.symm hgh, eventsOf]
  rw [DealState.run_append]
  obtain ⟨hp, hev⟩ := DealState.run_frame_exit w h3.1
  exact ⟨hp, hev.trans h3.2⟩

theorem race_drops_wrong_key :
    let reads : Nat → Except String Message :=
      fun g => if g = 0 then .ok (.login rejectedLogin) else .ok .other
    let s := DealState.init.run sessionEnv reads [0, 0]
    (0 ≠ 1 ∧ s.crashed = false ∧ s.pcs 0 = .registerControl rejectedLogin ∧
      registerControl (sessionEnv.login 0) sessionEnv.conf sessionEnv.now rejectedLogin =
        .error "authorization failed" ∧ s.pcs 1 = .readMsg ∧ reads 1 = .ok .other) ∧
    (s.run sessionEnv reads [0, 1, 0]).pcs 0 = .exit ∧
      eventsOf (s.run sessionEnv reads [0, 1, 0]).log 0 = eventsOf s.log 0 :=
  ⟨⟨by decide, rfl, rfl, rfl, rfl, rfl⟩,
    @DealState.race_drops_rejected_login sessionEnv _ _ 0 1 (by decide) rfl _ rfl _ (by rfl) rfl _
      rfl []⟩

end

end Frp.Server

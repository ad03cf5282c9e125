import Frp.Go.Basic

/-! `Service.RegisterControl`: the checks a `Login` passes, and the run id and byte limits of the
control created for it. -/
namespace Frp.Server
open Frp.Go

/-- `msg.Login`, with the fields `RegisterControl` reads (host name, OS and arch are only
logged). -/
structure Login where
  version : String := ""
  user : String := ""
  privilegeKey : String := ""
  timestamp : Int := 0
  runId : String := ""
  deriving DecidableEq

structure SvrLoginConf where
  token : String := ""
  enableApi : Bool := false
  apiBaseUrl : String := ""
  apiToken : String := ""
  deriving DecidableEq

/-- What the functions outside src/ answer during one `RegisterControl` call: `version.Compat`,
`util.GetAuthKey`, the draw of `util.RandId` (made afresh at each call, so two calls have two
`LoginEnv`s), and the user API (`api.NewService`, `CheckToken`, `GetProxyLimit`). -/
structure LoginEnv where
  compat : String → Bool × String
  getAuthKey : String → Int → String
  randId : Except String String
  newService : String → Except String Unit
  checkToken : String → String → Int → String → Except String Bool
  getProxyLimit : String → Int → String → Except String (UInt64 × UInt64)

structure Registration where
  runId : String
  inLimit : UInt64
  outLimit : UInt64
  deriving DecidableEq

/-- The user regexp `^[A-Za-z0-9]{1,32}$`: one to 32 ASCII letters and digits. -/
def validUser (user : String) : Bool :=
  1 ≤ user.length && user.length ≤ 32 && user.all Char.isAlphanum

/-- The `EnableApi` block: the user is checked against the API at the server time `now`, and
the limits come from it; without the API both limits are zero. -/
def apiLimits (env : LoginEnv) (conf : SvrLoginConf) (now : Int) (loginMsg : Login) :
    Except String (UInt64 × UInt64) :=
  if conf.enableApi then do
    env.newService conf.apiBaseUrl
    if !validUser loginMsg.user then throw "invalid username"
    let valid ← env.checkToken loginMsg.user loginMsg.privilegeKey now conf.apiToken
    if !valid then throw "authorization failed"
    env.getProxyLimit loginMsg.user now conf.apiToken
  else pure (0, 0)

/-- The run id of the new control: the client's, or `User-RandId()` for a new client. -/
def newRunId (randId : Except String String) (loginMsg : Login) : Except String String :=
  if loginMsg.runId = "" then do
    let randid ← randId
    pure (loginMsg.user ++ "-" ++ randid)
  else pure loginMsg.runId

/-- `RegisterControl` at server time `now`, up to the control it creates: the error the login
handler sends back in `LoginResp`, or what the control is created with. -/
def registerControl (env : LoginEnv) (conf : SvrLoginConf) (now : Int) (loginMsg : Login) :
    Except String Registration := do
  let (ok, msg) := env.compat loginMsg.version
  if !ok then throw msg
  if env.getAuthKey conf.token loginMsg.timestamp ≠ loginMsg.privilegeKey then
    throw "authorization failed"
  let (inLimit, outLimit) ← apiLimits env conf now loginMsg
  let runId ← newRunId env.randId loginMsg
  return { runId, inLimit, outLimit }

section
variable {env : LoginEnv} {conf : SvrLoginConf} {now : Int} {loginMsg : Login}

theorem registerControl_eq_ok {reg : Registration} :
    registerControl env conf now loginMsg = .ok reg ↔
      (env.compat loginMsg.version).1 = true ∧
      env.getAuthKey conf.token loginMsg.timestamp = loginMsg.privilegeKey ∧
      apiLimits env conf now loginMsg = .ok (reg.inLimit, reg.outLimit) ∧
      newRunId env.randId loginMsg = .ok reg.runId := by
  unfold registerControl
  obtain ⟨_ | _, msg⟩ := env.compat loginMsg.version
  · simp [except_bind_eq_ok]
  · by_cases hk : env.getAuthKey conf.token loginMsg.timestamp = loginMsg.privilegeKey
    · simp only [hk, Bool.not_true, ne_eq, not_true_eq_false, Bool.false_eq_true, if_false,
        pure_bind, except_bind_eq_ok, except_pure_eq_ok, true_and]
      constructor
      · rintro ⟨⟨i, o⟩, hl, r, hr, rfl⟩
        exact ⟨hl, hr⟩
      · rintro ⟨hl, hr⟩
        exact ⟨_, hl, _, hr, rfl⟩
    · simp [hk, except_bind_eq_ok]

theorem apiLimits_of_not_enableApi (h : conf.enableApi = false) :
    apiLimits env conf now loginMsg = .ok (0, 0) := by
  simp [apiLimits, h, pure, Except.pure]

theorem newRunId_of_runId_ne (h : loginMsg.runId ≠ "") (randId : Except String String) :
    newRunId randId loginMsg = .ok loginMsg.runId := by
  simp [newRunId, h, pure, Except.pure]

theorem registerControl_of_not_enableApi (h : conf.enableApi = false) :
    registerControl env conf now loginMsg =
      if (env.compat loginMsg.version).1 = false then .error (env.compat loginMsg.version).2
      else if env.getAuthKey conf.token loginMsg.timestamp ≠ loginMsg.privilegeKey then
        .error "authorization failed"
      else (fun runId => { runId, inLimit := 0, outLimit := 0 }) <$> newRunId env.randId loginMsg := by
  unfold registerControl
  rw [apiLimits_of_not_enableApi h]
  obtain ⟨_ | _, msg⟩ := env.compat loginMsg.version
  · rfl
  · by_cases hk : env.getAuthKey conf.token loginMsg.timestamp = loginMsg.privilegeKey
    · simp only [hk]
      cases newRunId env.randId loginMsg <;> rfl
    · simp only [hk]
      rfl

theorem registerControl_eq_ok_of_not_enableApi (h : conf.enableApi = false) {reg : Registration} :
    registerControl env conf now loginMsg = .ok reg ↔
      (env.compat loginMsg.version).1 = true ∧
      env.getAuthKey conf.token loginMsg.timestamp = loginMsg.privilegeKey ∧
      newRunId env.randId loginMsg = .ok reg.runId ∧ reg.inLimit = 0 ∧ reg.outLimit = 0 := by
  rw [registerControl_eq_ok, apiLimits_of_not_enableApi h]
  simp only [Except.ok.injEq, Prod.mk.injEq, eq_comm (a := (0 : UInt64))]
  tauto

/-- Without the user API, `RegisterControl` never reads the clock. At every server time it accepts
a login exactly when the version is compatible, the key is `GetAuthKey` of the token and the
login's own timestamp, and a run id is found, with zero limits. A later call with its own
`RandId` draw accepts the same login again, with the same limits and the run id that draw gives.
When the client sends a run id, the later call answers exactly as the first. -/
theorem registerControl_ignores_clock (h : conf.enableApi = false) (t t' : Int)
    (randId' : Except String String) (reg : Registration) :
    (registerControl env conf t loginMsg = .ok reg ↔
      (env.compat loginMsg.version).1 = true ∧
      env.getAuthKey conf.token loginMsg.timestamp = loginMsg.privilegeKey ∧
      newRunId env.randId loginMsg = .ok reg.runId ∧ reg.inLimit = 0 ∧ reg.outLimit = 0) ∧
    (registerControl env conf t loginMsg = .ok reg →
      registerControl { env with randId := randId' } conf t' loginMsg =
        (fun runId => { reg with runId }) <$> newRunId randId' loginMsg) ∧
    (loginMsg.runId ≠ "" →
      registerControl { env with randId := randId' } conf t' loginMsg =
        registerControl env conf t loginMsg) := by
  refine ⟨registerControl_eq_ok_of_not_enableApi h, fun hr => ?_, fun hn => ?_⟩
  · obtain ⟨hc, hk, -, hi, ho⟩ := (registerControl_eq_ok_of_not_enableApi h).mp hr
    obtain ⟨r, i, o⟩ := reg
    obtain rfl : i = 0 := hi
    obtain rfl : o = 0 := ho
    rw [registerControl_of_not_enableApi h]
    simp only [hc, hk, Bool.true_eq_false, if_false, ne_eq, not_true_eq_false]
  · rw [registerControl_of_not_enableApi h, registerControl_of_not_enableApi h]
    simp only [newRunId_of_runId_ne hn]

end

def replayEnv : LoginEnv where
  compat _ := (true, "")
  getAuthKey token timestamp := token ++ toString timestamp
  randId := .ok "0f"
  newService _ := .ok ()
  checkToken _ _ _ _ := .ok true
  getProxyLimit _ _ _ := .ok (0, 0)

def replayLogin : Login :=
  { version := "0.25.0", user := "home", privilegeKey := "secret5", timestamp := 5 }

/-- A login accepted at server time 5 is accepted again an hour later, by a call whose `RandId`
draws `a1`. -/
theorem registerControl_accepts_replayed_login :
    (3605 : Int) - 5 > 15 * 60 ∧
    registerControl replayEnv { token := "secret" } 5 replayLogin =
      .ok { runId := "home-0f", inLimit := 0, outLimit := 0 } ∧
    registerControl { replayEnv with randId := .ok "a1" } { token := "secret" } 3605 replayLogin =
      .ok { runId := "home-a1", inLimit := 0, outLimit := 0 } :=
  ⟨by decide, rfl, rfl⟩

theorem registerControl_ignores_clock_replay :
    let conf : SvrLoginConf := { token := "secret" }
    let reg : Registration := { runId := "home-0f", inLimit := 0, outLimit := 0 }
    conf.enableApi = false ∧
    ((registerControl replayEnv conf 5 replayLogin = .ok reg ↔
      (replayEnv.compat replayLogin.version).1 = true ∧
      replayEnv.getAuthKey conf.token replayLogin.timestamp = replayLogin.privilegeKey ∧
      newRunId replayEnv.randId replayLogin = .ok reg.runId ∧ reg.inLimit = 0 ∧
      reg.outLimit = 0) ∧
    (registerControl replayEnv conf 5 replayLogin = .ok reg →
      registerControl { replayEnv with randId := .ok "a1" } conf 3605 replayLogin =
        (fun runId => { reg with runId }) <$> newRunId (.ok "a1") replayLogin) ∧
    (replayLogin.runId ≠ "" →
      registerControl { replayEnv with randId := .ok "a1" } conf 3605 replayLogin =
        registerControl replayEnv conf 5 replayLogin)) :=
  ⟨rfl, registerControl_ignores_clock rfl 5 3605 (.ok "a1") _⟩

end Frp.Server

import ArangoStarter.Go.Strconv

/-!
# The checks of the server processes

`testProcesses` (src/test/server_util.go) asks a starter for its version and
for its server processes, and checks the processes against the mode the
starter runs in: in `single` mode a single server and nothing else, in
`cluster` mode a coordinator and a DB server and no single server, each with
the `IsSecure` the test expects and each reachable over HTTP.

The four checks of the server types have one shape, `checkServer`, with
three parameters: the name in the messages, the mode in which the type must
not run, and the mode in which it must.  The agent has no mode in which it
must run: its check lacks the branch that reports a missing server.

* `checkServer_passes`: one check records no failure exactly when the first
  server of its type has the expected `IsSecure`, may run in the mode and
  answers, or when there is none and none is required.
* `testProcesses_single` and `testProcesses_cluster`: when the whole test
  passes in each mode.  In `cluster` mode no agent is required.

The client package, with `ServerByType`, is not among the sources:
`serverByType` is the first server of the type.  `describe(err)` is taken as
the text it returns.  The log lines of a verbose run are left out.
-/

namespace ArangoStarter.Test

open Go

/-- `client.ServerType`. -/
inductive ServerType
  | agent
  | coordinator
  | dbserver
  | single
deriving DecidableEq

/-- `client.ServerProcess`: the fields that the tests read. -/
structure ServerProcess where
  type : ServerType
  ip : GoString
  port : Int
  isSecure : Bool
deriving DecidableEq

/-- `processes.ServerByType(serverType)`: the first server of the type. -/
def serverByType (processes : List ServerProcess) (serverType : ServerType) : Option ServerProcess :=
  processes.find? fun sp => sp.type == serverType

/-- What a test records through `t`, and the requests it makes. -/
inductive TestEvent
  /-- `t.Errorf`: the test fails and goes on. -/
  | errorf (msg : GoString)
  /-- `t.Fatalf`: the test fails and stops. -/
  | fatalf (msg : GoString)
  /-- `httpClient.Get(url)`. -/
  | get (url : GoString)
deriving DecidableEq

/-- Whether an event fails the test. -/
def TestEvent.isFailure : TestEvent → Bool
  | .errorf _ | .fatalf _ => true
  | .get _ => false

/-- `%v` of a `bool`. -/
def formatBool (b : Bool) : GoString := ascii (if b then "true" else "false")

/-! ## testArangodReachable -/

/-- The URL that `testArangodReachable` gets: the version API of the server,
over HTTPS when the server is secure. -/
def arangodVersionURL (sp : ServerProcess) : GoString :=
  ascii (if sp.isSecure then "https" else "http") ++ ascii "://" ++ sp.ip ++ ascii ":" ++
    Strconv.itoa sp.port ++ ascii "/_api/version"

/-- `testArangodReachable(t, sp)`; `reachable url` is whether the `Get`
returned without an error. -/
def testArangodReachable (reachable : GoString → Bool) (sp : ServerProcess) : List TestEvent :=
  .get (arangodVersionURL sp) ::
    if reachable (arangodVersionURL sp) then []
    else [.errorf (ascii "Failed to reach arangod at " ++ sp.ip ++ ascii ":" ++ Strconv.itoa sp.port)]

theorem testArangodReachable_passes (reachable : GoString → Bool) (sp : ServerProcess) :
    (testArangodReachable reachable sp).any TestEvent.isFailure = false ↔
      reachable (arangodVersionURL sp) = true := by
  cases h : reachable (arangodVersionURL sp) <;> simp [testArangodReachable, h, TestEvent.isFailure]

/-! ## testProcesses -/

/-- The check of one server type in `testProcesses`: the `IsSecure` of its
first server, whether it may run in `mode`, and, where `requiredIn` names a
mode, that it runs in that mode. -/
def checkServer (processes : List ServerProcess) (reachable : GoString → Bool)
    (mode starterEndpoint : GoString) (isSecure : Bool) (serverType : ServerType)
    (name notAllowedIn : GoString) (requiredIn : Option GoString) : List TestEvent :=
  match serverByType processes serverType with
  | some sp =>
    (if sp.isSecure != isSecure then
      [.errorf (ascii "Invalid IsSecure on " ++ name ++ ascii ". Expected " ++ formatBool isSecure ++
        ascii ", got " ++ formatBool sp.isSecure)]
    else []) ++
    if mode = notAllowedIn then
      [.errorf (ascii "Found " ++ name ++ ascii ", not allowed in " ++ notAllowedIn ++ ascii " mode")]
    else testArangodReachable reachable sp
  | none =>
    match requiredIn with
    | some required =>
      if mode = required then [.errorf (ascii "No " ++ name ++ ascii " found in " ++ starterEndpoint)]
      else []
    | none => []

/-- `testProcesses(t, c, mode, starterEndpoint, isSecure)`.  `version` and
`processes` are the answers of `c.Version` and `c.Processes`, an error as
the text of `describe(err)`. -/
def testProcesses (reachable : GoString → Bool) (mode starterEndpoint : GoString) (isSecure : Bool)
    (version : Except GoString Unit) (processes : Except GoString (List ServerProcess)) :
    List TestEvent :=
  (match version with
    | .error e => [.errorf (ascii "Failed to get starter version: " ++ e)]
    | .ok () => []) ++
  match processes with
  | .error e => [.fatalf (ascii "Failed to get server processes: " ++ e)]
  | .ok ps =>
    checkServer ps reachable mode starterEndpoint isSecure .agent (ascii "agent") (ascii "single") none ++
    checkServer ps reachable mode starterEndpoint isSecure .coordinator (ascii "coordinator")
      (ascii "single") (some (ascii "cluster")) ++
    checkServer ps reachable mode starterEndpoint isSecure .dbserver (ascii "dbserver")
      (ascii "single") (some (ascii "cluster")) ++
    checkServer ps reachable mode starterEndpoint isSecure .single (ascii "single")
      (ascii "cluster") (some (ascii "single"))

/-- One check passes exactly when the first server of its type has the
expected `IsSecure`, may run in the mode and answers, or when there is no
server of the type and the mode does not require one. -/
theorem checkServer_passes (processes : List ServerProcess) (reachable : GoString → Bool)
    (mode starterEndpoint : GoString) (isSecure : Bool) (serverType : ServerType)
    (name notAllowedIn : GoString) (requiredIn : Option GoString) :
    (checkServer processes reachable mode starterEndpoint isSecure serverType name notAllowedIn
        requiredIn).any TestEvent.isFailure = false ↔
      match serverByType processes serverType with
      | some sp => sp.isSecure = isSecure ∧ mode ≠ notAllowedIn ∧ reachable (arangodVersionURL sp) = true
      | none => requiredIn ≠ some mode := by
  unfold checkServer
  rcases serverByType processes serverType with _ | sp
  · rcases requiredIn with _ | required
    · simp
    · by_cases h : mode = required
      · simp [h, TestEvent.isFailure]
      · simp [h, Ne.symm h]
  · simp only [List.any_append, Bool.or_eq_false_iff]
    rw [← testArangodReachable_passes]
    by_cases hs : sp.isSecure = isSecure <;> by_cases hm : mode = notAllowedIn <;>
      simp [hs, hm, TestEvent.isFailure]

/-- A check in a mode where its type must not run passes exactly when no
server of the type runs and the mode does not require one. -/
theorem checkServer_passes_of_notAllowed {processes : List ServerProcess} {reachable : GoString → Bool}
    {mode starterEndpoint : GoString} {isSecure : Bool} {serverType : ServerType}
    {name notAllowedIn : GoString} {requiredIn : Option GoString} (h : mode = notAllowedIn) :
    (checkServer processes reachable mode starterEndpoint isSecure serverType name notAllowedIn
        requiredIn).any TestEvent.isFailure = false ↔
      serverByType processes serverType = none ∧ requiredIn ≠ some mode := by
  rw [checkServer_passes]
  rcases serverByType processes serverType with _ | sp <;> simp [h]

/-- A check in a mode where its type may run passes exactly when the first
server of the type, if there is one, has the expected `IsSecure` and answers,
and there is one if the mode requires it. -/
theorem checkServer_passes_of_allowed {processes : List ServerProcess} {reachable : GoString → Bool}
    {mode starterEndpoint : GoString} {isSecure : Bool} {serverType : ServerType}
    {name notAllowedIn : GoString} {requiredIn : Option GoString} (h : mode ≠ notAllowedIn) :
    (checkServer processes reachable mode starterEndpoint isSecure serverType name notAllowedIn
        requiredIn).any TestEvent.isFailure = false ↔
      (∀ sp, serverByType processes serverType = some sp →
        sp.isSecure = isSecure ∧ reachable (arangodVersionURL sp) = true) ∧
      (serverByType processes serverType = none → requiredIn ≠ some mode) := by
  rw [checkServer_passes]
  rcases serverByType processes serverType with _ | sp <;> simp [h]

theorem version_passes (version : Except GoString Unit) :
    (match version with
      | .error e => [TestEvent.errorf (ascii "Failed to get starter version: " ++ e)]
      | .ok () => []).any TestEvent.isFailure = false ↔ version = .ok () := by
  rcases version with e | ⟨⟩ <;> simp [TestEvent.isFailure]

theorem ascii_single_ne_cluster : ascii "single" ≠ ascii "cluster" := by decide

/-- In `single` mode the test passes exactly when both queries answer, no
agent, coordinator or DB server runs, and the first single server has the
expected `IsSecure` and answers. -/
theorem testProcesses_single (reachable : GoString → Bool) (starterEndpoint : GoString)
    (isSecure : Bool) (version : Except GoString Unit) (processes : Except GoString (List ServerProcess)) :
    (testProcesses reachable (ascii "single") starterEndpoint isSecure version processes).any
        TestEvent.isFailure = false ↔
      version = .ok () ∧ ∃ ps, processes = .ok ps ∧
        serverByType ps .agent = none ∧ serverByType ps .coordinator = none ∧
        serverByType ps .dbserver = none ∧
        ∃ sp, serverByType ps .single = some sp ∧ sp.isSecure = isSecure ∧
          reachable (arangodVersionURL sp) = true := by
  unfold testProcesses
  rw [List.any_append, Bool.or_eq_false_iff, version_passes]
  refine and_congr_right fun _ => ?_
  rcases processes with e | ps
  · simp [TestEvent.isFailure]
  simp only [List.any_append, Bool.or_eq_false_iff, checkServer_passes_of_notAllowed rfl,
    checkServer_passes_of_allowed ascii_single_ne_cluster, Except.ok.injEq, exists_eq_left']
  rcases serverByType ps .single with _ | sp <;>
    simp [ascii_single_ne_cluster, ascii_single_ne_cluster.symm, and_assoc]

/-- In `cluster` mode the test passes exactly when both queries answer, no
single server runs, a coordinator and a DB server run, and the first agent,
coordinator and DB server, where they run, have the expected `IsSecure` and
answer.  No agent is required. -/
theorem testProcesses_cluster (reachable : GoString → Bool) (starterEndpoint : GoString)
    (isSecure : Bool) (version : Except GoString Unit) (processes : Except GoString (List ServerProcess)) :
    (testProcesses reachable (ascii "cluster") starterEndpoint isSecure version processes).any
        TestEvent.isFailure = false ↔
      version = .ok () ∧ ∃ ps, processes = .ok ps ∧ serverByType ps .single = none ∧
        (serverByType ps .coordinator).isSome ∧ (serverByType ps .dbserver).isSome ∧
        ∀ t, t ≠ .single → ∀ sp, serverByType ps t = some sp →
          sp.isSecure = isSecure ∧ reachable (arangodVersionURL sp) = true := by
  unfold testProcesses
  rw [List.any_append, Bool.or_eq_false_iff, version_passes]
  refine and_congr_right fun _ => ?_
  rcases processes with e | ps
  · simp [TestEvent.isFailure]
  simp only [List.any_append, Bool.or_eq_false_iff, checkServer_passes_of_notAllowed rfl,
    checkServer_passes_of_allowed ascii_single_ne_cluster.symm, Except.ok.injEq, exists_eq_left']
  constructor
  · rintro ⟨⟨⟨⟨ha, -⟩, hc, hc'⟩, hd, hd'⟩, hs, -⟩
    refine ⟨hs, Option.isSome_iff_ne_none.2 fun h => hc' h rfl,
      Option.isSome_iff_ne_none.2 fun h => hd' h rfl, fun t ht => ?_⟩
    cases t with
    | agent => exact ha
    | coordinator => exact hc
    | dbserver => exact hd
    | single => exact absurd rfl ht
  · rintro ⟨hs, hc, hd, hall⟩
    exact ⟨⟨⟨⟨hall .agent (by decide), fun _ => by simp⟩, hall .coordinator (by decide),
      fun h => absurd h (Option.isSome_iff_ne_none.1 hc)⟩, hall .dbserver (by decide),
      fun h => absurd h (Option.isSome_iff_ne_none.1 hd)⟩, hs, by simp [ascii_single_ne_cluster]⟩

example : (testProcesses (fun _ => true) (ascii "cluster") (ascii "http://localhost:8528") false (.ok ())
    (.ok [⟨.coordinator, ascii "127.0.0.1", 8530, false⟩, ⟨.dbserver, ascii "127.0.0.1", 8531, false⟩])).any
      TestEvent.isFailure = false := by decide

end ArangoStarter.Test

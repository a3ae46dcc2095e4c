import ArangoStarter.Service.LocalSlaves

/-!
# The WaitGroup of the local slaves

`relaunch` creates a `sync.WaitGroup`, lets `startLocalSlaves` start the
slaves on it, and calls `wg.Wait()` at the end.  For each slave that
`NewService` built, `startLocalSlaves` calls `wg.Add(1)` and then starts a
goroutine that runs the slave and calls `wg.Done()` when `Run` returns.

This module runs the calls of `startLocalSlaves` against the goroutines they
start, in every interleaving.  A state holds the calls the caller has still
to make, the counter of the WaitGroup, and the phase of each goroutine
started so far; an action is a step of the caller, the return of a slave's
`Run`, the `Done` of a slave, or the return of `Wait`.  `wgStep` enables an
action only where Go lets it happen.

* `addsPaired_startLocalSlaves`: the calls hold one `wg.Add(1)` right before
  each `go` statement and no other.
* `goConfigs_startLocalSlaves`: the goroutines started are those of the peers
  that are not the service itself and that `NewService` built.
* `WgInv` is the invariant: the counter is the number of goroutines that
  have not called `Done`, plus one between an `Add` and its `go`.
  `wgStep_inv` keeps it and `wgRun_inv` extends it to every run.
* `waitGroup_run`: in every state reached, the counter is not negative, and
  `Wait` can return exactly when the caller has made all its calls and every
  started goroutine has called `Done`.
* `waitGroup_no_deadlock`: from every state reached where `Wait` has not
  returned, the caller's remaining calls and the returns and `Done` calls of
  the goroutines lead to a state where it can.
-/

namespace ArangoStarter

open Go

/-! ## The calls of startLocalSlaves -/

/-- Every `wg.Add(1)` is followed by a `go` statement, and every `go`
statement follows a `wg.Add(1)`. -/
def AddsPaired : List Call → Prop
  | [] => True
  | .add :: .go _ :: rest => AddsPaired rest
  | .add :: _ => False
  | .go _ :: _ => False
  | _ :: rest => AddsPaired rest

/-- The configurations of the slaves whose goroutines the calls start. -/
def goConfigs (calls : List Call) : List Config := calls.filterMap Call.goConfig

/-- The configurations of the slaves that `startLocalSlaves` starts: those of
the peers that are not the service itself and that `NewService` built. -/
def successConfigs (s : Service) (newServiceOk : Nat → Bool) (peers : List Peer) : List Config :=
  (peers.enum.filter fun ip => decide (ip.2.id ≠ s.config.id) && newServiceOk ip.1).map fun ip =>
    slaveConfig s (masterAddress s) ip.2

theorem addsPaired_startLocalSlavesLoop (s : Service) (masterAddr : GoString)
    (newServiceOk : Nat → Bool) :
    ∀ index peers, AddsPaired (startLocalSlavesLoop s masterAddr newServiceOk index peers)
  | _, [] => trivial
  | index, p :: ps => by
    have ih := addsPaired_startLocalSlavesLoop s masterAddr newServiceOk (index + 1) ps
    rw [startLocalSlavesLoop]
    split
    · exact ih
    · cases newServiceOk index <;> exact ih

/-- `startLocalSlaves` calls `wg.Add(1)` right before each `go` statement. -/
theorem addsPaired_startLocalSlaves (s : Service) (newServiceOk : Nat → Bool) (peers : List Peer) :
    AddsPaired (startLocalSlaves s newServiceOk peers) :=
  addsPaired_startLocalSlavesLoop s _ newServiceOk 0 peers

theorem goConfigs_startLocalSlavesLoop (s : Service) (masterAddr : GoString)
    (newServiceOk : Nat → Bool) :
    ∀ index peers, goConfigs (startLocalSlavesLoop s masterAddr newServiceOk index peers) =
      ((peers.enumFrom index).filter fun ip => decide (ip.2.id ≠ s.config.id) && newServiceOk ip.1).map
        fun ip => slaveConfig s masterAddr ip.2
  | _, [] => rfl
  | index, p :: ps => by
    have ih := goConfigs_startLocalSlavesLoop s masterAddr newServiceOk (index + 1) ps
    unfold goConfigs at ih ⊢
    by_cases hp : p.id = s.config.id
    · simp [startLocalSlavesLoop, hp, ih]
    · cases h : newServiceOk index <;>
        simp [startLocalSlavesLoop, hp, h, ih, Call.goConfig]

/-- The goroutines that `startLocalSlaves` starts are those of the slaves
that `NewService` built. -/
theorem goConfigs_startLocalSlaves (s : Service) (newServiceOk : Nat → Bool) (peers : List Peer) :
    goConfigs (startLocalSlaves s newServiceOk peers) = successConfigs s newServiceOk peers :=
  goConfigs_startLocalSlavesLoop s _ newServiceOk 0 peers

/-- A master whose IDs are all allocated, none equal to its own, and whose
`NewService` calls all succeed starts one goroutine for each ordinal from 1
to its agency size minus one, in that order, each in the directory
`local-slave-k` of its own. -/
theorem createAndStartLocalSlaves_goConfigs (maxSliceCap : Nat) (createUniqueID : Nat → Option GoString)
    (s : Service) (hnonneg : 0 ≤ s.config.agencySize.val) (hcap : s.config.agencySize.val ≤ maxSliceCap)
    (hid : ∀ j, ∃ id, createUniqueID j = some id ∧ id ≠ s.config.id) :
    ∃ calls, createAndStartLocalSlaves maxSliceCap createUniqueID (fun _ => true) s = .ok calls ∧
      (goConfigs calls).map Config.dataDir = (List.range (s.config.agencySize.val - 1).toNat).map
        fun j => Filepath.join s.config.dataDir (localSlaveName (j + 1)) := by
  let peers := (List.range (s.config.agencySize.val - 1).toNat).filterMap fun j =>
    (createUniqueID (j + 2)).map fun id => localSlavePeer s.config.dataDir id (j + 1)
  have hpeers : localSlavePeers maxSliceCap createUniqueID s = .ok peers := by
    rw [localSlavePeers, makeslice, if_neg (by omega), allocateLocalSlaves_two]
    rfl
  have hne : ∀ p ∈ peers, p.id ≠ s.config.id := by
    intro p hp
    obtain ⟨j, -, hj⟩ := List.mem_filterMap.1 hp
    obtain ⟨id, hj', hne⟩ := hid (j + 2)
    rw [hj', Option.map_some'] at hj
    cases hj
    exact hne
  refine ⟨_, by rw [createAndStartLocalSlaves, hpeers]; rfl, ?_⟩
  rw [goConfigs_startLocalSlaves, successConfigs,
    List.filter_eq_self.2 fun ip hip => by simp [hne ip.2 (List.snd_mem_of_mem_enum hip)],
    List.map_map, show Config.dataDir ∘ (fun ip : Nat × Peer => slaveConfig s (masterAddress s) ip.2) =
      Peer.dataDir ∘ Prod.snd from rfl, ← List.map_map, List.enum_map_snd, List.map_filterMap]
  rw [← List.filterMap_eq_map]
  refine List.filterMap_congr fun j _ => ?_
  obtain ⟨id, hj', -⟩ := hid (j + 2)
  rw [hj']
  rfl

/-- A master `m` with agency size 3 whose IDs are all `x` starts two
goroutines. -/
theorem createAndStartLocalSlaves_goConfigs_three :
    ∃ calls, createAndStartLocalSlaves 1000 (fun _ => some (ascii "x")) (fun _ => true)
        ⟨⟨ascii "m", ascii "/data", [], [], true, ⟨3, by decide⟩⟩, ⟨8528, by decide⟩, Peers.zero⟩ =
        .ok calls ∧ (goConfigs calls).length = 2 := by
  obtain ⟨calls, h, hdirs⟩ := createAndStartLocalSlaves_goConfigs 1000 (fun _ => some (ascii "x"))
    ⟨⟨ascii "m", ascii "/data", [], [], true, ⟨3, by decide⟩⟩, ⟨8528, by decide⟩, Peers.zero⟩
    (by decide) (by decide) (fun _ => ⟨_, rfl, by decide⟩)
  refine ⟨calls, h, ?_⟩
  simpa using congrArg List.length hdirs

/-! ## The caller and the goroutines -/

/-- Where the goroutine of a slave is. -/
inductive SlavePhase
  /-- `slaveService.Run(s.ctx)` has not returned. -/
  | running
  /-- `Run` has returned and the deferred `wg.Done()` has not run. -/
  | returned
  /-- `wg.Done()` has run. -/
  | done
deriving DecidableEq

/-- The caller's calls still to make, the WaitGroup's counter, the started
goroutines with the configurations of their slaves, and whether `Wait`
returned. -/
structure WgState where
  pending : List Call
  counter : Int
  slaves : List (Config × SlavePhase)
  waited : Bool

/-- A step of one of the goroutines. -/
inductive WgAction
  /-- The caller makes its next call. -/
  | call
  /-- The caller's `wg.Wait()` returns. -/
  | wait
  /-- The `Run` of the `i`-th started slave returns. -/
  | runReturns (i : Nat)
  /-- The `i`-th started goroutine calls `wg.Done()`. -/
  | done (i : Nat)

/-- The state before the first call: `wg := &sync.WaitGroup{}`. -/
def WgState.init (calls : List Call) : WgState := ⟨calls, 0, [], false⟩

/-- The goroutine that a call starts: a `go` statement starts one that runs
its slave. -/
def Call.started (c : Call) : List (Config × SlavePhase) :=
  (c.goConfig.map fun config => (config, SlavePhase.running)).toList

/-- What a call of the caller does: `wg.Add(1)` counts one up, a `go`
statement starts a goroutine, the other calls leave both alone. -/
def WgState.perform (st : WgState) (c : Call) (rest : List Call) : WgState :=
  { st with
    pending := rest
    counter := st.counter + if c = .add then 1 else 0
    slaves := st.slaves ++ c.started }

/-- One action, where it can happen.  `Wait` returns once the counter is zero
after the caller's last call; `Done` follows the return of `Run`. -/
def wgStep (st : WgState) : WgAction → Option WgState
  | .call =>
    match st.pending with
    | [] => none
    | c :: rest => some (st.perform c rest)
  | .wait =>
    if st.pending = [] ∧ st.counter = 0 ∧ st.waited = false then some { st with waited := true }
    else none
  | .runReturns i =>
    match st.slaves[i]? with
    | some (config, .running) => some { st with slaves := st.slaves.set i (config, .returned) }
    | _ => none
  | .done i =>
    match st.slaves[i]? with
    | some (config, .returned) =>
      some { st with slaves := st.slaves.set i (config, .done), counter := st.counter - 1 }
    | _ => none

/-- A run: the actions one after the other, as long as each can happen. -/
def wgRun : WgState → List WgAction → Option WgState
  | st, [] => some st
  | st, a :: as => (wgStep st a).bind fun st' => wgRun st' as

/-- The goroutines that have not called `Done`. -/
def WgState.live (st : WgState) : Nat := st.slaves.countP fun x => x.2 != .done

/-- One between a `wg.Add(1)` and its `go` statement. -/
def owed : List Call → Nat
  | .go _ :: _ => 1
  | _ => 0

/-! ## The invariant -/

/-- The calls still to make: paired, or the `go` of an `Add` already made
and then paired calls. -/
def Pending (calls : List Call) : Prop :=
  AddsPaired calls ∨ ∃ c rest, calls = .go c :: rest ∧ AddsPaired rest

/-- What holds in every state of a run of the calls whose goroutines run
`goal`. -/
structure WgInv (goal : List Config) (st : WgState) : Prop where
  pending : Pending st.pending
  counter : st.counter = ((st.live + owed st.pending : Nat) : Int)
  slaves : st.slaves.map Prod.fst ++ goConfigs st.pending = goal
  waited : st.waited = true → st.pending = []

theorem owed_of_addsPaired : ∀ {calls : List Call}, AddsPaired calls → owed calls = 0
  | [], _ => rfl
  | .go _ :: _, h => h.elim
  | .add :: _, _ => rfl
  | .startingLocalSlaves _ :: _, _ => rfl
  | .mkdirAll _ :: _, _ => rfl
  | .newService _ :: _, _ => rfl
  | .newServiceFailed _ :: _, _ => rfl

theorem addsPaired_add {rest : List Call} (h : AddsPaired (.add :: rest)) :
    ∃ c rest', rest = .go c :: rest' ∧ AddsPaired rest' := by
  match rest, h with
  | [], h => exact h.elim
  | .go c :: rest', h => exact ⟨c, rest', rfl, h⟩
  | .add :: _, h | .startingLocalSlaves _ :: _, h | .mkdirAll _ :: _, h | .newService _ :: _, h
  | .newServiceFailed _ :: _, h => exact h.elim

/-- A call of the caller moves `owed` exactly as it moves the counter and the
goroutines, and leaves pending calls behind. -/
theorem Pending.cons {c : Call} {rest : List Call} (h : Pending (c :: rest)) :
    Pending rest ∧
      owed (c :: rest) + (if c = .add then 1 else 0) = owed rest + c.started.length := by
  rcases h with h | ⟨c', rest', hc, hrest⟩
  · cases c with
    | add =>
      obtain ⟨c', rest', rfl, h'⟩ := addsPaired_add h
      exact ⟨.inr ⟨_, _, rfl, h'⟩, rfl⟩
    | go c' => exact h.elim
    | startingLocalSlaves _ | mkdirAll _ | newService _ | newServiceFailed _ =>
      have hr : AddsPaired rest := h
      exact ⟨.inl hr, by rw [owed_of_addsPaired hr]; rfl⟩
  · obtain ⟨rfl, rfl⟩ := List.cons.inj hc
    exact ⟨.inl hrest, by rw [owed_of_addsPaired hrest]; rfl⟩

theorem set_self_of_getElem? {α : Type} : ∀ {l : List α} {i : Nat} {a : α}, l[i]? = some a →
    l.set i a = l
  | [], _, _, h => by simp at h
  | b :: l, 0, a, h => by simp at h; simp [h]
  | b :: l, i + 1, a, h => by
    simp only [List.getElem?_cons_succ] at h
    simp [set_self_of_getElem? h]

/-- The return of `Run` leaves the goroutine live. -/
theorem live_set_returned {st : WgState} {i : Nat} {c : Config}
    (h : st.slaves[i]? = some (c, .running)) :
    (st.slaves.set i (c, .returned)).countP (fun x => x.2 != .done) = st.live := by
  obtain ⟨hi, hget⟩ := List.getElem?_eq_some_iff.1 h
  have hle := List.boole_getElem_le_countP (fun x : Config × SlavePhase => x.2 != .done) st.slaves i hi
  rw [hget] at hle
  rw [List.countP_set _ _ _ _ hi, hget, WgState.live]
  exact Nat.sub_add_cancel hle

/-- A `Done` takes one goroutine out of the live ones. -/
theorem live_set_done {st : WgState} {i : Nat} {c : Config}
    (h : st.slaves[i]? = some (c, .returned)) :
    (st.slaves.set i (c, .done)).countP (fun x => x.2 != .done) + 1 = st.live := by
  obtain ⟨hi, hget⟩ := List.getElem?_eq_some_iff.1 h
  have hle := List.boole_getElem_le_countP (fun x : Config × SlavePhase => x.2 != .done) st.slaves i hi
  rw [hget] at hle
  rw [List.countP_set _ _ _ _ hi, hget, WgState.live]
  exact Nat.sub_add_cancel hle

theorem map_fst_set {st : WgState} {i : Nat} {c : Config} {ph : SlavePhase} (ph' : SlavePhase)
    (h : st.slaves[i]? = some (c, ph)) :
    (st.slaves.set i (c, ph')).map Prod.fst = st.slaves.map Prod.fst := by
  rw [List.map_set]
  exact set_self_of_getElem? (by rw [List.getElem?_map, h]; rfl)

theorem wgInv_init {calls : List Call} (h : AddsPaired calls) :
    WgInv (goConfigs calls) (WgState.init calls) :=
  ⟨.inl h, by simp [WgState.init, WgState.live, owed_of_addsPaired h], rfl, fun h => by cases h⟩

/-- A call of the caller keeps the invariant. -/
theorem WgInv.perform {goal : List Config} {st : WgState} {c : Call} {rest : List Call}
    (hi : WgInv goal st) (hp : st.pending = c :: rest) : WgInv goal (st.perform c rest) := by
  obtain ⟨hpend, hcount, hslaves, hwaited⟩ := hi
  rw [hp] at hpend hcount hslaves hwaited
  obtain ⟨hrest, howed⟩ := hpend.cons
  refine ⟨hrest, ?_, ?_, fun h => absurd (hwaited h) (List.cons_ne_nil _ _)⟩
  · have hlive : (st.perform c rest).live = st.live + c.started.length := by
      simp only [WgState.live, WgState.perform, List.countP_append, Call.started]
      cases c.goConfig <;> rfl
    show st.counter + (if c = .add then 1 else 0) = (((st.perform c rest).live + owed rest : Nat) : Int)
    rw [hlive, hcount]
    by_cases hc : c = .add <;> simp only [hc, if_true, if_false] at howed ⊢ <;> omega
  · rw [← hslaves]
    simp only [WgState.perform, List.map_append, goConfigs, List.filterMap_cons, List.append_assoc,
      Call.started]
    cases c.goConfig <;> rfl

/-- The return of a slave's `Run` keeps the invariant. -/
theorem WgInv.setPhase {goal : List Config} {st : WgState} {i : Nat} {c : Config}
    (hi : WgInv goal st) (h : st.slaves[i]? = some (c, .running)) :
    WgInv goal { st with slaves := st.slaves.set i (c, .returned) } := by
  refine ⟨hi.pending, ?_, by rw [← hi.slaves]; simp only [map_fst_set _ h], hi.waited⟩
  rw [hi.counter]
  simp only [WgState.live, live_set_returned h]

/-- A `Done` after the return of `Run` keeps the invariant. -/
theorem WgInv.done {goal : List Config} {st : WgState} {i : Nat} {c : Config}
    (hi : WgInv goal st) (h : st.slaves[i]? = some (c, .returned)) :
    WgInv goal { st with slaves := st.slaves.set i (c, .done), counter := st.counter - 1 } := by
  refine ⟨hi.pending, ?_, by rw [← hi.slaves]; simp only [map_fst_set _ h], hi.waited⟩
  have := live_set_done h
  rw [hi.counter]
  simp only [WgState.live] at this ⊢
  omega

/-- Everything an action can do. -/
theorem wgStep_cases {st st' : WgState} {a : WgAction} (h : wgStep st a = some st') :
    (∃ c rest, a = .call ∧ st.pending = c :: rest ∧ st' = st.perform c rest) ∨
    (a = .wait ∧ st.pending = [] ∧ st.counter = 0 ∧ st.waited = false ∧
      st' = { st with waited := true }) ∨
    (∃ i c, a = .runReturns i ∧ st.slaves[i]? = some (c, .running) ∧
      st' = { st with slaves := st.slaves.set i (c, .returned) }) ∨
    (∃ i c, a = .done i ∧ st.slaves[i]? = some (c, .returned) ∧
      st' = { st with slaves := st.slaves.set i (c, .done), counter := st.counter - 1 }) := by
  cases a with
  | call =>
    simp only [wgStep] at h
    split at h
    · cases h
    · cases h
      exact .inl ⟨_, _, rfl, ‹_›, rfl⟩
  | wait =>
    simp only [wgStep] at h
    split at h
    · rename_i hw
      cases h
      exact .inr (.inl ⟨rfl, hw.1, hw.2.1, hw.2.2, rfl⟩)
    · cases h
  | runReturns i =>
    simp only [wgStep] at h
    split at h
    · cases h
      exact .inr (.inr (.inl ⟨i, _, rfl, ‹_›, rfl⟩))
    · cases h
  | done i =>
    simp only [wgStep] at h
    split at h
    · cases h
      exact .inr (.inr (.inr ⟨i, _, rfl, ‹_›, rfl⟩))
    · cases h

/-- Every action keeps the invariant. -/
theorem wgStep_inv {goal : List Config} {st st' : WgState} {a : WgAction} (hi : WgInv goal st)
    (h : wgStep st a = some st') : WgInv goal st' := by
  rcases wgStep_cases h with ⟨c, rest, -, hp, rfl⟩ | ⟨-, hp, -, -, rfl⟩ | ⟨i, c, -, hs, rfl⟩ |
      ⟨i, c, -, hs, rfl⟩
  · exact hi.perform hp
  · exact ⟨hi.pending, hi.counter, hi.slaves, fun _ => hp⟩
  · exact hi.setPhase hs
  · exact hi.done hs

/-- Every run keeps the invariant. -/
theorem wgRun_inv {goal : List Config} :
    ∀ {st st' : WgState} (acts : List WgAction), WgInv goal st → wgRun st acts = some st' →
      WgInv goal st'
  | _, _, [], hi, h => by cases h; exact hi
  | st, _, a :: acts, hi, h => by
    obtain ⟨st₁, h₁, h⟩ := Option.bind_eq_some.1 h
    exact wgRun_inv acts (wgStep_inv hi h₁) h

/-- `Wait` can return exactly when the caller has made its calls and every
started goroutine has called `Done`. -/
theorem WgInv.wait_iff {goal : List Config} {st : WgState} (hi : WgInv goal st) :
    (wgStep st .wait).isSome ↔ st.pending = [] ∧ st.waited = false ∧ ∀ x ∈ st.slaves, x.2 = .done := by
  have hzero : st.pending = [] → (st.counter = 0 ↔ ∀ x ∈ st.slaves, x.2 = .done) := fun hp => by
    rw [hi.counter, hp]
    simp [WgState.live, owed, List.countP_eq_zero]
  by_cases hw : st.pending = [] ∧ st.counter = 0 ∧ st.waited = false
  · rw [wgStep, if_pos hw]
    exact ⟨fun _ => ⟨hw.1, hw.2.2, (hzero hw.1).1 hw.2.1⟩, fun _ => rfl⟩
  · rw [wgStep, if_neg hw]
    exact ⟨fun h => (by cases h), fun ⟨hp, hwt, hd⟩ => absurd ⟨hp, (hzero hp).2 hd, hwt⟩ hw⟩

/-- The WaitGroup of `startLocalSlaves`, for every peer list, every pattern
of `NewService` failures and every interleaving of the goroutines: the calls
add one right before each `go` statement and nowhere else; the goroutines
started, with those still to start, are exactly the slaves that `NewService`
built; the counter is the number of goroutines that have not called `Done`,
plus one between an `Add` and its `go`, so it is never negative; and `Wait`
can return exactly when the caller is done and every started goroutine has
called `Done`. -/
theorem waitGroup_run (s : Service) (newServiceOk : Nat → Bool) (peers : List Peer)
    (acts : List WgAction) (st : WgState)
    (h : wgRun (WgState.init (startLocalSlaves s newServiceOk peers)) acts = some st) :
    AddsPaired (startLocalSlaves s newServiceOk peers) ∧
      st.slaves.map Prod.fst ++ goConfigs st.pending = successConfigs s newServiceOk peers ∧
      st.counter = ((st.live + owed st.pending : Nat) : Int) ∧ 0 ≤ st.counter ∧
      ((wgStep st .wait).isSome ↔
        st.pending = [] ∧ st.waited = false ∧ ∀ x ∈ st.slaves, x.2 = .done) := by
  have hpaired := addsPaired_startLocalSlaves s newServiceOk peers
  have hi := wgRun_inv acts (wgInv_init hpaired) h
  rw [goConfigs_startLocalSlaves] at hi
  exact ⟨hpaired, hi.slaves, hi.counter, by rw [hi.counter]; omega, hi.wait_iff⟩

/-- One slave: while it runs, `Wait` cannot return; after its `Run` returns
and its `Done`, it can. -/
theorem waitGroup_run_one :
    let s : Service := ⟨⟨ascii "m", ascii "/data", [], [], true, ⟨2, by decide⟩⟩, ⟨8528, by decide⟩,
      Peers.zero⟩
    let p : Peer := ⟨ascii "s", [], GoInt.zero, ascii "/data/s", false⟩
    let calls := startLocalSlaves s (fun _ => true) [p]
    (∃ st, wgRun (WgState.init calls) [.call, .call, .call, .call, .call] = some st ∧
      (wgStep st .wait).isSome = false) ∧
    ∃ st, wgRun (WgState.init calls) [.call, .call, .call, .call, .call, .runReturns 0, .done 0] =
      some st ∧ (wgStep st .wait).isSome = true := by
  intro s p calls
  refine ⟨⟨_, rfl, ?_⟩, ⟨_, rfl, ?_⟩⟩
  · have h := (waitGroup_run s (fun _ => true) [p] [.call, .call, .call, .call, .call] _ rfl).2.2.2.2
    cases hw : (wgStep _ WgAction.wait).isSome
    · rfl
    · exact absurd ((h.1 hw).2.2 _ (List.mem_singleton_self _)) (by decide)
  · exact (waitGroup_run s (fun _ => true) [p]
      [.call, .call, .call, .call, .call, .runReturns 0, .done 0] _ rfl).2.2.2.2.2
      ⟨rfl, rfl, fun x hx => by rw [List.mem_singleton.1 hx]⟩

/-! ## No deadlock -/

theorem wgRun_append (st : WgState) (as bs : List WgAction) :
    wgRun st (as ++ bs) = (wgRun st as).bind fun st' => wgRun st' bs := by
  induction as generalizing st with
  | nil => rfl
  | cons a as ih =>
    simp only [List.cons_append, wgRun]
    cases wgStep st a with
    | none => rfl
    | some st₁ => exact ih st₁

/-- The caller can make all its remaining calls. -/
theorem wgRun_calls : ∀ (pending : List Call) (st : WgState), st.pending = pending →
    ∃ st', wgRun st (pending.map fun _ => .call) = some st' ∧ st'.pending = [] ∧ st'.waited = st.waited
  | [], st, hp => ⟨st, rfl, hp, rfl⟩
  | c :: rest, st, hp => by
    obtain ⟨st', h, hp', hw⟩ := wgRun_calls rest (st.perform c rest) rfl
    refine ⟨st', ?_, hp', hw⟩
    simp only [List.map_cons, wgRun, wgStep, hp, Option.some_bind]
    exact h

/-- A started goroutine that has not called `Done` can return from `Run` and
call it. -/
theorem wgRun_finish_one {st : WgState} {i : Nat} {c : Config} {ph : SlavePhase}
    (h : st.slaves[i]? = some (c, ph)) (hph : ph ≠ .done) :
    ∃ acts st', wgRun st acts = some st' ∧ st'.live + 1 = st.live ∧ st'.pending = st.pending ∧
      st'.waited = st.waited := by
  cases ph with
  | done => exact absurd rfl hph
  | returned =>
    refine ⟨[.done i], { st with slaves := st.slaves.set i (c, .done), counter := st.counter - 1 }, ?_,
      live_set_done h, rfl, rfl⟩
    simp only [wgRun, wgStep, h, Option.some_bind]
  | running =>
    let st₁ : WgState := { st with slaves := st.slaves.set i (c, .returned) }
    have h₁ : st₁.slaves[i]? = some (c, .returned) :=
      List.getElem?_set_self (List.getElem?_eq_some_iff.1 h).1
    refine ⟨[.runReturns i, .done i],
      { st₁ with slaves := st₁.slaves.set i (c, .done), counter := st₁.counter - 1 }, ?_,
      (live_set_done h₁).trans (live_set_returned h), rfl, rfl⟩
    simp only [wgRun, wgStep, h, Option.some_bind]
    simp only [st₁] at h₁ ⊢
    simp only [h₁, Option.some_bind]

/-- Every started goroutine can run until it has called `Done`. -/
theorem wgRun_finish_all : ∀ (n : Nat) (st : WgState), st.live = n →
    ∃ acts st', wgRun st acts = some st' ∧ st'.live = 0 ∧ st'.pending = st.pending ∧
      st'.waited = st.waited
  | 0, st, h => ⟨[], st, rfl, h, rfl, rfl⟩
  | n + 1, st, h => by
    obtain ⟨x, hx, hne⟩ := List.countP_pos_iff.1 (show 0 < st.live by omega)
    obtain ⟨i, hi⟩ := List.getElem?_of_mem hx
    obtain ⟨acts, st₁, h₁, hlive, hp, hw⟩ := wgRun_finish_one hi (by simpa using hne)
    obtain ⟨acts', st₂, h₂, hlive', hp', hw'⟩ := wgRun_finish_all n st₁ (by omega)
    exact ⟨acts ++ acts', st₂, by rw [wgRun_append, h₁, Option.some_bind, h₂], hlive',
      hp'.trans hp, hw'.trans hw⟩

/-- The barrier of `relaunch` never deadlocks: from every state of every run
in which `Wait` has not returned, the caller's remaining calls, the returns of
the slaves' `Run` and their `Done` calls lead to a state where `Wait`
returns. -/
theorem waitGroup_no_deadlock (s : Service) (newServiceOk : Nat → Bool) (peers : List Peer)
    (acts : List WgAction) (st : WgState)
    (h : wgRun (WgState.init (startLocalSlaves s newServiceOk peers)) acts = some st)
    (hw : st.waited = false) :
    ∃ more st', wgRun st more = some st' ∧ (wgStep st' .wait).isSome := by
  have hi := wgRun_inv acts (wgInv_init (addsPaired_startLocalSlaves s newServiceOk peers)) h
  obtain ⟨st₁, h₁, hp₁, hw₁⟩ := wgRun_calls st.pending st rfl
  obtain ⟨acts₂, st₂, h₂, hlive, hp₂, hw₂⟩ := wgRun_finish_all _ st₁ rfl
  have hi₂ := wgRun_inv acts₂ (wgRun_inv _ hi h₁) h₂
  refine ⟨_, st₂, by rw [wgRun_append, h₁, Option.some_bind, h₂], hi₂.wait_iff.2
    ⟨hp₂.trans hp₁, hw₂.trans (hw₁.trans hw), fun x hx => ?_⟩⟩
  have := List.countP_eq_zero.1 hlive x hx
  simpa using this

/-- One slave that is still running: its `Run` returns, it calls `Done`, and
`Wait` returns. -/
theorem waitGroup_no_deadlock_one :
    let s : Service := ⟨⟨ascii "m", ascii "/data", [], [], true, ⟨2, by decide⟩⟩, ⟨8528, by decide⟩,
      Peers.zero⟩
    let p : Peer := ⟨ascii "s", [], GoInt.zero, ascii "/data/s", false⟩
    ∃ st, wgRun (WgState.init (startLocalSlaves s (fun _ => true) [p])) [.call, .call, .call, .call, .call] =
      some st ∧ ∃ more st', wgRun st more = some st' ∧ (wgStep st' .wait).isSome := by
  intro s p
  exact ⟨_, rfl, waitGroup_no_deadlock s (fun _ => true) [p] [.call, .call, .call, .call, .call] _ rfl rfl⟩

end ArangoStarter

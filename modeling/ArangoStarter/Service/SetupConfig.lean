import ArangoStarter.Service.SetupFile
import ArangoStarter.Service.LocalSlaves

/-!
# Saving the setup and relaunching from it

`setup_config.go` keeps the state of a service across restarts.  `saveSetup`
writes the ID, the peer registry and the local-slaves flag of the service to
`setup.json` in its data directory; `relaunch` reads the file at start-up
and, when it holds a record of the current version, restores the state from
it and starts the service without a new negotiation.

The file system is a map from paths to contents.  `ioutil.WriteFile` opens
the file with `O_TRUNC` and then writes, so a crash or a failed write in the
middle leaves a prefix of the new contents in place of the old ones.  What
happens is an argument, `WriteOutcome`.

* `relaunch_cases` says everything that `relaunch` can do.  The results
  below are read off it.
* `relaunch_iff`: `relaunch` resumes exactly when the file exists, decodes,
  and carries `SetupConfigVersion`; otherwise the service is unchanged and
  only log lines are emitted.
* `relaunch_saveSetup`: after a save that returned `nil`, every service with
  the same data directory resumes with the saved state, its strings coerced
  to valid UTF-8, and starts the saved peers as local slaves exactly when the
  saved flag was set.
* `saveSetup_file`: whatever happens during a save, the file then holds the
  old contents, the new ones, or a strict prefix of the new ones, from which
  `relaunch` does not resume.
-/

namespace ArangoStarter

open Go Go.Json

/-! ## Files -/

/-- The files of the host by path: `none` for a path that does not exist or
cannot be read. -/
def FileSystem := GoString → Option GoString

/-- The file system with the file at `path` holding `data`. -/
def FileSystem.write (fs : FileSystem) (path data : GoString) : FileSystem :=
  fun q => if q = path then some data else fs q

@[simp] theorem FileSystem.write_same (fs : FileSystem) (path data : GoString) :
    fs.write path data path = some data := if_pos rfl

theorem FileSystem.write_other (fs : FileSystem) {path q : GoString} (data : GoString)
    (h : q ≠ path) : fs.write path data q = fs q := if_neg h

/-- How a call of `ioutil.WriteFile` ends.  It opens the file with
`O_WRONLY|O_CREATE|O_TRUNC`, writes the data with one `f.Write`, and closes
the file. -/
inductive WriteOutcome
  /-- `os.OpenFile` fails and the file is not touched. -/
  | openFailed
  /-- The file is opened, which empties it, `f.Write` puts the first `n`
  bytes of the data, and `f.Close` fails or not.  A crash in the middle of
  the call leaves the file as one of these outcomes does. -/
  | wrote (n : Nat) (closeFailed : Bool)

/-- `ioutil.WriteFile(path, data, 0644)`: the file system afterwards, and
whether the call returns an error.  A write of fewer bytes than the data is
an error (`io.ErrShortWrite` if `f.Write` has none). -/
def writeFile (fs : FileSystem) (path data : GoString) : WriteOutcome → FileSystem × Bool
  | .openFailed => (fs, true)
  | .wrote n closeFailed => (fs.write path (data.take n), decide (n < data.length) || closeFailed)

/-- `filepath.Join(s.DataDir, setupFileName)`. -/
def setupPath (dataDir : GoString) : GoString := Filepath.join dataDir setupFileName

/-! ## Events -/

/-- What `saveSetup` and `relaunch` do besides changing the service and the
files, in order. -/
inductive Event
  /-- `s.log.Errorf("Error writing setup: %#v", err)`. -/
  | errorWritingSetup
  /-- `s.log.Infof("Relaunching service with id '%s' on %s:%d...", s.ID, s.OwnAddress, s.announcePort)`. -/
  | relaunching (id ownAddress : GoString) (announcePort : Int)
  /-- `s.log.Warningf("%s is outdated. Starting fresh...", setupFileName)`. -/
  | outdated (fileName : GoString)
  /-- `s.log.Warningf("Failed to unmarshal existing %s: %#v", setupFileName, err)`. -/
  | unmarshalFailed (fileName : GoString) (err : UnmarshalError)
  /-- `s.startHTTPServer()`. -/
  | startHTTPServer
  /-- `s.startLocalSlaves(wg, peers)`, with `s` the service as `relaunch` has
  restored it. -/
  | startLocalSlaves (s : Service) (peers : List Peer)
  /-- `s.startRunning(runner)`. -/
  | startRunning
  /-- `wg.Wait()`. -/
  | waitSlaves
deriving DecidableEq

/-- The events that only write to the log. -/
def Event.isLog : Event → Bool
  | .errorWritingSetup | .relaunching .. | .outdated _ | .unmarshalFailed .. => true
  | _ => false

/-! ## saveSetup -/

/-- The record that `saveSetup` writes for a service. -/
def Service.setupRecord (s : Service) : SetupConfigFile :=
  ⟨setupConfigVersion, s.config.id, s.myPeers, s.config.startLocalSlaves⟩

/-- What `saveSetup` leaves: the files, whether it returned `nil`, and what it
logged. -/
structure Saved where
  fs : FileSystem
  ok : Bool
  events : List Event

/-- `s.saveSetup()`.  `json.Marshal` cannot fail on a `SetupConfigFile`, so the
branch that logs `Cannot serialize config` is never taken. -/
def saveSetup (s : Service) (fs : FileSystem) (outcome : WriteOutcome) : Saved :=
  let r := writeFile fs (setupPath s.config.dataDir) (marshalSetup s.setupRecord) outcome
  if r.2 then ⟨r.1, false, [.errorWritingSetup]⟩ else ⟨r.1, true, []⟩

theorem saveSetup_fs (s : Service) (fs : FileSystem) (outcome : WriteOutcome) :
    (saveSetup s fs outcome).fs =
      (writeFile fs (setupPath s.config.dataDir) (marshalSetup s.setupRecord) outcome).1 := by
  unfold saveSetup
  dsimp only
  split <;> rfl

/-- A save touches no other file than its own. -/
theorem saveSetup_fs_other (s : Service) (fs : FileSystem) (outcome : WriteOutcome) {q : GoString}
    (hq : q ≠ setupPath s.config.dataDir) : (saveSetup s fs outcome).fs q = fs q := by
  rw [saveSetup_fs]
  cases outcome with
  | openFailed => rfl
  | wrote n c => exact FileSystem.write_other _ _ hq

/-- After a save, its file holds the old contents or a prefix of the record. -/
theorem saveSetup_fs_self (s : Service) (fs : FileSystem) (outcome : WriteOutcome) :
    (saveSetup s fs outcome).fs (setupPath s.config.dataDir) = fs (setupPath s.config.dataDir) ∨
      ∃ n, (saveSetup s fs outcome).fs (setupPath s.config.dataDir) =
        some ((marshalSetup s.setupRecord).take n) := by
  rw [saveSetup_fs]
  cases outcome with
  | openFailed => exact .inl rfl
  | wrote n c => exact .inr ⟨n, FileSystem.write_same _ _ _⟩

/-- A write of the whole record that closes the file returns `nil`. -/
theorem saveSetup_wrote_ok (s : Service) (fs : FileSystem) :
    (saveSetup s fs (.wrote (marshalSetup s.setupRecord).length false)).ok = true := by
  simp [saveSetup, writeFile]

/-- A save that returned `nil` wrote the whole record. -/
theorem saveSetup_ok {s : Service} {fs : FileSystem} {outcome : WriteOutcome}
    (h : (saveSetup s fs outcome).ok = true) :
    (saveSetup s fs outcome).fs (setupPath s.config.dataDir) = some (marshalSetup s.setupRecord) := by
  cases outcome with
  | openFailed => simp [saveSetup, writeFile] at h
  | wrote n c =>
    have hn : ¬(n < (marshalSetup s.setupRecord).length ∨ c = true) := fun hn => by
      simp [saveSetup, writeFile, hn] at h
    simp only [saveSetup, writeFile, Bool.or_eq_true, decide_eq_true_eq, if_neg hn,
      FileSystem.write_same]
    rw [List.take_of_length_le (by omega)]

/-- The service after a relaunch from `cfg`: `s.myPeers = cfg.Peers`,
`s.ID = cfg.ID` and `s.AgencySize = s.myPeers.AgencySize`. -/
def Service.restore (s : Service) (cfg : SetupConfigFile) : Service :=
  { s with
    myPeers := cfg.peers
    config := { s.config with id := cfg.id, agencySize := cfg.peers.agencySize } }

/-- What a relaunch from `cfg` does after restoring the service. -/
def relaunchEvents (s : Service) (cfg : SetupConfigFile) : List Event :=
  [.relaunching s.config.id s.config.ownAddress s.announcePort.val, .startHTTPServer] ++
    (if cfg.startLocalSlaves then [.startLocalSlaves s cfg.peers.peers] else []) ++
    [.startRunning, .waitSlaves]

/-- What `relaunch` leaves: whether it resumed, the service, and what it did. -/
structure Relaunched where
  relaunched : Bool
  service : Service
  events : List Event

/-- `s.relaunch(runner)`.  It reads the file and never writes it. -/
def relaunch (s : Service) (fs : FileSystem) : Relaunched :=
  match fs (setupPath s.config.dataDir) with
  | none => ⟨false, s, []⟩
  | some content =>
    match unmarshalSetup content with
    | .error err => ⟨false, s, [.unmarshalFailed setupFileName err]⟩
    | .ok cfg =>
      if cfg.version = setupConfigVersion then
        ⟨true, s.restore cfg, relaunchEvents (s.restore cfg) cfg⟩
      else ⟨false, s, [.outdated setupFileName]⟩

/-- Everything that `relaunch` can do: go on with a fresh start, with the
service unchanged and nothing but log lines, or resume from a record of the
current version that the file decodes to. -/
theorem relaunch_cases (s : Service) (fs : FileSystem) :
    ((relaunch s fs).relaunched = false ∧ (relaunch s fs).service = s ∧
        ∀ e ∈ (relaunch s fs).events, e.isLog = true) ∨
      ∃ content cfg, fs (setupPath s.config.dataDir) = some content ∧
        unmarshalSetup content = .ok cfg ∧ cfg.version = setupConfigVersion ∧
        relaunch s fs = ⟨true, s.restore cfg, relaunchEvents (s.restore cfg) cfg⟩ := by
  unfold relaunch
  split
  · exact .inl ⟨rfl, rfl, by simp⟩
  rename_i content hc
  split
  · exact .inl ⟨rfl, rfl, by simp [Event.isLog]⟩
  rename_i cfg hcfg
  split
  · exact .inr ⟨content, cfg, hc, hcfg, ‹_›, rfl⟩
  · exact .inl ⟨rfl, rfl, by simp [Event.isLog]⟩

/-- A relaunch that resumes did so from the file. -/
theorem relaunch_of_relaunched {s : Service} {fs : FileSystem} (h : (relaunch s fs).relaunched = true) :
    ∃ content cfg, fs (setupPath s.config.dataDir) = some content ∧
      unmarshalSetup content = .ok cfg ∧ cfg.version = setupConfigVersion ∧
      relaunch s fs = ⟨true, s.restore cfg, relaunchEvents (s.restore cfg) cfg⟩ := by
  rcases relaunch_cases s fs with ⟨hf, -⟩ | h'
  · rw [hf] at h
    cases h
  · exact h'

/-- A relaunch from a file that decodes to a record of the current version. -/
theorem relaunch_of_decode {s : Service} {fs : FileSystem} {content : GoString}
    {cfg : SetupConfigFile} (hc : fs (setupPath s.config.dataDir) = some content)
    (hcfg : unmarshalSetup content = .ok cfg) (hv : cfg.version = setupConfigVersion) :
    relaunch s fs = ⟨true, s.restore cfg, relaunchEvents (s.restore cfg) cfg⟩ := by
  unfold relaunch
  rw [hc]
  dsimp only
  rw [hcfg]
  dsimp only
  rw [if_pos hv]

/-- A relaunch from a file that does not decode goes on with a fresh start. -/
theorem relaunch_of_error {s : Service} {fs : FileSystem} {content : GoString} {err : UnmarshalError}
    (hc : fs (setupPath s.config.dataDir) = some content) (herr : unmarshalSetup content = .error err) :
    relaunch s fs = ⟨false, s, [.unmarshalFailed setupFileName err]⟩ := by
  unfold relaunch
  rw [hc]
  dsimp only
  rw [herr]

/-- `relaunch` resumes exactly when the file exists, decodes without error,
and carries `SetupConfigVersion`.  Otherwise it leaves the service as it was
and only writes to the log: it starts no HTTP server, no local slave and no
runner. -/
theorem relaunch_iff (s : Service) (fs : FileSystem) :
    ((relaunch s fs).relaunched = true ↔
      ∃ content cfg, fs (setupPath s.config.dataDir) = some content ∧
        unmarshalSetup content = .ok cfg ∧ cfg.version = setupConfigVersion) ∧
    ((relaunch s fs).relaunched = false →
      (relaunch s fs).service = s ∧ ∀ e ∈ (relaunch s fs).events, e.isLog = true) := by
  refine ⟨⟨fun h => ?_, fun ⟨content, cfg, hc, hcfg, hv⟩ => by rw [relaunch_of_decode hc hcfg hv]⟩,
    fun h => ?_⟩
  · obtain ⟨content, cfg, hc, hcfg, hv, -⟩ := relaunch_of_relaunched h
    exact ⟨content, cfg, hc, hcfg, hv⟩
  · rcases relaunch_cases s fs with ⟨-, hs, he⟩ | ⟨_, _, _, _, _, hr⟩
    · exact ⟨hs, he⟩
    · rw [hr] at h
      cases h

/-- A missing file and an empty one each give a fresh start. -/
theorem relaunch_iff_examples :
    let s : Service := ⟨⟨ascii "m", ascii "/data", [], [], true, ⟨3, by decide⟩⟩, ⟨8528, by decide⟩,
      Peers.zero⟩
    (relaunch s fun _ => none).relaunched = false ∧ (relaunch s fun _ => some []).service = s := by
  intro s
  refine ⟨?_, ((relaunch_iff s fun _ => some []).2 rfl).1⟩
  cases h : (relaunch s fun _ => none).relaunched
  · rfl
  · obtain ⟨_, _, hc, -⟩ := (relaunch_iff s fun _ => none).1.1 h
    cases hc

/-! ## A saved state comes back -/

/-- A relaunch from a file that a save returning `nil` wrote resumes from the
saved record, its strings coerced. -/
theorem relaunch_of_saved {s s' : Service} {fs : FileSystem} {outcome : WriteOutcome}
    (hdir : s'.config.dataDir = s.config.dataDir) (hok : (saveSetup s fs outcome).ok = true) :
    relaunch s' (saveSetup s fs outcome).fs = ⟨true, s'.restore s.setupRecord.coerce,
      relaunchEvents (s'.restore s.setupRecord.coerce) s.setupRecord.coerce⟩ := by
  have hfile : (saveSetup s fs outcome).fs (setupPath s'.config.dataDir) =
      some (marshalSetup s.setupRecord) := by
    rw [hdir]
    exact saveSetup_ok hok
  exact relaunch_of_decode hfile (unmarshalSetup_marshalSetup _) (Utf8.coerce_ascii (by decide))

/-- After a save that returned `nil`, a relaunch of any service with the same
data directory resumes.  It restores the ID, the peer registry and the agency
size of the saved one with every string coerced to valid UTF-8, so exactly
when they are valid UTF-8; it starts the saved peers as local slaves exactly
when the saved flag was set, after it restored the ID, so that no slave gets
the restored ID. -/
theorem relaunch_saveSetup (s s' : Service) (fs : FileSystem) (outcome : WriteOutcome)
    (newServiceOk : Nat → Bool) (hdir : s'.config.dataDir = s.config.dataDir)
    (hok : (saveSetup s fs outcome).ok = true) :
    let r := relaunch s' (saveSetup s fs outcome).fs
    r.relaunched = true ∧ r.service.config.id = Utf8.coerce s.config.id ∧
      r.service.myPeers = s.myPeers.coerce ∧ r.service.config.agencySize = s.myPeers.agencySize ∧
      r.events = [.relaunching r.service.config.id s'.config.ownAddress s'.announcePort.val,
          .startHTTPServer] ++
        (if s.config.startLocalSlaves then [.startLocalSlaves r.service s.myPeers.coerce.peers]
          else []) ++
        [.startRunning, .waitSlaves] ∧
      (∀ c ∈ (startLocalSlaves r.service newServiceOk s.myPeers.coerce.peers).filterMap
          Call.newServiceConfig, c.id ≠ r.service.config.id) ∧
      (s.setupRecord.ValidUtf8 → r.service.config.id = s.config.id ∧ r.service.myPeers = s.myPeers) := by
  intro r
  have hr : r = ⟨true, s'.restore s.setupRecord.coerce,
      relaunchEvents (s'.restore s.setupRecord.coerce) s.setupRecord.coerce⟩ :=
    relaunch_of_saved hdir hok
  have hvalid : s.setupRecord.ValidUtf8 → s.setupRecord.coerce = s.setupRecord :=
    SetupConfigFile.coerce_eq_self.2
  rw [hr]
  refine ⟨rfl, rfl, rfl, rfl, rfl, fun c hc => id_ne_of_mem_newService hc, fun hv => ?_⟩
  have h := hvalid hv
  exact ⟨congrArg SetupConfigFile.id h, congrArg SetupConfigFile.peers h⟩

/-- A master that saved with all its bytes written relaunches, starts its
saved peer as a slave, and restores the peer's ASCII ID as it was. -/
theorem relaunch_saveSetup_master :
    let p : Peer := ⟨ascii "s", [], GoInt.zero, ascii "/data/local-slave-1", false⟩
    let s : Service := ⟨⟨ascii "m", ascii "/data", [], [], true, ⟨2, by decide⟩⟩, ⟨8528, by decide⟩,
      ⟨[p], ⟨2, by decide⟩⟩⟩
    let r := relaunch s (saveSetup s (fun _ => none) (.wrote (marshalSetup s.setupRecord).length false)).fs
    r.relaunched = true ∧ r.service.config.agencySize = ⟨2, by decide⟩ ∧
      r.events.length = 5 := by
  intro p s r
  obtain ⟨h1, -, -, h4, h5, -, -⟩ := relaunch_saveSetup s s (fun _ => none)
    (.wrote (marshalSetup s.setupRecord).length false) (fun _ => true) rfl (saveSetup_wrote_ok s _)
  refine ⟨h1, h4, ?_⟩
  rw [h5]
  rfl

/-- A peer ID that is not valid UTF-8 comes back changed: the byte `0xFF` is
read back as U+FFFD. -/
theorem relaunch_saveSetup_invalid :
    let s : Service := ⟨⟨[0xFF], ascii "/data", [], [], false, ⟨1, by decide⟩⟩, ⟨8528, by decide⟩,
      Peers.zero⟩
    let saved := saveSetup s (fun _ => none) (.wrote (marshalSetup s.setupRecord).length false)
    saved.ok = true ∧ (relaunch s saved.fs).relaunched = true ∧
      (relaunch s saved.fs).service.config.id = [0xEF, 0xBF, 0xBD] := by
  intro s saved
  have hok : saved.ok = true := saveSetup_wrote_ok s _
  rw [relaunch_of_decode (saveSetup_ok hok) (unmarshalSetup_marshalSetup _) (Utf8.coerce_ascii (by decide))]
  refine ⟨hok, rfl, ?_⟩
  show Utf8.coerce [0xFF] = [0xEF, 0xBF, 0xBD]
  rw [Utf8.coerce_cons_invalid (by decide), Utf8.coerce_nil]
  rfl

/-- A service that relaunched from its own saved record saves the same record
again, coerced strings and all. -/
theorem setupRecord_restore (s : Service) :
    (s.restore s.setupRecord.coerce).setupRecord.coerce = s.setupRecord.coerce := by
  have hv : Utf8.coerce setupConfigVersion = setupConfigVersion := Utf8.coerce_ascii (by decide)
  have h : (s.restore s.setupRecord.coerce).setupRecord = s.setupRecord.coerce := by
    simp only [Service.setupRecord, Service.restore, SetupConfigFile.coerce, hv]
  rw [h, SetupConfigFile.coerce_coerce]

/-- One save and relaunch bring a service to a fixpoint: once it has relaunched
from a record it saved, a second save that returns `nil` and a second relaunch
give it back unchanged, even where the first round coerced its strings. -/
theorem relaunch_saveSetup_fixpoint (s : Service) (fs fs' : FileSystem) (outcome outcome' : WriteOutcome)
    (hok : (saveSetup s fs outcome).ok = true) :
    let s₁ := (relaunch s (saveSetup s fs outcome).fs).service
    (saveSetup s₁ fs' outcome').ok = true → (relaunch s₁ (saveSetup s₁ fs' outcome').fs).service = s₁ := by
  intro s₁ hok'
  have hs₁ : s₁ = s.restore s.setupRecord.coerce := congrArg Relaunched.service (relaunch_of_saved rfl hok)
  rw [relaunch_of_saved rfl hok']
  show s₁.restore s₁.setupRecord.coerce = s₁
  rw [hs₁, setupRecord_restore]
  rfl

/-- A service whose ID is not valid UTF-8 changes in the first round and stays
as it is in the second. -/
theorem relaunch_saveSetup_fixpoint_invalid :
    let s : Service := ⟨⟨[0xFF], ascii "/data", [], [], false, ⟨1, by decide⟩⟩, ⟨8528, by decide⟩,
      Peers.zero⟩
    let s₁ := (relaunch s (saveSetup s (fun _ => none) (.wrote (marshalSetup s.setupRecord).length false)).fs).service
    s₁ ≠ s ∧ (relaunch s₁ (saveSetup s₁ (fun _ => none)
      (.wrote (marshalSetup s₁.setupRecord).length false)).fs).service = s₁ := by
  intro s s₁
  refine ⟨fun h => ?_, relaunch_saveSetup_fixpoint s _ _ _ _ (saveSetup_wrote_ok s _) (saveSetup_wrote_ok s₁ _)⟩
  have hs₁ : s₁ = s.restore s.setupRecord.coerce :=
    congrArg Relaunched.service (relaunch_of_saved rfl (saveSetup_wrote_ok s _))
  have hid : Utf8.coerce [0xFF] = [0xFF] := congrArg (fun t : Service => t.config.id) (hs₁.symm.trans h)
  rw [Utf8.coerce_cons_invalid (by decide), Utf8.coerce_nil] at hid
  cases hid

/-! ## An interrupted save -/

/-- Whatever happens while `saveSetup` writes (the open fails, the write stops
after any number of bytes, the process dies), no other file changes, and its
own file holds the old contents, the whole new record, or a strict prefix of
it.  From a strict prefix a relaunch goes on with a fresh start. -/
theorem saveSetup_file (s s' : Service) (fs : FileSystem) (outcome : WriteOutcome)
    (hdir : s'.config.dataDir = s.config.dataDir) :
    let fs' := (saveSetup s fs outcome).fs
    (∀ q, q ≠ setupPath s.config.dataDir → fs' q = fs q) ∧
      (fs' (setupPath s.config.dataDir) = fs (setupPath s.config.dataDir) ∨
        fs' (setupPath s.config.dataDir) = some (marshalSetup s.setupRecord) ∨
        ∃ p t, fs' (setupPath s.config.dataDir) = some p ∧ p ++ t = marshalSetup s.setupRecord ∧
          t ≠ [] ∧ (relaunch s' fs').relaunched = false ∧ (relaunch s' fs').service = s') := by
  intro fs'
  refine ⟨fun q hq => saveSetup_fs_other s fs outcome hq, ?_⟩
  rcases saveSetup_fs_self s fs outcome with h | ⟨n, h⟩
  · exact .inl h
  right
  by_cases hn : (marshalSetup s.setupRecord).length ≤ n
  · exact .inl (h.trans (by rw [List.take_of_length_le hn]))
  have ht : (marshalSetup s.setupRecord).drop n ≠ [] := by simp; omega
  obtain ⟨err, herr⟩ := unmarshalSetup_strict_prefix (List.take_append_drop n _) ht
  have hfile : fs' (setupPath s'.config.dataDir) = some ((marshalSetup s.setupRecord).take n) := by
    rw [hdir]
    exact h
  rw [relaunch_of_error hfile herr]
  exact .inr ⟨_, _, h, List.take_append_drop n _, ht, rfl, rfl⟩

/-- A save of one byte changes no other file. -/
theorem saveSetup_file_other :
    let s : Service := ⟨⟨ascii "m", ascii "/data", [], [], false, ⟨1, by decide⟩⟩, ⟨8528, by decide⟩,
      Peers.zero⟩
    (saveSetup s (fun _ => none) (.wrote 1 false)).fs (ascii "/data/other.json") = none :=
  (saveSetup_file _ _ (fun _ => none) (.wrote 1 false) rfl).1 _ (by decide)

/-- A save that dies right after the open has emptied the file leaves neither
the old record nor the new one, and the next relaunch starts afresh. -/
theorem saveSetup_truncated :
    let s : Service := ⟨⟨ascii "m", ascii "/data", [], [], false, ⟨1, by decide⟩⟩, ⟨8528, by decide⟩,
      Peers.zero⟩
    let old : GoString := marshalSetup ⟨setupConfigVersion, ascii "old", Peers.zero, false⟩
    let fs' := (saveSetup s (fun _ => some old) (.wrote 0 false)).fs
    fs' (setupPath s.config.dataDir) ≠ some old ∧
      fs' (setupPath s.config.dataDir) ≠ some (marshalSetup s.setupRecord) ∧
      (relaunch s fs').relaunched = false := by
  intro s old fs'
  have hfile : fs' (setupPath s.config.dataDir) = some [] := by
    show (saveSetup s _ _).fs _ = _
    rw [saveSetup_fs]
    simp only [writeFile, List.take_zero, FileSystem.write_same]
  obtain ⟨t, ht⟩ := marshalSetup_eq_cons s.setupRecord
  obtain ⟨t', ht'⟩ := marshalSetup_eq_cons ⟨setupConfigVersion, ascii "old", Peers.zero, false⟩
  refine ⟨?_, ?_, ?_⟩
  · rw [hfile, show old = 123 :: t' from ht']
    simp
  · rw [hfile, ht]
    simp
  · unfold relaunch
    rw [hfile]
    rfl

end ArangoStarter

import ArangoStarter.Service.Types
import ArangoStarter.Go.Json.Typed
import ArangoStarter.Go.Json.RoundTrip

/-!
# The bytes of `setup.json`

`saveSetup` writes `json.Marshal(cfg)` of a `SetupConfigFile`, and `relaunch`
reads the file back with `json.Unmarshal` into a fresh record.  The encoder
writes the fields of a struct in their order under their JSON names (the tag
names of `SetupConfigFile`, the Go names of `peers` and `Peer`), drops
`start-local-slaves` when it is `false` (`omitempty`), and writes an `int` as
its decimal.

* `unmarshalSetup_marshalSetup`: a saved record reads back as itself with
  every string coerced to valid UTF-8, so exactly when its strings are valid
  UTF-8 (`SetupConfigFile.coerce_eq_self`).
* `unmarshalSetup_strict_prefix`: no strict prefix of a saved record decodes.
-/

namespace ArangoStarter

open Go Go.Json

/-! ## Encoding -/

/-- The tree that the encoder writes for a `Peer`. -/
def Peer.toJValue (p : Peer) : JValue :=
  .object [(ascii "ID", .string p.id), (ascii "Address", .string p.address),
    (ascii "Port", .number (Strconv.itoa p.port.val)), (ascii "DataDir", .string p.dataDir),
    (ascii "HasAgent", .bool p.hasAgent)]

/-- The tree that the encoder writes for a `peers`. -/
def Peers.toJValue (ps : Peers) : JValue :=
  .object [(ascii "Peers", .array (ps.peers.map Peer.toJValue)),
    (ascii "AgencySize", .number (Strconv.itoa ps.agencySize.val))]

/-- The tree that the encoder writes for a `SetupConfigFile`. -/
def SetupConfigFile.toJValue (cfg : SetupConfigFile) : JValue :=
  .object ([(ascii "version", .string cfg.version), (ascii "id", .string cfg.id),
    (ascii "peers", cfg.peers.toJValue)] ++
    if cfg.startLocalSlaves then [(ascii "start-local-slaves", .bool true)] else [])

/-- `json.Marshal(cfg)`, which cannot fail for these types. -/
def marshalSetup (cfg : SetupConfigFile) : GoString := render cfg.toJValue

/-! ## Decoding -/

/-- The fields of `Peer` for the decoder. -/
def Peer.fields : List (FieldDec Peer) :=
  [⟨ascii "ID", fun v p => (decodeString v p.id).map fun x => { p with id := x }⟩,
    ⟨ascii "Address", fun v p => (decodeString v p.address).map fun x => { p with address := x }⟩,
    ⟨ascii "Port", fun v p => (decodeInt v p.port).map fun x => { p with port := x }⟩,
    ⟨ascii "DataDir", fun v p => (decodeString v p.dataDir).map fun x => { p with dataDir := x }⟩,
    ⟨ascii "HasAgent", fun v p => (decodeBool v p.hasAgent).map fun x => { p with hasAgent := x }⟩]

/-- The decoder for a `Peer`. -/
def decodePeer : JValue → Peer → Except UnmarshalError Peer := decodeStruct Peer.fields "service.Peer"

/-- The fields of `peers` for the decoder. -/
def Peers.fields : List (FieldDec Peers) :=
  [⟨ascii "Peers", fun v ps =>
      (decodeSlice Peer.zero decodePeer "[]service.Peer" v ps.peers).map fun x => { ps with peers := x }⟩,
    ⟨ascii "AgencySize", fun v ps =>
      (decodeInt v ps.agencySize).map fun x => { ps with agencySize := x }⟩]

/-- The decoder for a `peers`. -/
def decodePeers : JValue → Peers → Except UnmarshalError Peers :=
  decodeStruct Peers.fields "service.peers"

/-- The fields of `SetupConfigFile` for the decoder, under their tag names. -/
def SetupConfigFile.fields : List (FieldDec SetupConfigFile) :=
  [⟨ascii "version", fun v c => (decodeString v c.version).map fun x => { c with version := x }⟩,
    ⟨ascii "id", fun v c => (decodeString v c.id).map fun x => { c with id := x }⟩,
    ⟨ascii "peers", fun v c => (decodePeers v c.peers).map fun x => { c with peers := x }⟩,
    ⟨ascii "start-local-slaves", fun v c =>
      (decodeBool v c.startLocalSlaves).map fun x => { c with startLocalSlaves := x }⟩]

/-- `json.Unmarshal(data, &cfg)` into a fresh `SetupConfigFile`. -/
def unmarshalSetup (data : GoString) : Except UnmarshalError SetupConfigFile := do
  let v ← parseText data
  decodeStruct SetupConfigFile.fields "service.SetupConfigFile" v SetupConfigFile.zero

/-! ## Coercion -/

/-- A `Peer` with its strings coerced to valid UTF-8. -/
def Peer.coerce (p : Peer) : Peer :=
  { p with id := Utf8.coerce p.id, address := Utf8.coerce p.address, dataDir := Utf8.coerce p.dataDir }

/-- A `peers` with the strings of its peers coerced. -/
def Peers.coerce (ps : Peers) : Peers := { ps with peers := ps.peers.map Peer.coerce }

/-- A `SetupConfigFile` with its strings coerced. -/
def SetupConfigFile.coerce (cfg : SetupConfigFile) : SetupConfigFile :=
  { cfg with version := Utf8.coerce cfg.version, id := Utf8.coerce cfg.id, peers := cfg.peers.coerce }

/-- Every string of the record is valid UTF-8. -/
def SetupConfigFile.ValidUtf8 (cfg : SetupConfigFile) : Prop :=
  Utf8.validString cfg.version ∧ Utf8.validString cfg.id ∧
    ∀ p ∈ cfg.peers.peers,
      Utf8.validString p.id ∧ Utf8.validString p.address ∧ Utf8.validString p.dataDir

instance (cfg : SetupConfigFile) : Decidable cfg.ValidUtf8 := by
  unfold SetupConfigFile.ValidUtf8; infer_instance

theorem peers_map_coerce_eq_self {ps : List Peer} : ps.map Peer.coerce = ps ↔ ∀ p ∈ ps, p.coerce = p := by
  conv_lhs => rhs; rw [← List.map_id ps]
  exact List.map_eq_map_iff

theorem Peer.coerce_eq_self {p : Peer} :
    p.coerce = p ↔ Utf8.validString p.id ∧ Utf8.validString p.address ∧ Utf8.validString p.dataDir := by
  rw [← Utf8.coerce_eq_self_iff, ← Utf8.coerce_eq_self_iff, ← Utf8.coerce_eq_self_iff]
  cases p
  simp [Peer.coerce]

/-- Reading a record back changes it exactly when one of its strings is not
valid UTF-8. -/
theorem SetupConfigFile.coerce_eq_self {cfg : SetupConfigFile} : cfg.coerce = cfg ↔ cfg.ValidUtf8 := by
  obtain ⟨version, id, ⟨ps, n⟩, sls⟩ := cfg
  simp only [SetupConfigFile.coerce, Peers.coerce, SetupConfigFile.ValidUtf8, SetupConfigFile.mk.injEq,
    Peers.mk.injEq, Utf8.coerce_eq_self_iff, peers_map_coerce_eq_self, Peer.coerce_eq_self, and_true]

theorem Peer.coerce_coerce (p : Peer) : p.coerce.coerce = p.coerce := by
  simp only [Peer.coerce, Utf8.coerce_coerce]

theorem SetupConfigFile.coerce_coerce (cfg : SetupConfigFile) : cfg.coerce.coerce = cfg.coerce := by
  simp only [SetupConfigFile.coerce, Peers.coerce, List.map_map, Function.comp_def,
    Peer.coerce_coerce, Utf8.coerce_coerce]

/-! ## Reading a saved record back -/

theorem decodePeer_toJValue (p q : Peer) : decodePeer p.toJValue.coerce q = .ok p.coerce := by
  simp +decide [decodePeer, Peer.toJValue, Utf8.coerce_ascii,
    decodeStruct, decodeMembers, findField, Peer.fields, decodeString, decodeInt_itoa, decodeBool,
    Peer.coerce]

theorem decodePeers_toJValue (ps qs : Peers) : decodePeers ps.toJValue.coerce qs = .ok ps.coerce := by
  have hp : ∀ p q, decodePeer ((JValue.coerce ∘ Peer.toJValue) p) q = .ok p.coerce := decodePeer_toJValue
  simp +decide [decodePeers, Peers.toJValue, Utf8.coerce_ascii, decodeStruct, decodeMembers, findField, Peers.fields, decodeSlice,
    decodeElems_map hp, decodeInt_itoa, Peers.coerce]

theorem decodeSetup_toJValue (cfg : SetupConfigFile) :
    decodeStruct SetupConfigFile.fields "service.SetupConfigFile" cfg.toJValue.coerce
      SetupConfigFile.zero = .ok cfg.coerce := by
  cases h : cfg.startLocalSlaves <;>
  simp +decide [SetupConfigFile.toJValue, h, Utf8.coerce_ascii,
    decodeStruct, decodeMembers, findField, SetupConfigFile.fields, decodeString,
    decodePeers_toJValue, decodeBool, SetupConfigFile.coerce, SetupConfigFile.zero]

theorem Peer.toJValue_intLits (p : Peer) : p.toJValue.IntLits :=
  ⟨trivial, trivial, ⟨_, rfl⟩, trivial, trivial, trivial⟩

theorem SetupConfigFile.toJValue_intLits (cfg : SetupConfigFile) : cfg.toJValue.IntLits := by
  have hpeers : cfg.peers.toJValue.IntLits :=
    ⟨elemsIntLits_map Peer.toJValue_intLits cfg.peers.peers, ⟨_, rfl⟩, trivial⟩
  unfold SetupConfigFile.toJValue
  split <;> exact ⟨trivial, trivial, hpeers, by trivial⟩

/-- A saved record reads back as itself with its strings coerced to valid UTF-8. -/
theorem unmarshalSetup_marshalSetup (cfg : SetupConfigFile) :
    unmarshalSetup (marshalSetup cfg) = .ok cfg.coerce := by
  rw [unmarshalSetup, marshalSetup, parseText_render cfg.toJValue_intLits, bind_ok,
    decodeSetup_toJValue]

/-- The bytes of a record start with the brace of the object. -/
theorem marshalSetup_eq_cons (cfg : SetupConfigFile) : ∃ t, marshalSetup cfg = 123 :: t :=
  ⟨_, rfl⟩

/-- No strict prefix of a saved record reads back. -/
theorem unmarshalSetup_strict_prefix {cfg : SetupConfigFile} {p t : GoString}
    (hp : p ++ t = marshalSetup cfg) (ht : t ≠ []) : ∃ e, unmarshalSetup p = .error e := by
  obtain ⟨e, he⟩ := parseText_strict_prefix cfg.toJValue_intLits hp ht
  exact ⟨e, by rw [unmarshalSetup, he]; rfl⟩

end ArangoStarter

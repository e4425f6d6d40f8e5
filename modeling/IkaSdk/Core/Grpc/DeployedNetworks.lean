import IkaSdk.Core.Grpc.AttestationRecord

/-! The networks that the SDK lists the keys of, and the check of the network
key that an attestation names. -/

namespace Ika

open Wire

inductive DeployedNetworkName
  | mainnet
  | testnet
deriving DecidableEq, Repr

def DeployedNetworkName.name : DeployedNetworkName → String
  | mainnet => "mainnet"
  | testnet => "testnet"

/-- A network with a list, or one whose keys the caller read or configured. -/
inductive IkaNetwork
  | deployed (name : DeployedNetworkName)
  | custom (networkPublicKeys : List Bytes)
deriving DecidableEq, Repr

structure DeployedNetworkKey where
  noaPublicKey : Bytes
  dkgOutputDigest : Bytes
  suiRecordAddress : Bytes
  solanaRecordAddress : Bytes
deriving DecidableEq, Repr

structure DeployedNetwork where
  networkKeys : List DeployedNetworkKey
deriving DecidableEq, Repr

/-- No network key is listed yet. -/
def ikaDeployedNetworks : DeployedNetworkName → DeployedNetwork
  | .mainnet => ⟨[]⟩
  | .testnet => ⟨[]⟩

/-- The network keys a caller trusts, with the network that they are of. -/
structure TrustedNetwork extends TrustedNetworkKeys where
  network : IkaNetwork
deriving DecidableEq, Repr

def notDeployed (name : DeployedNetworkName) : String :=
  s!"the new flow is not deployed on {name.name} yet: this SDK lists no network key for {name.name}"

/-- The entry that the table lists for a network key. -/
def listedNetworkKeyIn (table : DeployedNetwork) (name : DeployedNetworkName)
    (noaPublicKey : Bytes) : Except String DeployedNetworkKey :=
  if table.networkKeys.isEmpty then .error (notDeployed name)
  else
    match table.networkKeys.find? (·.noaPublicKey = noaPublicKey) with
    | none => .error s!"network key {toHex noaPublicKey} is not a network key of {name.name}"
    | some entry => .ok entry

/-- The keys that the table lists. -/
def trustedNetworkKeysIn (table : DeployedNetwork) (name : DeployedNetworkName) :
    Except String TrustedNetwork :=
  if table.networkKeys.isEmpty then .error (notDeployed name)
  else .ok ⟨⟨table.networkKeys.map (·.noaPublicKey)⟩, .deployed name⟩

/-- The network keys a caller trusts on a network. -/
def trustedNetworkKeys (network : IkaNetwork) : Except String TrustedNetwork :=
  match network with
  | .deployed name => trustedNetworkKeysIn (ikaDeployedNetworks name) name
  | .custom networkPublicKeys =>
    match networkPublicKeys.find? (·.length ≠ 32) with
    | some key => .error s!"a trusted network key is 32 bytes, got {key.length}"
    | none => .ok ⟨⟨networkPublicKeys⟩, network⟩

/-- Why the key that an attestation names is refused, if it is. -/
def attestationNetworkKeyRefusalIn (tables : DeployedNetworkName → DeployedNetwork)
    (networkPubkey expectedNetworkKeyId : Bytes) (network : IkaNetwork)
    (trusted : Option TrustedNetworkKeys) : Option String :=
  if trusted.any (networkPubkey ∉ ·.publicKeys) then
    some "the attestation's network_pubkey is not a network key the caller trusts"
  else if networkPubkey ≠ expectedNetworkKeyId then
    some "the attestation's network_pubkey is not the network key the request uses"
  else
    match network with
    | .custom _ => none
    | .deployed name =>
      match listedNetworkKeyIn (tables name) name expectedNetworkKeyId with
      | .ok _ => none
      | .error reason =>
        some ("the attestation's network_pubkey is not a network key this SDK lists for the " ++
          s!"network: {reason}")

def verifyAttestationNetworkKey (networkPubkey expectedNetworkKeyId : Bytes)
    (network : IkaNetwork) (trusted : Option TrustedNetworkKeys) : Except SdkError Unit :=
  match attestationNetworkKeyRefusalIn ikaDeployedNetworks networkPubkey expectedNetworkKeyId
      network trusted with
  | none => .ok ()
  | some refusal => .error (.attestationRecord .binding refusal (some "network_pubkey"))

theorem listedNetworkKeyIn_ok {table : DeployedNetwork} {name : DeployedNetworkName}
    {key : Bytes} {entry : DeployedNetworkKey} (h : listedNetworkKeyIn table name key = .ok entry) :
    entry ∈ table.networkKeys ∧ entry.noaPublicKey = key := by
  unfold listedNetworkKeyIn at h
  split_ifs at h
  split at h
  · cases h
  · next found hfound =>
    obtain rfl := Except.ok.inj h
    exact ⟨List.mem_of_find?_eq_some hfound, by simpa using List.find?_some hfound⟩

/-- The named key is the expected one, a trusted one where a trusted set is
given, and a listed one of a network that has a list. -/
structure NamesNetworkKey (tables : DeployedNetworkName → DeployedNetwork)
    (networkPubkey expectedNetworkKeyId : Bytes) (network : IkaNetwork)
    (trusted : Option TrustedNetworkKeys) : Prop where
  expected : networkPubkey = expectedNetworkKeyId
  trusted : ∀ keys ∈ trusted, networkPubkey ∈ keys.publicKeys
  listed : ∀ name, network = .deployed name →
    ∃ entry ∈ (tables name).networkKeys, entry.noaPublicKey = expectedNetworkKeyId

theorem attestationNetworkKeyRefusalIn_none {tables : DeployedNetworkName → DeployedNetwork}
    {networkPubkey expected : Bytes} {network : IkaNetwork} {trusted : Option TrustedNetworkKeys}
    (h : attestationNetworkKeyRefusalIn tables networkPubkey expected network trusted = none) :
    NamesNetworkKey tables networkPubkey expected network trusted := by
  unfold attestationNetworkKeyRefusalIn at h
  split_ifs at h with htrusted hexpected
  refine ⟨not_not.mp hexpected, fun keys hkeys => ?_, fun name hname => ?_⟩
  · obtain rfl : trusted = some keys := hkeys
    simpa using htrusted
  · subst hname
    dsimp only at h
    split at h
    · next entry hlisted => exact ⟨entry, listedNetworkKeyIn_ok hlisted⟩
    · cases h

theorem verifyAttestationNetworkKey_ok {networkPubkey expected : Bytes} {network : IkaNetwork}
    {trusted : Option TrustedNetworkKeys} {u : Unit}
    (h : verifyAttestationNetworkKey networkPubkey expected network trusted = .ok u) :
    NamesNetworkKey ikaDeployedNetworks networkPubkey expected network trusted := by
  unfold verifyAttestationNetworkKey at h
  split at h
  · next hnone => exact attestationNetworkKeyRefusalIn_none hnone
  · cases h

end Ika

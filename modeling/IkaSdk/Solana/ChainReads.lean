import IkaSdk.Solana.Instructions
import IkaSdk.Solana.Usability

/-! The reads of the program's accounts that no network signature covers: the
network's epoch, the registered network keys and the holders' encryption keys. -/

namespace Ika.Solana

open Wire Interaction

/-- The account at an address as `decode` reads it, if there is one. -/
def readAs {T : Type} (endpoint : CrossCheckEndpoint) (address : Bytes)
    (decode : ReadAccount → Except SdkError (Option T)) : SolanaEff (Option T) := do
  match ← getAccount endpoint address with
  | none => return none
  | some account => decode account

def systemStateEpoch : ℕ := 2

def encryptionKeyEd25519SignatureScheme : ℕ := 0

/-- A holder's registry entry. -/
structure EncryptionKeyEntry where
  address : Bytes
  signerPublicKey : Bytes
  curve : ℕ
  signature : Bytes
  signatureScheme : ℕ
  encryptionKey : Bytes
deriving DecidableEq, Repr

structure EncryptionKeyParams where
  programId : PublicKey
  chainNumber : ℕ
  network : ℕ
  holderPublicKey : Bytes
  curve : ℕ

section Reads

variable (P : Primitives) (toBase58 : Bytes → String) (crossCheck : SolanaReadCrossCheck)
  (fuel : ℕ)

/-! ## The network's epoch -/

def readCoordinatorEpoch (account : ReadAccount) : Except SdkError (Option ℕ) := do
  return (← readDWalletCoordinator account.data).map (·.epoch)

def chainEpoch (programId : PublicKey) : SolanaEff ℕ := do
  let derived ← fromPackage (dwalletCoordinatorPda P programId.toBytes)
  match ← crossCheckedAccountRead crossCheck fuel "the dWallet coordinator's epoch"
    (readAs · derived.address readCoordinatorEpoch) (· == ·) id with
  | none =>
    throw (.error s!"the program {toBase58 programId.toBytes} has no coordinator account")
  | some epoch => return epoch

def readSystemStateEpoch (programId : Bytes) (account : ReadAccount) :
    Except SdkError (Option ℕ) := do
  ensure (account.owner = programId)
    (SdkError.error "the SystemState account is not owned by the ika protocol program")
  let length ← fromPackage (accountDataLen "SystemState")
  let discriminator ← fromPackage (accountDiscriminator "SystemState")
  ensure (account.data.length = length ∧ byteAt account.data 0 = discriminator)
    (SdkError.error "the SystemState account does not read as one")
  return some (readU64 account.data systemStateEpoch)

def currentEpoch (programId : Bytes) : SolanaEff ℕ := do
  let readEpoch (endpoint : CrossCheckEndpoint) : SolanaEff (Option ℕ) := do
    let derived ← fromPackage (deriveAddress P "SystemState" programId (seedValues []))
    readAs endpoint derived.address (readSystemStateEpoch programId)
  match ← crossCheckedAccountRead crossCheck fuel "SystemState epoch" readEpoch (· == ·) id with
  | none => throw (.error "no SystemState account at the address read")
  | some epoch => return epoch

/-! ## Registered network keys -/

def readProtocolAccount {T : Type} (programId : Bytes) (name : String)
    (decode : Bytes → Except SdkError (Option T)) (account : ReadAccount) :
    Except SdkError T := do
  ensure (account.owner = programId)
    (SdkError.error s!"the {name} account is not owned by the ika protocol program")
  let length ← fromPackage (accountDataLen name)
  let decoded ← if account.data.length = length then decode account.data else pure none
  match decoded with
  | none => throw (.error s!"the {name} account does not read as one")
  | some decoded => return decoded

/-- The account of a network key, which has to name that key. -/
def readNamedKey (programId noaPublicKey : Bytes) (account : ReadAccount) :
    Except SdkError (Option NetworkEncryptionKeyAccount) := do
  let key ← readProtocolAccount programId "NetworkEncryptionKey" readNetworkEncryptionKey account
  ensure (key.noaPublicKey = noaPublicKey)
    (SdkError.error "the NetworkEncryptionKey account names another key")
  return some key

def readKeyThrough (programId noaPublicKey : Bytes) (endpoint : CrossCheckEndpoint) :
    SolanaEff (Option NetworkEncryptionKeyAccount) := do
  let derived ← fromPackage (networkEncryptionKeyPda P programId noaPublicKey)
  readAs endpoint derived.address (readNamedKey programId noaPublicKey)

def isRegisteredNetworkKey (programId noaPublicKey : Bytes) : SolanaEff Bool := do
  if noaPublicKey.length ≠ 32 then return false
  let key ← crossCheckedAccountRead crossCheck fuel "NetworkEncryptionKey"
    (readKeyThrough P programId noaPublicKey)
    fun first second => first.noaPublicKey == second.noaPublicKey &&
      first.dkgOutputDigest == second.dkgOutputDigest
  return key.isSome

/-! ## The registry of encryption keys -/

def checkedEncryptionKeyEntry (params : EncryptionKeyParams) (address : Bytes)
    (account : ReadAccount) : Except SdkError EncryptionKeyEntry := do
  let entryName := toBase58 address
  let owner ← fromPackage (publicKeyOf account.owner)
  ensure (owner = params.programId)
    (SdkError.error s!"account {entryName} is not owned by the ika-dwallet program")
  let data := account.data
  let table ← fromPackage (accountEntry "EncryptionKey")
  ensure (isVariableAccount data table 37)
    (SdkError.error s!"account {entryName} does not read as an EncryptionKey entry")
  let signerPublicKey := slice data 2 34
  let signer ← fromPackage (publicKeyOf signerPublicKey)
  let holder ← fromPackage (publicKeyOf params.holderPublicKey)
  ensure (signer = holder) (SdkError.error s!"registry entry {entryName} names another holder")
  let storedCurve := readU16 data 35
  ensure (storedCurve = params.curve) (SdkError.error
    s!"registry entry {entryName} is for curve {storedCurve}, not {params.curve}")
  let signatureScheme := byteAt data 34
  ensure (signatureScheme = encryptionKeyEd25519SignatureScheme)
    (SdkError.error s!"registry entry {entryName} is not signed by the holder")
  let signature := slice data 39 103
  let encryptionKey := data.drop (table.headerLen.getD 0)
  let signedMessage := encryptionKeyRegistrationMessage params.chainNumber params.network
    params.curve encryptionKey
  let verified ← fromPackage (P.ed25519Verify signature signedMessage params.holderPublicKey)
  ensure verified (SdkError.error s!"registry entry {entryName} is not signed by the holder")
  return { address, signerPublicKey, curve := params.curve, signature, signatureScheme,
           encryptionKey }

def readEncryptionKey (params : EncryptionKeyParams) : SolanaEff EncryptionKeyEntry := do
  let derived ← fromPackage (encryptionKeyPda P params.programId.toBytes params.holderPublicKey
    params.curve)
  let entryName := toBase58 derived.address
  let checkedThrough (endpoint : CrossCheckEndpoint) : SolanaEff (Option EncryptionKeyEntry) :=
    readAs endpoint derived.address fun account =>
      (checkedEncryptionKeyEntry P toBase58 params derived.address account).map some
  match ← crossCheckedAccountRead crossCheck fuel "encryption key entry" checkedThrough
    fun first second => first.encryptionKey == second.encryptionKey &&
      first.signature == second.signature with
  | none =>
    throw (.error (s!"the holder has no registry entry for curve {params.curve}: " ++
      s!"no account at {entryName}"))
  | some entry => return entry

end Reads

end Ika.Solana

import IkaSdk.Core.Grpc.ReadCrossCheck
import IkaSdk.Core.Grpc.ShareOwnership
import IkaSdk.Solana.Addresses
import IkaSdk.Solana.RecordChecks

/-! The reader of the ownership check over the program's accounts. `getAccount`
is an operation that may serve any account, and another the next time. -/

namespace Ika.Solana

open Wire Interaction

/-! ## Reads -/

/-- An account as a read returns it. -/
structure ReadAccount where
  owner : Bytes
  data : Bytes
deriving DecidableEq, Repr

inductive SolanaOp
  | signedData
  | ownership
  | getSigningPublicKeyBytes
  | now
  | getAccount (endpoint : CrossCheckEndpoint) (address : Bytes)
  /-- Whether the window of a cross-checked read ended before one of its reads. -/
  | windowEnded
  | sleep (ms : ℤ)
deriving DecidableEq, Repr

abbrev SolanaOp.Ans : SolanaOp → Type
  | signedData => SignedRequestData
  | ownership => DWalletOwnership
  | getSigningPublicKeyBytes => Except SdkError Bytes
  | now => ℤ
  | getAccount .. => Except SdkError (Option ReadAccount)
  | windowEnded => Bool
  | sleep _ => Unit

abbrev solanaInterface : Interface := ⟨SolanaOp, SolanaOp.Ans⟩

abbrev SolanaEff (α : Type) := Eff solanaInterface SdkError α

def getAccount (endpoint : CrossCheckEndpoint) (address : Bytes) :
    SolanaEff (Option ReadAccount) :=
  Eff.ofProg (Prog.perform (I := solanaInterface) (.getAccount endpoint address))

inductive SolanaReadCrossCheck
  | getAccount
  | notCrossChecked
deriving DecidableEq, Repr

def endpointNames : CrossCheckEndpoint → String
  | .first => "the first Solana endpoint (getAccount)"
  | .second => "the second Solana endpoint (crossCheck.getAccount)"

/-- A read of one endpoint, which stands at the position of the value read. -/
def readAtPosition {T : Type} (position : T → ℕ) (read : SolanaEff (Option T)) :
    SolanaEff (RacedRead T) :=
  raceRead (do
    let value ← read
    return .answerAt ⟨value.elim 0 position, value⟩)
    (Eff.liftOp (I := solanaInterface) .windowEnded)

/-- What `crossCheckedRead` is given to read two endpoints. The two first reads
are modelled one after the other. -/
def accountCrossCheck {T : Type} (what : String) (read : CrossCheckEndpoint → SolanaEff (Option T))
    (equal : T → T → Bool) (position : T → ℕ) : CrossCheckedRead solanaInterface T where
  endpoints := endpointNames
  what := what
  equal := equal
  windowMs := crossCheckWindowMs
  retryIntervalMs := crossCheckRetryIntervalMs
  now := Eff.liftOp (I := solanaInterface) .now
  sleep ms := Eff.liftOp (I := solanaInterface) (.sleep ms)
  readBoth _ := do
    let first ← readAtPosition position (read .first)
    let second ← readAtPosition position (read .second)
    return ⟨first, second, false⟩
  readAgain endpoint _ _ := readAtPosition position (read endpoint)

/-- A read through `getAccount`, and through the second endpoint when there is
one. `position` is the position of a value that only grows; the answers of any
other read are all at one position. -/
def crossCheckedAccountRead {T : Type} (crossCheck : SolanaReadCrossCheck) (fuel : ℕ)
    (what : String) (read : CrossCheckEndpoint → SolanaEff (Option T)) (equal : T → T → Bool)
    (position : T → ℕ := fun _ => 0) : SolanaEff (Option T) :=
  match crossCheck with
  | .notCrossChecked => read .first
  | .getAccount => (accountCrossCheck what read equal position).run fuel

/-- Whether two attestation records hold the same stored fields. -/
def sameAttestationRecord (first second : AttestationAccount) : Bool :=
  first.attestationData == second.attestationData &&
    first.attestationVersion == second.attestationVersion &&
    first.networkSignature == second.networkSignature &&
    first.signerNoaPublicKey == second.signerNoaPublicKey

structure EncryptedShareRead where
  account : EncryptedUserSecretKeyShareAccount
  attestation : AttestationAccount
  registeredEncryptionKey : Bytes

section Reads

variable (P : Primitives) (programId : Bytes)

def readThrough {T : Type} (endpoint : CrossCheckEndpoint) (address : Bytes) (kind : String)
    (decode : Bytes → Except SdkError (Option T)) : SolanaEff (Option T) := do
  match ← getAccount endpoint address with
  | none => return none
  | some account =>
    ensure (account.owner = programId)
      (SdkError.error s!"the {kind} account is not owned by the ika-dwallet program")
    match ← decode account.data with
    | none => throw (.error s!"the {kind} account does not read as one")
    | some decoded => return some decoded

/-- The read of the account at a derived address. -/
def readDerived {T : Type} (endpoint : CrossCheckEndpoint)
    (derived : Except String DerivedAddress) (kind : String)
    (decode : Bytes → Except SdkError (Option T)) : SolanaEff (Option T) := do
  let derived ← fromPackage derived
  readThrough programId endpoint derived.address kind decode

def readDWalletAttestation (lookup : DWalletLookup) : SolanaEff (Option AttestationAccount) :=
  readDerived programId .first (dwalletAttestationPda P programId lookup.curve lookup.publicKey
    lookup.importedSessionIdentifier) "dWallet attestation" (readDWalletAttestationUnverified P)

def readDWalletAccount (lookup : DWalletLookup) : SolanaEff (Option DWalletAccount) :=
  readDerived programId .first (dwalletPda P programId lookup.curve lookup.publicKey
    lookup.importedSessionIdentifier) "dWallet" Solana.readDWallet

def readEncryptedShareAccounts (lookup : DWalletLookup) (holder : Bytes) :
    SolanaEff (Option EncryptedShareRead) := do
  let account ← readDerived programId .first (encryptedUserSecretKeySharePda P programId
    lookup.curve lookup.publicKey holder lookup.importedSessionIdentifier) "encrypted share"
    readEncryptedUserSecretKeyShareUnverified
  let attestation ← readDerived programId .first (encryptedShareAttestationPda P programId
    lookup.curve lookup.publicKey holder lookup.importedSessionIdentifier)
    "encrypted share attestation" (readEncryptedShareAttestationUnverified P)
  match account, attestation with
  | some account, some attestation =>
    let entry ← readDerived programId .first (encryptionKeyPda P programId holder lookup.curve)
      "encryption key" readEncryptionKeyUnverified
    match entry.filter fun e => e.signerPublicKey = holder ∧ e.curve = lookup.curve with
    | none =>
      throw (.attestationRecord .record
        "the holder has no registered encryption key for the dWallet's curve"
        (some "encryption_key_hash"))
    | some entry =>
      return some { account, attestation, registeredEncryptionKey := entry.encryptionKey }
  | _, _ => return none

def readPublicShareAttestation (crossCheck : SolanaReadCrossCheck) (fuel : ℕ)
    (lookup : DWalletLookup) : SolanaEff (Option AttestationAccount) :=
  crossCheckedAccountRead crossCheck fuel "public share attestation"
    (fun endpoint => readDerived programId endpoint (publicUserShareAttestationPda P programId
      lookup.curve lookup.publicKey lookup.importedSessionIdentifier) "public share attestation"
      (readPublicShareAttestationUnverified P)) sameAttestationRecord

/-! ## The checked reader -/

/-- What the functions of a checked record close over. -/
structure SolanaDWalletHandle where
  lookup : DWalletLookup
  dwallet : VerifiedDWalletAttestation
  address : Bytes
deriving DecidableEq, Repr

def checkedReadDWallet (keys : TrustedNetworkKeys) (lookup : DWalletLookup) :
    SolanaEff (Option (CheckedDWalletRecord SolanaDWalletHandle)) := do
  let derived ← fromPackage (dwalletPda P programId lookup.curve lookup.publicKey
    lookup.importedSessionIdentifier)
  match ← readDWalletAttestation P programId lookup with
  | none => return none
  | some attestation =>
    let dwallet ← verifyDWalletAttestationRecord P attestation.toAttestationRecord keys
      ⟨lookup.curve, lookup.publicKey, lookup.importedSessionIdentifier⟩
    match ← readDWalletAccount P programId lookup with
    | none =>
      throw (.attestationRecord .record
        "the dWallet has an attestation account but no dWallet account" (some "noa_public_key"))
    | some account =>
      ensure (account.noaPublicKey ∈ keys.publicKeys) (SdkError.attestationRecord .record
        "the dWallet account's network key is not one of the trusted network keys"
        (some "noa_public_key"))
      verifyStoredDWallet ⟨account.curve, account.publicKey, account.isImported,
        account.importedSessionIdentifier⟩ dwallet
      return some { handle := ⟨lookup, dwallet, derived.address⟩, address := derived.address,
                    networkPublicKey := account.noaPublicKey,
                    attestation := attestation.toAttestationRecord, migratedShare := false }

def checkedReadEncryptedShare (keys : TrustedNetworkKeys) (record : SolanaDWalletHandle)
    (holderSignerPublicKey : Bytes) (givenAcceptanceSignature : Option Bytes) :
    SolanaEff (Option CheckedEncryptedShareRecord) := do
  match ← readEncryptedShareAccounts P programId record.lookup holderSignerPublicKey with
  | none => return none
  | some share =>
    let verified ← verifySolanaEncryptedShareRecord P share.account
      share.attestation.toAttestationRecord keys record.dwallet record.address
      holderSignerPublicKey share.registeredEncryptionKey givenAcceptanceSignature
    return some { share.attestation.toAttestationRecord with
                  acceptanceGiven := verified.acceptanceGiven }

def checkedReadPublicShare (crossCheck : SolanaReadCrossCheck) (fuel : ℕ)
    (record : SolanaDWalletHandle) : SolanaEff (Option AttestationRecord) := do
  let share ← readPublicShareAttestation P programId crossCheck fuel record.lookup
  return share.map AttestationAccount.toAttestationRecord

/-- The reads of `dwalletShareReader`, by the operations of the ownership check.
The reader has no migration check, and its records say so. -/
def dwalletShareReads (crossCheck : SolanaReadCrossCheck) (fuel : ℕ) (keys : TrustedNetworkKeys) :
    ∀ op : OwnershipOp SolanaDWalletHandle, Prog solanaInterface op.Ans
  | .signedData => Prog.perform (I := solanaInterface) .signedData
  | .ownership => Prog.perform (I := solanaInterface) .ownership
  | .getSigningPublicKeyBytes => Prog.perform (I := solanaInterface) .getSigningPublicKeyBytes
  | .now => Prog.perform (I := solanaInterface) .now
  | .readDWallet lookup => (checkedReadDWallet P programId keys lookup).run
  | .readEncryptedShare record holder given =>
    (checkedReadEncryptedShare P programId keys record holder given).run
  | .readPublicShare record => (checkedReadPublicShare P programId crossCheck fuel record).run
  | .migratedShare .. => .pure (.ok none)

end Reads

/-- The reader that `dwalletShareReads` answers for. -/
def dwalletShareReader (keys : TrustedNetworkKeys) (cryptography : Option UserCryptography) :
    DWalletShareReader where
  chain := .solana
  trustedNetworkKeys := keys
  cryptography := cryptography

end Ika.Solana

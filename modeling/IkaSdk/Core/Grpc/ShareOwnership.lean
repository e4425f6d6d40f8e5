import IkaSdk.Core.Grpc.AttestationRecord
import IkaSdk.Core.Grpc.RequestBcs
import IkaSdk.Lib.Throwing

/-! The check that a user's key holds a dWallet's share. Every read of the chain
is an operation of the reader, which may answer anything, and anything else the
next time; what the caller holds is read through operations too, so that a
caller may change it between any two of them. -/

namespace Ika

open Wire Interaction

/-! ## Readers -/

structure DWalletLookup where
  curve : ℕ
  publicKey : Bytes
  importedSessionIdentifier : Option Bytes
deriving DecidableEq, Repr

structure CheckedEncryptedShareRecord extends AttestationRecord where
  acceptanceGiven : Bool
deriving DecidableEq, Repr

/-- A dWallet's record as a reader returns it. `handle` stands for the functions
of the record that read its shares; `migratedShare` says whether the record has
the one that reads older contracts. -/
structure CheckedDWalletRecord (H : Type) where
  handle : H
  address : Bytes
  networkPublicKey : Bytes
  attestation : AttestationRecord
  migratedShare : Bool
deriving DecidableEq, Repr

/-- What a reader holds besides the functions that read the chain. -/
structure DWalletShareReader where
  chain : Chain
  trustedNetworkKeys : TrustedNetworkKeys
  cryptography : Option UserCryptography

/-- A result object a caller passes: one that the check issued, by its number,
or any other object. -/
inductive UsableObject
  | issued (id : ℕ)
  | other
deriving DecidableEq, Repr

structure DWalletOwnership where
  reader : Option DWalletShareReader
  usable : Option UsableObject

inductive OwnershipOp (H : Type)
  /-- The caller's request, as it is when it is read. -/
  | signedData
  /-- The caller's ownership value, as it is when it is read. -/
  | ownership
  | getSigningPublicKeyBytes
  | now
  | readDWallet (lookup : DWalletLookup)
  | readEncryptedShare (record : H) (holderSignerPublicKey : Bytes)
      (givenAcceptanceSignature : Option Bytes)
  | readPublicShare (record : H)
  | migratedShare (record : H) (userKey : Bytes) (classicShareId : Option String)

/-- The clock is read in milliseconds; only an `encrypted` share is migrated. -/
abbrev OwnershipOp.Ans {H : Type} : OwnershipOp H → Type
  | signedData => SignedRequestData
  | ownership => DWalletOwnership
  | getSigningPublicKeyBytes => Except SdkError Bytes
  | now => ℤ
  | readDWallet _ => Except SdkError (Option (CheckedDWalletRecord H))
  | readEncryptedShare .. => Except SdkError (Option CheckedEncryptedShareRecord)
  | readPublicShare _ => Except SdkError (Option AttestationRecord)
  | migratedShare .. => Except SdkError (Option Unit)

abbrev ownershipInterface (H : Type) : Interface := ⟨OwnershipOp H, OwnershipOp.Ans⟩

abbrev OwnershipEff (H α : Type) := Eff (ownershipInterface H) SdkError α

section Operations

variable {H : Type}

def readSignedData : OwnershipEff H SignedRequestData :=
  Eff.liftOp (I := ownershipInterface H) .signedData

def readOwnership : OwnershipEff H DWalletOwnership :=
  Eff.liftOp (I := ownershipInterface H) .ownership

def dateNow : OwnershipEff H ℤ :=
  Eff.liftOp (I := ownershipInterface H) .now

def getSigningPublicKeyBytes : OwnershipEff H Bytes :=
  Eff.ofProg (Prog.perform (I := ownershipInterface H) .getSigningPublicKeyBytes)

def readDWallet (lookup : DWalletLookup) : OwnershipEff H (Option (CheckedDWalletRecord H)) :=
  Eff.ofProg (Prog.perform (I := ownershipInterface H) (.readDWallet lookup))

def readEncryptedShare (record : H) (holder : Bytes) (given : Option Bytes) :
    OwnershipEff H (Option CheckedEncryptedShareRecord) :=
  Eff.ofProg (Prog.perform (I := ownershipInterface H) (.readEncryptedShare record holder given))

def readPublicShare (record : H) : OwnershipEff H (Option AttestationRecord) :=
  Eff.ofProg (Prog.perform (I := ownershipInterface H) (.readPublicShare record))

def migratedShare (record : H) (userKey : Bytes) (classicShareId : Option String) :
    OwnershipEff H (Option Unit) :=
  Eff.ofProg (Prog.perform (I := ownershipInterface H)
    (.migratedShare record userKey classicShareId))

end Operations

/-! ## The check -/

inductive UsableShare
  | encrypted
  | publicShare
deriving DecidableEq, Repr

/-- What a check verified, kept apart from the result the caller holds. -/
structure IssuedState where
  chain : Chain
  address : Bytes
  curve : ℕ
  publicKey : Bytes
  importedSessionIdentifier : Option Bytes
  holder : Bytes
  share : UsableShare
  migrated : Bool
  waiting : Bool
  publicOutput : Bytes
  attestation : NetworkSignedAttestation
  verifiedAt : ℤ
deriving DecidableEq, Repr

/-- A dWallet read from the chain, with its verified attestation. -/
structure ChainDWallet (H : Type) where
  verified : VerifiedDWalletAttestation
  address : Bytes
  networkPublicKey : Bytes
  handle : H
  migratedShare : Bool

structure OwnShare where
  holder : Bytes
  acceptanceGiven : Bool
deriving DecidableEq, Repr

def refuseUnless (field : String) (holds : Prop) [Decidable holds] (what : String)
    (check : AttestationRecordCheck := .binding) : Except SdkError Unit :=
  ensure holds (.attestationRecord check s!"the {field} is not {what}" (some field))

def askedOf (attestation : DWalletAttestation) : AskedDWallet where
  curve := attestation.curve.number
  publicKey := attestation.publicKey
  importedSessionIdentifier :=
    if attestation.isImportedKey then some attestation.sessionIdentifier else none

def migratedDWalletAttestationEpoch : ℕ := 18446744073709551615

section Check

variable (P : Primitives) {H : Type}

def decodeDWalletAttestation (attestationData : Bytes) : Except SdkError DWalletAttestation :=
  match P.parse versionedDWalletDataAttestationBcs attestationData with
  | .ok attestation => .ok attestation
  | .error reason =>
    .error (.attestationRecord .decode
      ("the attestation is not a dWallet attestation: " ++ reason) none)

def requireAttestedKeyOfOutput (attestation : DWalletAttestation)
    (cryptography : UserCryptography) : Except SdkError Unit := do
  let keyOfOutput ← fromPackage
    (cryptography.publicKeyFromDWalletOutput attestation.curve.number attestation.publicOutput)
  refuseUnless "public_key_of_output" (attestation.publicKey = keyOfOutput)
    "the public key inside the attested output"

def readChainDWallet (reader : DWalletShareReader) (asked : AskedDWallet) :
    OwnershipEff H (Option (ChainDWallet H)) := do
  match ← readDWallet ⟨asked.curve, asked.publicKey, asked.importedSessionIdentifier⟩ with
  | none => return none
  | some record =>
    let verified ← verifyDWalletAttestationRecord P record.attestation
      reader.trustedNetworkKeys asked
    ensure (record.networkPublicKey ∈ reader.trustedNetworkKeys.publicKeys)
      (SdkError.attestationRecord .record
        "the dWallet record's network key is not one of the trusted network keys"
        (some "noa_public_key"))
    return some { verified, address := record.address,
                  networkPublicKey := record.networkPublicKey, handle := record.handle,
                  migratedShare := record.migratedShare }

def readOwnShare (reader : DWalletShareReader) (dwallet : ChainDWallet H) (userKey : Bytes)
    (givenAcceptanceSignature : Option Bytes) : OwnershipEff H (Option OwnShare) := do
  match ← readEncryptedShare dwallet.handle userKey givenAcceptanceSignature with
  | none => return none
  | some share =>
    let attestation ← verifyEncryptedShareAttestationRecord P share.toAttestationRecord
      reader.trustedNetworkKeys dwallet.verified userKey
    return some { holder := attestation.holder.signerPublicKey,
                  acceptanceGiven := share.acceptanceGiven }

/-- Whether the chain holds a public share of the dWallet that verifies. -/
def hasPublicShare (reader : DWalletShareReader) (dwallet : ChainDWallet H) :
    OwnershipEff H Bool := do
  match ← readPublicShare dwallet.handle with
  | none => return false
  | some share =>
    let _ ← verifyPublicShareAttestationRecord P share reader.trustedNetworkKeys
      dwallet.verified
    return true

/-- A share record of another holder says that the share is not the user's. -/
def orAnotherHolder (asked : AskedDWallet) (userKey : Bytes) (detail : String)
    (read : OwnershipEff H (Option OwnShare)) : OwnershipEff H (Option OwnShare) :=
  tryCatch read fun
    | .attestationRecord _ _ (some "holder") =>
      throw (.dwalletShareNotYours .anotherHolder asked.publicKey userKey detail)
    | error => throw error

def attachedShareOfMigratedDWallet (reader : DWalletShareReader) (dwallet : ChainDWallet H)
    (asked : AskedDWallet) (userKey : Bytes) : OwnershipEff H Bool := do
  let attestation := dwallet.verified.attestation
  if attestation.epoch = migratedDWalletAttestationEpoch ∧ attestation.holder = none then
    let own ← orAnotherHolder asked userKey
      "The share attached to the migrated dWallet names another holder."
      (readOwnShare P reader dwallet userKey none)
    match own with
    | none => return false
    | some own =>
      ensure (own.holder = userKey)
        (SdkError.dwalletShareNotYours .anotherHolder asked.publicKey userKey
          s!"The share attached to the migrated dWallet names the holder {toHex own.holder}.")
      return true
  else return false

def noRecordShowsTheShare (migrationChecked : Bool) : String :=
  "The dWallet names no holder and has no public share record on the chain, so no record " ++
    "shows that your key holds its share. " ++
    if migrationChecked then
      "It was not migrated from the classic contracts either: no classic dWallet exists " ++
        "at its session identifier."
    else
      "A dWallet migrated from the classic contracts is checked against its share there, " ++
        "and this reader has no classic reads: pass the Sui client's " ++
        "classicShareReaderUnverified to dwalletShareReader."

/-- The reader's migration check, of a record that has one. -/
def runMigrationCheck (dwallet : ChainDWallet H) (userKey : Bytes)
    (classicShareId : Option String) : OwnershipEff H (Option Unit) :=
  if dwallet.migratedShare then migratedShare dwallet.handle userKey classicShareId
  else return none

/-- The share and whether it is migrated, of a dWallet that names no holder. -/
def usabilityWithoutHolder (reader : DWalletShareReader) (dwallet : ChainDWallet H)
    (asked : AskedDWallet) (userKey : Bytes) (classicShareId : Option String) :
    OwnershipEff H (UsableShare × Bool) := do
  if ← attachedShareOfMigratedDWallet P reader dwallet asked userKey then
    return (.encrypted, false)
  else
    match ← runMigrationCheck dwallet userKey classicShareId with
    | some () => return (.encrypted, true)
    | none =>
      throw (.dwalletShareNotYours .missing asked.publicKey userKey
        (noRecordShowsTheShare dwallet.migratedShare))

def readDWalletHolding (reader : DWalletShareReader) (asked : AskedDWallet)
    (attestationData : Bytes) : OwnershipEff H (ChainDWallet H) := do
  match ← readChainDWallet P reader asked with
  | none =>
    throw (.error (s!"no dWallet with public key {toHex asked.publicKey} is on the chain; " ++
      "it may not be committed yet"))
  | some dwallet =>
    ensure (dwallet.verified.attestationData = attestationData) (SdkError.attestationRecord .record
      "the dWallet's record holds another attestation than the one given"
      (some "attestation_data"))
    return dwallet

/-- Whether the user's share waits for an acceptance on the chain. -/
def usabilityOfEncryptedShare (reader : DWalletShareReader) (dwallet : ChainDWallet H)
    (asked : AskedDWallet) (userKey namedHolder : Bytes) (acceptanceSignature : Option Bytes) :
    OwnershipEff H Bool := do
  let another := namedHolder ≠ userKey
  let own ← orAnotherHolder asked userKey
    s!"The dWallet's attestation names the holder {toHex namedHolder}."
    (readOwnShare P reader dwallet userKey acceptanceSignature)
  match own with
  | none =>
    throw (.dwalletShareNotYours (if another then .anotherHolder else .missing)
      asked.publicKey userKey
      (if another then
        "No share record exists for your key: the dWallet's attestation names the holder " ++
          s!"{toHex namedHolder}."
      else "No share record exists for your key on the chain."))
  | some own =>
    ensure (own.holder = userKey)
      (SdkError.dwalletShareNotYours .anotherHolder asked.publicKey userKey
        s!"The share record names the holder {toHex own.holder}.")
    ensure (¬(own.acceptanceGiven ∧ another))
      (SdkError.dwalletShareNotYours .anotherHolder asked.publicKey userKey
        (s!"Your share record holds no acceptance, and only the holder {toHex namedHolder} the " ++
          "dWallet's attestation names may act before one is on the chain. Accept your share " ++
          "first."))
    return own.acceptanceGiven

/-- The share, whether it is migrated and whether it waits. -/
def usabilityOfShare (reader : DWalletShareReader) (dwallet : ChainDWallet H)
    (asked : AskedDWallet) (userKey : Bytes) (classicShareId : Option String)
    (acceptanceSignature : Option Bytes) : OwnershipEff H (UsableShare × Bool × Bool) := do
  if ← hasPublicShare P reader dwallet then return (.publicShare, false, false)
  else
    match dwallet.verified.attestation.holder with
    | none =>
      let (share, migrated) ← usabilityWithoutHolder P reader dwallet asked userKey classicShareId
      return (share, migrated, false)
    | some named =>
      let waiting ← usabilityOfEncryptedShare P reader dwallet asked userKey
        named.signerPublicKey acceptanceSignature
      return (.encrypted, false, waiting)

/-- The checks of `assertDWalletUsable`, up to the state of the result. -/
def assertDWalletUsable (reader : DWalletShareReader) (attestationData : Bytes)
    (classicShareId : Option String) (acceptanceSignature : Option Bytes) :
    OwnershipEff H IssuedState := do
  let userKey ← getSigningPublicKeyBytes
  let attestation ← decodeDWalletAttestation P attestationData
  let asked := askedOf attestation
  let dwallet ← readDWalletHolding P reader asked attestationData
  let verified := dwallet.verified
  requireAttestedKeyOfOutput verified.attestation (reader.cryptography.getD P.realCryptography)
  let (share, migrated, waiting) ← usabilityOfShare P reader dwallet asked userKey
    classicShareId acceptanceSignature
  let verifiedAt ← dateNow
  return { chain := reader.chain, address := dwallet.address, curve := asked.curve,
           publicKey := asked.publicKey,
           importedSessionIdentifier := asked.importedSessionIdentifier, holder := userKey,
           share, migrated, waiting, publicOutput := verified.attestation.publicOutput,
           attestation := ⟨verified.attestationData, verified.networkSignature,
             dwallet.networkPublicKey, verified.signerNoaPublicKey⟩,
           verifiedAt }

end Check

end Ika

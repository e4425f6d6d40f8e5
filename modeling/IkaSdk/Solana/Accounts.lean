import IkaSdk.Core.Grpc.AttestationRecord
import IkaSdk.Solana.WireTables

/-! The layouts of the program's accounts, as the SDK reads them: each reader
returns nothing for bytes that are not laid out as an account of its kind. -/

namespace Ika.Solana

open Wire

/-! ## Fields of an account -/

def byteAt (data : Bytes) (offset : ℕ) : ℕ := (data.getD offset 0).toNat

def slice (data : Bytes) (start stop : ℕ) : Bytes := (data.drop start).take (stop - start)

def readU16 (data : Bytes) (offset : ℕ) : ℕ := leValue (slice data offset (offset + 2))

def readU32 (data : Bytes) (offset : ℕ) : ℕ := leValue (slice data offset (offset + 4))

def readU64 (data : Bytes) (offset : ℕ) : ℕ := leValue (slice data offset (offset + 8))

/-- Whether `data` starts as an account of `entry`, with `length` bytes or more. -/
def startsAs (data : Bytes) (entry : AccountEntry) (length : ℕ) : Bool :=
  length ≤ data.length && byteAt data accountHeader.discriminatorOffset == entry.discriminator

def isAccount (data : Bytes) (name : String) : Except String Bool := do
  return startsAs data (← accountEntry name) (← accountDataLen name)

structure DWalletCoordinatorAccount where
  epoch : ℕ
  chainNumber : ℕ
  network : ℕ
  chainIdentifier : Bytes
  ikaMint : Bytes
  treasuryVault : Bytes
deriving DecidableEq, Repr

def readDWalletCoordinator (data : Bytes) : Except SdkError (Option DWalletCoordinatorAccount) := do
  if !(← fromPackage (isAccount data "DWalletCoordinator")) then return none
  let length := min (byteAt data 116) 40
  return some {
    epoch := readU64 data 2
    chainNumber := readU32 data 569
    network := byteAt data 630
    chainIdentifier := slice data 117 (117 + length)
    ikaMint := slice data 20 52
    treasuryVault := slice data 52 84 }

structure DWalletAccount where
  owner : Bytes
  curve : ℕ
  state : ℕ
  publicKey : Bytes
  createdEpoch : ℕ
  noaPublicKey : Bytes
  isImported : Bool
  bump : ℕ
  importedSessionIdentifier : Option Bytes
deriving DecidableEq, Repr

def readDWallet (data : Bytes) : Except SdkError (Option DWalletAccount) := do
  if !(← fromPackage (isAccount data "DWallet")) then return none
  let publicKeyLength := min (byteAt data 37) 65
  return some {
    owner := slice data 2 34
    curve := readU16 data 34
    state := byteAt data 36
    publicKey := slice data 38 (38 + publicKeyLength)
    createdEpoch := readU64 data 103
    noaPublicKey := slice data 111 143
    isImported := byteAt data 143 == 1
    bump := byteAt data 144
    importedSessionIdentifier := if byteAt data 143 = 1 then some (slice data 153 185) else none }

structure NetworkEncryptionKeyAccount where
  noaPublicKey : Bytes
  state : ℕ
  createdEpoch : ℕ
  lastReconfigurationEpoch : ℕ
  dkgOutputDigest : Bytes
  /-- Absent when the stored length is above the proof slot. -/
  proof : Option Bytes
deriving DecidableEq, Repr

def recordProofSlotLen : ℕ := 98

/-- The proof in the slot at `offset`: a length byte, then the bytes. -/
def readRecordProof (data : Bytes) (offset : ℕ) : Option Bytes :=
  let length := byteAt data offset
  if recordProofSlotLen < length then none
  else some (slice data (offset + 1) (offset + 1 + length))

def readNetworkEncryptionKey (data : Bytes) :
    Except SdkError (Option NetworkEncryptionKeyAccount) := do
  if !(← fromPackage (isAccount data "NetworkEncryptionKey")) then return none
  return some {
    noaPublicKey := slice data 2 34
    state := byteAt data 34
    createdEpoch := readU64 data 35
    lastReconfigurationEpoch := readU64 data 43
    dkgOutputDigest := slice data 51 83
    proof := readRecordProof data 100 }

structure EncryptedUserSecretKeyShareAccount where
  dwallet : Bytes
  encryptionKeyOwner : Bytes
  sourceShare : Bytes
  isReEncrypted : Bool
  createdEpoch : ℕ
  bump : ℕ
  accepted : Bool
  reserved : Bytes
  acceptanceSignature : Bytes
  acceptanceDigest : Bytes
  encryptedShare : Bytes
deriving DecidableEq, Repr

/-- A layout with a fixed part, after which a field of the length stored at
`lengthOffset` ends the account. -/
def isVariableAccount (data : Bytes) (entry : AccountEntry) (lengthOffset : ℕ) : Bool :=
  let fixed := entry.headerLen.getD 0
  fixed != 0 && startsAs data entry fixed &&
    data.length == fixed + readU16 data lengthOffset

def readEncryptedUserSecretKeyShareUnverified (data : Bytes) :
    Except SdkError (Option EncryptedUserSecretKeyShareAccount) := do
  let entry ← fromPackage (accountEntry "EncryptedUserSecretKeyShare")
  if !isVariableAccount data entry 116 then return none
  return some {
    dwallet := slice data 2 34
    encryptionKeyOwner := slice data 34 66
    sourceShare := slice data 66 98
    isReEncrypted := byteAt data 98 == 1
    createdEpoch := readU64 data 99
    bump := byteAt data 107
    accepted := byteAt data 108 == 1
    reserved := slice data 109 116
    acceptanceSignature := slice data 118 182
    acceptanceDigest := slice data 182 214
    encryptedShare := data.drop (entry.headerLen.getD 0) }

structure EncryptionKeyAccount where
  signerPublicKey : Bytes
  signatureScheme : ℕ
  curve : ℕ
  signature : Bytes
  createdEpoch : ℕ
  bump : ℕ
  encryptionKey : Bytes
deriving DecidableEq, Repr

def readEncryptionKeyUnverified (data : Bytes) :
    Except SdkError (Option EncryptionKeyAccount) := do
  let entry ← fromPackage (accountEntry "EncryptionKey")
  if !isVariableAccount data entry 37 then return none
  return some {
    signerPublicKey := slice data 2 34
    signatureScheme := byteAt data 34
    curve := readU16 data 35
    signature := slice data 39 103
    createdEpoch := readU64 data 103
    bump := byteAt data 111
    encryptionKey := data.drop (entry.headerLen.getD 0) }

structure SignatureVoucherAccount where
  dwallet : Bytes
  messageDigest : Bytes
  messageMetadataDigest : Bytes
  owner : Bytes
  signatureScheme : ℕ
  signingKey : Option Bytes
  issuedEpoch : ℕ
  status : ℕ
  signature : Bytes
deriving DecidableEq, Repr

def readSignatureVoucherUnverified (data : Bytes) :
    Except SdkError (Option SignatureVoucherAccount) := do
  if !(← fromPackage (isAccount data "SignatureVoucher")) then return none
  let signatureLength := min (readU16 data 174) 128
  return some {
    dwallet := slice data 2 34
    messageDigest := slice data 34 66
    messageMetadataDigest := slice data 66 98
    owner := slice data 98 130
    signatureScheme := readU16 data 130
    signingKey := if byteAt data 132 ≠ 0 then some (slice data 133 165) else none
    issuedEpoch := readU64 data 165
    status := byteAt data 173
    signature := slice data 176 (176 + signatureLength) }

structure FutureSignatureVoucherAccount extends SignatureVoucherAccount where
  attestationProof : Bytes
  hasPartialSignature : Bool
  attestation : Bytes
deriving DecidableEq, Repr

/-- The status of a future voucher that the network closed without delivery. -/
def futureSignatureVoucherSettledWithoutDelivery : ℕ := 3

def readFutureSignatureVoucherUnverified (data : Bytes) :
    Except SdkError (Option FutureSignatureVoucherAccount) := do
  if !(← fromPackage (isAccount data "FutureSignatureVoucher")) then return none
  let attestationLength := min (readU16 data 273) 1536
  let signatureLength := min (readU16 data 1811) 128
  return some {
    dwallet := slice data 2 34
    messageDigest := slice data 34 66
    messageMetadataDigest := slice data 66 98
    owner := slice data 98 130
    signatureScheme := readU16 data 130
    signingKey := if byteAt data 132 ≠ 0 then some (slice data 133 165) else none
    issuedEpoch := readU64 data 165
    status := byteAt data 173
    attestationProof := slice data 174 272
    hasPartialSignature := byteAt data 272 != 0
    attestation := slice data 275 (275 + attestationLength)
    signature := slice data 1813 (1813 + signatureLength) }

/-! ## Attestation accounts -/

def attestationBump : ℕ := 2

def attestationProofOffset : ℕ := 3

def attestationFieldsOffset : ℕ := 101

/-- A byte vector as BCS writes it. -/
def bcsByteVector (bytes : Bytes) : Bytes := uleb128 bytes.length ++ bytes

/-- Takes one field from the front of an account's bytes: the bytes BCS writes
for it, and what is left. -/
abbrev FieldReader := Bytes → Option (Bytes × Bytes)

namespace FieldReader

def take (length : ℕ) : FieldReader := fun rest =>
  if rest.length < length then none else some (rest.take length, rest.drop length)

/-- A one-byte flag: a `bool` or an option's tag, 0 or 1. -/
def flag : FieldReader := fun rest => do
  let (bytes, rest) ← take 1 rest
  if 1 < byteAt bytes 0 then none else some (bytes, rest)

/-- A byte vector after its length, which is written in `width` bytes. -/
def sized (width : ℕ) : FieldReader := fun rest => do
  let (length, rest) ← take width rest
  let (bytes, rest) ← take (leValue length) rest
  some (bcsByteVector bytes, rest)

def shortValue : FieldReader := sized 1

def longValue : FieldReader := sized 2

def optionValue (readValue : FieldReader) : FieldReader := fun rest => do
  let (tag, rest) ← flag rest
  if byteAt tag 0 = 0 then some (tag, rest)
  else
    let (value, rest) ← readValue rest
    some (1 :: value, rest)

end FieldReader

/-- One field of an attestation, with the bytes BCS writes for it. -/
structure AttestationField where
  name : String
  bcs : Bytes
deriving DecidableEq, Repr

/-- The fields in the order of the list, which have to use up the bytes. -/
def readFields : List (String × FieldReader) → Bytes → Option (List AttestationField)
  | [], rest => if rest = [] then some [] else none
  | (name, reader) :: readers, rest => do
    let (bcs, rest) ← reader rest
    let fields ← readFields readers rest
    some (⟨name, bcs⟩ :: fields)

open FieldReader in
/-- The holder is its scheme's variant index, then its signer key. -/
def dwalletAttestationFields : List (String × FieldReader) :=
  [("session_identifier", take 32), ("intended_chain_sender", shortValue), ("curve", take 1),
    ("public_key", shortValue), ("public_output", longValue), ("is_imported_key", flag),
    ("sign_during_dkg_signature", optionValue longValue), ("holder", optionValue (take 33)),
    ("encryption_key_hash", optionValue (take 32)),
    ("encrypted_share_hash", optionValue (take 32)), ("epoch", take 8)]

open FieldReader in
def encryptedShareAttestationFields : List (String × FieldReader) :=
  [("session_identifier", take 32), ("intended_chain_sender", shortValue),
    ("dwallet_public_key", shortValue), ("encrypted_share_hash", take 32),
    ("encryption_key_hash", take 32), ("holder", take 33),
    ("dwallet_attestation_digest", take 32)]

open FieldReader in
def publicShareAttestationFields : List (String × FieldReader) :=
  [("session_identifier", take 32), ("intended_chain_sender", shortValue),
    ("dwallet_public_key", shortValue), ("public_user_secret_key_share", longValue),
    ("dwallet_attestation_digest", take 32)]

open FieldReader in
def partialSignatureFields : List (String × FieldReader) :=
  [("session_identifier", take 32), ("intended_chain_sender", shortValue),
    ("dwallet_public_key", shortValue), ("dwallet_attestation_hash", take 32),
    ("future_signature_voucher", take 32), ("presign_session_identifier", shortValue),
    ("presign_attestation_hash", take 32), ("message_digest", take 32),
    ("message_metadata_digest", take 32), ("signature_scheme", take 1),
    ("verified_sign_data", longValue)]

structure AttestationAccount extends AttestationRecord where
  attestationProof : Bytes
  fields : List AttestationField
  bump : ℕ
deriving DecidableEq, Repr

section Readers

variable (P : Primitives)

def decodeAttestationProof (attestationProof : Bytes) : Except SdkError AttestationProofV1 :=
  match P.parse versionedAttestationProofBcs attestationProof with
  | .error reason =>
    .error (.attestationRecord .record
      ("the record's stored attestation_proof is not a proof envelope: " ++ reason)
      (some "attestation_proof"))
  | .ok proof => do
    let reserialized ← fromPackage (versionedAttestationProofBcs.serialize proof)
    ensure (reserialized = attestationProof) (SdkError.attestationRecord .record
      "the record's stored attestation_proof is not exactly one V1 proof envelope"
      (some "attestation_proof"))
    requireKnownVersion proof.attestationVersion
    return proof

/-- The exact bytes of an attestation, written from its stored fields. -/
def rebuildAttestation (kind : AttestationKind) (attestationVersion : ℕ)
    (fields : kind.Attestation) : Except SdkError Bytes := do
  requireKnownVersion attestationVersion
  match kind.bcs.serialize fields with
  | .ok bytes => return bytes
  | .error reason =>
    throw (.attestationRecord .record
      (s!"the record's stored fields cannot be written as a {kind.name} attestation: " ++
        reason) none)

/-- The bytes of the attestation that the laid out fields are, if they are one. -/
def rebuildFields (kind : AttestationKind) (attestationVersion : ℕ) (laidOut : Bytes) :
    Except SdkError (Option Bytes) :=
  match P.parse kind.bcs laidOut with
  | .ok fields => (rebuildAttestation kind attestationVersion fields).map some
  | .error _ => .ok none

def readAttestationAccount (kind : AttestationKind) (readers : List (String × FieldReader))
    (data : Bytes) : Except SdkError (Option AttestationAccount) := do
  let entry ← fromPackage (accountEntry "DWalletAttestation")
  if !startsAs data entry (entry.headerLen.getD attestationFieldsOffset) then return none
  let attestationProof := slice data attestationProofOffset attestationFieldsOffset
  let proof ← decodeAttestationProof P attestationProof
  match readFields readers (data.drop attestationFieldsOffset) with
  | none => return none
  | some read =>
    let fields := ⟨"version", [UInt8.ofNat proof.attestationVersion]⟩ :: read
    match ← rebuildFields P kind proof.attestationVersion (fields.flatMap (·.bcs)) with
    | none => return none
    | some attestationData => return some {
        attestationData
        attestationVersion := proof.attestationVersion
        networkSignature := proof.noaSignature
        signerNoaPublicKey := proof.signerNoaPublicKey
        attestationProof
        fields
        bump := byteAt data attestationBump }

def readDWalletAttestationUnverified : Bytes → Except SdkError (Option AttestationAccount) :=
  readAttestationAccount P .dwallet dwalletAttestationFields

def readEncryptedShareAttestationUnverified :
    Bytes → Except SdkError (Option AttestationAccount) :=
  readAttestationAccount P .encryptedShare encryptedShareAttestationFields

def readPublicShareAttestationUnverified : Bytes → Except SdkError (Option AttestationAccount) :=
  readAttestationAccount P .publicShare publicShareAttestationFields

/-- The fields of the attestation that a future voucher stores, at the version
that its proof names. -/
def partialSignatureAttestationFields (voucher : FutureSignatureVoucherAccount)
    (attestationVersion : ℕ) : Option PartialUserSignatureAttestation :=
  if !voucher.hasPartialSignature then none
  else match readFields partialSignatureFields voucher.attestation with
    | none => none
    | some read =>
      let fields := ⟨"version", [UInt8.ofNat attestationVersion]⟩ :: read
      (P.parse versionedPartialUserSignatureAttestationBcs (fields.flatMap (·.bcs))).toOption

end Readers

end Ika.Solana

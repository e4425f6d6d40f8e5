import IkaSdk.Core.Grpc.DeployedNetworks
import IkaSdk.Core.Grpc.Transport

/-! The checks of the network's answer to a request that changes state: an
attestation of the request's kind, signed by a trusted key, that names what the
request sent. -/

namespace Ika

open Wire

/-! ## Signatures of a dWallet -/

/-- The curves of a client, in the order of their numbers. -/
inductive Curve
  | secp256k1
  | secp256r1
  | ed25519
  | ristretto
deriving DecidableEq, Repr

def fromCurveToNumber : Curve → ℕ
  | .secp256k1 => 0
  | .secp256r1 => 1
  | .ed25519 => 2
  | .ristretto => 3

inductive SignatureAlgorithm
  | ecdsaSecp256k1
  | taproot
  | ecdsaSecp256r1
  | eddsa
  | schnorrkel
deriving DecidableEq, Repr

inductive SignatureHash
  | keccak256
  | sha256
  | doubleSha256
  | sha512
  | merlin
deriving DecidableEq, Repr

/-- What a client's cryptography checks of an output and of a signature. -/
structure AnswerCryptography extends UserCryptography where
  userAndNetworkDKGOutputMatch (curve : Curve) (userPublicOutput networkDKGOutput : Bytes) :
    Except String Bool
  verifySignature (curve : Curve) (signatureAlgorithm : SignatureAlgorithm) (hash : SignatureHash)
    (dWalletPublicOutput message signature : Bytes) (schnorrkelSigningContext : Option Bytes) :
    Except String Unit
  verifyEcdsaBlake2b256Signature (dWalletPublicOutput message signature personal salt : Bytes) :
    Except String Unit

/-- A cryptography that takes every signature handed to it. -/
def lenientCryptography : AnswerCryptography where
  publicKeyFromDWalletOutput _ publicOutput := .ok publicOutput
  userAndNetworkDKGOutputMatch _ _ _ := .ok true
  verifySignature _ _ _ _ _ _ _ := .ok ()
  verifyEcdsaBlake2b256Signature _ _ _ _ _ := .ok ()

/-- A sign that a DKG request asked for. -/
structure SentSignDuringDkg where
  message : Bytes
  messageMetadata : Bytes
  signatureScheme : ℕ
deriving DecidableEq, Repr

def defaultSchnorrkelContext : Bytes := textBytes "substrate"

section Signature

variable (P : Primitives)

/-- Decode a sign's metadata, and refuse bytes after it. -/
def messageMetadataOf {α : Type} (c : Codec α) (leftOver : String) (messageMetadata : Bytes) :
    Except String α := do
  let metadata ← P.parse c messageMetadata
  let written ← c.serialize metadata
  if written.length ≠ messageMetadata.length then .error leftOver else .ok metadata

/-- The verifier's curve, algorithm and hash of a scheme on a curve, for the
schemes that take no metadata. -/
def plainVerifierOf (signatureScheme curve : ℕ) :
    Option (Curve × SignatureAlgorithm × SignatureHash) :=
  match signatureScheme, curve with
  | 0, 0 => some (.secp256k1, .ecdsaSecp256k1, .keccak256)
  | 1, 0 => some (.secp256k1, .ecdsaSecp256k1, .sha256)
  | 2, 0 => some (.secp256k1, .ecdsaSecp256k1, .doubleSha256)
  | 3, 0 => some (.secp256k1, .taproot, .sha256)
  | 1, 1 => some (.secp256r1, .ecdsaSecp256r1, .sha256)
  | 5, 2 => some (.ed25519, .eddsa, .sha512)
  | _, _ => none

/-- Verify a signature under the key inside an output, its scheme and metadata
read as the network reads them. -/
def verifySignatureWithScheme (cryptography : AnswerCryptography) (curve signatureScheme : ℕ)
    (message messageMetadata dWalletPublicOutput signature : Bytes) : Except String Unit :=
  if signatureScheme = 4 ∧ curve = 0 then do
    let metadata ← messageMetadataOf P blake2bMessageMetadataBcs
      "invalid Blake2b message_metadata: bytes remain after the salt" messageMetadata
    cryptography.verifyEcdsaBlake2b256Signature dWalletPublicOutput message signature
      metadata.personal metadata.salt
  else if signatureScheme = 6 ∧ curve = 3 then do
    let metadata ← messageMetadataOf P schnorrkelMessageMetadataBcs
      "invalid Schnorrkel message_metadata: bytes remain after the context" messageMetadata
    let signingContext :=
      if metadata.context.length = 0 then defaultSchnorrkelContext else metadata.context
    cryptography.verifySignature .ristretto .schnorrkel .merlin dWalletPublicOutput message
      signature (some signingContext)
  else
    let takesMetadata := signatureScheme = 6 ∨ signatureScheme = 4
    if ¬takesMetadata ∧ messageMetadata.length ≠ 0 then
      .error "message_metadata must be empty for this signature scheme"
    else
      match plainVerifierOf signatureScheme curve with
      | some (verifierCurve, signatureAlgorithm, hash) =>
        cryptography.verifySignature verifierCurve signatureAlgorithm hash dWalletPublicOutput
          message signature none
      | none => .error s!"Signature scheme {signatureScheme} does not sign on curve {curve}"

end Signature

/-! ## Answers -/

/-- An answer's attestation has to name what was sent. -/
def requireSent (field : String) (holds : Prop) [Decidable holds] (what : String) :
    Except SdkError Unit :=
  ensure holds
    (.attestationRecord .binding s!"the attestation's {field} is not {what}" (some field))

/-- An attestation as a record: the version is the first byte of its bytes. -/
def recordOfAttestation (attestation : NetworkSignedAttestation) : AttestationRecord where
  attestationData := attestation.attestationData
  attestationVersion := (attestation.attestationData.head?.map UInt8.toNat).getD 255
  networkSignature := attestation.networkSignature
  signerNoaPublicKey := attestation.signerNoaPublicKey

/-- The attestation that an answer carries, once it names the network key. -/
def attestationOfAnswer (response : TransactionResponseData) (network : IkaNetwork)
    (expectedNetworkKeyId : Bytes) : Except SdkError NetworkSignedAttestation :=
  match response with
  | .error message => .error (.error s!"the network refused the request: {message}")
  | .signature _ => .error (.error "a request that changes state was answered with a signature")
  | .attestation attestation => do
    verifyAttestationNetworkKey attestation.networkPubkey expectedNetworkKeyId network none
    return attestation

structure SentMakeSharePublic where
  sessionIdentifier : Bytes
  networkKeyId : Bytes
  publicUserSecretKeyShare : Bytes
deriving DecidableEq, Repr

structure SentReEncryptShare where
  sessionIdentifier : Bytes
  networkKeyId : Bytes
  encryptedShareAndProof : Bytes
  encryptionKey : Bytes
  holderSignerPublicKey : Bytes
deriving DecidableEq, Repr

structure SentFutureSign where
  sessionIdentifier : Bytes
  intendedChainSender : Bytes
  dwalletAttestation : NetworkSignedAttestation
  presignAttestation : NetworkSignedAttestation
  message : Bytes
  messageMetadata : Bytes
  signatureScheme : DWalletSignatureScheme
  futureSignatureVoucher : Bytes
deriving DecidableEq, Repr

/-- `dwalletPublicKey` is `none` for a global presign. -/
structure SentPresign where
  sessionIdentifier : Bytes
  epoch : ℕ
  curve : DWalletCurve
  signatureAlgorithm : DWalletSignatureAlgorithm
  dwalletPublicKey : Option Bytes
  networkKeyId : Bytes
deriving DecidableEq, Repr

structure SentPublicShareDkg where
  sessionIdentifier : Bytes
  intendedChainSender : Bytes
  curve : Curve
  networkKeyId : Bytes
  userPublicOutput : Bytes
  signDuringDkg : Option SentSignDuringDkg
deriving DecidableEq, Repr

/-- What a checked DKG answer gives the caller. -/
structure PublicShareDkgAnswer where
  attestation : NetworkSignedAttestation
  publicKey : Bytes
  publicOutput : Bytes
  signature : Option Bytes
deriving DecidableEq, Repr

section Checks

variable (P : Primitives)

/-- The digests that a voucher records for a message and its metadata. -/
def futureSignMessageDigests (message messageMetadata : Bytes) : Bytes × Bytes :=
  (P.keccak256 message,
    if messageMetadata.length = 0 then List.replicate 32 0 else P.keccak256 messageMetadata)

def decodeV1 (kind : AttestationKind) (attestationData : Bytes) :
    Except SdkError kind.Attestation :=
  match P.parse kind.bcs attestationData with
  | .ok attestation => .ok attestation
  | .error reason => .error (.attestationRecord .decode
      s!"the {kind.name} attestation does not decode: {reason}" none)

def verifyAttestationRecord (record : AttestationRecord) (trusted : TrustedNetworkKeys)
    (kind : AttestationKind) : Except SdkError Unit := do
  let _ ← verifyAndDecode P record trusted kind none

/-- Check every part of a validator's attestation of a kind, and decode it. -/
def verifyAttestation (answer : NetworkSignedAttestation) (kind : AttestationKind)
    (expectedNetworkKeyId : Bytes) (trusted : TrustedNetwork) :
    Except SdkError kind.Attestation := do
  verifyAttestationNetworkKey answer.networkPubkey expectedNetworkKeyId trusted.network none
  verifyAndDecode P (recordOfAttestation answer) trusted.toTrustedNetworkKeys kind none

/-- The signature of an answer, returned only after it verifies. -/
def signatureFromResponseVerified (response : TransactionResponseData)
    (cryptography : AnswerCryptography) (curve signatureScheme : ℕ)
    (message messageMetadata dWalletPublicOutput : Bytes) : Except SdkError Bytes :=
  match response with
  | .error reason => .error (.error s!"the network refused the sign: {reason}")
  | .attestation _ => .error (.error "a sign request answered with an attestation")
  | .signature signature => do
    fromPackage (verifySignatureWithScheme P cryptography curve signatureScheme message
      messageMetadata dWalletPublicOutput signature)
    return signature

def verifyMakeSharePublicAnswer (response : TransactionResponseData) (trusted : TrustedNetwork)
    (dwallet : VerifiedDWalletAttestation) (sent : SentMakeSharePublic) :
    Except SdkError PublicShareAttestation := do
  let answer ← attestationOfAnswer response trusted.network sent.networkKeyId
  let attestation ← verifyPublicShareAttestationRecord P (recordOfAttestation answer)
    trusted.toTrustedNetworkKeys dwallet
  requireSent "session_identifier" (attestation.sessionIdentifier = sent.sessionIdentifier)
    "the make-public request's session identifier"
  requireSent "public_user_secret_key_share"
    (attestation.publicUserSecretKeyShare = sent.publicUserSecretKeyShare)
    "the share the request sent"
  return attestation

def verifyReEncryptShareAnswer (response : TransactionResponseData) (trusted : TrustedNetwork)
    (dwallet : VerifiedDWalletAttestation) (sent : SentReEncryptShare) :
    Except SdkError EncryptedShareAttestation := do
  let answer ← attestationOfAnswer response trusted.network sent.networkKeyId
  let attestation ← verifyEncryptedShareAttestationRecord P (recordOfAttestation answer)
    trusted.toTrustedNetworkKeys dwallet sent.holderSignerPublicKey
  requireSent "session_identifier" (attestation.sessionIdentifier = sent.sessionIdentifier)
    "the re-encryption request's session identifier"
  requireSent "encrypted_share_hash"
    (attestation.encryptedShareHash = P.keccak256 sent.encryptedShareAndProof)
    "the hash of the encrypted share sent"
  requireSent "encryption_key_hash"
    (attestation.encryptionKeyHash = P.keccak256 sent.encryptionKey)
    "the hash of the encryption key sent"
  return attestation

def verifyFutureSignAnswer (response : TransactionResponseData) (trusted : TrustedNetwork)
    (sent : SentFutureSign) : Except SdkError PartialUserSignatureAttestation := do
  let answer ← attestationOfAnswer response trusted.network sent.dwalletAttestation.networkPubkey
  verifyAttestationRecord P (recordOfAttestation answer) trusted.toTrustedNetworkKeys
    .partialUserSignature
  let attestation : PartialUserSignatureAttestation ←
    decodeV1 P .partialUserSignature answer.attestationData
  let digests := futureSignMessageDigests P sent.message sent.messageMetadata
  requireSent "session_identifier" (attestation.sessionIdentifier = sent.sessionIdentifier)
    "the future sign request's session identifier"
  requireSent "intended_chain_sender" (attestation.intendedChainSender = sent.intendedChainSender)
    "the chain sender the request named"
  let dwallet : DWalletAttestation ← decodeV1 P .dwallet sent.dwalletAttestation.attestationData
  requireSent "dwallet_public_key" (attestation.dwalletPublicKey = dwallet.publicKey)
    "the dWallet's public key"
  requireSent "dwallet_attestation_hash" (attestation.dwalletAttestationHash =
      dwalletAttestationDigest P sent.dwalletAttestation.attestationData)
    "the digest of the dWallet attestation sent"
  requireSent "future_signature_voucher"
    (attestation.futureSignatureVoucher = sent.futureSignatureVoucher)
    "the voucher the request named"
  let presign : PresignAttestation ← decodeV1 P .presign sent.presignAttestation.attestationData
  requireSent "presign_session_identifier"
    (attestation.presignSessionIdentifier = presign.presignSessionIdentifier)
    "the presign's reference"
  requireSent "presign_attestation_hash" (attestation.presignAttestationHash =
      P.keccak256 sent.presignAttestation.attestationData)
    "the hash of the presign attestation sent"
  requireSent "message_digest" (attestation.messageDigest = digests.1 ∧
      attestation.messageMetadataDigest = digests.2)
    "the digests of the message and metadata sent"
  requireSent "signature_scheme" (attestation.signatureScheme = sent.signatureScheme)
    "the scheme the request named"
  return attestation

def verifyPresignAnswer (response : TransactionResponseData) (trusted : TrustedNetwork)
    (sent : SentPresign) : Except SdkError PresignAttestation := do
  let answer ← attestationOfAnswer response trusted.network sent.networkKeyId
  verifyAttestationRecord P (recordOfAttestation answer) trusted.toTrustedNetworkKeys .presign
  let attestation : PresignAttestation ← decodeV1 P .presign answer.attestationData
  requireSent "session_identifier" (attestation.sessionIdentifier = sent.sessionIdentifier)
    "the presign request's session identifier"
  requireSent "epoch" (attestation.epoch = sent.epoch) "the epoch the request was stamped with"
  requireSent "curve" (attestation.curve = sent.curve) "the curve the request named"
  requireSent "signature_algorithm" (attestation.signatureAlgorithm = sent.signatureAlgorithm)
    "the algorithm the request named"
  requireSent "dwallet_public_key" (attestation.dwalletPublicKey = sent.dwalletPublicKey)
    "the dWallet the request named, or none for a global presign"
  return attestation

/-- The signature of a sign during DKG verifies, where one was sent. -/
def verifySignDuringDkg (cryptography : AnswerCryptography) (curve : Curve)
    (publicOutput : Bytes) : Option SentSignDuringDkg → Option Bytes → Except SdkError Unit
  | some sign, some signature => fromPackage (verifySignatureWithScheme P cryptography
      (fromCurveToNumber curve) sign.signatureScheme sign.message sign.messageMetadata
      publicOutput signature)
  | _, _ => .ok ()

def verifyPublicShareDkgAnswer (response : TransactionResponseData) (trusted : TrustedNetwork)
    (sent : SentPublicShareDkg) (cryptography : AnswerCryptography) :
    Except SdkError PublicShareDkgAnswer := do
  let answer ← attestationOfAnswer response trusted.network sent.networkKeyId
  verifyAttestationRecord P (recordOfAttestation answer) trusted.toTrustedNetworkKeys .dwallet
  verifyAttestationNetworkKey answer.networkPubkey sent.networkKeyId trusted.network
    (some trusted.toTrustedNetworkKeys)
  let data : DWalletAttestation ← decodeV1 P .dwallet answer.attestationData
  requireSent "session_identifier" (data.sessionIdentifier = sent.sessionIdentifier)
    "the creating request's session identifier"
  requireSent "intended_chain_sender" (data.intendedChainSender = sent.intendedChainSender)
    "the chain sender the request named"
  requireSent "curve" (data.curve.number = fromCurveToNumber sent.curve)
    "the curve the request named"
  requireSent "is_imported_key" (data.isImportedKey = false) "false for a DKG"
  requireSent "holder"
    (data.holder = none ∧ data.encryptionKeyHash = none ∧ data.encryptedShareHash = none)
    "absent, with no encryption key or encrypted share, for a public share"
  let outputsMatch ← fromPackage
    (cryptography.userAndNetworkDKGOutputMatch sent.curve sent.userPublicOutput data.publicOutput)
  requireSent "public_output" (outputsMatch = true)
    "an output that matches the user's public output"
  let keyOfOutput ← fromPackage
    (cryptography.publicKeyFromDWalletOutput (fromCurveToNumber sent.curve) data.publicOutput)
  requireSent "public_key" (data.publicKey = keyOfOutput)
    "the public key inside its public output"
  requireSent "sign_during_dkg_signature"
    (data.signDuringDkgSignature.isNone = sent.signDuringDkg.isNone)
    "present exactly when a sign during DKG was sent"
  verifySignDuringDkg P cryptography sent.curve data.publicOutput sent.signDuringDkg
    data.signDuringDkgSignature
  return ⟨answer, data.publicKey, data.publicOutput, data.signDuringDkgSignature⟩

end Checks

end Ika

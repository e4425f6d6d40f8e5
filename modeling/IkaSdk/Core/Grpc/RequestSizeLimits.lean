import IkaSdk.Core.Grpc.Errors
import IkaSdk.Core.Grpc.RequestBcs
import IkaSdk.Lib.Except

/-! The size limits of a request's signed bytes: each byte field is held to a
limit before the bytes are made, and the whole request once they are made. -/

namespace Ika

open Wire

/-- Which size limit a byte field is held to. -/
inductive ByteFieldLimit
  | field
  | message
  | messageMetadata
deriving DecidableEq, Repr

def ByteFieldLimit.bytes : ByteFieldLimit → ℕ
  | field => 16384
  | message => 16384
  | messageMetadata => 256

def signedRequestDataBytes : ℕ := 65536

structure ByteField where
  name : String
  limit : ByteFieldLimit
  length : ℕ
deriving DecidableEq, Repr

def attestationFields (path : String) (attestation : NetworkSignedAttestation) :
    List ByteField :=
  [⟨s!"{path}.attestation_data", .field, attestation.attestationData.length⟩,
    ⟨s!"{path}.network_signature", .field, attestation.networkSignature.length⟩,
    ⟨s!"{path}.network_pubkey", .field, attestation.networkPubkey.length⟩]

def signDuringDkgFields : Option SignDuringDkgRequest → List ByteField
  | none => []
  | some sign =>
    [⟨"sign_during_dkg_request.presign_session_identifier", .field,
        sign.presignSessionIdentifier.length⟩,
      ⟨"sign_during_dkg_request.presign", .field, sign.presign.length⟩,
      ⟨"sign_during_dkg_request.message", .message, sign.message.length⟩,
      ⟨"sign_during_dkg_request.message_metadata", .messageMetadata,
        sign.messageMetadata.length⟩,
      ⟨"sign_during_dkg_request.message_centralized_signature", .field,
        sign.messageCentralizedSignature.length⟩]

def userSecretKeyShareFields : UserSecretKeyShare → List ByteField
  | .encrypted share encryptionKey signer =>
    [⟨"user_secret_key_share.encrypted_centralized_secret_share_and_proof", .field,
        share.length⟩,
      ⟨"user_secret_key_share.encryption_key", .field, encryptionKey.length⟩,
      ⟨"user_secret_key_share.signer_public_key", .field, signer.length⟩]
  | .publicShare share =>
    [⟨"user_secret_key_share.public_user_secret_key_share", .field, share.length⟩]

def signFields (sign : SignRequest) : List ByteField :=
  [⟨"message", .message, sign.message.length⟩,
    ⟨"message_metadata", .messageMetadata, sign.messageMetadata.length⟩,
    ⟨"presign_session_identifier", .field, sign.presignSessionIdentifier.length⟩,
    ⟨"message_centralized_signature", .field, sign.messageCentralizedSignature.length⟩] ++
    attestationFields "dwallet_attestation" sign.dwalletAttestation

/-- The byte fields of a request, in the order of the network's checks. The
kinds that the SDK cannot build carry none. -/
def requestByteFields : DWalletRequest → List ByteField
  | .dkg dkg =>
    [⟨"centralized_public_key_share_and_proof", .field,
        dkg.centralizedPublicKeyShareAndProof.length⟩] ++
      userSecretKeyShareFields dkg.userSecretKeyShare ++
      [⟨"user_public_output", .field, dkg.userPublicOutput.length⟩] ++
      signDuringDkgFields dkg.signDuringDkgRequest
  | .sign sign => signFields sign
  | .importedKeySign sign => signFields sign
  | .presignForDWallet presign =>
    ⟨"dwallet_public_key", .field, presign.dwalletPublicKey.length⟩ ::
      attestationFields "dwallet_attestation" presign.dwalletAttestation
  | .reEncryptShare share =>
    ⟨"dwallet_public_key", .field, share.dwalletPublicKey.length⟩ ::
      attestationFields "dwallet_attestation" share.dwalletAttestation ++
      [⟨"encrypted_centralized_secret_share_and_proof", .field,
          share.encryptedCentralizedSecretShareAndProof.length⟩,
        ⟨"encryption_key", .field, share.encryptionKey.length⟩]
  | .makeSharePublic share =>
    ⟨"dwallet_public_key", .field, share.dwalletPublicKey.length⟩ ::
      attestationFields "dwallet_attestation" share.dwalletAttestation ++
      [⟨"public_user_secret_key_share", .field, share.publicUserSecretKeyShare.length⟩]
  | _ => []

def signedDataFields (signedData : SignedRequestData) : List ByteField :=
  ⟨"intended_chain_sender", .field, signedData.intendedChainSender.length⟩ ::
    requestByteFields signedData.request

/-- Throw for the first byte field over its limit. -/
def assertRequestFieldsWithinLimits (signedData : SignedRequestData) : Except SdkError Unit :=
  match (signedDataFields signedData).find? fun f => f.limit.bytes < f.length with
  | none => .ok ()
  | some longer =>
    .error (.error (s!"the request's {longer.name} is {longer.length} bytes, over the limit of " ++
      s!"{longer.limit.bytes} bytes"))

def assertSignedRequestDataWithinLimit (signedRequestData : Bytes) : Except SdkError Unit :=
  ensure (signedRequestData.length ≤ signedRequestDataBytes)
    (.error (s!"the signed request is {signedRequestData.length} bytes, over the limit of " ++
      s!"{signedRequestDataBytes} bytes"))

/-- Every byte field of the request is within its limit, and so are its bytes. -/
structure WithinLimits (signedData : SignedRequestData) (bytes : Bytes) : Prop where
  fields : ∀ f ∈ signedDataFields signedData, f.length ≤ f.limit.bytes
  whole : bytes.length ≤ signedRequestDataBytes

theorem assertRequestFieldsWithinLimits_iff {signedData : SignedRequestData} :
    assertRequestFieldsWithinLimits signedData = .ok () ↔
      ∀ f ∈ signedDataFields signedData, f.length ≤ f.limit.bytes := by
  unfold assertRequestFieldsWithinLimits
  constructor
  · intro h
    split at h
    · next hnone =>
      intro f hf
      have hnot := List.find?_eq_none.mp hnone f hf
      simpa using hnot
    · cases h
  · intro h
    have hnone : (signedDataFields signedData).find? (fun f => f.limit.bytes < f.length) = none :=
      List.find?_eq_none.mpr fun f hf => by simpa using h f hf
    rw [hnone]

end Ika

import IkaSdk.Core.Common.Engine

/-! Which requests the size limits reach: the byte fields of every kind of
request, held to the limit of their name, against the rows that the check has. -/

namespace Ika

open Wire

/-! ## The byte fields of every kind -/

/-- The limit that a byte field has from its name, the last part of its path. -/
def limitOf (name : String) : ByteFieldLimit :=
  if name = "message" then .message
  else if name = "message_metadata" then .messageMetadata
  else .field

def byteField (path name : String) (value : Bytes) : ByteField :=
  ⟨path ++ name, limitOf name, value.length⟩

def attestationByteFields (path : String) (attestation : NetworkSignedAttestation) :
    List ByteField :=
  [byteField path "attestation_data" attestation.attestationData,
    byteField path "network_signature" attestation.networkSignature,
    byteField path "network_pubkey" attestation.networkPubkey]

def shareByteFields : UserSecretKeyShare → List ByteField
  | .encrypted share encryptionKey signer =>
    [byteField "user_secret_key_share." "encrypted_centralized_secret_share_and_proof" share,
      byteField "user_secret_key_share." "encryption_key" encryptionKey,
      byteField "user_secret_key_share." "signer_public_key" signer]
  | .publicShare share =>
    [byteField "user_secret_key_share." "public_user_secret_key_share" share]

def signDuringDkgByteFields (sign : SignDuringDkgRequest) : List ByteField :=
  [byteField "sign_during_dkg_request." "presign_session_identifier"
      sign.presignSessionIdentifier,
    byteField "sign_during_dkg_request." "presign" sign.presign,
    byteField "sign_during_dkg_request." "message" sign.message,
    byteField "sign_during_dkg_request." "message_metadata" sign.messageMetadata,
    byteField "sign_during_dkg_request." "message_centralized_signature"
      sign.messageCentralizedSignature]

def signByteFields (sign : SignRequest) : List ByteField :=
  [byteField "" "message" sign.message,
    byteField "" "message_metadata" sign.messageMetadata,
    byteField "" "presign_session_identifier" sign.presignSessionIdentifier,
    byteField "" "message_centralized_signature" sign.messageCentralizedSignature] ++
    attestationByteFields "dwallet_attestation." sign.dwalletAttestation

def newShareByteFields (share : AttachEncryptedShareRequest) : List ByteField :=
  byteField "" "dwallet_public_key" share.dwalletPublicKey ::
    attestationByteFields "dwallet_attestation." share.dwalletAttestation ++
    [byteField "" "encrypted_centralized_secret_share_and_proof"
        share.encryptedCentralizedSecretShareAndProof,
      byteField "" "encryption_key" share.encryptionKey]

def partialSignByteFields (sign : SignWithPartialUserSigRequest) : List ByteField :=
  attestationByteFields "partial_user_signature_attestation."
      sign.partialUserSignatureAttestation ++
    attestationByteFields "dwallet_attestation." sign.dwalletAttestation ++
    [byteField "" "message" sign.message,
      byteField "" "message_metadata" sign.messageMetadata]

/-- Every byte field of a request, of whatever kind. A byte array of a fixed
length has no limit to exceed. -/
def everyByteField : DWalletRequest → List ByteField
  | .dkg dkg =>
    [byteField "" "centralized_public_key_share_and_proof"
        dkg.centralizedPublicKeyShareAndProof] ++
      shareByteFields dkg.userSecretKeyShare ++
      [byteField "" "user_public_output" dkg.userPublicOutput] ++
      (dkg.signDuringDkgRequest.map signDuringDkgByteFields).getD []
  | .sign sign => signByteFields sign
  | .importedKeySign sign => signByteFields sign
  | .presign _ => []
  | .presignForDWallet presign =>
    byteField "" "dwallet_public_key" presign.dwalletPublicKey ::
      attestationByteFields "dwallet_attestation." presign.dwalletAttestation
  | .importedKeyVerification imported =>
    [byteField "" "centralized_party_message" imported.centralizedPartyMessage] ++
      shareByteFields imported.userSecretKeyShare ++
      [byteField "" "user_public_output" imported.userPublicOutput]
  | .reEncryptShare share => newShareByteFields share.toAttachEncryptedShareRequest
  | .makeSharePublic share =>
    byteField "" "dwallet_public_key" share.dwalletPublicKey ::
      attestationByteFields "dwallet_attestation." share.dwalletAttestation ++
      [byteField "" "public_user_secret_key_share" share.publicUserSecretKeyShare]
  | .futureSign sign =>
    byteField "" "dwallet_public_key" sign.dwalletPublicKey ::
      attestationByteFields "dwallet_attestation." sign.dwalletAttestation ++
      attestationByteFields "presign_attestation." sign.presignAttestation ++
      [byteField "" "message" sign.message,
        byteField "" "message_metadata" sign.messageMetadata,
        byteField "" "message_centralized_signature" sign.messageCentralizedSignature]
  | .signWithPartialUserSig sign => partialSignByteFields sign
  | .importedKeySignWithPartialUserSig sign => partialSignByteFields sign
  | .releaseGas unsupported => [byteField "" "unsupported" unsupported]
  | .retiredAcceptShare => []
  | .retiredStorePresign => []
  | .attachEncryptedShare share => newShareByteFields share

def everySignedDataField (signedData : SignedRequestData) : List ByteField :=
  byteField "" "intended_chain_sender" signedData.intendedChainSender ::
    everyByteField signedData.request

/-- The kinds whose every byte field the check has a row for. -/
def kindInTable : DWalletRequest → Bool
  | .importedKeyVerification _ => false
  | .futureSign _ => false
  | .signWithPartialUserSig _ => false
  | .importedKeySignWithPartialUserSig _ => false
  | .releaseGas _ => false
  | .attachEncryptedShare _ => false
  | _ => true

/-- A kind's rows are its byte fields, each under the limit of its name. -/
theorem requestByteFields_inTable {request : DWalletRequest} (h : kindInTable request = true) :
    requestByteFields request = everyByteField request := by
  cases request with
  | dkg dkg =>
    have hshare : userSecretKeyShareFields dkg.userSecretKeyShare =
        shareByteFields dkg.userSecretKeyShare := by
      cases dkg.userSecretKeyShare <;> rfl
    have hsign : signDuringDkgFields dkg.signDuringDkgRequest =
        (dkg.signDuringDkgRequest.map signDuringDkgByteFields).getD [] := by
      cases dkg.signDuringDkgRequest <;> rfl
    unfold requestByteFields everyByteField
    dsimp only
    rw [hshare, hsign]
    rfl
  | sign _ | importedKeySign _ | presign _ | presignForDWallet _ | reEncryptShare _
  | makeSharePublic _ | retiredAcceptShare | retiredStorePresign => rfl
  | importedKeyVerification _ | futureSign _ | signWithPartialUserSig _
  | importedKeySignWithPartialUserSig _ | releaseGas _ | attachEncryptedShare _ => cases h

theorem requestByteFields_notInTable {request : DWalletRequest}
    (h : kindInTable request = false) : requestByteFields request = [] := by
  cases request with
  | importedKeyVerification _ | futureSign _ | signWithPartialUserSig _
  | importedKeySignWithPartialUserSig _ | releaseGas _ | attachEncryptedShare _ => rfl
  | dkg _ | sign _ | importedKeySign _ | presign _ | presignForDWallet _ | reEncryptShare _
  | makeSharePublic _ | retiredAcceptShare | retiredStorePresign => cases h

/-! ## What is refused -/

/-- The request is over one of the published limits. -/
def OverLimits (signedData : SignedRequestData) (bytes : Bytes) : Prop :=
  signedRequestDataBytes < bytes.length ∨
    ∃ f ∈ everySignedDataField signedData, f.limit.bytes < f.length

/-- The request is refused when it is over a limit, and only then; what is
signed is its bytes, within every limit. -/
structure LimitsCover (P : Primitives) (keypair : TransportKeypair)
    (signedData : SignedRequestData) (bytes : Bytes) : Prop where
  refused : (∃ error, signRequestBytes P keypair signedData = .error error) ↔
    OverLimits signedData bytes
  signed : ∀ signed, signRequestBytes P keypair signedData = .ok signed →
    signed.signedRequestData = bytes ∧ ¬OverLimits signedData bytes

/-- The kind has its rows, or no row is missed: its byte fields are within
their limits, or the request is refused for another length. -/
def NoRowMissed (signedData : SignedRequestData) (bytes : Bytes) : Prop :=
  kindInTable signedData.request = true ∨
    (∀ f ∈ everyByteField signedData.request, f.length ≤ f.limit.bytes) ∨
    ByteFieldLimit.field.bytes < signedData.intendedChainSender.length ∨
    signedRequestDataBytes < bytes.length

section Limits

variable {P : Primitives} {keypair : TransportKeypair} {signedData : SignedRequestData}
  {bytes : Bytes}

theorem signRequestBytes_signs_iff (hbytes : signedRequestDataBcs.serialize signedData = .ok bytes)
    {signed : SignedRequest} :
    signRequestBytes P keypair signedData = .ok signed ↔
      WithinLimits signedData bytes ∧ signSerializedRequest P keypair bytes = .ok signed := by
  unfold signRequestBytes
  rw [hbytes]
  constructor
  · intro h
    obtain ⟨_, hfields, hrest⟩ := bind_ok h
    have hsigned : signSerializedRequest P keypair bytes = .ok signed := hrest
    obtain ⟨_, hwhole, _⟩ := bind_ok hsigned
    exact ⟨⟨assertRequestFieldsWithinLimits_iff.mp hfields, ensure_ok hwhole⟩, hsigned⟩
  · rintro ⟨hlimits, hsigned⟩
    rw [assertRequestFieldsWithinLimits_iff.mpr hlimits.fields]
    exact hsigned

variable (P keypair) in
theorem signSerializedRequest_signs (hwhole : bytes.length ≤ signedRequestDataBytes) :
    ∃ signed, signSerializedRequest P keypair bytes = .ok signed ∧
      signed.signedRequestData = bytes := by
  unfold signSerializedRequest assertSignedRequestDataWithinLimit
  rw [ensure_of hwhole]
  exact ⟨_, rfl, rfl⟩

/-- The check refuses exactly the requests that its own rows find too long. -/
theorem signRequestBytes_refuses_iff
    (hbytes : signedRequestDataBcs.serialize signedData = .ok bytes) :
    (∃ error, signRequestBytes P keypair signedData = .error error) ↔
      ¬WithinLimits signedData bytes := by
  constructor
  · rintro ⟨error, herror⟩ hlimits
    obtain ⟨signed, hsigned, _⟩ :=
      signSerializedRequest_signs P keypair hlimits.whole
    rw [(signRequestBytes_signs_iff hbytes).mpr ⟨hlimits, hsigned⟩] at herror
    cases herror
  · intro hover
    cases hsigned : signRequestBytes P keypair signedData with
    | error error => exact ⟨error, rfl⟩
    | ok signed => exact absurd ((signRequestBytes_signs_iff hbytes).mp hsigned).1 hover

theorem withinLimits_inTable (h : kindInTable signedData.request = true) :
    WithinLimits signedData bytes ↔ ¬OverLimits signedData bytes := by
  have hfields : signedDataFields signedData = everySignedDataField signedData := by
    unfold signedDataFields
    rw [requestByteFields_inTable h]
    rfl
  unfold OverLimits
  push Not
  rw [← hfields]
  exact ⟨fun h => ⟨h.whole, h.fields⟩, fun h => ⟨h.2, h.1⟩⟩

theorem withinLimits_notInTable (h : kindInTable signedData.request = false) :
    WithinLimits signedData bytes ↔
      signedData.intendedChainSender.length ≤ ByteFieldLimit.field.bytes ∧
        bytes.length ≤ signedRequestDataBytes := by
  have hfields : signedDataFields signedData =
      [⟨"intended_chain_sender", .field, signedData.intendedChainSender.length⟩] := by
    unfold signedDataFields
    rw [requestByteFields_notInTable h]
  constructor
  · intro hlimits
    have hsender : ⟨"intended_chain_sender", .field, signedData.intendedChainSender.length⟩ ∈
        signedDataFields signedData := by
      rw [hfields]
      exact List.mem_singleton_self _
    exact ⟨hlimits.fields _ hsender, hlimits.whole⟩
  · rintro ⟨hsender, hwhole⟩
    refine ⟨?_, hwhole⟩
    rw [hfields]
    intro f hf
    obtain rfl := List.mem_singleton.mp hf
    exact hsender

theorem not_overLimits_iff : ¬OverLimits signedData bytes ↔
    bytes.length ≤ signedRequestDataBytes ∧
      signedData.intendedChainSender.length ≤ ByteFieldLimit.field.bytes ∧
      ∀ f ∈ everyByteField signedData.request, f.length ≤ f.limit.bytes := by
  unfold OverLimits everySignedDataField
  push Not
  rw [List.forall_mem_cons]
  rfl

/-- The rows find what is too long exactly when no row that matters is missing. -/
theorem withinLimits_iff_not_overLimits_iff :
    (WithinLimits signedData bytes ↔ ¬OverLimits signedData bytes) ↔
      NoRowMissed signedData bytes := by
  unfold NoRowMissed
  cases hkind : kindInTable signedData.request with
  | true => exact ⟨fun _ => .inl rfl, fun _ => withinLimits_inTable hkind⟩
  | false =>
    rw [withinLimits_notInTable hkind, not_overLimits_iff]
    constructor
    · intro h
      by_cases hsender : signedData.intendedChainSender.length ≤ ByteFieldLimit.field.bytes
      · by_cases hwhole : bytes.length ≤ signedRequestDataBytes
        · have hfields := (h.mp ⟨hsender, hwhole⟩).2.2
          exact .inr (.inl hfields)
        · exact .inr (.inr (.inr (not_le.mp hwhole)))
      · exact .inr (.inr (.inl (not_le.mp hsender)))
    · rintro (hin | hfields | hsender | hwhole)
      · cases hin
      · exact ⟨fun h => ⟨h.2, h.1, hfields⟩, fun h => ⟨h.2.1, h.1⟩⟩
      · exact ⟨fun h => absurd h.1 (not_le.mpr hsender),
          fun h => absurd h.2.1 (not_le.mpr hsender)⟩
      · exact ⟨fun h => absurd h.2 (not_le.mpr hwhole), fun h => absurd h.1 (not_le.mpr hwhole)⟩

theorem not_limitsCover (hbytes : signedRequestDataBcs.serialize signedData = .ok bytes)
    (hwithin : WithinLimits signedData bytes) (hover : OverLimits signedData bytes) :
    ¬LimitsCover P keypair signedData bytes := by
  intro hcover
  have hrefused := hcover.refused.mpr hover
  exact (signRequestBytes_refuses_iff hbytes).mp hrefused hwithin

theorem limits_cover_iff (hbytes : signedRequestDataBcs.serialize signedData = .ok bytes) :
    LimitsCover P keypair signedData bytes ↔ NoRowMissed signedData bytes := by
  have hrefuses : (∃ error, signRequestBytes P keypair signedData = .error error) ↔
      ¬WithinLimits signedData bytes := signRequestBytes_refuses_iff hbytes
  rw [← withinLimits_iff_not_overLimits_iff]
  constructor
  · rintro ⟨hrefused, -⟩
    exact not_iff_not.mp ((hrefuses.symm.trans hrefused).trans not_not.symm)
  · intro hrows
    refine ⟨?_, ?_⟩
    · rw [hrefuses, hrows, not_not]
    · intro signed hsigned
      obtain ⟨hwithin, hserialized⟩ := (signRequestBytes_signs_iff hbytes).mp hsigned
      obtain ⟨_, hgiven, hits⟩ :=
        signSerializedRequest_signs P keypair hwithin.whole
      rw [hserialized] at hgiven
      cases hgiven
      exact ⟨hits, hrows.mp hwithin⟩

end Limits

/-- A future sign with metadata of the given length. -/
def sampleFutureSign (metadataLength : ℕ) : SignedRequestData where
  sessionIdentifierPreimage := List.replicate 32 11
  epoch := 9
  chainId := .solana
  network := 1
  intendedChainSender := List.replicate 32 2
  request := .futureSign {
    dwalletPublicKey := List.replicate 33 3
    dwalletAttestation := ⟨[1, 2], List.replicate 64 8, List.replicate 32 7, List.replicate 32 7⟩
    presignAttestation := ⟨[3, 4], List.replicate 64 9, List.replicate 32 7, List.replicate 32 7⟩
    message := [1, 2, 3]
    messageMetadata := List.replicate metadataLength 0
    messageCentralizedSignature := [4, 5]
    signatureScheme := .eddsaSha512
    futureSignatureVoucher := List.replicate 32 13 }

theorem limits_cover_sample : LimitsCover samplePrimitives
    ⟨List.replicate 32 14, List.replicate 32 15⟩ (sampleFutureSign 256)
    (signedRequestDataBcs.encode (sampleFutureSign 256)) := by
  apply (limits_cover_iff (if_pos (by decide +kernel))).mpr
  exact .inr (.inl (by decide +kernel))

/-- Metadata of 257 bytes is signed in a future sign. -/
theorem future_sign_over_limit : ¬LimitsCover samplePrimitives
    ⟨List.replicate 32 14, List.replicate 32 15⟩ (sampleFutureSign 257)
    (signedRequestDataBcs.encode (sampleFutureSign 257)) := by
  have hbytes : signedRequestDataBcs.serialize (sampleFutureSign 257) =
      .ok (signedRequestDataBcs.encode (sampleFutureSign 257)) := if_pos (by decide +kernel)
  have hwithin : WithinLimits (sampleFutureSign 257)
      (signedRequestDataBcs.encode (sampleFutureSign 257)) :=
    ⟨by decide +kernel, by decide +kernel⟩
  have hover : OverLimits (sampleFutureSign 257)
      (signedRequestDataBcs.encode (sampleFutureSign 257)) :=
    .inr ⟨byteField "" "message_metadata" (List.replicate 257 0), by decide +kernel,
      by decide +kernel⟩
  exact not_limitsCover hbytes hwithin hover

end Ika

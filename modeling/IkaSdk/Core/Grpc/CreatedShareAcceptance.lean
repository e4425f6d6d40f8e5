import IkaSdk.Core.Grpc.ShareAcceptance

/-! The acceptance of a new dWallet's first share, which the user who created the dWallet
signs. It is signed over an attestation that is what the user sent, field by field. -/

namespace Ika

open Wire

/-! ## Signing -/

/-- The kind of the request that created a dWallet. -/
inductive CreatingRequest
  | dkg
  | importedKeyVerification
deriving DecidableEq, Repr

def CreatingRequest.name : CreatingRequest → String
  | dkg => "Dkg"
  | importedKeyVerification => "ImportedKeyVerification"

/-- What the user sent in the request that created the dWallet, and computed for it. -/
structure SentDWalletRequest where
  kind : CreatingRequest
  sessionIdentifier : Bytes
  intendedChainSender : Bytes
  curve : Curve
  networkKeyId : Bytes
  userPublicOutput : Bytes
  encryptionKey : Bytes
  encryptedShareAndProof : Bytes
  signDuringDkg : Option SentSignDuringDkg
deriving DecidableEq, Repr

structure AcceptDWalletShareArguments where
  holderSecretKey : Bytes
  attestation : NetworkSignedAttestation
  trustedNetworkKeys : TrustedNetwork
  sent : SentDWalletRequest
  cryptography : Option AnswerCryptography

section Signing

variable (P : Primitives) (realCryptography : AnswerCryptography)

/-- Decode the bytes as exactly one dWallet attestation. -/
def decodeExactlyDWallet (attestationData : Bytes) : Except SdkError DWalletAttestation := do
  let decoded ← decodeDWalletAttestation P attestationData
  let encoded ← fromPackage (versionedDWalletDataAttestationBcs.serialize decoded)
  ensure (encoded = attestationData) (SdkError.attestationRecord .decode
    "the attestation bytes are not exactly a dWallet attestation: bytes remain after it" none)
  return decoded

/-- A verification that throws counts as one that fails. -/
def signDuringDkgSignatureVerifies (cryptography : AnswerCryptography) (curve : ℕ)
    (sent : SentSignDuringDkg) (dWalletPublicOutput signature : Bytes) : Bool :=
  (verifySignatureWithScheme P cryptography curve sent.signatureScheme sent.message
    sent.messageMetadata dWalletPublicOutput signature).toOption.isSome

/-- A sign during DKG is attested exactly where one was sent. -/
def requireSignDuringDkg (cryptography : AnswerCryptography) (attestation : DWalletAttestation) :
    Option SentSignDuringDkg → Except SdkError Unit
  | none => requireSent "sign_during_dkg_signature_unasked"
      (attestation.signDuringDkgSignature = none) "absent, and no sign was sent"
  | some sign => requireSent "sign_during_dkg_signature"
      (attestation.signDuringDkgSignature.any fun signature =>
        signDuringDkgSignatureVerifies P cryptography attestation.curve.number sign
          attestation.publicOutput signature)
      "a signature of the dWallet's key"

/-- The comparisons of the attestation with what the user sent and computed. -/
def requireCreated (cryptography : AnswerCryptography) (holderSecretKey : Bytes)
    (sent : SentDWalletRequest) (attestation : DWalletAttestation) : Except SdkError Unit := do
  requireSent "holder"
    (attestation.holder = some ⟨.ed25519, P.ed25519GetPublicKey holderSecretKey⟩)
    "the Ed25519 key of the holder's secret key"
  requireSent "session_identifier" (attestation.sessionIdentifier = sent.sessionIdentifier)
    "the creating request's session identifier"
  requireSent "intended_chain_sender" (attestation.intendedChainSender = sent.intendedChainSender)
    "the chain sender the request named"
  requireSent "curve" (attestation.curve.number = fromCurveToNumber sent.curve)
    "the curve the request named"
  requireSent "is_imported_key"
    (attestation.isImportedKey = decide (sent.kind = .importedKeyVerification))
    s!"that of a {sent.kind.name}"
  let outputsMatch ← fromPackage (cryptography.userAndNetworkDKGOutputMatch sent.curve
    sent.userPublicOutput attestation.publicOutput)
  requireSent "public_output" (outputsMatch = true)
    "an output that matches the user's public output"
  let keyOfOutput ← fromPackage (cryptography.publicKeyFromDWalletOutput
    (fromCurveToNumber sent.curve) attestation.publicOutput)
  requireSent "public_key" (attestation.publicKey = keyOfOutput)
    "the public key inside its public output"
  requireSent "encryption_key_hash"
    (attestation.encryptionKeyHash = some (P.keccak256 sent.encryptionKey))
    "the hash of the encryption key sent"
  requireSent "encrypted_share_hash"
    (attestation.encryptedShareHash = some (P.keccak256 sent.encryptedShareAndProof))
    "the hash of the encrypted share sent"
  requireSignDuringDkg P cryptography attestation sent.signDuringDkg

def signDWalletShareAcceptance (args : AcceptDWalletShareArguments) :
    Except SdkError ShareAcceptanceSignature := do
  let cryptography := args.cryptography.getD realCryptography
  let attestationData := args.attestation.attestationData
  let attestation ← decodeExactlyDWallet P attestationData
  ensure (args.attestation.signerNoaPublicKey ∈ args.trustedNetworkKeys.publicKeys)
    (SdkError.attestationRecord .signer
      "the attestation's signer_noa_public_key is not a trusted network key"
      (some "signer_noa_public_key"))
  ensure (signatureVerifies P args.attestation.networkSignature
      (attestationSigningMessage .dwallet attestationData) args.attestation.signerNoaPublicKey)
    (SdkError.attestationRecord .signature
      "the attestation's network_signature is not a signature of its signer"
      (some "network_signature"))
  verifyAttestationNetworkKey args.attestation.networkPubkey args.sent.networkKeyId
    args.trustedNetworkKeys.network (some args.trustedNetworkKeys.toTrustedNetworkKeys)
  requireCreated P cryptography args.holderSecretKey args.sent attestation
  return signShareAcceptance P args.holderSecretKey (dwalletAttestationDigest P attestationData)

end Signing

/-! ## What a signed acceptance shows -/

variable {P : Primitives} {realCryptography cryptography : AnswerCryptography}
  {holderSecretKey : Bytes} {sent : SentDWalletRequest} {attestation : DWalletAttestation}

/-- A sign during DKG is attested exactly where one was sent, and verifies. -/
def SignAsAsked (P : Primitives) (cryptography : AnswerCryptography)
    (attestation : DWalletAttestation) (sent : Option SentSignDuringDkg) : Prop :=
  (attestation.signDuringDkgSignature.isSome ↔ sent.isSome) ∧
    ∀ sign ∈ sent, ∀ signature ∈ attestation.signDuringDkgSignature,
      verifySignatureWithScheme P cryptography attestation.curve.number sign.signatureScheme
        sign.message sign.messageMetadata attestation.publicOutput signature = .ok ()

/-- The attestation is of the dWallet that the request asked for. -/
structure Created (P : Primitives) (cryptography : AnswerCryptography) (holderSecretKey : Bytes)
    (sent : SentDWalletRequest) (attestation : DWalletAttestation) : Prop where
  holder : attestation.holder = some ⟨.ed25519, P.ed25519GetPublicKey holderSecretKey⟩
  session : attestation.sessionIdentifier = sent.sessionIdentifier
  sender : attestation.intendedChainSender = sent.intendedChainSender
  curve : attestation.curve.number = fromCurveToNumber sent.curve
  imported : attestation.isImportedKey ↔ sent.kind = .importedKeyVerification
  output : cryptography.userAndNetworkDKGOutputMatch sent.curve sent.userPublicOutput
    attestation.publicOutput = .ok true
  key : cryptography.publicKeyFromDWalletOutput (fromCurveToNumber sent.curve)
    attestation.publicOutput = .ok attestation.publicKey
  encryptionKey : attestation.encryptionKeyHash = some (P.keccak256 sent.encryptionKey)
  encryptedShare : attestation.encryptedShareHash = some (P.keccak256 sent.encryptedShareAndProof)
  sign : SignAsAsked P cryptography attestation sent.signDuringDkg

/-- What the acceptance is signed for: bytes that a trusted key of the network signed, under
the network key that the request named, of the dWallet that the request asked for. -/
structure AcceptedCreation (P : Primitives) (cryptography : AnswerCryptography)
    (args : AcceptDWalletShareArguments) (attestation : DWalletAttestation) : Prop where
  signed : CanonicallySigned P args.trustedNetworkKeys.toTrustedNetworkKeys .dwallet
    (recordOfAttestation args.attestation) attestation
  networkKey : NamesNetworkKey ikaDeployedNetworks args.attestation.networkPubkey
    args.sent.networkKeyId args.trustedNetworkKeys.network
    (some args.trustedNetworkKeys.toTrustedNetworkKeys)
  created : Created P cryptography args.holderSecretKey args.sent attestation

theorem decodeExactlyDWallet_ok {bytes : Bytes}
    (h : decodeExactlyDWallet P bytes = .ok attestation) :
    AttestationKind.dwallet.bcs.serialize attestation = .ok bytes := by
  obtain ⟨decoded, -, h⟩ := bind_ok h
  obtain ⟨encoded, hencoded, h⟩ := bind_ok h
  obtain ⟨_, hsame, h⟩ := bind_ok h
  obtain rfl : decoded = attestation := Except.ok.inj h
  have hsame : encoded = bytes := ensure_ok hsame
  rw [← hsame]
  exact fromPackage_ok hencoded

theorem requireSignDuringDkg_ok {sign : Option SentSignDuringDkg} {u : Unit}
    (h : requireSignDuringDkg P cryptography attestation sign = .ok u) :
    SignAsAsked P cryptography attestation sign := by
  cases sign with
  | none =>
    have hnone : attestation.signDuringDkgSignature = none := ensure_ok h
    refine ⟨?_, fun _ hsign => (by cases hsign)⟩
    rw [hnone]
    rfl
  | some sign =>
    have hany := ensure_ok h
    obtain ⟨signature, hsignature, hverifies⟩ := (Option.any_eq_true _ _).mp hany
    refine ⟨?_, ?_⟩
    · rw [hsignature]
      exact ⟨fun _ => rfl, fun _ => rfl⟩
    · intro sign' hsign' signature' hsignature'
      obtain rfl := Option.mem_some.mp hsign'
      obtain rfl : signature = signature' := Option.some.inj (hsignature.symm.trans hsignature')
      exact ok_of_toOption hverifies

theorem requireCreated_ok {u : Unit}
    (h : requireCreated P cryptography holderSecretKey sent attestation = .ok u) :
    Created P cryptography holderSecretKey sent attestation := by
  obtain ⟨_, hholder, h⟩ := bind_ok h
  obtain ⟨_, hsession, h⟩ := bind_ok h
  obtain ⟨_, hsender, h⟩ := bind_ok h
  obtain ⟨_, hcurve, h⟩ := bind_ok h
  obtain ⟨_, himported, h⟩ := bind_ok h
  obtain ⟨outputsMatch, houtput, h⟩ := bind_ok h
  obtain ⟨_, hmatch, h⟩ := bind_ok h
  obtain ⟨keyOfOutput, hkeyOf, h⟩ := bind_ok h
  obtain ⟨_, hkey, h⟩ := bind_ok h
  obtain ⟨_, hencryptionKey, h⟩ := bind_ok h
  obtain ⟨_, hshare, h⟩ := bind_ok h
  have himported : attestation.isImportedKey =
      decide (sent.kind = .importedKeyVerification) := ensure_ok himported
  have hmatch : outputsMatch = true := ensure_ok hmatch
  have hkey : attestation.publicKey = keyOfOutput := ensure_ok hkey
  refine ⟨ensure_ok hholder, ensure_ok hsession, ensure_ok hsender, ensure_ok hcurve, ?_, ?_, ?_,
    ensure_ok hencryptionKey, ensure_ok hshare, requireSignDuringDkg_ok h⟩
  · rw [himported, decide_eq_true_iff]
  · rw [← hmatch]
    exact fromPackage_ok houtput
  · rw [hkey]
    exact fromPackage_ok hkeyOf

theorem signDWalletShareAcceptance_ok {args : AcceptDWalletShareArguments}
    {acceptance : ShareAcceptanceSignature}
    (h : signDWalletShareAcceptance P realCryptography args = .ok acceptance) :
    ∃ attestation, AcceptedCreation P (args.cryptography.getD realCryptography) args attestation ∧
      acceptance = signShareAcceptance P args.holderSecretKey
        (P.keccak256 args.attestation.attestationData) := by
  obtain ⟨attestation, hdecoded, h⟩ := bind_ok h
  obtain ⟨_, htrusted, h⟩ := bind_ok h
  obtain ⟨_, hsignature, h⟩ := bind_ok h
  obtain ⟨_, hnetworkKey, h⟩ := bind_ok h
  obtain ⟨_, hcreated, h⟩ := bind_ok h
  have hcanonical := decodeExactlyDWallet_ok hdecoded
  have hversion : (recordOfAttestation args.attestation).attestationVersion = 0 := by
    unfold recordOfAttestation
    rw [serialize_first hcanonical]
    rfl
  have hsigned : CanonicallySigned P args.trustedNetworkKeys.toTrustedNetworkKeys .dwallet
      (recordOfAttestation args.attestation) attestation :=
    ⟨hversion, ensure_ok htrusted, signatureVerifies_iff.mp (ensure_ok hsignature), hcanonical⟩
  exact ⟨attestation, ⟨hsigned, verifyAttestationNetworkKey_ok hnetworkKey,
    requireCreated_ok hcreated⟩, (Except.ok.inj h).symm⟩

/-- Bytes are of one attestation, so they name one session. -/
theorem AcceptedCreation.same_session {cryptography' : AnswerCryptography}
    {args args' : AcceptDWalletShareArguments} {attestation' : DWalletAttestation}
    (h : AcceptedCreation P cryptography args attestation)
    (h' : AcceptedCreation P cryptography' args' attestation')
    (hdata : args.attestation.attestationData = args'.attestation.attestationData) :
    args.sent.sessionIdentifier = args'.sent.sessionIdentifier := by
  have hparse := P.parse_serialize h.signed.canonical
  have hparse' := P.parse_serialize h'.signed.canonical
  have hsame : attestation = attestation' := by
    apply Except.ok.inj
    rw [← hparse, ← hparse']
    exact congrArg _ hdata
  rw [← h.created.session, ← h'.created.session, hsame]

/-! ### A new dWallet -/

def sampleSentDWalletRequest : SentDWalletRequest where
  kind := .dkg
  sessionIdentifier := sampleAttestation.sessionIdentifier
  intendedChainSender := sampleAttestation.intendedChainSender
  curve := .ed25519
  networkKeyId := List.replicate 32 7
  userPublicOutput := []
  encryptionKey := List.replicate 32 5
  encryptedShareAndProof := List.replicate 32 6
  signDuringDkg := none

def sampleAcceptDWalletShare : AcceptDWalletShareArguments where
  holderSecretKey := List.replicate 32 4
  attestation := ⟨versionedDWalletDataAttestationBcs.encode sampleAttestation,
    List.replicate 64 8, List.replicate 32 7, List.replicate 32 7⟩
  trustedNetworkKeys := ⟨⟨[List.replicate 32 7]⟩, .custom [List.replicate 32 7]⟩
  sent := sampleSentDWalletRequest
  cryptography := none

theorem sampleAcceptDWalletShare_signed :
    signDWalletShareAcceptance samplePrimitives lenientCryptography sampleAcceptDWalletShare =
      .ok (signShareAcceptance samplePrimitives (List.replicate 32 4)
        (samplePrimitives.keccak256 sampleAcceptDWalletShare.attestation.attestationData)) := by
  decide +kernel

/-- An acceptance is signed only for what the request asked for, over the digest of the
attestation's bytes, and those bytes are accepted for no request of another session. -/
theorem acceptance_of_what_was_asked {args : AcceptDWalletShareArguments}
    {acceptance : ShareAcceptanceSignature}
    (h : signDWalletShareAcceptance P realCryptography args = .ok acceptance) :
    (∃ attestation,
      AcceptedCreation P (args.cryptography.getD realCryptography) args attestation) ∧
    acceptance = signShareAcceptance P args.holderSecretKey
      (P.keccak256 args.attestation.attestationData) ∧
    ∀ args', args'.attestation.attestationData = args.attestation.attestationData →
      args'.sent.sessionIdentifier ≠ args.sent.sessionIdentifier →
        ∀ acceptance', signDWalletShareAcceptance P realCryptography args' ≠ .ok acceptance' := by
  obtain ⟨attestation, haccepted, hacceptance⟩ := signDWalletShareAcceptance_ok h
  refine ⟨⟨attestation, haccepted⟩, hacceptance, ?_⟩
  intro args' hdata hsession acceptance' h'
  obtain ⟨attestation', haccepted', -⟩ := signDWalletShareAcceptance_ok h'
  exact hsession (haccepted'.same_session haccepted hdata)

/-- The attestation that was accepted for a sample request was accepted for nothing else. -/
theorem acceptance_of_what_was_asked_sample :
    (∃ attestation, AcceptedCreation samplePrimitives lenientCryptography sampleAcceptDWalletShare
      attestation) ∧
    signShareAcceptance samplePrimitives (List.replicate 32 4)
        (samplePrimitives.keccak256 sampleAcceptDWalletShare.attestation.attestationData) =
      signShareAcceptance samplePrimitives sampleAcceptDWalletShare.holderSecretKey
        (samplePrimitives.keccak256 sampleAcceptDWalletShare.attestation.attestationData) ∧
    ∀ args', args'.attestation.attestationData =
        sampleAcceptDWalletShare.attestation.attestationData →
      args'.sent.sessionIdentifier ≠ sampleSentDWalletRequest.sessionIdentifier →
        ∀ acceptance', signDWalletShareAcceptance samplePrimitives lenientCryptography args' ≠
          .ok acceptance' :=
  acceptance_of_what_was_asked sampleAcceptDWalletShare_signed

end Ika

import IkaSdk.Core.Grpc.AnswerChecks
import IkaSdk.Core.Grpc.ShareRecords

/-! A holder's acceptance of a share re-encrypted to it, which the holder signs
after the share is checked, and what the checks show. -/

namespace Ika

open Wire Interaction Eff

structure ShareAcceptanceSignature where
  holderPublicKey : Bytes
  acceptanceDigest : Bytes
  signature : Bytes
deriving DecidableEq, Repr

structure AcceptReEncryptedShareArguments where
  reader : DWalletShareReader
  holderSecretKey : Bytes
  decryptionKey : Bytes
  encryptionKey : Bytes
  senderSignerPublicKey : Bytes
  senderAcceptanceSignature : Option Bytes
  /-- The bytes of the dWallet's attestation. -/
  dwalletAttestation : Bytes
  shareAttestation : NetworkSignedAttestation
  encryptedShareAndProof : Bytes
  protocolPublicParameters : Bytes

/-- The share a ciphertext decrypts to, of the curve, the decryption key, the
dWallet's output, the ciphertext and the public parameters. -/
abbrev DecryptUserShare :=
  UserCryptography → ℕ → Bytes → Bytes → Bytes → Bytes → Except String Bytes

section Acceptance

variable (P : Primitives) {H : Type}

def signShareAcceptance (holderSecretKey acceptanceDigest : Bytes) : ShareAcceptanceSignature where
  holderPublicKey := P.ed25519GetPublicKey holderSecretKey
  acceptanceDigest := acceptanceDigest
  signature := P.ed25519Sign acceptanceDigest holderSecretKey

def decodeEncryptedShareAttestation (attestationData : Bytes) :
    Except SdkError EncryptedShareAttestation :=
  match P.parse versionedEncryptedUserKeyShareAttestationBcs attestationData with
  | .error reason =>
    .error (.attestationRecord .decode
      ("the share attestation is not an encrypted share attestation: " ++ reason) none)
  | .ok decoded => do
    let encoded ← fromPackage (versionedEncryptedUserKeyShareAttestationBcs.serialize decoded)
    ensure (encoded = attestationData) (SdkError.attestationRecord .decode
      ("the share attestation bytes are not exactly an encrypted share attestation: bytes " ++
        "remain after it") none)
    return decoded

/-- The checks of a share attestation against the holder's own keys, the dWallet
and the ciphertext that was given with it. -/
def requireReEncryptedShare (args : AcceptReEncryptedShareArguments)
    (attestation : DWalletAttestation) (networkPublicKey : Bytes) : Except SdkError Unit := do
  let share ← decodeEncryptedShareAttestation P args.shareAttestation.attestationData
  refuseUnless "share_signer_noa_public_key"
    (args.shareAttestation.signerNoaPublicKey ∈ args.reader.trustedNetworkKeys.publicKeys)
    "one of the reader's trusted network keys" .signer
  refuseUnless "share_network_signature"
    (signatureVerifies P args.shareAttestation.networkSignature
      (attestationSigningMessage .encryptedShare args.shareAttestation.attestationData)
      args.shareAttestation.signerNoaPublicKey)
    "a signature of its signer" .signature
  refuseUnless "share_network_pubkey" (args.shareAttestation.networkPubkey = networkPublicKey)
    "the dWallet record's network key"
  refuseUnless "share_holder"
    (share.holder = ⟨.ed25519, P.ed25519GetPublicKey args.holderSecretKey⟩)
    "the Ed25519 key of the holder's secret key"
  refuseUnless "share_dwallet_attestation_digest"
    (share.dwalletAttestationDigest = P.keccak256 args.dwalletAttestation)
    "the dWallet attestation's digest"
  refuseUnless "share_dwallet_public_key" (share.dwalletPublicKey = attestation.publicKey)
    "the dWallet's public key"
  refuseUnless "share_intended_chain_sender"
    (share.intendedChainSender = attestation.intendedChainSender)
    "the dWallet attestation's sender"
  refuseUnless "share_encryption_key_hash"
    (share.encryptionKeyHash = P.keccak256 args.encryptionKey)
    "the hash of the holder's encryption key"
  refuseUnless "share_encrypted_share_hash"
    (share.encryptedShareHash = P.keccak256 args.encryptedShareAndProof)
    "the hash of the encrypted share given"

def signReEncryptedShareAcceptance (decryptUserShare : DecryptUserShare)
    (args : AcceptReEncryptedShareArguments) : OwnershipEff H ShareAcceptanceSignature := do
  let attestation ← decodeDWalletAttestation P args.dwalletAttestation
  let asked := askedOf attestation
  let cryptography := args.reader.cryptography.getD P.realCryptography
  let sender := args.senderSignerPublicKey
  let dwallet ← readDWalletHolding P args.reader asked args.dwalletAttestation
  let verified := dwallet.verified.attestation
  requireAttestedKeyOfOutput verified cryptography
  match ← readOwnShare P args.reader dwallet sender args.senderAcceptanceSignature with
  | none =>
    throw (.error (s!"no share record of the sender {toHex sender} is on the chain for the " ++
      s!"dWallet with public key {toHex asked.publicKey}, so nothing shows that the sender " ++
      "held and accepted this dWallet"))
  | some source =>
    refuseUnless "sender_is_attested_holder"
      (¬source.acceptanceGiven ∨ verified.holder = some ⟨.ed25519, sender⟩)
      ("the holder the dWallet's attestation names, as a sender with no acceptance on the chain " ++
        "must be")
    requireReEncryptedShare P args attestation dwallet.networkPublicKey
    -- The decrypted share is not kept, and a failure to decrypt is no share.
    let decrypted := decryptUserShare cryptography asked.curve args.decryptionKey
      verified.publicOutput args.encryptedShareAndProof args.protocolPublicParameters
    refuseUnless "encrypted_share" decrypted.toOption.isSome
      "a share of the dWallet's public output"
    return signShareAcceptance P args.holderSecretKey
      (shareAttestationDigest P args.shareAttestation.attestationData)

end Acceptance

/-! ## What a signed acceptance shows -/

variable {P : Primitives} {H : Type} {args : AcceptReEncryptedShareArguments}

theorem decodeEncryptedShareAttestation_ok {bytes : Bytes} {share : EncryptedShareAttestation}
    (h : decodeEncryptedShareAttestation P bytes = .ok share) :
    AttestationKind.encryptedShare.bcs.serialize share = .ok bytes := by
  unfold decodeEncryptedShareAttestation at h
  split at h
  · cases h
  next decoded _ =>
  obtain ⟨encoded, hencoded, h⟩ := bind_ok h
  obtain ⟨_, hsame, h⟩ := bind_ok h
  obtain rfl : decoded = share := Except.ok.inj h
  have hsame : encoded = bytes := ensure_ok hsame
  rw [← hsame]
  exact fromPackage_ok hencoded

theorem decodeEncryptedShareAttestation_serialize {bytes : Bytes}
    {share : EncryptedShareAttestation}
    (h : AttestationKind.encryptedShare.bcs.serialize share = .ok bytes) :
    decodeEncryptedShareAttestation P bytes = .ok share := by
  have hwritten : versionedEncryptedUserKeyShareAttestationBcs.serialize share = .ok bytes := h
  unfold decodeEncryptedShareAttestation
  rw [P.parse_serialize hwritten]
  dsimp only
  rw [hwritten, fromPackage, ok_bind, ensure_of rfl, ok_bind]
  rfl

/-- The share of a signed acceptance: the network's attestation of the holder's
share of this dWallet, of the ciphertext and the key that were given. -/
structure ReEncryptedShareChecked (P : Primitives) (args : AcceptReEncryptedShareArguments)
    (attestation : DWalletAttestation) (share : EncryptedShareAttestation) : Prop where
  signed : CanonicallySigned P args.reader.trustedNetworkKeys .encryptedShare
    (recordOfAttestation args.shareAttestation) share
  holder : share.holder = ⟨.ed25519, P.ed25519GetPublicKey args.holderSecretKey⟩
  digest : share.dwalletAttestationDigest = P.keccak256 args.dwalletAttestation
  publicKey : share.dwalletPublicKey = attestation.publicKey
  sender : share.intendedChainSender = attestation.intendedChainSender
  encryptionKey : share.encryptionKeyHash = P.keccak256 args.encryptionKey
  ciphertext : share.encryptedShareHash = P.keccak256 args.encryptedShareAndProof

theorem requireReEncryptedShare_ok {attestation : DWalletAttestation} {networkPublicKey : Bytes}
    {u : Unit} (h : requireReEncryptedShare P args attestation networkPublicKey = .ok u) :
    ∃ share, ReEncryptedShareChecked P args attestation share := by
  obtain ⟨share, hdecoded, h⟩ := bind_ok h
  obtain ⟨_, htrusted, h⟩ := bind_ok h
  obtain ⟨_, hsignature, h⟩ := bind_ok h
  obtain ⟨_, -, h⟩ := bind_ok h
  obtain ⟨_, hholder, h⟩ := bind_ok h
  obtain ⟨_, hdigest, h⟩ := bind_ok h
  obtain ⟨_, hkey, h⟩ := bind_ok h
  obtain ⟨_, hsender, h⟩ := bind_ok h
  obtain ⟨_, hencryptionKey, h⟩ := bind_ok h
  have hcanonical := decodeEncryptedShareAttestation_ok hdecoded
  have hversion : (recordOfAttestation args.shareAttestation).attestationVersion = 0 := by
    unfold recordOfAttestation
    rw [serialize_first hcanonical]
    rfl
  have hsigned : CanonicallySigned P args.reader.trustedNetworkKeys .encryptedShare
      (recordOfAttestation args.shareAttestation) share :=
    ⟨hversion, ensure_ok htrusted, signatureVerifies_iff.mp (ensure_ok hsignature), hcanonical⟩
  exact ⟨share, hsigned, ensure_ok hholder, ensure_ok hdigest, ensure_ok hkey, ensure_ok hsender,
    ensure_ok hencryptionKey, ensure_ok h⟩

/-- A run that signs: it accepted the share, and the digest signed is the share's. -/
theorem signReEncryptedShareAcceptance_gives {decrypt : DecryptUserShare}
    {tr : List (Event (ownershipInterface H))} {acceptance : ShareAcceptanceSignature}
    (h : Gives (signReEncryptedShareAcceptance P decrypt args) tr acceptance) :
    ∃ attestation share,
      P.parse versionedDWalletDataAttestationBcs args.dwalletAttestation = .ok attestation ∧
      ReEncryptedShareChecked P args attestation share ∧
      acceptance = signShareAcceptance P args.holderSecretKey
        (P.keccak256 args.shareAttestation.attestationData) := by
  obtain ⟨attestation, hdecode, h⟩ := gives_lift_bind_iff.mp h
  dsimp only at h
  obtain ⟨tr₁, tr₂, dwallet, rfl, -, h⟩ := gives_bind_iff.mp h
  obtain ⟨_, -, h⟩ := gives_lift_bind_iff.mp h
  obtain ⟨tr₃, tr₄, source, rfl, -, h⟩ := gives_bind_iff.mp h
  cases source with
  | none => exact (gives_throw_iff.mp h).elim
  | some source =>
    obtain ⟨_, -, h⟩ := gives_lift_bind_iff.mp h
    obtain ⟨_, hshare, h⟩ := gives_lift_bind_iff.mp h
    obtain ⟨_, -, h⟩ := gives_lift_bind_iff.mp h
    obtain ⟨-, rfl⟩ := gives_pure_iff.mp h
    obtain ⟨share, hshare⟩ := requireReEncryptedShare_ok hshare
    exact ⟨attestation, share, decodeDWalletAttestation_ok hdecode, hshare, rfl⟩

/-- What the checks of a share's record demand of an accepted share comes down
to what they demand of a share of the request that created the dWallet. -/
theorem ReEncryptedShareChecked.right {dwallet : VerifiedDWalletAttestation}
    {share : EncryptedShareAttestation}
    (h : ReEncryptedShareChecked P args dwallet.attestation share)
    (hdata : dwallet.attestationData = args.dwalletAttestation)
    (hother : share.sessionIdentifier ≠ dwallet.attestation.sessionIdentifier) :
    RightEncryptedShare P args.reader.trustedNetworkKeys
      (recordOfAttestation args.shareAttestation) dwallet
      (P.ed25519GetPublicKey args.holderSecretKey) 0 share := by
  have hbinds : BindsDWallet P share.intendedChainSender share.dwalletPublicKey
      share.dwalletAttestationDigest dwallet := ⟨h.sender, h.publicKey, hdata ▸ h.digest⟩
  have hscheme : share.holder.signatureScheme.number = 0 := by
    rw [h.holder]
    exact SignatureScheme.number_eq_zero.mpr rfl
  exact ⟨h.signed, hbinds, hscheme, by rw [h.holder], fun hsame => absurd hsame hother⟩

/-! ### A share re-encrypted to a new holder -/

def sampleReEncryptedAttestation (session : Bytes) : EncryptedShareAttestation where
  sessionIdentifier := session
  intendedChainSender := sampleAttestation.intendedChainSender
  dwalletPublicKey := sampleAttestation.publicKey
  encryptedShareHash := List.replicate 32 16
  encryptionKeyHash := List.replicate 32 17
  holder := ⟨.ed25519, List.replicate 32 14⟩
  dwalletAttestationDigest := sampleShareAttestation.dwalletAttestationDigest

def sampleReEncryptedData (session : Bytes) : Bytes :=
  versionedEncryptedUserKeyShareAttestationBcs.encode (sampleReEncryptedAttestation session)

def sampleAcceptArguments (session : Bytes) : AcceptReEncryptedShareArguments where
  reader := sampleReader
  holderSecretKey := List.replicate 32 14
  decryptionKey := []
  encryptionKey := List.replicate 40 17
  senderSignerPublicKey := List.replicate 32 4
  senderAcceptanceSignature := none
  dwalletAttestation := versionedDWalletDataAttestationBcs.encode sampleAttestation
  shareAttestation := ⟨sampleReEncryptedData session, List.replicate 64 8, List.replicate 32 7,
    List.replicate 32 7⟩
  encryptedShareAndProof := List.replicate 40 16
  protocolPublicParameters := []

def sampleDecrypt : DecryptUserShare := fun _ _ _ _ _ _ => .ok []

/-- The run over the sample records, in which the sender's own share is accepted. -/
def sampleAcceptRun (session : Bytes) :
    Option (List (Event (ownershipInterface Unit)) × Except SdkError ShareAcceptanceSignature) :=
  (signReEncryptedShareAcceptance samplePrimitives sampleDecrypt
    (sampleAcceptArguments session)).run.transcript (sampleAnswers false) 0

theorem sampleAcceptRun_gives (session : Bytes)
    (h : (sampleAcceptRun session).any (fun r => r.2.toOption.isSome)) :
    ∃ tr acceptance, Gives (signReEncryptedShareAcceptance (H := Unit) samplePrimitives
      sampleDecrypt (sampleAcceptArguments session)) tr acceptance := by
  unfold sampleAcceptRun at h
  obtain ⟨⟨tr, result⟩, hsome, hresult⟩ := (Option.any_eq_true _ _).mp h
  have hreturns := Prog.returns_of_transcript hsome
  cases result with
  | error e => cases hresult
  | ok acceptance => exact ⟨tr, acceptance, hreturns⟩

end Ika

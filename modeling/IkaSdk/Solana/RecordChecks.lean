import IkaSdk.Solana.Accounts

/-! The check of an encrypted share's account: every stored field against the
signed attestations, and the holder's acceptance signature. -/

namespace Ika.Solana

open Wire

structure VerifiedSolanaEncryptedShare where
  attestation : EncryptedShareAttestation
  encryptedShare : Bytes
  registeredEncryptionKey : Bytes
  acceptanceSignature : Bytes
  /-- Whether the account holds no acceptance, and the signature given stood in for it. -/
  acceptanceGiven : Bool
  createdEpoch : ℕ
  bump : ℕ
  reserved : Bytes
deriving DecidableEq, Repr

section Checks

variable (P : Primitives)

/-- The digest a share's holder signs: of the dWallet's attestation for a first
share, of the share's own for a re-encrypted one. -/
def solanaAcceptedDigest (firstShare : Bool) (dwalletAttestationData shareAttestationData : Bytes) :
    Bytes :=
  if firstShare then P.keccak256 dwalletAttestationData else P.keccak256 shareAttestationData

def verifySolanaEncryptedShareRecord (account : EncryptedUserSecretKeyShareAccount)
    (attestationRecord : AttestationRecord) (trustedNetworkKeys : TrustedNetworkKeys)
    (dwallet : VerifiedDWalletAttestation) (dwalletAddress holderSignerPublicKey : Bytes)
    (registeredEncryptionKey : Bytes) (givenAcceptanceSignature : Option Bytes) :
    Except SdkError VerifiedSolanaEncryptedShare := do
  requireStoredField "dwallet" (account.dwallet = dwalletAddress)
  let attestation ← verifyEncryptedShareAttestationRecord P attestationRecord trustedNetworkKeys
    dwallet holderSignerPublicKey
  requireStoredField "encryption_key_owner"
    (attestation.holder.signerPublicKey = account.encryptionKeyOwner)
  let firstShare := isShareOfTheCreatingRequest attestation.sessionIdentifier dwallet.attestation
  let noSourceShare := account.sourceShare.length == 32 && account.sourceShare.all (· == 0)
  requireStoredField "source_share"
    (account.sourceShare.length = 32 ∧ if firstShare then noSourceShare else !noSourceShare)
  requireStoredField "is_re_encrypted" (account.isReEncrypted = !firstShare)
  verifyStoredEncryptedShare P attestation account.encryptedShare
  verifyRegisteredEncryptionKey P attestation registeredEncryptionKey
  let digest := solanaAcceptedDigest P firstShare dwallet.attestationData
    attestationRecord.attestationData
  let acceptanceGiven := !account.accepted && givenAcceptanceSignature.isSome
  let acceptanceSignature :=
    if acceptanceGiven then givenAcceptanceSignature.getD [] else account.acceptanceSignature
  requireStoredField "accepted" (account.accepted || acceptanceGiven)
  requireStoredField "acceptance_digest" (account.acceptanceDigest = digest)
  requireStoredField "acceptance_signature"
    (signatureVerifies P acceptanceSignature digest attestation.holder.signerPublicKey)
  return { attestation, encryptedShare := account.encryptedShare, registeredEncryptionKey,
           acceptanceSignature, acceptanceGiven, createdEpoch := account.createdEpoch,
           bump := account.bump, reserved := account.reserved }

end Checks

variable {P : Primitives}

/-- What the check of a share's account shows. -/
structure ShareAccountFor (P : Primitives) (account : EncryptedUserSecretKeyShareAccount)
    (record : AttestationRecord) (trusted : TrustedNetworkKeys)
    (dwallet : VerifiedDWalletAttestation) (dwalletAddress holder encryptionKey : Bytes)
    (given : Option Bytes) (verified : VerifiedSolanaEncryptedShare) : Prop where
  share : EncryptedShareFor P trusted record dwallet holder verified.attestation
  address : account.dwallet = dwalletAddress
  owner : account.encryptionKeyOwner = holder
  ciphertext : P.keccak256 account.encryptedShare = verified.attestation.encryptedShareHash
  encryptionKey : P.keccak256 encryptionKey = verified.attestation.encryptionKeyHash
  standsIn : verified.acceptanceGiven = (!account.accepted && given.isSome)
  accepted : account.accepted || verified.acceptanceGiven
  signature : verified.acceptanceSignature =
    if verified.acceptanceGiven then given.getD [] else account.acceptanceSignature
  digest : account.acceptanceDigest = solanaAcceptedDigest P
    (isShareOfTheCreatingRequest verified.attestation.sessionIdentifier dwallet.attestation)
    dwallet.attestationData record.attestationData
  verifies : P.ed25519Verify verified.acceptanceSignature account.acceptanceDigest holder = .ok true

theorem verifySolanaEncryptedShareRecord_ok {account : EncryptedUserSecretKeyShareAccount}
    {record : AttestationRecord} {trusted : TrustedNetworkKeys}
    {dwallet : VerifiedDWalletAttestation} {dwalletAddress holder encryptionKey : Bytes}
    {given : Option Bytes} {verified : VerifiedSolanaEncryptedShare}
    (h : verifySolanaEncryptedShareRecord P account record trusted dwallet dwalletAddress holder
      encryptionKey given = .ok verified) :
    ShareAccountFor P account record trusted dwallet dwalletAddress holder encryptionKey given
      verified := by
  obtain ⟨_, hdwallet, h⟩ := bind_ok h
  obtain ⟨attestation, hattestation, h⟩ := bind_ok h
  have hshare := verifyEncryptedShareAttestationRecord_ok hattestation
  obtain ⟨_, howner, h⟩ := bind_ok h
  obtain ⟨_, -, h⟩ := bind_ok h
  obtain ⟨_, -, h⟩ := bind_ok h
  obtain ⟨_, hciphertext, h⟩ := bind_ok h
  obtain ⟨_, hkey, h⟩ := bind_ok h
  obtain ⟨_, haccepted, h⟩ := bind_ok h
  obtain ⟨_, hdigest, h⟩ := bind_ok h
  obtain ⟨_, hsignature, h⟩ := bind_ok h
  cases h
  have hholder : attestation.holder.signerPublicKey = holder := by rw [hshare.holder]
  have hverifies := signatureVerifies_iff.mp (ensure_ok hsignature)
  have hdigest := ensure_ok hdigest
  rw [hholder, ← hdigest] at hverifies
  exact ⟨hshare, ensure_ok hdwallet, (ensure_ok howner).symm.trans hholder, ensure_ok hciphertext,
    ensure_ok hkey, rfl, ensure_ok haccepted, rfl, hdigest, hverifies⟩

end Ika.Solana

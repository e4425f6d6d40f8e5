import IkaSdk.Core.Common.SessionResolution
import IkaSdk.Core.Grpc.ShareRecords
import IkaSdk.Solana.ForeignAccounts

/-! The check of a share's account splits into the check of everything that is
stored but the acceptance, and the check of the acceptance, which comes last. -/

namespace Ika.Solana

open Wire Interaction Eff

variable {P : Primitives} {account : EncryptedUserSecretKeyShareAccount}
  {record : AttestationRecord} {trusted : TrustedNetworkKeys}
  {dwallet : VerifiedDWalletAttestation} {dwalletAddress holder encryptionKey : Bytes}
  {given : Option Bytes} {share : EncryptedShareAttestation}

/-! ## The account and its acceptance -/

def isFirstShare (share : EncryptedShareAttestation) (dwallet : VerifiedDWalletAttestation) :
    Bool :=
  isShareOfTheCreatingRequest share.sessionIdentifier dwallet.attestation

def noSourceShare (account : EncryptedUserSecretKeyShareAccount) : Bool :=
  account.sourceShare.length == 32 && account.sourceShare.all (· == 0)

/-- Every stored value but the acceptance is right: the attestation is the
network's of this dWallet and holder, and the account stores what it says. -/
structure StoredShare (P : Primitives) (account : EncryptedUserSecretKeyShareAccount)
    (record : AttestationRecord) (trusted : TrustedNetworkKeys)
    (dwallet : VerifiedDWalletAttestation) (dwalletAddress holder encryptionKey : Bytes)
    (share : EncryptedShareAttestation) : Prop where
  address : account.dwallet = dwalletAddress
  attested : verifyEncryptedShareAttestationRecord P record trusted dwallet holder = .ok share
  owner : share.holder.signerPublicKey = account.encryptionKeyOwner
  sourceShare : account.sourceShare.length = 32 ∧
    if isFirstShare share dwallet then noSourceShare account else !noSourceShare account
  isReEncrypted : account.isReEncrypted = !isFirstShare share dwallet
  ciphertext : P.keccak256 account.encryptedShare = share.encryptedShareHash
  encryptionKey : P.keccak256 encryptionKey = share.encryptionKeyHash

/-- The digest that the holder of the share signs to accept it. -/
def acceptedDigest (P : Primitives) (record : AttestationRecord)
    (dwallet : VerifiedDWalletAttestation) (share : EncryptedShareAttestation) : Bytes :=
  solanaAcceptedDigest P (isFirstShare share dwallet) dwallet.attestationData
    record.attestationData

/-- The checks of a share's account that come before those of its acceptance. -/
def requireStoredShare (P : Primitives) (account : EncryptedUserSecretKeyShareAccount)
    (record : AttestationRecord) (trusted : TrustedNetworkKeys)
    (dwallet : VerifiedDWalletAttestation) (dwalletAddress holder encryptionKey : Bytes) :
    Except SdkError EncryptedShareAttestation := do
  requireStoredField "dwallet" (account.dwallet = dwalletAddress)
  let share ← verifyEncryptedShareAttestationRecord P record trusted dwallet holder
  requireStoredField "encryption_key_owner"
    (share.holder.signerPublicKey = account.encryptionKeyOwner)
  requireStoredField "source_share" (account.sourceShare.length = 32 ∧
    if isFirstShare share dwallet then noSourceShare account else !noSourceShare account)
  requireStoredField "is_re_encrypted" (account.isReEncrypted = !isFirstShare share dwallet)
  verifyStoredEncryptedShare P share account.encryptedShare
  verifyRegisteredEncryptionKey P share encryptionKey
  return share

/-- The last checks of a share's account, of its acceptance. -/
def requireAcceptance (P : Primitives) (account : EncryptedUserSecretKeyShareAccount)
    (given : Option Bytes) (digest holder : Bytes) : Except SdkError (Bytes × Bool) := do
  let acceptanceGiven := !account.accepted && given.isSome
  let acceptanceSignature := if acceptanceGiven then given.getD [] else account.acceptanceSignature
  requireStoredField "accepted" (account.accepted || acceptanceGiven)
  requireStoredField "acceptance_digest" (account.acceptanceDigest = digest)
  requireStoredField "acceptance_signature"
    (signatureVerifies P acceptanceSignature digest holder)
  return (acceptanceSignature, acceptanceGiven)

theorem verifySolanaEncryptedShareRecord_eq :
    verifySolanaEncryptedShareRecord P account record trusted dwallet dwalletAddress holder
      encryptionKey given = (do
        let share ← requireStoredShare P account record trusted dwallet dwalletAddress holder
          encryptionKey
        let (acceptanceSignature, acceptanceGiven) ← requireAcceptance P account given
          (acceptedDigest P record dwallet share) share.holder.signerPublicKey
        return { attestation := share, encryptedShare := account.encryptedShare,
                 registeredEncryptionKey := encryptionKey, acceptanceSignature, acceptanceGiven,
                 createdEpoch := account.createdEpoch, bump := account.bump,
                 reserved := account.reserved }) := by
  unfold requireStoredShare requireAcceptance
  simp only [bind_assoc, pure_bind]
  rfl

theorem requireStoredShare_iff :
    requireStoredShare P account record trusted dwallet dwalletAddress holder encryptionKey =
        .ok share ↔
      StoredShare P account record trusted dwallet dwalletAddress holder encryptionKey share := by
  unfold requireStoredShare verifyStoredEncryptedShare verifyRegisteredEncryptionKey
    requireStoredField
  rw [ensure_bind_iff, bind_ok_iff]
  constructor
  · rintro ⟨haddress, a, hattested, h⟩
    rw [ensure_bind_iff, ensure_bind_iff, ensure_bind_iff, ensure_bind_iff, ensure_bind_iff] at h
    obtain ⟨howner, hsource, hre, hciphertext, hkey, h⟩ := h
    obtain rfl : a = share := Except.ok.inj h
    exact ⟨haddress, hattested, howner, hsource, hre, hciphertext, hkey⟩
  · intro h
    refine ⟨h.address, share, h.attested, ?_⟩
    rw [ensure_bind_iff, ensure_bind_iff, ensure_bind_iff, ensure_bind_iff, ensure_bind_iff]
    exact ⟨h.owner, h.sourceShare, h.isReEncrypted, h.ciphertext, h.encryptionKey, rfl⟩

/-! ## Under other keys -/

theorem verifyAndDecode_eq {keys : TrustedNetworkKeys} {kind : AttestationKind}
    {curve : Option ℕ} (htrusted : record.signerNoaPublicKey ∈ trusted.publicKeys)
    (hkeys : record.signerNoaPublicKey ∈ keys.publicKeys) :
    verifyAndDecode P record keys kind curve = verifyAndDecode P record trusted kind curve := by
  unfold verifyAndDecode
  rw [ensure_of htrusted, ensure_of hkeys]

/-- A dWallet's record that is right under some keys is right exactly under
those that hold its signer. -/
theorem verifyDWalletAttestationRecord_under {asked : AskedDWallet} (keys : TrustedNetworkKeys)
    (h : verifyDWalletAttestationRecord P record trusted asked = .ok dwallet) :
    verifyDWalletAttestationRecord P record keys asked = .ok dwallet ↔
      record.signerNoaPublicKey ∈ keys.publicKeys := by
  have htrusted := (verifyDWalletAttestationRecord_ok h).signed.trusted
  refine ⟨fun hunder => (verifyDWalletAttestationRecord_ok hunder).signed.trusted, fun hkeys => ?_⟩
  rw [← h]
  unfold verifyDWalletAttestationRecord
  rw [verifyAndDecode_eq htrusted hkeys]

/-- A share's account that is right under some keys is right exactly under those
that hold the signer of its attestation. -/
theorem StoredShare.under (keys : TrustedNetworkKeys)
    (h : StoredShare P account record trusted dwallet dwalletAddress holder encryptionKey share) :
    StoredShare P account record keys dwallet dwalletAddress holder encryptionKey share ↔
      record.signerNoaPublicKey ∈ keys.publicKeys := by
  have htrusted := (verifyEncryptedShareAttestationRecord_ok h.attested).signed.trusted
  refine ⟨fun hunder =>
    (verifyEncryptedShareAttestationRecord_ok hunder.attested).signed.trusted, fun hkeys => ?_⟩
  refine { h with attested := ?_ }
  rw [← h.attested]
  unfold verifyEncryptedShareAttestationRecord
  rw [verifyAndDecode_eq htrusted hkeys]

/-! ## The acceptance -/

theorem requireAcceptance_none_iff {digest : Bytes} {r : Bytes × Bool} :
    requireAcceptance P account none digest holder = .ok r ↔
      account.accepted ∧ account.acceptanceDigest = digest ∧
        signatureVerifies P account.acceptanceSignature digest holder ∧
        (account.acceptanceSignature, false) = r := by
  unfold requireAcceptance requireStoredField
  simp only [Option.isSome_none, Bool.and_false, Bool.or_false, Bool.false_eq_true, if_false]
  rw [ensure_bind_iff, ensure_bind_iff, ensure_bind_iff]
  exact and_congr_right fun _ => and_congr_right fun _ => and_congr_right fun _ =>
    ⟨Except.ok.inj, fun h => congrArg Except.ok h⟩

/-! ## Shares that wait for their acceptance -/

theorem refuses_requireField {field what : String} {p : Prop} [Decidable p] :
    Refuses (refusesAcceptance · = false) (requireField field p what) :=
  refuses_ensure rfl

theorem refuses_verifyAndDecode {kind : AttestationKind} {curve : Option ℕ} :
    Refuses (refusesAcceptance · = false) (verifyAndDecode P record trusted kind curve) := by
  refine refuses_bind (refuses_ensure rfl) fun _ _ => ?_
  refine refuses_bind (refuses_ensure rfl) fun _ _ => ?_
  refine refuses_bind (refuses_ensure rfl) fun _ _ => ?_
  refine refuses_bind (refuses_ensure rfl) fun _ _ => ?_
  refine refuses_bind ?_ fun a _ => refuses_bind ?_ fun _ _ => refuses_ok _
  · unfold decodeExactly
    split
    · exact refuses_error rfl
    · dsimp only
      split_ifs
      · exact refuses_error rfl
      · exact refuses_ok _
  · unfold checkShareLength
    split
    · exact refuses_ensure rfl
    · exact refuses_ok _

theorem refuses_requireSameSenderAndKey {sender key : Bytes} :
    Refuses (refusesAcceptance · = false) (requireSameSenderAndKey sender key dwallet) :=
  refuses_bind refuses_requireField fun _ _ => refuses_requireField

theorem refuses_verifyEncryptedShareAttestationRecord :
    Refuses (refusesAcceptance · = false)
      (verifyEncryptedShareAttestationRecord P record trusted dwallet holder) := by
  refine refuses_bind refuses_verifyAndDecode fun a _ => ?_
  dsimp only
  split_ifs
  · refine refuses_bind (refuses_bind refuses_requireField fun _ _ =>
      refuses_requireSameSenderAndKey) fun _ _ => ?_
    refine refuses_bind refuses_requireField fun _ _ => ?_
    refine refuses_bind refuses_requireField fun _ _ => ?_
    refine refuses_bind refuses_requireField fun _ _ => ?_
    exact refuses_bind refuses_requireField fun _ _ => refuses_ok _
  · refine refuses_bind (refuses_bind refuses_requireSameSenderAndKey fun _ _ =>
      refuses_requireField) fun _ _ => ?_
    exact refuses_bind refuses_requireField fun _ _ => refuses_ok _

/-- No check of what is stored besides is taken for a share that waits. -/
theorem refuses_requireStoredShare :
    Refuses (refusesAcceptance · = false)
      (requireStoredShare P account record trusted dwallet dwalletAddress holder
        encryptionKey) := by
  refine refuses_bind (refuses_ensure (by decide)) fun _ _ => ?_
  refine refuses_bind refuses_verifyEncryptedShareAttestationRecord fun share _ => ?_
  refine refuses_bind (refuses_ensure (by decide)) fun _ _ => ?_
  refine refuses_bind (refuses_ensure (by decide)) fun _ _ => ?_
  refine refuses_bind (refuses_ensure (by decide)) fun _ _ => ?_
  refine refuses_bind (refuses_ensure (by decide)) fun _ _ => ?_
  exact refuses_bind (refuses_ensure (by decide)) fun _ _ => refuses_ok _

/-- What the check of an account without a given acceptance comes to: it passes,
or it fails on the acceptance, or on what is stored besides. -/
theorem verifySolanaEncryptedShareRecord_waits {e : SdkError}
    (h : verifySolanaEncryptedShareRecord P account record trusted dwallet dwalletAddress holder
      encryptionKey none = .error e) (hwaits : refusesAcceptance e) :
    ∃ share, StoredShare P account record trusted dwallet dwalletAddress holder encryptionKey
        share ∧ (account.accepted →
          account.acceptanceDigest = acceptedDigest P record dwallet share) := by
  rw [verifySolanaEncryptedShareRecord_eq] at h
  rcases bind_error h with hstored | ⟨share, hstored, hacceptance⟩
  · rw [refuses_requireStoredShare e hstored] at hwaits
    cases hwaits
  refine ⟨share, requireStoredShare_iff.mp hstored, fun haccepted => ?_⟩
  rcases bind_error hacceptance with hacceptance | ⟨r, -, hlast⟩
  · rcases bind_error hacceptance with hnot | ⟨_, -, hrest⟩
    · unfold requireStoredField ensure at hnot
      rw [haccepted] at hnot
      cases hnot
    · rcases bind_error hrest with hdigest | ⟨_, hdigest, -⟩
      · -- The digest's own field is none of those that are taken for a share that waits.
        have hother := refuses_ensure (S := (refusesAcceptance · = false)) (by decide) e hdigest
        rw [hother] at hwaits
        cases hwaits
      · exact ensure_ok hdigest
  · cases hlast

end Ika.Solana
